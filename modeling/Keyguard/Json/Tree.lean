import Keyguard.Json.Token

/-!
# JSON values

`Json` is a value as it is spelled: numbers keep their numeral, texts and names of members keep
their body between the quotation marks, and members keep their order and repetitions. So a value
that is skipped is never asked what it means.

* `Json.tokens` lists the tokens of a value and `Json.bytes` writes it, without white space.
* `Json.ofTokens?` builds a value from tokens. It keeps the arrays and objects that are still
  open on a stack of `Frame`s, so any depth can be read.
* `Json.ofBytes?` reads a text that holds one value and nothing else.

That building undoes listing is `ofTokens?_tokens`.
-/

namespace Keyguard

/-- A JSON value as it is spelled. -/
inductive Json where
  | null
  | bool (b : Bool)
  | number (n : Json.Numeral)
  | string (body : Bytes)
  | array (items : List Json)
  | object (members : List (Bytes × Json))

namespace Json

/-! ### Writing -/

mutual

/-- The tokens of a value. -/
def tokens : Json → List Token
  | .null => [.null]
  | .bool b => [.bool b]
  | .number n => [.number n]
  | .string body => [.string body]
  | .array [] => [.openArray, .closeArray]
  | .array (v :: vs) => .openArray :: (v.tokens ++ itemTokens vs)
  | .object [] => [.openObject, .closeObject]
  | .object ((k, v) :: ms) =>
    .openObject :: .string k :: .colon :: (v.tokens ++ memberTokens ms)

/-- The tokens of the further items of an array, up to its end. -/
def itemTokens : List Json → List Token
  | [] => [.closeArray]
  | v :: vs => .comma :: (v.tokens ++ itemTokens vs)

/-- The tokens of the further members of an object, up to its end. -/
def memberTokens : List (Bytes × Json) → List Token
  | [] => [.closeObject]
  | (k, v) :: ms => .comma :: .string k :: .colon :: (v.tokens ++ memberTokens ms)

end

/-- The text of a value, without white space. -/
def bytes (v : Json) : Bytes := v.tokens.flatMap Token.bytes

/-! ### Reading -/

/-- An array or object that is still open: what it holds so far, last first, and for an object
the name of the member whose value comes next. -/
inductive Frame where
  | array (items : List Json)
  | object (members : List (Bytes × Json)) (key : Bytes)

/-- Builds a value from tokens. The second argument is the value that has just been completed,
if one has; without one, a value comes next. -/
def build (stack : List Frame) : Option Json → List Token → Option Json
  | none, .null :: ts => build stack (some .null) ts
  | none, .bool b :: ts => build stack (some (.bool b)) ts
  | none, .number n :: ts => build stack (some (.number n)) ts
  | none, .string body :: ts => build stack (some (.string body)) ts
  | none, .openArray :: .closeArray :: ts => build stack (some (.array [])) ts
  | none, .openArray :: ts => build (.array [] :: stack) none ts
  | none, .openObject :: .closeObject :: ts => build stack (some (.object [])) ts
  | none, .openObject :: .string k :: .colon :: ts => build (.object [] k :: stack) none ts
  | some v, ts =>
    match stack, ts with
    | [], [] => some v
    | .array vs :: stack, .comma :: ts => build (.array (v :: vs) :: stack) none ts
    | .array vs :: stack, .closeArray :: ts => build stack (some (.array (v :: vs).reverse)) ts
    | .object ms k :: stack, .comma :: .string k' :: .colon :: ts =>
      build (.object ((k, v) :: ms) k' :: stack) none ts
    | .object ms k :: stack, .closeObject :: ts =>
      build stack (some (.object ((k, v) :: ms).reverse)) ts
    | _, _ => none
  | none, _ => none

/-- The value that a row of tokens spells. -/
def ofTokens? (ts : List Token) : Option Json := build [] none ts

/-- The value that a text spells. -/
def ofBytes? (b : Bytes) : Option Json := Token.ofBytes? b >>= ofTokens?

/-! ### Reading undoes writing -/

private theorem build_openArray (v : Json) (stack : List Frame) (ts : List Token) :
    build stack none (.openArray :: (v.tokens ++ ts)) =
      build (.array [] :: stack) none (v.tokens ++ ts) := by
  rcases v with _ | _ | _ | _ | ⟨_ | ⟨_, _⟩⟩ | ⟨_ | ⟨⟨_, _⟩, _⟩⟩ <;> simp [tokens, build]

mutual

/-- Reading the tokens of a value completes that value. -/
theorem build_tokens : ∀ (v : Json) (stack : List Frame) (ts : List Token),
    build stack none (v.tokens ++ ts) = build stack (some v) ts
  | .null, _, _ => by simp [tokens, build]
  | .bool _, _, _ => by simp [tokens, build]
  | .number _, _, _ => by simp [tokens, build]
  | .string _, _, _ => by simp [tokens, build]
  | .array [], _, _ => by simp [tokens, build]
  | .array (v :: vs), stack, ts => by
    rw [tokens, List.cons_append, List.append_assoc, build_openArray, build_tokens v,
      build_itemTokens vs]
    rfl
  | .object [], _, _ => by simp [tokens, build]
  | .object ((k, v) :: ms), stack, ts => by
    rw [tokens, List.cons_append, List.cons_append, List.cons_append, List.append_assoc, build,
      build_tokens v, build_memberTokens ms]
    rfl

theorem build_itemTokens : ∀ (vs : List Json) (stack : List Frame) (front : List Json) (v : Json)
    (ts : List Token), build (.array front :: stack) (some v) (itemTokens vs ++ ts) =
      build stack (some (.array ((v :: front).reverse ++ vs))) ts
  | [], stack, front, v, ts => by simp [itemTokens, build]
  | w :: vs, stack, front, v, ts => by
    rw [itemTokens, List.cons_append, List.append_assoc, build, build_tokens w,
      build_itemTokens vs]
    simp

theorem build_memberTokens : ∀ (ms : List (Bytes × Json)) (stack : List Frame)
    (front : List (Bytes × Json)) (k : Bytes) (v : Json) (ts : List Token),
    build (.object front k :: stack) (some v) (memberTokens ms ++ ts) =
      build stack (some (.object (((k, v) :: front).reverse ++ ms))) ts
  | [], stack, front, k, v, ts => by simp [memberTokens, build]
  | (k', w) :: ms, stack, front, k, v, ts => by
    rw [memberTokens, List.cons_append, List.cons_append, List.cons_append, List.append_assoc,
      build, build_tokens w, build_memberTokens ms]
    simp

end

/-- The tokens of a value spell that value. -/
theorem ofTokens?_tokens (v : Json) : ofTokens? v.tokens = some v := by
  have h := build_tokens v [] []
  rw [List.append_nil] at h
  rw [ofTokens?, h, build]

end Json

end Keyguard
