import Keyguard.Json.Record
import Keyguard.Proofs.Json.Numerals

/-!
# Reading JSON that was written

A value is **spelled** if its numerals are well formed and each of its quoted bodies ends where it
should (`Json.Spelled`). Every value that the library writes is: bodies come from texts
(`Quoted.ends_encode`) and numerals from numbers.

The bytes of a token are scanned as that token, whatever follows that cannot continue a numeral
(`Token.scan_bytes`), so the text of a spelled value is read back as that value
(`Json.ofBytes?_bytes`).
-/

namespace Keyguard.Json

/-! ### Quoted bodies -/

namespace Quoted

/-- Whether a body ends where its closing quotation mark stands. -/
def Ends (body : Bytes) : Prop := ∀ rest, scan (body ++ 0x22 :: rest) = some (body, rest)

theorem extend_extend (front more : Bytes) (x : Option (Bytes × Bytes)) :
    extend front (extend more x) = extend (front ++ more) x := by
  cases x with
  | none => rfl
  | some x => simp only [extend, List.append_assoc]

/-- A byte that stands for itself in a body. -/
def Bare (b : UInt8) : Prop := ¬b < 0x20 ∧ b ≠ 0x22 ∧ b ≠ 0x5c

theorem scan_append_bare {front : Bytes} (h : ∀ b ∈ front, Bare b) (rest : Bytes) :
    scan (front ++ rest) = extend front (scan rest) := by
  induction front with
  | nil =>
    rw [List.nil_append]
    cases scan rest <;> rfl
  | cons b front ih =>
    rw [List.forall_mem_cons] at h
    obtain ⟨⟨large, quote, backslash⟩, bare⟩ := h
    have one : scan (b :: (front ++ rest)) = extend [b] (scan (front ++ rest)) := by
      rw [scan]
      · exact if_neg fun e => e.elim large backslash
      · exact fun e => quote e
      · exact fun _ _ _ _ _ e => absurd e backslash
      · exact fun _ _ e => absurd e backslash
    rw [List.cons_append, one, ih bare, extend_extend]
    rfl

/-- The UTF-8 bytes of a character that is not escaped stand for themselves. -/
theorem bare_utf8EncodeChar {c : Char} (quote : c ≠ '"') (backslash : c ≠ '\\')
    (large : ¬c.toNat < 0x20) : ∀ b ∈ String.utf8EncodeChar c, Bare b := by
  have hq : c.val.toNat ≠ 0x22 := fun e => quote (Char.ext (UInt32.toNat_inj.1 e))
  have hb : c.val.toNat ≠ 0x5c := fun e => backslash (Char.ext (UInt32.toNat_inj.1 e))
  have hl : ¬c.val.toNat < 0x20 := large
  intro b mem
  simp only [Bare, UInt8.lt_iff_toNat_lt, ne_eq, ← UInt8.toNat_inj]
  simp only [String.utf8EncodeChar] at mem
  split at mem <;> (try split at mem) <;> (try split at mem) <;>
    simp only [List.mem_cons, List.not_mem_nil, or_false] at mem <;>
    rcases mem with rfl | rfl | rfl | rfl <;>
    simp only [UInt8.toNat_ofNat', UInt8.reduceToNat] <;> omega

/-- A character in a body belongs to the body. -/
theorem scan_encodeChar (c : Char) (rest : Bytes) :
    scan (encodeChar c ++ rest) = extend (encodeChar c) (scan rest) := by
  have short {e : UInt8} (he : e ≠ 0x75) (hs : (shortEscape? e).isSome) :
      scan ([0x5c, e] ++ rest) = extend [0x5c, e] (scan rest) := by
    rw [List.cons_append, List.cons_append, List.nil_append, scan]
    · exact if_pos hs
    · exact fun _ _ _ _ _ h => absurd h he
  rw [encodeChar]
  -- seven characters have escapes of one letter
  iterate 7
    split
    · exact short (by decide) rfl
  split
  · rename_i control
    have unit := hexUnit?_control c.toNat control
    simp only [List.cons_append, List.nil_append, scan, unit, Option.isSome_some, if_true]
  · rename_i quote backslash _ _ _ _ _ large
    exact scan_append_bare (bare_utf8EncodeChar quote backslash large) rest

/-- The body of a text ends where it should. -/
theorem ends_encode (s : String) : Ends (encode s) := by
  intro rest
  rw [encode]
  induction s.toList with
  | nil => rfl
  | cons c cs ih =>
    rw [List.flatMap_cons, List.append_assoc, scan_encodeChar, ih]
    rfl

end Quoted

/-! ### Tokens -/

/-- Whether what is written of a token can be read. -/
def Token.Spelled : Token → Prop
  | .number n => n.WellFormed
  | .string body => Quoted.Ends body
  | _ => True

namespace Token

/-- What begins with a sign or a digit is no token but a numeral. -/
theorem scan_of_head? {b : Bytes}
    (h : b.head? = some 0x2d ∨ ∃ d : Digit, b.head? = some (code d.toChar)) :
    scan b = (Numeral.scan b).map fun (n, rest) => (.number n, rest) := by
  have digits (d : Digit) : code d.toChar ∉
      ([0x5b, 0x5d, 0x7b, 0x7d, 0x2c, 0x3a, 0x22, 0x6e, 0x74, 0x66] : Bytes) := by
    revert d
    decide
  have other : ∀ x, b.head? = some x →
      x ∉ ([0x5b, 0x5d, 0x7b, 0x7d, 0x2c, 0x3a, 0x22, 0x6e, 0x74, 0x66] : Bytes) := by
    intro x hx
    rcases h with h | ⟨d, h⟩
    · obtain rfl : 0x2d = x := Option.some.inj (h.symm.trans hx)
      decide
    · obtain rfl : code d.toChar = x := Option.some.inj (h.symm.trans hx)
      exact digits d
  unfold scan
  split <;> first | exact absurd (other _ rfl) (by decide) | rfl

/-- **A token is read back**, whatever follows. What follows a numeral must not continue it. -/
theorem scan_bytes {t : Token} (spelled : t.Spelled) {rest : Bytes}
    (stop : ∀ n, t = .number n → Follows rest) : scan (t.bytes ++ rest) = some (t, rest) := by
  cases t with
  | number n =>
    rw [bytes, scan_of_head? (Numeral.head?_bytes spelled rest),
      Numeral.scan_bytes spelled (stop n rfl)]
    rfl
  | string body =>
    have ends := spelled rest
    simp only [bytes, List.cons_append, List.append_assoc, List.nil_append, scan, ends,
      Option.map_some]
  | bool b => cases b <;> rfl
  | _ => rfl

/-- A token begins with a byte that is no white space. -/
theorem head?_bytes {t : Token} (spelled : t.Spelled) (rest : Bytes) :
    ∃ x, (t.bytes ++ rest).head? = some x ∧ isSpace x = false := by
  cases t with
  | number n =>
    rcases Numeral.head?_bytes spelled rest with h | ⟨d, h⟩
    · exact ⟨_, h, rfl⟩
    · refine ⟨_, h, ?_⟩
      clear h
      revert d
      decide
  | bool b => cases b <;> exact ⟨_, rfl, rfl⟩
  | _ => exact ⟨_, rfl, rfl⟩

/-- The first token is read, and then the rest. -/
theorem ofBytes?_append {t : Token} (spelled : t.Spelled) {rest : Bytes}
    (stop : ∀ n, t = .number n → Follows rest) :
    ofBytes? (t.bytes ++ rest) = (ofBytes? rest).map (t :: ·) := by
  obtain ⟨x, head, space⟩ := head?_bytes spelled rest
  have scanned := scan_bytes spelled stop
  obtain ⟨xs, hxs⟩ := List.head?_eq_some_iff.mp head
  rw [hxs] at scanned ⊢
  have kept : (x :: xs).dropWhile isSpace = x :: xs := by
    rw [List.dropWhile_cons, space]
    rfl
  rw [ofBytes?]
  split
  · rename_i empty
    exact absurd (kept.symm.trans empty) (by simp)
  · rename_i y ys same
    obtain ⟨rfl, rfl⟩ := List.cons.inj (kept.symm.trans same)
    split
    · rename_i none
      exact absurd (scanned.symm.trans none) (by simp)
    · rename_i t' rest' some_
      obtain ⟨rfl, rfl⟩ := Prod.mk.inj (Option.some.inj (scanned.symm.trans some_))
      rfl

end Token

/-! ### Values -/

/-- Whether what is written of a value can be read. -/
inductive Spelled : Json → Prop
  | null : Spelled .null
  | bool (b : Bool) : Spelled (.bool b)
  | number {n : Numeral} (wf : n.WellFormed) : Spelled (.number n)
  | string {body : Bytes} (ends : Quoted.Ends body) : Spelled (.string body)
  | array {vs : List Json} (items : ∀ v ∈ vs, Spelled v) : Spelled (.array vs)
  | object {ms : List (Bytes × Json)} (keys : ∀ m ∈ ms, Quoted.Ends m.1)
    (values : ∀ m ∈ ms, Spelled m.2) : Spelled (.object ms)

/-- The bytes of some tokens. -/
def tokenBytes (ts : List Token) : Bytes := ts.flatMap Token.bytes

theorem tokenBytes_append (ts us : List Token) :
    tokenBytes (ts ++ us) = tokenBytes ts ++ tokenBytes us := List.flatMap_append

theorem tokenBytes_cons (t : Token) (ts : List Token) :
    tokenBytes (t :: ts) = t.bytes ++ tokenBytes ts := List.flatMap_cons

/-- Whether the bytes of some tokens are read as these, and then the rest. -/
def Reads (ts : List Token) (rest : Bytes) : Prop :=
  Token.ofBytes? (tokenBytes ts ++ rest) = (Token.ofBytes? rest).map (ts ++ ·)

namespace Reads

variable {t : Token} {ts us : List Token} {rest : Bytes}

protected theorem nil (rest : Bytes) : Reads [] rest :=
  (congrFun Option.map_id (Token.ofBytes? rest)).symm

protected theorem cons (spelled : t.Spelled)
    (stop : ∀ n, t = .number n → Follows (tokenBytes ts ++ rest)) (reads : Reads ts rest) :
    Reads (t :: ts) rest := by
  rw [Reads, tokenBytes_cons, List.append_assoc, Token.ofBytes?_append spelled stop, reads,
    Option.map_map]
  rfl

protected theorem append (first : Reads ts (tokenBytes us ++ rest)) (second : Reads us rest) :
    Reads (ts ++ us) rest := by
  rw [Reads, tokenBytes_append, List.append_assoc, first, second, Option.map_map]
  congr 1
  funext vs
  exact (List.append_assoc ts us vs).symm

/-- A token that is no numeral is read whatever follows. -/
theorem punctuation (spelled : t.Spelled) (plain : ∀ n, t ≠ .number n) (reads : Reads ts rest) :
    Reads (t :: ts) rest :=
  .cons spelled (fun n e => absurd e (plain n)) reads

end Reads

/-- What follows an item of an array continues no numeral. -/
theorem follows_itemTokens (vs : List Json) (rest : Bytes) :
    Follows (tokenBytes (itemTokens vs) ++ rest) := by
  cases vs <;> exact fun b hb => by
    obtain rfl := Option.some.inj hb
    decide

/-- What follows a member of an object continues no numeral. -/
theorem follows_memberTokens (ms : List (Bytes × Json)) (rest : Bytes) :
    Follows (tokenBytes (memberTokens ms) ++ rest) := by
  cases ms <;> exact fun b hb => by
    obtain rfl := Option.some.inj hb
    decide

mutual

/-- The tokens of a spelled value are read. -/
theorem reads_tokens : ∀ {v : Json}, v.Spelled → ∀ {rest : Bytes}, Follows rest →
    Reads v.tokens rest
  | .null, _, rest, _ => .punctuation trivial nofun (.nil rest)
  | .bool _, _, rest, _ => .punctuation trivial nofun (.nil rest)
  | .number _, .number wf, rest, stop => .cons wf (fun _ _ => stop) (.nil rest)
  | .string _, .string ends, rest, _ => .punctuation ends nofun (.nil rest)
  | .array [], _, rest, _ => .punctuation trivial nofun (.punctuation trivial nofun (.nil rest))
  | .array (v :: vs), .array items, rest, _ => by
    rw [List.forall_mem_cons] at items
    exact .punctuation trivial nofun
      ((reads_tokens items.1 (follows_itemTokens vs rest)).append (reads_itemTokens items.2 rest))
  | .object [], _, rest, _ =>
    .punctuation trivial nofun (.punctuation trivial nofun (.nil rest))
  | .object ((k, v) :: ms), .object keys values, rest, _ => by
    rw [List.forall_mem_cons] at keys values
    exact .punctuation trivial nofun (.punctuation keys.1 nofun (.punctuation trivial nofun
      ((reads_tokens values.1 (follows_memberTokens ms rest)).append
        (reads_memberTokens keys.2 values.2 rest))))

theorem reads_itemTokens : ∀ {vs : List Json}, (∀ v ∈ vs, v.Spelled) → ∀ (rest : Bytes),
    Reads (itemTokens vs) rest
  | [], _, rest => .punctuation trivial nofun (.nil rest)
  | v :: vs, items, rest => by
    rw [List.forall_mem_cons] at items
    exact .punctuation trivial nofun
      ((reads_tokens items.1 (follows_itemTokens vs rest)).append (reads_itemTokens items.2 rest))

theorem reads_memberTokens : ∀ {ms : List (Bytes × Json)}, (∀ m ∈ ms, Quoted.Ends m.1) →
    (∀ m ∈ ms, m.2.Spelled) → ∀ (rest : Bytes), Reads (memberTokens ms) rest
  | [], _, _, rest => .punctuation trivial nofun (.nil rest)
  | (k, v) :: ms, keys, values, rest => by
    rw [List.forall_mem_cons] at keys values
    exact .punctuation trivial nofun (.punctuation keys.1 nofun (.punctuation trivial nofun
      ((reads_tokens values.1 (follows_memberTokens ms rest)).append
        (reads_memberTokens keys.2 values.2 rest))))

end

/-- **The text of a spelled value is read back** as that value. -/
theorem ofBytes?_bytes {v : Json} (spelled : v.Spelled) : Json.ofBytes? v.bytes = some v := by
  have reads := reads_tokens spelled follows_nil
  have ended : Token.ofBytes? [] = some [] := by rw [Token.ofBytes?]; rfl
  rw [Reads, List.append_nil, ended, Option.map_some, List.append_nil] at reads
  have text : v.bytes = tokenBytes v.tokens := rfl
  rw [Json.ofBytes?, text, reads]
  exact ofTokens?_tokens v

/-! ### The values that are written -/

theorem spelled_ofInt (i : Int) : (ofInt i).Spelled := .number (Numeral.wellFormed_ofInt i)

/-- A floating-point value, finite or not. -/
theorem spelled_ofBits? (s : FloatSpelling) (bits : Nat) :
    (((s.ofBits? bits).map Json.number).getD .null).Spelled := by
  cases h : s.ofBits? bits with
  | none => exact .null
  | some n => exact .number (FloatSpelling.wellFormed_of_ofBits? h)

theorem spelled_ofSingle (x : Float32) : (ofSingle x).Spelled := spelled_ofBits? _ _

theorem spelled_ofDouble (x : Float) : (ofDouble x).Spelled := spelled_ofBits? _ _

theorem spelled_list {α : Type} {write : α → Json} {l : List α}
    (h : ∀ a ∈ l, (write a).Spelled) : (Json.array (l.map write)).Spelled := by
  refine .array fun v hv => ?_
  obtain ⟨a, ha, rfl⟩ := List.mem_map.mp hv
  exact h a ha

theorem spelled_ofMembers {ms : List (String × Json)} (h : ∀ m ∈ ms, m.2.Spelled) :
    (ofMembers ms).Spelled := by
  refine .object (fun m hm => ?_) fun m hm => ?_ <;>
    obtain ⟨⟨name, v⟩, mem, rfl⟩ := List.mem_map.mp hm
  · exact Quoted.ends_encode name
  · exact h _ mem

end Keyguard.Json
