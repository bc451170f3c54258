import Mathlib.Data.List.Forall2
import Keyguard.Proofs.Json.Reading
import Keyguard.Proofs.Settings.Copying
import Keyguard.Settings.Reading

/-!
# The settings that an export denotes

An export is kept in canonical form, yet what it says is said by its text: the last member of a name
gives the value of the name (`Json.lastMember?`), and a value that is neither an array nor an object
is a text or nothing (`Json.settingText?`). So an export that gives no legacy key an array or an
object stands for settings in memory, and it is imported like these
(`LegacyExport.imported_as_denoted`).

The canonical form is made member by member (`Json.forall₂_canonicalMembers?`), and so the two
agree on the last member of every name (`LegacyExport.rel_lastMember?`).
-/

namespace Keyguard

namespace Json

/-- The value that the members of an object give a name: the last one of the name counts. -/
def lastMember? (ms : List (Bytes × Json)) (name : String) : Option Json :=
  (ms.reverse.find? fun m => Quoted.decode? m.1 = some name).map (·.2)

/-- Whether a value is an array or an object. -/
def isCompound : Json → Bool
  | .array _ | .object _ => true
  | .null | .bool _ | .number _ | .string _ => false

/-- The text of a value that is a setting: a text is its own, a truth value `1` or `0`, and a number
is written in its canonical form. -/
def settingText? : Json → Option String
  | .string body => Quoted.decode? body
  | .bool true => some "1"
  | .bool false => some "0"
  | .number n => (n.value?.bind Number.numeral?).map Numeral.text
  | .null | .array _ | .object _ => none

/-! ### The canonical form of members -/

/-- Whether a member was made canonical. -/
def CanonicalMember (depth : Nat) (m : Bytes × Json) (c : String × Json) : Prop :=
  Quoted.decode? m.1 = some c.1 ∧ canonical? depth m.2 = some c.2

/-- Members are made canonical one by one. -/
theorem forall₂_canonicalMembers? {depth : Nat} {ms : List (Bytes × Json)}
    {cs : List (String × Json)} (h : canonicalMembers? depth ms = some cs) :
    List.Forall₂ (CanonicalMember depth) ms cs := by
  induction ms generalizing cs with
  | nil =>
    obtain rfl : [] = cs := by simpa [canonicalMembers?] using h
    exact .nil
  | cons m ms ih =>
    obtain ⟨body, v⟩ := m
    simp only [canonicalMembers?, Option.bind_eq_bind, Option.bind_eq_some_iff, Option.pure_def,
      Option.some.injEq] at h
    obtain ⟨name, decoded, c, canonical, cs', rest, rfl⟩ := h
    exact .cons ⟨decoded, canonical⟩ (ih rest)

/-- In lists of such members the first ones of a name correspond. -/
theorem rel_find?_lookup {depth : Nat} {ms : List (Bytes × Json)} {cs : List (String × Json)}
    (h : List.Forall₂ (CanonicalMember depth) ms cs) (name : String) :
    Option.Rel (fun v c => canonical? depth v = some c)
      ((ms.find? fun m => Quoted.decode? m.1 = some name).map (·.2)) (cs.lookup name) := by
  induction h with
  | nil => exact .none
  | @cons m c ms cs member _ ih =>
    obtain ⟨decoded, canonical⟩ := member
    rw [show c = (c.1, c.2) from rfl, lookup_cons_eq]
    by_cases same : name = c.1
    · rw [if_pos same, List.find?_cons_of_pos (by simp [decoded, same])]
      exact .some canonical
    · rw [if_neg same, List.find?_cons_of_neg (by simp [decoded, Ne.symm same])]
      exact ih

end Json

/-- An integer is spelled as it is written elsewhere. -/
theorem Json.Numeral.text_ofInt (i : Int) : (Numeral.ofInt i).text = Integer.text i := by
  rw [text, Integer.text, chars, Integer.chars]
  by_cases negative : i < 0 <;> simp [ofInt, negative]

namespace NameMap

variable {α β : Type}

/-- Keeps the names that a function gives a value. -/
def filterMap (f : String → α → Option β) (m : NameMap α) : NameMap β :=
  ⟨m.entries.filterMap fun e => (f e.1 e.2).map (e.1, ·), by
    refine m.sorted.filterMap _ ?_
    intro e e' less c hc c' hc'
    obtain ⟨_, -, rfl⟩ := Option.map_eq_some_iff.mp hc
    obtain ⟨_, -, rfl⟩ := Option.map_eq_some_iff.mp hc'
    exact less⟩

theorem get?_filterMap (f : String → α → Option β) (m : NameMap α) (name : String) :
    (m.filterMap f).get? name = (m.get? name).bind (f name) := by
  ext w
  simp only [get?_eq_some_iff, Option.bind_eq_some_iff, filterMap, List.mem_filterMap,
    Option.map_eq_some_iff, Prod.mk.injEq, Prod.exists]
  constructor
  · rintro ⟨_, v, mem, _, value, rfl, rfl⟩
    exact ⟨v, mem, value⟩
  · rintro ⟨v, mem, value⟩
    exact ⟨name, v, mem, w, value, rfl, rfl⟩

end NameMap

namespace LegacyExport

open Json

variable {path : Path} {content : Bytes} {x : LegacyExport}

/-- An export is read from an object whose members have a canonical form. -/
theorem ofBytes_eq_ok_iff : ofBytes path content = .ok x ↔
    ∃ ms cs, Json.ofBytes? content = some (.object ms) ∧
      canonicalMembers? (greatestDepth - 1) ms = some cs ∧ x = .ofList cs := by
  constructor
  · intro read
    unfold ofBytes at read
    split at read
    · exact absurd read (by simp)
    · rename_i ms parsed
      split at read
      · exact absurd read (by simp)
      · rename_i cs canonical
        exact ⟨ms, cs, parsed, canonical, (Except.ok.inj read).symm⟩
    · split at read <;> exact absurd read (by simp)
  · rintro ⟨ms, cs, parsed, canonical, rfl⟩
    simp only [ofBytes, parsed, canonical]

/-- What an export gives a name is the canonical form of the last member of the name. -/
theorem rel_lastMember? {depth : Nat} {ms : List (Bytes × Json)} {cs : List (String × Json)}
    (canonical : canonicalMembers? depth ms = some cs) (name : String) :
    Option.Rel (fun v c => canonical? depth v = some c) (lastMember? ms name)
      ((NameMap.ofList cs).get? name) := by
  rw [NameMap.get?_ofList]
  exact rel_find?_lookup (List.rel_reverse (forall₂_canonicalMembers? canonical)) name

/-- An export fails on an array or an object, and else it has the text of the value. -/
theorem value?_of_canonical {depth : Nat} {key : String} {v c : Json}
    (canonical : v.canonical? depth = some c) (found : x.get? key = some c) :
    if v.isCompound then ∃ fault, x.value? key = .error fault
    else x.value? key = .ok v.settingText? := by
  rw [value?, found]
  cases v with
  | null =>
    obtain rfl : Json.null = c := by simpa [canonical?] using canonical
    rfl
  | bool b =>
    obtain rfl : Json.bool b = c := by simpa [canonical?] using canonical
    cases b <;> rfl
  | number n =>
    simp only [canonical?, Option.bind_eq_bind, Option.bind_eq_some_iff, Option.pure_def,
      Option.some.injEq] at canonical
    obtain ⟨value, meant, numeral, spelled, rfl⟩ := canonical
    simp [isCompound, settingText?, meant, spelled]
  | string body =>
    obtain ⟨s, decoded, rfl⟩ := Option.map_eq_some_iff.mp canonical
    simp [isCompound, settingText?, ofText, decoded, Quoted.decode?_encode]
  | array vs =>
    cases depth with
    | zero => exact absurd canonical (by simp [canonical?])
    | succ depth =>
      obtain ⟨vs', -, rfl⟩ := Option.map_eq_some_iff.mp canonical
      exact ⟨_, rfl⟩
  | object ms =>
    cases depth with
    | zero => exact absurd canonical (by simp [canonical?])
    | succ depth =>
      obtain ⟨ms', -, rfl⟩ := Option.map_eq_some_iff.mp canonical
      exact ⟨_, rfl⟩

/-- Whether an export answers for every key as the last member of the key says: it fails on an array
or an object, and else it has the text of the value. -/
def Answers (x : LegacyExport) (ms : List (Bytes × Json)) : Prop :=
  ∀ key, (∃ v ∈ lastMember? ms key, v.isCompound = true) ∧ (∃ fault, x.value? key = .error fault) ∨
    (∀ v ∈ lastMember? ms key, v.isCompound = false) ∧
      x.value? key = .ok ((lastMember? ms key).bind settingText?)

theorem answers_ofList {depth : Nat} {ms : List (Bytes × Json)} {cs : List (String × Json)}
    (canonical : canonicalMembers? depth ms = some cs) : Answers (.ofList cs) ms := by
  intro key
  have same := rel_lastMember? canonical key
  rcases said : lastMember? ms key with - | v
  · rcases found : NameMap.get? (.ofList cs) key with - | c
    · exact .inr ⟨nofun, by rw [value?, found]; rfl⟩
    · rw [said, found] at same
      exact absurd same nofun
  · rcases found : NameMap.get? (.ofList cs) key with - | c
    · rw [said, found] at same
      exact absurd same nofun
    · rw [said, found] at same
      obtain ⟨canonical⟩ := same
      have value := value?_of_canonical canonical found
      rcases compound : v.isCompound
      · rw [compound, if_neg Bool.false_ne_true] at value
        exact .inr ⟨fun w hw => Option.some.inj hw ▸ compound, value⟩
      · rw [compound, if_pos rfl] at value
        exact .inl ⟨⟨v, rfl, compound⟩, value⟩

/-- The texts that an export has, as settings in memory. -/
def settings (x : LegacyExport) : NameMap String :=
  x.filterMap fun key _ => (LegacySource.ofExport x).text? key

theorem get?_settings (x : LegacyExport) (key : String) :
    x.settings.get? key = (LegacySource.ofExport x).text? key := by
  rw [settings, NameMap.get?_filterMap]
  rcases found : x.get? key with - | c
  · have unset : x.value? key = .ok none := by rw [value?, found]
    exact (LegacySource.text?_of_value unset).symm
  · rfl

namespace Answers

variable {ms : List (Bytes × Json)} {key : String} {v : Json} {db : Database}

/-- An array and an object have no text, and else the text is that of the last member. -/
theorem get?_settings (answers : x.Answers ms) (key : String) :
    x.settings.get? key = (lastMember? ms key).bind settingText? := by
  rw [LegacyExport.get?_settings]
  rcases answers key with ⟨⟨v, last, compound⟩, fault, failed⟩ | ⟨-, value⟩
  · have textless : v.settingText? = none := by
      cases v <;> first | rfl | exact absurd compound Bool.false_ne_true
    have unread : (LegacySource.ofExport x).value? key = .error fault := failed
    have unset : (LegacySource.ofExport x).text? key = none := by
      rw [LegacySource.text?, unread]
    rw [unset, Option.mem_def.mp last, Option.bind_some, textless]
  · exact LegacySource.text?_of_value value

theorem value?_eq (answers : x.Answers ms)
    (plain : ∀ v ∈ lastMember? ms key, v.isCompound = false) :
    x.value? key = .ok ((lastMember? ms key).bind settingText?) := by
  rcases answers key with ⟨⟨v, last, compound⟩, -⟩ | ⟨-, value⟩
  · exact absurd ((plain v last).symm.trans compound) Bool.false_ne_true
  · exact value

theorem exists_fault (answers : x.Answers ms) (last : v ∈ lastMember? ms key)
    (compound : v.isCompound = true) : ∃ fault, x.value? key = .error fault := by
  rcases answers key with ⟨-, failing⟩ | ⟨plain, -⟩
  · exact failing
  · exact absurd ((plain v last).symm.trans compound) Bool.false_ne_true

/-- Without arrays and objects among the legacy settings, these are imported from memory alike. -/
theorem importLegacy_eq (answers : x.Answers ms)
    (plain : ∀ key ∈ legacyKeys, ∀ v ∈ lastMember? ms key, v.isCompound = false) :
    db.importLegacy (.ofExport x) = db.importLegacy (.ofMap x.settings) := by
  have agree : ∀ key ∈ legacyKeys,
      (LegacySource.ofExport x).value? key = (LegacySource.ofMap x.settings).value? key := by
    intro key among
    have held : (LegacySource.ofMap x.settings).value? key = .ok (x.settings.get? key) := rfl
    rw [held, answers.get?_settings]
    exact answers.value?_eq (plain key among)
  rw [Database.importLegacy_eq, Database.importLegacy_eq, LegacySource.collect_congr agree]

/-- An array or an object among the legacy settings fails an import that is due. -/
theorem importLegacy_failed (answers : x.Answers ms) (among : key ∈ legacyKeys)
    (last : v ∈ lastMember? ms key) (compound : v.isCompound = true)
    (unmarked : (db.query fun t => t.read importedKey .system) = .ok none) :
    db.importLegacy (.ofExport x) = (.failed, db) := by
  obtain ⟨fault, failed⟩ := answers.exists_fault last compound
  rcases db.importLegacy_outcomes (.ofExport x) with
    ⟨⟨text, marked⟩, -⟩ | ⟨-, outcome⟩ | ⟨⟨-, readable⟩, -⟩
  · exact absurd (unmarked.symm.trans marked) (by simp)
  · exact outcome
  · obtain ⟨value, asked⟩ := readable key among
    exact absurd (asked.symm.trans failed) (by simp)

end Answers

end LegacyExport

/-! ### What is read after an import -/

namespace Database

variable {db left : Database} {key : String} {source : LegacySource} {copied : Nat}

/-- An import that happened copied what the source has. -/
theorem copied_of_imported (imported : db.importLegacy source = (.imported copied, left)) :
    Copied source db left copied := by
  rcases db.importLegacy_outcomes source with
    ⟨-, outcome⟩ | ⟨-, outcome⟩ | ⟨-, copied', left', outcome, all⟩
  · exact absurd (imported.symm.trans outcome) (by simp)
  · exact absurd (imported.symm.trans outcome) (by simp)
  · obtain ⟨same, rfl⟩ := Prod.mk.inj (imported.symm.trans outcome)
    exact ImportOutcome.imported.inj same ▸ all

/-- After an import a legacy key has the text that the source had for it, unless it is empty. -/
theorem Copied.readText (all : Copied source db left copied) (among : key ∈ legacyKeys)
    {text : String} (value : source.value? key = .ok (some text)) (full : text ≠ "") :
    left.readText key .system = .ok (some text) := by
  have cells : left.cells? key .system = some ((some text).map Cell.text).toList :=
    all.written key among text value
  rw [readText_of_cells cells, Option.filter_some_pos (by simpa using full)]

end Database

namespace LegacyExport

open Json

/-- **An export is imported as the settings that it denotes.** The last member of a key counts: a
text is kept as it is, a truth value is `1` or `0`, a number its canonical spelling, and `null`
nothing. If no legacy key has an array or an object, the import of the export is that of these
settings in memory, with the same outcome and the same table. If one has, and no import was done
before, it fails and the database is what it was; other keys may have any value. Afterwards the
truth values and the integers of the export are read back, whatever the defaults. -/
theorem imported_as_denoted {path : Path} {content : Bytes} {x : LegacyExport}
    (read : ofBytes path content = .ok x) :
    ∃ (ms : List (Bytes × Json)) (settings : NameMap String),
      Json.ofBytes? content = some (.object ms) ∧
      (∀ key, settings.get? key = (lastMember? ms key).bind settingText?) ∧
      ∀ db : Database,
        ((∀ key ∈ legacyKeys, ∀ v ∈ lastMember? ms key, v.isCompound = false) →
          db.importLegacy (.ofExport x) = db.importLegacy (.ofMap settings)) ∧
        ((∃ key ∈ legacyKeys, ∃ v ∈ lastMember? ms key, v.isCompound = true) →
          (db.query fun t => t.read importedKey .system) = .ok none →
            db.importLegacy (.ofExport x) = (.failed, db)) ∧
        ∀ copied left, db.importLegacy (.ofExport x) = (.imported copied, left) →
          ∀ key ∈ legacyKeys,
            (∀ b, lastMember? ms key = some (.bool b) →
              ∀ default, left.getBoolean key default .system = .ok b) ∧
            ∀ n i, lastMember? ms key = some (.number n) → n.value? = some (.integer i) →
              Int64.minValue.toInt ≤ i → i ≤ Int64.maxValue.toInt →
                ∀ default, left.getLong key default .system = .ok (Int64.ofInt i) := by
  obtain ⟨ms, cs, parsed, canonical, rfl⟩ := ofBytes_eq_ok_iff.mp read
  have answers := answers_ofList canonical
  refine ⟨ms, settings (.ofList cs), parsed, answers.get?_settings, fun db => ⟨?_, ?_, ?_⟩⟩
  · exact answers.importLegacy_eq
  · rintro ⟨key, among, v, last, compound⟩
    exact answers.importLegacy_failed among last compound
  · intro copied left imported key among
    have text {v : Json} {text : String} (last : lastMember? ms key = some v)
        (plain : v.isCompound = false) (said : v.settingText? = some text) (full : text ≠ "") :
        left.readText key .system = .ok (some text) := by
      refine (Database.copied_of_imported imported).readText among ?_ full
      have value : value? (.ofList cs) key = .ok ((lastMember? ms key).bind settingText?) :=
        answers.value?_eq fun w hw => Option.some.inj (last.symm.trans hw) ▸ plain
      rwa [last, Option.bind_some, said] at value
    constructor
    · intro b last default
      cases b with
      | false => rw [Database.getBoolean, text last rfl rfl (by decide)]; rfl
      | true => rw [Database.getBoolean, text last rfl rfl (by decide)]; rfl
    · intro n i last integer low high default
      have said : (Json.number n).settingText? = some (Integer.text i) := by
        rw [settingText?, integer, Option.bind_some, Number.numeral?, Option.map_some,
          Numeral.text_ofInt]
      rw [Database.getLong, text last rfl said (Integer.text_ne_empty i)]
      have back := SettingValue.readLong?_text low high
      simp only [Except.map, Option.bind_some, back, Option.getD_some]

/-- A key that is repeated and whose last member is the least integer, beside one that is false, one
that is null, and a nested value of a key that is no legacy setting. -/
theorem last_members_are_imported :
    let members : List (Bytes × Json) :=
      [("lockscreen.password_type", .array [.null]), ("lockscreen.options", .null),
        ("color", .array [.object []]), ("lock_pattern_autolock", .bool false),
        ("lockscreen.password_type", ofInt Int64.minValue.toInt)].map
        fun m => (Quoted.encode m.1, m.2)
    let db : Database := ⟨some ⟨[⟨importedKey, .system, .null⟩], true⟩, some [1]⟩
    ∃ x left, ofBytes ⟨"export"⟩ (Json.object members).bytes = .ok x ∧
      db.importLegacy (.ofExport x) = (.imported 2, left) ∧
      left.getBoolean "lock_pattern_autolock" true .system = .ok false ∧
      left.getLong "lockscreen.password_type" 5 .system = .ok Int64.minValue := by
  intro members db
  have nested : Spelled (.array [.object []]) :=
    .array fun v hv => List.mem_singleton.mp hv ▸ .object nofun nofun
  have spelled : (Json.object members).Spelled := by
    refine spelled_ofMembers ?_
    simp only [List.forall_mem_cons, List.not_mem_nil, false_implies, implies_true, and_true]
    exact ⟨.array fun v hv => List.mem_singleton.mp hv ▸ .null, .null, nested, .bool false,
      spelled_ofInt _⟩
  have parsed := ofBytes?_bytes spelled
  let cs : List (String × Json) := (canonicalMembers? (greatestDepth - 1) members).getD []
  have canonical : canonicalMembers? (greatestDepth - 1) members = some cs := by
    have meant : (canonicalMembers? (greatestDepth - 1) members).isSome := by decide +kernel
    obtain ⟨cs', canonical⟩ := Option.isSome_iff_exists.mp meant
    rw [canonical, Option.some.injEq]
    exact (congrArg (·.getD []) canonical).symm
  have read : ofBytes ⟨"export"⟩ (Json.object members).bytes = .ok (.ofList cs) :=
    ofBytes_eq_ok_iff.mpr ⟨members, cs, parsed, canonical, rfl⟩
  have imported : (db.importLegacy (.ofExport (.ofList cs))).1 = .imported 2 := by decide +kernel
  have outcome : db.importLegacy (.ofExport (.ofList cs)) =
      (.imported 2, (db.importLegacy (.ofExport (.ofList cs))).2) := Prod.ext imported rfl
  obtain ⟨ms, settings, parsed', -, imports⟩ := imported_as_denoted read
  obtain rfl : members = ms := Json.object.inj (Option.some.inj (parsed.symm.trans parsed'))
  have reads := (imports db).2.2 2 _ outcome
  have falsehood : lastMember? members "lock_pattern_autolock" = some (.bool false) := by
    simp [members, lastMember?, Quoted.decode?_encode]
  have least : lastMember? members "lockscreen.password_type" =
      some (ofInt Int64.minValue.toInt) := by
    simp [members, lastMember?, Quoted.decode?_encode]
  refine ⟨_, _, read, outcome, ?_, ?_⟩
  · exact (reads _ (by decide)).1 false falsehood true
  · exact (reads _ (by decide)).2 _ _ least (Numeral.value?_ofInt (by decide)) (by decide)
      (by decide) 5

end LegacyExport

end Keyguard
