import Keyguard.Config
import Keyguard.Proofs.Json.Records
import Keyguard.Proofs.Json.Texts

/-!
# Configurations that were written

A file may name some of the **fields** of a configuration, in any order and with other members
among them (`Config.Names`). What is read is the configuration with the named fields of the file
and the others by default (`Config.overlay`):

* A field is found among the members exactly if it is named, with the value that was written for it
  (`Names.lookup`), since no other member has its name.
* Each reader gives back what was written. For the score that is a property of the number at hand,
  which the results assume.
* The only fault that a result can have is an empty data directory, for the score by default is
  finite too.
-/

namespace Keyguard

theorem UnreadablePolicy.ofJson?_text (p : UnreadablePolicy) :
    ofJson? (.ofText p.text) = some p := by
  have named : (Json.ofText p.text).variant? = some (p.text, none) := by
    have text : (Json.ofText p.text).variant? = (Json.ofText p.text).text?.map (·, none) := rfl
    rw [text, Json.text?_ofText, Option.map_some]
  rw [ofJson?, named]
  cases p <;> rfl

namespace Config

/-! ### Fields -/

/-- A field of a configuration. -/
inductive Field where
  | dataDir
  | threshold
  | disabledByDefault
  | policy
  deriving DecidableEq

namespace Field

/-- All fields, in the order in which they are written. -/
def all : List Field := [.dataDir, .threshold, .disabledByDefault, .policy]

/-- The name of a field. -/
def name : Field → String
  | .dataDir => "data_dir"
  | .threshold => "min_gesture_prediction_score"
  | .disabledByDefault => "lockscreen_disabled_by_default"
  | .policy => "unreadable_secret_policy"

/-- What is written of a configuration for a field. -/
def value (c : Config) : Field → Json
  | .dataDir => .ofText c.dataDir.text
  | .threshold => .ofDouble c.threshold
  | .disabledByDefault => .bool c.disabledByDefault
  | .policy => .ofText c.policy.text

/-- The member of a configuration for a field. -/
def member (c : Config) (f : Field) : String × Json := (f.name, f.value c)

theorem name_injective {f g : Field} (h : f.name = g.name) : f = g := by
  cases f <;> cases g <;> first | rfl | exact absurd h (by decide)

theorem name_mem_fieldNames (f : Field) : f.name ∈ fieldNames := by
  cases f <;> decide

theorem spelled_value (c : Config) (f : Field) : (f.value c).Spelled := by
  cases f with
  | threshold => exact Json.spelled_ofDouble c.threshold
  | disabledByDefault => exact .bool c.disabledByDefault
  | _ => exact .string (Json.Quoted.ends_encode _)

theorem isUtf8_value (c : Config) (f : Field) : Text.IsUtf8 (f.value c).bytes := by
  cases f with
  | threshold => exact Json.isUtf8_ofDouble c.threshold
  | disabledByDefault => exact Json.isUtf8_bool c.disabledByDefault
  | _ => exact Json.isUtf8_ofText _

end Field

theorem fieldNames_eq : fieldNames = Field.all.map Field.name := rfl

theorem toJson_eq (c : Config) : c.toJson = .ofMembers (Field.all.map (Field.member c)) := rfl

/-- The configuration with some fields of one and the others of another. -/
def overlay (chosen : List Field) (c base : Config) : Config where
  dataDir := if .dataDir ∈ chosen then c.dataDir else base.dataDir
  threshold := if .threshold ∈ chosen then c.threshold else base.threshold
  disabledByDefault :=
    if .disabledByDefault ∈ chosen then c.disabledByDefault else base.disabledByDefault
  policy := if .policy ∈ chosen then c.policy else base.policy

/-- Whether some members name the chosen fields of a configuration, each once and in the order of
the choice. There may be any other members before, between and after them. -/
structure Names (ms : List (String × Json)) (chosen : List Field) (c : Config) : Prop where
  distinct : chosen.Nodup
  known : (ms.filter fun m => m.1 ∈ fieldNames) = chosen.map (Field.member c)

namespace Names

variable {ms : List (String × Json)} {chosen : List Field} {c : Config}

/-- A field is found exactly if it is named. -/
theorem lookup (h : Names ms chosen c) (f : Field) :
    ms.lookup f.name = if f ∈ chosen then some (f.value c) else none := by
  have among (chosen : List Field) : (chosen.map (Field.member c)).lookup f.name =
      if f ∈ chosen then some (f.value c) else none := by
    induction chosen with
    | nil => rfl
    | cons g chosen ih =>
      rw [List.map_cons, Field.member, lookup_cons_eq, ih]
      by_cases same : f = g
      · rw [if_pos (congrArg Field.name same), if_pos (same ▸ List.mem_cons_self), same]
      · have other : f.name ≠ g.name := fun e => same (Field.name_injective e)
        rw [if_neg other]
        simp only [List.mem_cons, same, false_or]
  rw [← among, ← h.known]
  exact (lookup_filter_of_pos (p := fun name => decide (name ∈ fieldNames))
    (decide_eq_true f.name_mem_fieldNames) ms).symm

/-- No field is named twice. -/
theorem countP_le_one (h : Names ms chosen c) (f : Field) : ms.countP (·.1 = f.name) ≤ 1 := by
  have within : ms.countP (·.1 = f.name) =
      (ms.filter fun m => m.1 ∈ fieldNames).countP (·.1 = f.name) := by
    rw [List.countP_filter]
    refine List.countP_congr fun m _ => ?_
    simp only [decide_eq_true_eq, Bool.and_eq_true]
    exact ⟨fun e => ⟨e, e ▸ f.name_mem_fieldNames⟩, And.left⟩
  have count : (chosen.map (Field.member c)).countP (·.1 = f.name) = chosen.count f := by
    rw [List.countP_map, List.count]
    refine List.countP_congr fun g _ => ?_
    simp only [Function.comp_apply, decide_eq_true_eq, beq_iff_eq]
    exact ⟨Field.name_injective, congrArg Field.name⟩
  rw [within, h.known, count]
  exact List.nodup_iff_count.mp h.distinct f

/-- Members that can all be written, as those of the fields can, are written in a text. -/
theorem spelled_ofMembers (h : Names ms chosen c)
    (others : ∀ m ∈ ms, m.1 ∉ fieldNames → m.2.Spelled ∧ Text.IsUtf8 m.2.bytes) :
    (Json.ofMembers ms).Spelled ∧ Text.IsUtf8 (Json.ofMembers ms).bytes := by
  have all : ∀ m ∈ ms, m.2.Spelled ∧ Text.IsUtf8 m.2.bytes := by
    intro m mem
    by_cases known : m.1 ∈ fieldNames
    · have named : m ∈ ms.filter fun m => m.1 ∈ fieldNames :=
        List.mem_filter.mpr ⟨mem, decide_eq_true known⟩
      rw [h.known] at named
      obtain ⟨f, -, rfl⟩ := List.mem_map.mp named
      exact ⟨f.spelled_value c, f.isUtf8_value c⟩
    · exact others m mem known
  exact ⟨Json.spelled_ofMembers fun m mem => (all m mem).1,
    Json.isUtf8_ofMembers fun m mem => (all m mem).2⟩

/-- What a record with these members gives each field. -/
theorem fields? (h : Names ms chosen c) {v : Json} (members : v.members? = some ms) :
    v.fields? fieldNames =
      some (Field.all.map fun f => if f ∈ chosen then some (f.value c) else none) := by
  have once : ∀ name ∈ fieldNames, ms.countP (·.1 = name) ≤ 1 := by
    intro name mem
    obtain ⟨f, -, rfl⟩ := List.mem_map.mp (fieldNames_eq ▸ mem)
    exact h.countP_le_one f
  rw [Json.fields?_of_members? members once, fieldNames_eq, List.map_map]
  exact congrArg some (List.map_congr_left fun f _ => h.lookup f)

/-- A configuration is written with all of its fields. -/
theorem all (c : Config) : Names (Field.all.map (Field.member c)) Field.all c where
  distinct := by decide
  known := by
    refine List.filter_eq_self.mpr fun m mem => ?_
    obtain ⟨f, -, rfl⟩ := List.mem_map.mp mem
    exact decide_eq_true f.name_mem_fieldNames

end Names

theorem overlay_all (c base : Config) : overlay Field.all c base = c := rfl

/-! ### Reading -/

/-- A field that is named has the value that its reader gives back, and else its default. -/
theorem field?_ite {α : Type} {read : Json → Option α} {p : Prop} [Decidable p] {v : Json}
    {a : α} (back : read v = some a) (base : α) :
    field? read base (if p then some v else none) = some (if p then a else base) := by
  split
  · exact back
  · rfl

section Load

variable {ms : List (String × Json)} {chosen : List Field} {c : Config}
  {e : Environment} {p : Path} {t : FileTree}

/-- Reading members that name some fields overrides these fields. -/
theorem ofJson?_of_names (names : Names ms chosen c)
    (score : (Json.ofDouble c.threshold).double? = some c.threshold) {v : Json}
    (members : v.members? = some ms) (base : Config) :
    ofJson? base v = some (overlay chosen c base) := by
  have dir : ((Json.ofText c.dataDir.text).text?).map Path.mk = some c.dataDir :=
    congrArg (Option.map Path.mk) (Json.text?_ofText c.dataDir.text)
  have flag : (Json.bool c.disabledByDefault).bool? = some c.disabledByDefault := rfl
  rw [ofJson?, names.fields? members]
  simp only [Field.all, List.map_cons, List.map_nil, Field.value]
  rw [field?_ite dir, field?_ite score, field?_ite flag,
    field?_ite c.policy.ofJson?_text]
  rfl

/-- All that can be wrong with the result is an empty data directory. -/
theorem validate_overlay (finite : c.threshold.isFinite) :
    (overlay chosen c (default e)).validate =
      if (overlay chosen c (default e)).dataDir.text = "" then .error (.config .emptyDataDir)
      else .ok () := by
  have byDefault : defaultThreshold.isFinite := by decide +kernel
  have finite' : (overlay chosen c (default e)).threshold.isFinite := by
    have score : (overlay chosen c (default e)).threshold =
        if .threshold ∈ chosen then c.threshold else defaultThreshold := rfl
    rw [score]
    split
    · exact finite
    · exact byDefault
  rw [validate, finite', Bool.not_true, if_neg Bool.false_ne_true]

/-- Loading a text that is read as members which name some fields. -/
theorem load_of_names (names : Names ms chosen c) (finite : c.threshold.isFinite)
    (score : (Json.ofDouble c.threshold).double? = some c.threshold) {content : Bytes}
    (file : t.readAt p = .ok content) (text : Text.IsUtf8 content) {v : Json}
    (read : Json.ofBytes? content = some v) (members : v.members? = some ms) :
    load e p t =
      if (overlay chosen c (default e)).dataDir.text = "" then .error (.config .emptyDataDir)
      else .ok (overlay chosen c (default e)) := by
  have found : (Text.ofBytes? content).isNone = false := by
    rw [Option.isNone_eq_false_iff]
    exact text
  have merged : Json.ofBytes? content >>= ofJson? (default e) =
      some (overlay chosen c (default e)) := by
    rw [read]
    exact ofJson?_of_names names score members (default e)
  rw [load, file]
  dsimp only
  rw [found, if_neg Bool.false_ne_true, merged]
  dsimp only
  rw [validate_overlay finite]
  split <;> rfl

end Load

/-- **A file overrides the fields that it names.** Let some members name any of the fields of a
configuration whose score is read back, each once, in any order and with any others among them.
Whoever loads a text that is read as these members gets the named fields of the configuration and
the others by default, or is told that the data directory is empty if it is. The members as they
are written are such a text, if those of other names can be written at all. A configuration that is
valid is given back from its own written form. -/
theorem load_overrides_named_fields (c : Config)
    (score : (Json.ofDouble c.threshold).double? = some c.threshold)
    (finite : c.threshold.isFinite) (chosen : List Field) (ms : List (String × Json))
    (names : Names ms chosen c) (e : Environment) (p : Path) (t : FileTree) :
    let merged := overlay chosen c (default e)
    let loaded : Except StoreError Config :=
      if merged.dataDir.text = "" then .error (.config .emptyDataDir) else .ok merged
    (∀ content v, t.readAt p = .ok content → Text.IsUtf8 content →
        Json.ofBytes? content = some v → v.members? = some ms → load e p t = loaded) ∧
      ((∀ m ∈ ms, m.1 ∉ fieldNames → m.2.Spelled ∧ Text.IsUtf8 m.2.bytes) →
        t.readAt p = .ok (Json.ofMembers ms).bytes → load e p t = loaded) ∧
      (c.validate = .ok () → t.readAt p = .ok c.toJson.bytes → load e p t = .ok c) := by
  intro merged loaded
  refine ⟨fun content v file text read members => ?_, fun others file => ?_, fun valid file => ?_⟩
  · exact load_of_names names finite score file text read members
  · obtain ⟨spelled, text⟩ := names.spelled_ofMembers others
    exact load_of_names names finite score file text (Json.ofBytes?_bytes spelled)
      (Json.members?_ofMembers ms)
  · obtain ⟨spelled, text⟩ := (Names.all c).spelled_ofMembers fun m mem other => by
      obtain ⟨f, -, rfl⟩ := List.mem_map.mp mem
      exact absurd f.name_mem_fieldNames other
    rw [toJson_eq] at file
    have dir : c.dataDir.text ≠ "" := by
      intro empty
      rw [validate, if_pos empty] at valid
      exact absurd valid nofun
    rw [load_of_names (Names.all c) finite score file text (Json.ofBytes?_bytes spelled)
      (Json.members?_ofMembers _), overlay_all, if_neg dir]

/-- A file with the score, the policy and the data directory of a configuration, among members that
nobody asks for. -/
theorem load_overrides_three_fields :
    let c : Config := ⟨⟨"/srv/\"gestes\"\\é\x01🔒"⟩, 7.25, true, .assumeMatch⟩
    let note : Json := .array [.null, .ofMembers [("data_dir", .ofText "ü")]]
    let ms := [("note", note), Field.member c .threshold, ("note", .bool true),
      Field.member c .policy, Field.member c .dataDir]
    let t := FileTree.empty.put ["config.json"] (.file (Json.ofMembers ms).bytes)
    Names ms [.threshold, .policy, .dataDir] c ∧
      load ⟨some "/var", none, some "/home"⟩ ⟨"config.json"⟩ t =
        .ok ⟨c.dataDir, 7.25, false, .assumeMatch⟩ := by
  intro c note ms t
  have score : (Json.ofDouble c.threshold).double? = some c.threshold := by decide +kernel
  have finite : c.threshold.isFinite := by decide +kernel
  have names : Names ms [.threshold, .policy, .dataDir] c := ⟨by decide, rfl⟩
  have others : ∀ m ∈ ms, m.1 ∉ fieldNames → m.2.Spelled ∧ Text.IsUtf8 m.2.bytes := by
    intro m mem other
    simp only [ms, List.mem_cons, List.not_mem_nil, or_false] at mem
    rcases mem with rfl | rfl | rfl | rfl | rfl
    · have member : (Json.ofText "ü").Spelled := .string (Json.Quoted.ends_encode "ü")
      have object : (Json.ofMembers [("data_dir", .ofText "ü")]).Spelled :=
        Json.spelled_ofMembers (List.forall_mem_singleton.mpr member)
      have items := List.forall_mem_cons.mpr
        ⟨Json.Spelled.null, List.forall_mem_singleton.mpr object⟩
      exact ⟨.array items, by decide +kernel⟩
    · exact absurd (Field.name_mem_fieldNames .threshold) other
    · exact ⟨.bool true, Json.isUtf8_bool true⟩
    · exact absurd (Field.name_mem_fieldNames .policy) other
    · exact absurd (Field.name_mem_fieldNames .dataDir) other
  have file : t.readAt ⟨"config.json"⟩ = .ok (Json.ofMembers ms).bytes := rfl
  exact ⟨names, (load_overrides_named_fields c score finite _ ms names
    ⟨some "/var", none, some "/home"⟩ ⟨"config.json"⟩ t).2.1 others file⟩

end Config

end Keyguard
