import Keyguard.Proofs.Files.Credentials
import Keyguard.Proofs.Settings.Cells
import Keyguard.Store.Call

/-!
# What an open store holds

An open store is more than it holds: it has a connection with a journal, a tree of files and a
registry of locks. Its **holdings** are the settings database and the contents of the credential
files, and calls act on them alone (`Holdings.perform`). What a permitted call leaves is a function
of the call and the holdings (`Holdings.after`).

`Mirrors` relates an action of the store to one on holdings: from a sound store, one whose database
nobody touched and whose tree is ready, both give the same answer or error, and the store stays
sound and holds what the action on holdings leaves. The relation is closed under sequencing
(`Mirrors.bind`), does not see locks (`Mirrors.withLocks`), and holds of every call
(`Mirrors.perform`).
-/

namespace Keyguard

-- unification must not compute what a tree has at the places of a layout
attribute [local irreducible] FileTree.at?

instance decidableEqResult {ε α : Type} [DecidableEq ε] [DecidableEq α] :
    DecidableEq (Except ε α)
  | .ok a, .ok b => decidable_of_iff (a = b) ⟨congrArg _, Except.ok.inj⟩
  | .error d, .error e => decidable_of_iff (d = e) ⟨congrArg _, Except.error.inj⟩
  | .ok _, .error _ => isFalse nofun
  | .error _, .ok _ => isFalse nofun

/-- What an action gives, and the state that it leaves. -/
def outcome {ε σ α : Type} (act : EStateM ε σ α) (s : σ) : Except ε α × σ :=
  match act s with
  | .ok a s => (.ok a, s)
  | .error e s => (.error e, s)

theorem outcome_bind {ε σ α β : Type} (act : EStateM ε σ α) (f : α → EStateM ε σ β) (s : σ) :
    outcome (act >>= f) s = match outcome act s with
      | (.ok a, s) => outcome (f a) s
      | (.error e, s) => (.error e, s) := by
  simp only [outcome, bind, EStateM.bind]
  cases act s <;> rfl

/-- Where an action leads to and what follows leads on to can be chained, if the relation can. -/
theorem outcome_bind_leads {ε σ α β : Type} {L : σ → σ → Prop} {act : EStateM ε σ α}
    {f : α → EStateM ε σ β} (trans : ∀ s s' s'', L s s' → L s' s'' → L s s'')
    (first : ∀ s, L s (outcome act s).2) (second : ∀ a s, L s (outcome (f a) s).2) (s : σ) :
    L s (outcome (act >>= f) s).2 := by
  have led := first s
  rw [outcome_bind]
  generalize outcome act s = x at led
  obtain ⟨result, s₁⟩ := x
  rcases result with e | a
  · exact led
  · exact trans s s₁ _ led (second a s₁)

/-- If an action answers alike in related states and leaves related ones, and so does what follows
on each answer, then so do both in sequence. -/
theorem outcome_bind_alike {ε σ α β : Type} {R : σ → σ → Prop} {act : EStateM ε σ α}
    {f : α → EStateM ε σ β}
    (first : ∀ s s', R s s' →
      (outcome act s').1 = (outcome act s).1 ∧ R (outcome act s).2 (outcome act s').2)
    (second : ∀ a s s', R s s' →
      (outcome (f a) s').1 = (outcome (f a) s).1 ∧ R (outcome (f a) s).2 (outcome (f a) s').2)
    {s s' : σ} (related : R s s') :
    (outcome (act >>= f) s').1 = (outcome (act >>= f) s).1 ∧
      R (outcome (act >>= f) s).2 (outcome (act >>= f) s').2 := by
  obtain ⟨result, related₁⟩ := first s s' related
  rw [outcome_bind, outcome_bind]
  generalize outcome act s = x at result related₁
  generalize outcome act s' = x' at result related₁
  obtain ⟨value, s₁⟩ := x
  obtain ⟨value', s₁'⟩ := x'
  obtain rfl : value' = value := result
  rcases value' with e | a
  · exact ⟨rfl, related₁⟩
  · exact second a s₁ s₁' related₁

/-- The settings database and the contents of the credential files. -/
structure Holdings where
  database : Database
  files : Contents

/-- An action on holdings. Where it fails, the holdings are those it left. -/
abbrev HoldingsAction := EStateM StoreError Holdings

namespace Holdings

/-- The variant of a user's pattern. -/
def variant (h : Holdings) (user : UserId) : GridVariant := h.database.variant user

/-! ### Actions on holdings -/

/-- Changes of the settings table, in one transaction. -/
def commit (cs : List Change) : HoldingsAction Unit := fun h =>
  match h.database.commit cs with
  | (.ok _, db) => .ok () { h with database := db }
  | (.error e, db) => .error e { h with database := db }

/-- Looks at holdings without changing them. -/
def reading {α : Type} (f : Holdings → Except StoreError α) : HoldingsAction α := fun h =>
  match f h with
  | .ok a => .ok a h
  | .error e => .error e h

/-- Reads from the database. -/
def asking {α : Type} (f : Database → Except DatabaseFault α) : HoldingsAction α :=
  reading fun h => (f h.database).mapError .database

/-- Changes the contents of credential files, unless that fails. -/
def onFiles (f : Holdings → Except StoreError Contents) : HoldingsAction Unit := fun h =>
  match f h with
  | .ok c => .ok () { h with files := c }
  | .error e => .error e h

/-- Writes the size of a user's pattern grid and moves the hash of the pattern. -/
def writePatternSize (value : SettingValue) (user : UserId) : HoldingsAction Unit := do
  let before ← reading fun h => .ok (h.variant user)
  commit [.write patternSizeKey user value.stored]
  let after ← reading fun h => .ok (h.variant user)
  onFiles fun h => .ok (h.files.movePattern user before after)

/-- Writes a setting. -/
def writeSetting (key : String) (value : SettingValue) (user : UserId) : HoldingsAction Unit :=
  if key = patternSizeKey then writePatternSize value user
  else commit [.write key user value.stored]

/-- Stores a hash. -/
def setHash (kind : CredentialKind) (hash : Bytes) (user : UserId) : HoldingsAction Unit :=
  onFiles fun h => .ok (h.files.store kind hash user (h.variant user))

/-- Compares a hash with the stored one. -/
def checkHash (kind : CredentialKind) (hash : Bytes) (user : UserId) : HoldingsAction Bool :=
  reading fun h => .ok (h.files.admits kind hash user (h.variant user))

/-- Removes all that is kept of a user. -/
def removeUser (user : UserId) : HoldingsAction Unit := do
  onFiles fun h => .ok (h.files.removeUser user)
  commit [.deleteUser user]

/-- Imports legacy settings, unless that was done before. -/
def importLegacy (source : LegacySource) : HoldingsAction ImportOutcome := fun h =>
  let (outcome, db) := h.database.importLegacy source
  .ok outcome { h with database := db }

/-- Does what a permitted call asks for, in a store with some configuration and recognizer. -/
def answer (c : Config) (r : Recognizer) : Call → HoldingsAction Answer
  | .setBoolean key value user => do writeSetting key (.boolean value) user; return .done
  | .setLong key value user => do writeSetting key (.long value) user; return .done
  | .setString key value user => do writeSetting key (.text value) user; return .done
  | .getBoolean key default user =>
    asking fun db => (db.getBoolean key default user).map .boolean
  | .getLong key default user => asking fun db => (db.getLong key default user).map .long
  | .getString key default user => asking fun db => (db.getString key default user).map .text
  | .getLockPatternSize user => reading fun h => .ok (.size (h.database.patternSize user))
  | .setLockPattern hash user => do setHash .pattern hash user; return .done
  | .checkPattern hash user => do return .boolean (← checkHash .pattern hash user)
  | .setLockPassword hash user => do setHash .password hash user; return .done
  | .checkPassword hash user => do return .boolean (← checkHash .password hash user)
  | .setLockGesture sample user => do
    onFiles fun h => h.files.setGesture sample user
    return .done
  | .checkGesture sample user =>
    reading fun h => (h.files.library user).map fun l =>
      .boolean (unlocks c.threshold (r sample l))
  | .havePassword user =>
    reading fun h => .ok (.boolean (h.files.holds .password user (h.variant user)))
  | .havePattern user =>
    reading fun h => .ok (.boolean (h.files.holds .pattern user (h.variant user)))
  | .haveGesture user =>
    reading fun h => .ok (.boolean (h.files.bytes user .gesture ≠ []))
  | .removeUser user => do removeUser user; return .done
  | .systemReady source => do return .outcome (← importLegacy source)

/-- Answers a call, if its caller may make it. -/
def perform (c : Config) (r : Recognizer) (caller : Caller) (call : Call) :
    HoldingsAction Answer :=
  if caller.mayRun call.operation call.user then answer c r call
  else throw (.permissionDenied caller call.operation call.user)

/-! ### What calls leave -/

/-- The holdings after a setting was written. -/
def written (h : Holdings) (key : String) (value : SettingValue) (user : UserId) : Holdings :=
  let db := (h.database.commit [.write key user value.stored]).2
  ⟨db, if key = patternSizeKey then
    h.files.movePattern user (h.variant user) (db.variant user) else h.files⟩

/-- The holdings after a permitted call. -/
def after (h : Holdings) : Call → Holdings
  | .setBoolean key value user => h.written key (.boolean value) user
  | .setLong key value user => h.written key (.long value) user
  | .setString key value user => h.written key (.text value) user
  | .setLockPattern hash user =>
    { h with files := h.files.store .pattern hash user (h.variant user) }
  | .setLockPassword hash user =>
    { h with files := h.files.store .password hash user (h.variant user) }
  | .setLockGesture sample user =>
    match h.files.setGesture sample user with
    | .ok c => { h with files := c }
    | .error _ => h
  | .removeUser user => ⟨(h.database.commit [.deleteUser user]).2, h.files.removeUser user⟩
  | .systemReady source => { h with database := (h.database.importLegacy source).2 }
  | _ => h

theorem outcome_commit (cs : List Change) (h : Holdings) :
    outcome (commit cs) h =
      ((h.database.commit cs).1.map fun _ => (),
        { h with database := (h.database.commit cs).2 }) := by
  simp only [outcome, commit]
  cases h.database.commit cs with
  | mk result db => cases result <;> rfl

private theorem outcome_reading_snd {α : Type} (f : Holdings → Except StoreError α)
    (h : Holdings) : (outcome (reading f) h).2 = h := by
  simp only [outcome, reading]
  cases f h <;> rfl

/-- A reading call answers what it finds. -/
theorem outcome_reading_fst {α : Type} (f : Holdings → Except StoreError α) (h : Holdings) :
    (outcome (reading f) h).1 = f h := by
  simp only [outcome, reading]
  cases f h <;> rfl

/-- A reading call answers what the database answers. -/
theorem outcome_asking_fst {α : Type} (f : Database → Except DatabaseFault α) (h : Holdings) :
    (outcome (asking f) h).1 = (f h.database).mapError .database :=
  outcome_reading_fst _ h

/-- A change of files is answered once it is done, or refused with its error. -/
theorem outcome_onFiles_fst (f : Holdings → Except StoreError Contents) (a : Answer)
    (h : Holdings) : (outcome (do onFiles f; return a) h).1 = (f h).map fun _ => a := by
  rw [outcome_bind, outcome.eq_1 (onFiles f), onFiles]
  cases f h <;> rfl

/-- An answer that is given once an action is done changes nothing. -/
private theorem outcome_done_snd {α : Type} (act : HoldingsAction α) (f : α → Answer)
    (h : Holdings) : (outcome (do return f (← act)) h).2 = (outcome act h).2 := by
  rw [outcome_bind]
  generalize outcome act h = x
  obtain ⟨result, h'⟩ := x
  cases result <;> rfl

private theorem outcome_writeSetting_snd (key : String) (value : SettingValue) (user : UserId)
    (h : Holdings) : (outcome (writeSetting key value user) h).2 = h.written key value user := by
  rw [writeSetting, written]
  by_cases hk : key = patternSizeKey
  · rw [if_pos hk, if_pos hk, writePatternSize, outcome_bind]
    simp only [outcome.eq_1 (reading _), reading, outcome_bind, outcome_commit, hk]
    cases hs : h.database.settings with
    | some t =>
      obtain ⟨n, hn⟩ := Database.commit_of_table hs [.write patternSizeKey user value.stored]
      rw [hn]
      rfl
    | none =>
      rw [Database.commit_of_no_table hs (by simp)]
      simp only [Except.map, variant, Contents.movePattern, true_or, if_true]
  · rw [if_neg hk, if_neg hk, outcome_commit]

/-- What a permitted call leaves depends neither on the configuration nor on the recognizer. -/
theorem answer_snd (c : Config) (r : Recognizer) (call : Call) (h : Holdings) :
    (outcome (answer c r call) h).2 = h.after call := by
  cases call with
  | setBoolean key value user =>
    exact (outcome_done_snd _ _ h).trans (outcome_writeSetting_snd key _ user h)
  | setLong key value user =>
    exact (outcome_done_snd _ _ h).trans (outcome_writeSetting_snd key _ user h)
  | setString key value user =>
    exact (outcome_done_snd _ _ h).trans (outcome_writeSetting_snd key _ user h)
  | setLockGesture sample user =>
    refine (outcome_done_snd _ _ h).trans ?_
    simp only [outcome, onFiles, after]
    cases h.files.setGesture sample user <;> rfl
  | removeUser user =>
    refine (outcome_done_snd _ _ h).trans ?_
    rw [removeUser, outcome_bind, after, outcome.eq_1 (onFiles _), onFiles]
    simp only [outcome_commit]
  | getBoolean _ _ _ | getLong _ _ _ | getString _ _ _ | checkGesture _ _ =>
    exact outcome_reading_snd _ h
  | _ => rfl

end Holdings

namespace Store

/-- What the store holds. -/
def holdings (s : Store) : Holdings := ⟨s.database, s.layout.contents s.files⟩

/-- Whether the store has some configuration and recognizer, nobody touched its database, and its
credential files can be written. -/
structure Sound (c : Config) (r : Recognizer) (s : Store) : Prop where
  config : s.config = c
  recognizer : s.recognizer = r
  file : s.file = .kept
  version : s.database.version = schemaVersion
  ready : s.layout.Ready s.files

/-- Locks are taken before an action and given back after it. -/
theorem outcome_withLocks {α : Type} (locks : List Lock) (act : StoreAction α) (s : Store) :
    outcome (withLocks locks act) s =
      ((outcome act { s with locks := s.locks.acquireAll locks }).1,
        { (outcome act { s with locks := s.locks.acquireAll locks }).2 with
          locks := (outcome act { s with locks := s.locks.acquireAll locks }).2.locks.releaseAll
            locks }) := by
  simp only [outcome, withLocks]
  cases act { s with locks := s.locks.acquireAll locks } <;> rfl

/-- The system may make every call. -/
theorem perform_system (call : Call) : perform .system call = answer call := by
  rw [perform, if_pos (Caller.mayRun_system _ _)]

/-- Looking at the store gives what is seen and changes nothing. -/
theorem outcome_reading {α : Type} (f : Store → Except StoreError α) (s : Store) :
    outcome (reading f) s = (f s, s) := by
  simp only [outcome, reading]
  cases f s <;> rfl

theorem outcome_commit (cs : List Change) (s : Store) :
    outcome (commit cs) s =
      ((s.database.commit cs).1.map fun _ => (),
        { s with database := (s.database.commit cs).2 }) := by
  simp only [outcome, commit]
  cases s.database.commit cs with
  | mk result db => cases result <;> rfl

/-- Locks do not change what is seen. -/
theorem outcome_reading_locked {f : Store → Except StoreError Bool} (locks : List Lock) (s : Store)
    (blind : ∀ r, f { s with locks := r } = f s) :
    (outcome (do return Answer.boolean (← withLocks locks (reading f)) : StoreAction Answer) s).1 =
      (f s).map .boolean := by
  rw [outcome_bind, outcome_withLocks, outcome_reading, blind]
  cases f s <;> rfl

end Store

/-- Whether an action of sound stores does what an action on holdings does. -/
def Mirrors {α : Type} (c : Config) (r : Recognizer) (act : StoreAction α)
    (act' : HoldingsAction α) : Prop :=
  ∀ s : Store, s.Sound c r →
    (outcome act s).1 = (outcome act' s.holdings).1 ∧
      (outcome act s).2.Sound c r ∧ (outcome act s).2.holdings = (outcome act' s.holdings).2

namespace Mirrors

variable {α β : Type} {c : Config} {r : Recognizer}

protected theorem pure (a : α) : Mirrors c r (pure a) (pure a) :=
  fun _ sound => ⟨rfl, sound, rfl⟩

protected theorem throw (e : StoreError) :
    Mirrors c r (throw e : StoreAction α) (throw e : HoldingsAction α) :=
  fun _ sound => ⟨rfl, sound, rfl⟩

/-- What is done after mirroring actions mirrors as well. -/
protected theorem bind {act : StoreAction α} {act' : HoldingsAction α} {f : α → StoreAction β}
    {f' : α → HoldingsAction β} (h : Mirrors c r act act') (hf : ∀ a, Mirrors c r (f a) (f' a)) :
    Mirrors c r (act >>= f) (act' >>= f') := by
  intro s sound
  obtain ⟨value, sound', holdings⟩ := h s sound
  rw [outcome_bind, outcome_bind]
  generalize outcome act s = x at value sound' holdings
  generalize outcome act' s.holdings = x' at value holdings
  obtain ⟨result, s₁⟩ := x
  obtain ⟨result', h₁⟩ := x'
  obtain rfl : result = result' := value
  obtain rfl : s₁.holdings = h₁ := holdings
  cases result with
  | ok a => exact hf a s₁ sound'
  | error e => exact ⟨rfl, sound', rfl⟩

/-- Locks are no holdings. -/
theorem withLocks {act : StoreAction α} {act' : HoldingsAction α} (h : Mirrors c r act act')
    (locks : List Lock) : Mirrors c r (Store.withLocks locks act) act' := by
  intro s sound
  have sound' : Store.Sound c r { s with locks := s.locks.acquireAll locks } :=
    ⟨sound.config, sound.recognizer, sound.file, sound.version, sound.ready⟩
  obtain ⟨value, after, holdings⟩ := h _ sound'
  rw [Store.outcome_withLocks]
  exact ⟨value, ⟨after.config, after.recognizer, after.file, after.version, after.ready⟩, holdings⟩

theorem reading {f : Store → Except StoreError α} {f' : Holdings → Except StoreError α}
    (h : ∀ s, s.Sound c r → f s = f' s.holdings) :
    Mirrors c r (Store.reading f) (Holdings.reading f') := by
  intro s sound
  simp only [outcome, Store.reading, Holdings.reading, h s sound]
  cases f' s.holdings with
  | ok a => exact ⟨rfl, sound, rfl⟩
  | error e => exact ⟨rfl, sound, rfl⟩

theorem asking (f : Database → Except DatabaseFault α) :
    Mirrors c r (Store.asking f) (Holdings.asking f) :=
  reading fun _ _ => rfl

theorem commit (cs : List Change) : Mirrors c r (Store.commit cs) (Holdings.commit cs) := by
  intro s sound
  have version : (s.database.commit cs).2.version = schemaVersion :=
    (Database.version_congr (Database.versions_commit _ _)).trans sound.version
  have holdings : s.holdings.database = s.database := rfl
  simp only [outcome, Store.commit, Holdings.commit, holdings]
  generalize s.database.commit cs = x at version
  obtain ⟨result, db⟩ := x
  have sound' : Store.Sound c r { s with database := db } :=
    ⟨sound.config, sound.recognizer, sound.file, version, sound.ready⟩
  cases result with
  | ok n => exact ⟨rfl, sound', rfl⟩
  | error e => exact ⟨rfl, sound', rfl⟩

/-- An action on files that leaves the tree ready mirrors the change of the contents. -/
private theorem files {act : StoreAction Unit} {f : Holdings → Except StoreError Contents}
    (h : ∀ s, s.Sound c r → match f s.holdings with
      | .error e => outcome act s = (.error e, s)
      | .ok contents => ∃ t, outcome act s = (.ok (), { s with files := t }) ∧
          s.layout.Ready t ∧ s.layout.contents t = contents) :
    Mirrors c r act (Holdings.onFiles f) := by
  intro s sound
  have done := h s sound
  rw [outcome.eq_1 (Holdings.onFiles f), Holdings.onFiles]
  cases hf : f s.holdings with
  | error e =>
    rw [hf] at done
    rw [done]
    exact ⟨rfl, sound, rfl⟩
  | ok contents =>
    rw [hf] at done
    obtain ⟨t, done, ready, rfl⟩ := done
    rw [done]
    exact ⟨rfl, ⟨sound.config, sound.recognizer, sound.file, sound.version, ready⟩, rfl⟩

/-- The same for an action on files that cannot fail. -/
private theorem onFiles (act : Store → FileAction Unit) {f : Holdings → Contents}
    (h : ∀ s, s.Sound c r → ∃ t, act s s.files = .ok () t ∧ s.layout.Ready t ∧
      s.layout.contents t = f s.holdings) :
    Mirrors c r (fun s => Store.onFiles (act s) s) (Holdings.onFiles fun h => .ok (f h)) := by
  refine files fun s sound => ?_
  obtain ⟨t, done, ready⟩ := h s sound
  exact ⟨t, by simp only [outcome, Store.onFiles, done], ready⟩

/-! ### The actions of the store -/

private theorem variant (user : UserId) :
    Mirrors c r (Store.reading fun s => .ok (s.variant user))
      (Holdings.reading fun h => .ok (h.variant user)) :=
  reading fun _ _ => rfl

theorem writePatternSize (value : SettingValue) (user : UserId) :
    Mirrors c r (Store.writePatternSize value user) (Holdings.writePatternSize value user) := by
  refine withLocks (Mirrors.bind (variant user) fun before => ?_) _
  refine Mirrors.bind (commit _) fun _ => Mirrors.bind (variant user) fun after => ?_
  have moved : Mirrors c r (fun s => Store.onFiles (s.hashes.movePattern user before after) s)
      (Holdings.onFiles fun h => .ok (h.files.movePattern user before after)) :=
    onFiles (fun s => s.hashes.movePattern user before after) fun s sound =>
      sound.ready.movePattern s.config.policy user before after
  exact moved

theorem writeSetting (key : String) (value : SettingValue) (user : UserId) :
    Mirrors c r (Store.writeSetting key value user) (Holdings.writeSetting key value user) := by
  rw [Store.writeSetting, Holdings.writeSetting]
  split
  · exact writePatternSize value user
  · exact commit _

theorem setHash (kind : CredentialKind) (hash : Bytes) (user : UserId) :
    Mirrors c r (Store.setHash kind hash user) (Holdings.setHash kind hash user) := by
  refine withLocks ?_ _
  exact onFiles (fun s => s.hashes.set kind hash user (s.variant user)) fun s sound =>
    sound.ready.set s.config.policy kind hash user (s.variant user)

theorem checkHash (kind : CredentialKind) (hash : Bytes) (user : UserId) :
    Mirrors c r (Store.checkHash kind hash user) (Holdings.checkHash kind hash user) :=
  withLocks (reading fun s sound =>
    sound.ready.check s.config.policy kind hash user (s.variant user)) _

theorem patternSize (user : UserId) :
    Mirrors c r (Store.reading fun s => .ok (.size (s.patternSize user)))
      (Holdings.reading fun h => .ok (Answer.size (h.database.patternSize user))) :=
  reading fun _ _ => rfl

theorem haveHash (kind : CredentialKind) (user : UserId) :
    Mirrors c r (Store.reading fun s => .ok (.boolean (s.haveHash kind user)))
      (Holdings.reading fun h => .ok (Answer.boolean (h.files.holds kind user (h.variant user)))) :=
  reading fun s sound => by
    rw [Store.haveHash, Store.hashes, sound.ready.holds s.config.policy]
    rfl

theorem setGesture (sample : Gesture) (user : UserId) :
    Mirrors c r (Store.setGesture sample user)
      (Holdings.onFiles fun h => h.files.setGesture sample user) := by
  refine withLocks (files fun s sound => ?_) _
  have done := sound.ready.setGesture s.config.threshold sample user
  have contents : s.holdings.files = s.layout.contents s.files := rfl
  rw [contents]
  cases hc : (s.layout.contents s.files).setGesture sample user with
  | error e =>
    rw [hc] at done
    simp only [outcome, Store.gestures, done]
  | ok c =>
    rw [hc] at done
    obtain ⟨t, done, ready⟩ := done
    exact ⟨t, by simp only [outcome, Store.gestures, done], ready⟩

theorem checkGesture (sample : Gesture) (user : UserId) :
    Mirrors c r (do return .boolean (← Store.checkGesture sample user))
      (Holdings.reading fun h => (h.files.library user).map fun l =>
        Answer.boolean (unlocks c.threshold (r sample l))) := by
  have checked : Mirrors c r (Store.checkGesture sample user)
      (Holdings.reading fun h => (h.files.library user).map fun l =>
        unlocks c.threshold (r sample l)) :=
    withLocks (reading fun s sound => by
      rw [Store.gestures, sound.ready.checkGesture, sound.config, sound.recognizer]
      rfl) _
  have answered : (Holdings.reading fun h => (h.files.library user).map fun l =>
        Answer.boolean (unlocks c.threshold (r sample l))) =
      (do return .boolean (← Holdings.reading fun h => (h.files.library user).map fun l =>
        unlocks c.threshold (r sample l)) : HoldingsAction Answer) := by
    funext h
    simp only [Holdings.reading, bind, EStateM.bind]
    cases h.files.library user <;> rfl
  rw [answered]
  exact Mirrors.bind checked fun _ => .pure _

theorem haveGesture (user : UserId) :
    Mirrors c r (Store.reading fun s => .ok (.boolean (s.gestures.holds user s.files)))
      (Holdings.reading fun h => .ok (Answer.boolean (h.files.bytes user .gesture ≠ []))) :=
  reading fun s sound => by
    rw [Store.gestures, sound.ready.holdsGesture]
    rfl

theorem removeUser (user : UserId) :
    Mirrors c r (Store.removeUser user) (Holdings.removeUser user) := by
  have removed : Mirrors c r (Store.removeFiles user)
      (Holdings.onFiles fun h => .ok (h.files.removeUser user)) :=
    files fun s sound => ⟨_, rfl, sound.ready.removeUser s.config.policy s.config.threshold user⟩
  have forgotten : Mirrors c r (Store.forgetUser user) (pure ()) := fun s sound =>
    ⟨rfl, ⟨sound.config, sound.recognizer, sound.file, sound.version, sound.ready⟩, rfl⟩
  have both := Mirrors.bind
    (withLocks (Mirrors.bind removed fun _ => commit [.deleteUser user]) (Lock.allOf user))
    fun _ => forgotten
  have ends : (Holdings.removeUser user >>= fun _ => pure ()) = Holdings.removeUser user :=
    bind_pure _
  rwa [← ends]

theorem importLegacy (source : LegacySource) :
    Mirrors c r (Store.importLegacy source) (Holdings.importLegacy source) := by
  intro s sound
  have version : (s.database.importLegacy source).2.version = schemaVersion :=
    (Database.version_congr (Database.versions_importLegacy _ _)).trans sound.version
  exact ⟨rfl, ⟨sound.config, sound.recognizer, sound.file, version, sound.ready⟩, rfl⟩

/-! ### Calls -/

/-- Every permitted call acts on the holdings alone. -/
theorem answer (call : Call) : Mirrors c r (Store.answer call) (Holdings.answer c r call) := by
  cases call with
  | setBoolean key value user => exact .bind (writeSetting key _ user) fun _ => .pure _
  | setLong key value user => exact .bind (writeSetting key _ user) fun _ => .pure _
  | setString key value user => exact .bind (writeSetting key _ user) fun _ => .pure _
  | getBoolean key default user =>
    exact asking fun db => (db.getBoolean key default user).map Answer.boolean
  | getLong key default user =>
    exact asking fun db => (db.getLong key default user).map Answer.long
  | getString key default user =>
    exact asking fun db => (db.getString key default user).map Answer.text
  | getLockPatternSize user => exact patternSize user
  | setLockPattern hash user => exact .bind (setHash .pattern hash user) fun _ => .pure _
  | checkPattern hash user => exact .bind (checkHash .pattern hash user) fun _ => .pure _
  | setLockPassword hash user => exact .bind (setHash .password hash user) fun _ => .pure _
  | checkPassword hash user => exact .bind (checkHash .password hash user) fun _ => .pure _
  | setLockGesture sample user => exact .bind (setGesture sample user) fun _ => .pure _
  | checkGesture sample user => exact checkGesture sample user
  | havePassword user => exact haveHash .password user
  | havePattern user => exact haveHash .pattern user
  | haveGesture user => exact haveGesture user
  | removeUser user => exact .bind (removeUser user) fun _ => .pure _
  | systemReady source => exact .bind (importLegacy source) fun _ => .pure _

/-- Every call acts on the holdings alone, whoever makes it. -/
theorem perform (caller : Caller) (call : Call) :
    Mirrors c r (Store.perform caller call) (Holdings.perform c r caller call) := by
  rw [Store.perform, Holdings.perform]
  split
  · exact answer call
  · exact .throw _

end Mirrors

end Keyguard
