import Keyguard.Proofs.Credential.HashWrites
import Keyguard.Proofs.Store.Holdings

/-!
# Twin stores

Two stores are **twins** if they have the same configuration, recognizer and database, and the
same in all places but those of the database and its journal (`Store.Twin`). They may differ in
their locks and in what became of their journals.

An action is **steady** (`Store.Steady`) if twins answer it alike and stay twins, and if it leaves
alone whatever is no credential file and not in the database (`Store.Leaves`). Steady actions can be
done in sequence, and every call is steady (`Store.Steady.perform`). Nothing is assumed of the
stores: their rows may be any, and their trees may have anything in the places of their files.
-/

namespace Keyguard

open FileTree

-- unification must not compute what a tree has at the places of a layout
attribute [local irreducible] FileTree.at?

/-! ### Trees that agree -/

namespace Layout

variable {l : Layout} {t t' : FileTree} {u : UserId} {f : CredentialFile} {q : Place}

/-- Whether two trees have the same everywhere but at the database and its journal. -/
def Agree (l : Layout) (t t' : FileTree) : Prop :=
  ∀ q, q ≠ l.database.names → q ≠ l.journal.names → t'.at? q = t.at? q

/-- Whether a place is that of a credential file. -/
def IsFile (l : Layout) (q : Place) : Prop := ∃ u f, q = (l.file u f).names

namespace Agree

protected theorem refl (l : Layout) (t : FileTree) : l.Agree t t := fun _ _ _ => rfl

protected theorem trans {t'' : FileTree} (h : l.Agree t t') (h' : l.Agree t' t'') :
    l.Agree t t'' :=
  fun q database journal => (h' q database journal).trans (h q database journal)

theorem at_file (h : l.Agree t t') (u : UserId) (f : CredentialFile) :
    t'.at? (l.file u f).names = t.at? (l.file u f).names :=
  h _ (file_ne_database u f) (file_ne_journal u f)

/-- Trees that agree have the same on the way to a credential file. -/
theorem at_above (h : l.Agree t t') (above : q ∈ ancestors (l.file u f).names) :
    t'.at? q = t.at? q := by
  rcases mem_ancestors_file above with above | rfl | rfl
  · exact h q (ne_of_mem_ancestors_database above).1 (ne_of_mem_ancestors_database above).2
  · exact h _ usersDir_ne_database.1 usersDir_ne_database.2
  · exact h _ (userDir_ne_database u).1 (userDir_ne_database u).2

/-- What blocks a place on the way to a credential file, or the file, blocks it in both. -/
theorem blocked_eq (h : l.Agree t t') {p : Place}
    (above : ancestors p ⊆ ancestors (l.file u f).names) : t'.blocked p = t.blocked p := by
  rw [blocked, blocked, Bool.eq_iff_iff, List.any_eq_true, List.any_eq_true]
  refine exists_congr fun q => and_congr_right fun hq => ?_
  rw [file?, file?, h.at_above (above hq)]

theorem read (h : l.Agree t t') (u : UserId) (f : CredentialFile) :
    t'.read (l.file u f).names = t.read (l.file u f).names := by
  rw [FileTree.read, FileTree.read, h.blocked_eq (List.Subset.refl _), h.at_file]

/-- A credential file is removed from both trees or from none. -/
theorem remove (h : l.Agree t t') (u : UserId) (f : CredentialFile) :
    l.Agree (t.remove (l.file u f).names) (t'.remove (l.file u f).names) := by
  intro q database journal
  rw [at_remove, at_remove, h.blocked_eq (List.Subset.refl _), file?, file?, h.at_file,
    h q database journal]

end Agree

end Layout

/-! ### Actions on files -/

/-- An action whose faults are reported in some way. -/
def FileTree.reporting {ε ε' α : Type} (f : ε → ε') (act : EStateM ε FileTree α) :
    EStateM ε' FileTree α := fun t =>
  match act t with
  | .ok a t => .ok a t
  | .error e t => .error (f e) t

/-- Whether an action on files writes credential files only, and does the same in trees that
agree. -/
structure FileTree.Steady {ε α : Type} (l : Layout) (act : EStateM ε FileTree α) : Prop where
  only : ∀ t, WritesOnly l.IsFile t (outcome act t).2
  same : ∀ t t', l.Agree t t' →
    (outcome act t').1 = (outcome act t).1 ∧ l.Agree (outcome act t).2 (outcome act t').2

namespace FileTree.Steady

open Layout

variable {ε α β : Type} {l : Layout}

protected theorem pure (a : α) : Steady l (pure a : EStateM ε FileTree α) :=
  ⟨fun t => .refl _ t, fun _ _ agree => ⟨rfl, agree⟩⟩

/-- What is done after something steady may depend on what that gave. -/
protected theorem bind {act : EStateM ε FileTree α} {f : α → EStateM ε FileTree β}
    (first : Steady l act) (second : ∀ a, Steady l (f a)) : Steady l (act >>= f) :=
  ⟨outcome_bind_leads (fun _ _ _ only only' => only.trans only') first.only
      fun a => (second a).only,
    fun _ _ agree => outcome_bind_alike first.same (fun a => (second a).same) agree⟩

/-- Writing a credential file. -/
theorem writeFile (u : UserId) (f : CredentialFile) (content : Bytes) :
    Steady l (FileTree.writeFile (l.file u f) content) := by
  have hne : (l.file u f).names ≠ [] := file_ne_nil u f
  refine ⟨fun t => ?_, fun t t' agree => ?_⟩
  · rcases writeFile_cases hne content t with ⟨t₁, written, replaced, -⟩ | ⟨fault, refused, -⟩
    · rw [outcome, written]
      exact (writesOnly_replace hne replaced).mono fun q here => ⟨u, f, here⟩
    · rw [outcome, refused]
      exact .refl _ t
  · have way : t'.blocked (l.file u f).names = t.blocked (l.file u f).names :=
      agree.blocked_eq (List.Subset.refl _)
    have spot := agree.at_file u f
    simp only [outcome, writeFile_eq]
    rcases done : t.replace (l.file u f).names content with fault | t₁
    · rcases done' : t'.replace (l.file u f).names content with fault' | t₁'
      · have dir : (l.file u f).names.dropLast = (l.userDir u).names := by
          rw [names_file, List.dropLast_concat]
        have above : (l.userDir u).names ∈ ancestors (l.file u f).names := by
          rw [names_file, ancestors_append_singleton]
          exact List.mem_append_right _ (List.mem_singleton.mpr rfl)
        have sub : ancestors (l.userDir u).names ⊆ ancestors (l.file u f).names := by
          rw [names_file, ancestors_append_singleton]
          exact List.subset_append_left _ _
        rw [replace_error done, replace_error done', dir, agree.blocked_eq sub, file?, file?,
          agree.at_above above]
        exact ⟨rfl, agree⟩
      · have free := (replace_eq_ok_iff hne).mp ⟨t₁', done'⟩
        rw [way, spot] at free
        obtain ⟨t₁, done₁⟩ : ∃ t₁, t.replace (l.file u f).names content = .ok t₁ :=
          (replace_eq_ok_iff hne).mpr free
        exact absurd (done.symm.trans done₁) (by simp)
    · have free := (replace_eq_ok_iff hne).mp ⟨t₁, done⟩
      rw [← way, ← spot] at free
      obtain ⟨t₁', done'⟩ : ∃ t₁', t'.replace (l.file u f).names content = .ok t₁' :=
        (replace_eq_ok_iff hne).mpr free
      rw [done']
      refine ⟨rfl, fun q database journal => ?_⟩
      rw [at_replace hne done, at_replace hne done', agree q database journal]

/-- How a fault is reported does not matter. -/
theorem reporting {ε' : Type} {act : EStateM ε FileTree α} (steady : Steady l act) (f : ε → ε') :
    Steady l (reporting f act) := by
  have unfolded (t : FileTree) : outcome (FileTree.reporting f act) t =
      ((outcome act t).1.mapError f, (outcome act t).2) := by
    simp only [outcome, FileTree.reporting]
    rcases act t with ⟨a, t⟩ | ⟨e, t⟩ <;> rfl
  refine ⟨fun t => ?_, fun t t' agree => ?_⟩
  · rw [unfolded]
    exact steady.only t
  · obtain ⟨result, agree'⟩ := steady.same t t' agree
    rw [unfolded, unfolded, result]
    exact ⟨rfl, agree'⟩

end FileTree.Steady

/-! ### Hashes and gestures -/

namespace HashFiles

theorem steady_set (h : HashFiles) (kind : CredentialKind) (hash : Bytes) (u : UserId)
    (v : GridVariant) : Steady h.layout (h.set kind hash u v) := by
  rcases kind with _ | _
  · have both : h.set .pattern hash u v = (do
        writeFile (h.path .pattern u v.other) []
        writeFile (h.path .pattern u v) hash) := by
      simp only [set, if_true]
    rw [both]
    exact .bind (.writeFile u _ []) fun _ => .writeFile u _ hash
  · rw [set_password]
    exact .writeFile u _ hash

theorem steady_movePattern (h : HashFiles) (u : UserId) (v w : GridVariant) :
    Steady h.layout (h.movePattern u v w) := by
  by_cases same : v = w
  · have nothing : h.movePattern u v w = pure () := by
      funext t
      rw [movePattern, if_pos same]
      rfl
    rw [nothing]
    exact .pure ()
  · have unread {t : FileTree} {fault : IoFault}
        (read : t.read (h.path .pattern u v).names = .error fault) :
        outcome (h.movePattern u v w) t =
          (if fault = .notFound then .ok () else .error fault, t) := by
      rw [outcome, movePattern, if_neg same, read]
      cases fault <;> rfl
    have empty {t : FileTree} (read : t.read (h.path .pattern u v).names = .ok []) :
        outcome (h.movePattern u v w) t = (.ok (), t) := by
      rw [outcome, movePattern, if_neg same, read]
    have moved {t : FileTree} {b : UInt8} {bs : Bytes}
        (read : t.read (h.path .pattern u v).names = .ok (b :: bs)) :
        outcome (h.movePattern u v w) t = outcome (h.set .pattern (b :: bs) u w) t := by
      rw [outcome, movePattern, if_neg same, read]
      rfl
    refine ⟨fun t => ?_, fun t t' agree => ?_⟩
    · rcases read : t.read (h.path .pattern u v).names with fault | _ | ⟨b, bs⟩
      · rw [unread read]
        exact .refl _ t
      · rw [empty read]
        exact .refl _ t
      · rw [moved read]
        exact (h.steady_set .pattern (b :: bs) u w).only t
    · have read' : t'.read (h.path .pattern u v).names = t.read (h.path .pattern u v).names := by
        rw [path, agree.read]
      rcases read : t.read (h.path .pattern u v).names with fault | _ | ⟨b, bs⟩
      · rw [unread read, unread (read'.trans read)]
        exact ⟨rfl, agree⟩
      · rw [empty read, empty (read'.trans read)]
        exact ⟨rfl, agree⟩
      · rw [moved read, moved (read'.trans read)]
        exact (h.steady_set .pattern (b :: bs) u w).same t t' agree

/-- Hashes are checked alike in trees that agree. -/
theorem check_of_agree {t t' : FileTree} (h : HashFiles) (agree : h.layout.Agree t t')
    (kind : CredentialKind) (candidate : Bytes) (u : UserId) (v : GridVariant) :
    h.check kind candidate u v t' = h.check kind candidate u v t := by
  rw [check, check, path, agree.read]

theorem holds_of_agree {t t' : FileTree} (h : HashFiles) (agree : h.layout.Agree t t')
    (kind : CredentialKind) (u : UserId) (v : GridVariant) :
    h.holds kind u v t' = h.holds kind u v t := by
  rw [holds, holds, holdsSomething, holdsSomething, path, agree.read]

end HashFiles

namespace GestureFiles

variable {t t' : FileTree}

theorem load_of_agree (g : GestureFiles) (agree : g.layout.Agree t t') (u : UserId) :
    GestureLibrary.load (g.path u) t' = GestureLibrary.load (g.path u) t := by
  rw [GestureLibrary.load, GestureLibrary.load, path, agree.read]

theorem check_of_agree (g : GestureFiles) (agree : g.layout.Agree t t') (r : Recognizer)
    (sample : Gesture) (u : UserId) : g.check r sample u t' = g.check r sample u t := by
  rw [check, check, g.load_of_agree agree]

theorem holds_of_agree (g : GestureFiles) (agree : g.layout.Agree t t') (u : UserId) :
    g.holds u t' = g.holds u t := by
  rw [holds, holds, holdsSomething, holdsSomething, path, agree.read]

theorem steady_set (g : GestureFiles) (sample : Gesture) (u : UserId) :
    Steady g.layout (g.set sample u) := by
  by_cases empty : sample.isEmpty
  · have nothing : g.set sample u = pure () := by
      funext t
      rw [set, if_pos empty]
      rfl
    rw [nothing]
    exact .pure ()
  · have unread {t : FileTree} {e : StoreError}
        (read : GestureLibrary.load (g.path u) t = .error e) :
        outcome (g.set sample u) t = (.error e, t) := by
      rw [outcome, set, if_neg empty, read]
    have loaded {t : FileTree} {l : GestureLibrary}
        (read : GestureLibrary.load (g.path u) t = .ok l) :
        outcome (g.set sample u) t = outcome (reporting StoreError.io
          (writeFile (g.layout.file u .gesture) (l.setLockGesture sample).bytes)) t := by
      rw [outcome, set, if_neg empty, read]
      simp only [GestureLibrary.save, outcome, reporting, path]
      rcases writeFile (g.layout.file u .gesture) (l.setLockGesture sample).bytes t with
        ⟨_, t⟩ | ⟨fault, t⟩ <;> rfl
    have saved (l : GestureLibrary) :=
      (Steady.writeFile (l := g.layout) u .gesture (l.setLockGesture sample).bytes).reporting
        StoreError.io
    refine ⟨fun t => ?_, fun t t' agree => ?_⟩
    · rcases read : GestureLibrary.load (g.path u) t with e | l
      · rw [unread read]
        exact .refl _ t
      · rw [loaded read]
        exact (saved l).only t
    · have read' := g.load_of_agree agree u
      rcases read : GestureLibrary.load (g.path u) t with e | l
      · rw [unread read, unread (read'.trans read)]
        exact ⟨rfl, agree⟩
      · rw [loaded read, loaded (read'.trans read)]
        exact (saved l).same t t' agree

end GestureFiles

/-- Removing all files of a user is steady. -/
theorem steady_removeFiles (h : HashFiles) (g : GestureFiles) (same : g.layout = h.layout)
    (u : UserId) :
    Steady h.layout (fun t => .ok () (g.remove u (h.removeAll u t)) : FileAction Unit) := by
  have removed (t : FileTree) (f : CredentialFile) :
      WritesOnly h.layout.IsFile t (t.remove (h.layout.file u f).names) :=
    (writesOnly_remove t _).mono fun q here => ⟨u, f, here⟩
  refine ⟨fun t => ?_, fun t t' agree => ⟨rfl, ?_⟩⟩
  · simp only [outcome, GestureFiles.remove, GestureFiles.path, same, HashFiles.removeAll,
      HashFiles.path, List.foldl_cons, List.foldl_nil]
    exact (((removed t _).trans (removed _ _)).trans (removed _ _)).trans (removed _ _)
  · simp only [outcome, GestureFiles.remove, GestureFiles.path, same, HashFiles.removeAll,
      HashFiles.path, List.foldl_cons, List.foldl_nil]
    exact (((agree.remove u _).remove u _).remove u _).remove u _

/-! ### Stores -/

namespace Store

/-- Whether a store is another one after something that concerned its database, its credential
files and its locks only. -/
structure Leaves (s s' : Store) : Prop where
  config : s'.config = s.config
  recognizer : s'.recognizer = s.recognizer
  connection : s'.toConnection = { s.toConnection with database := s'.database }
  files : WritesOnly s.layout.IsFile s.files s'.files

namespace Leaves

variable {s s' s'' : Store}

protected theorem refl (s : Store) : Leaves s s := ⟨rfl, rfl, rfl, .refl _ _⟩

theorem layout (h : Leaves s s') : s'.layout = s.layout := by
  rw [Store.layout, h.config]
  rfl

protected theorem trans (h : Leaves s s') (h' : Leaves s' s'') : Leaves s s'' := by
  refine ⟨h'.config.trans h.config, h'.recognizer.trans h.recognizer, ?_, ?_⟩
  · rw [h'.connection, h.connection]
  · exact h.files.trans (h.layout ▸ h'.files)

end Leaves

/-- Whether two stores differ in their locks, and in the places and the state of their journals,
at most. -/
structure Twin (s s' : Store) : Prop where
  config : s'.config = s.config
  recognizer : s'.recognizer = s.recognizer
  database : s'.database = s.database
  files : s.layout.Agree s.files s'.files

namespace Twin

variable {s s' : Store}

protected theorem refl (s : Store) : Twin s s := ⟨rfl, rfl, rfl, .refl _ _⟩

theorem layout (twin : Twin s s') : s'.layout = s.layout := by
  rw [Store.layout, twin.config]
  rfl

protected theorem trans {s'' : Store} (twin : Twin s s') (twin' : Twin s' s'') : Twin s s'' :=
  ⟨twin'.config.trans twin.config, twin'.recognizer.trans twin.recognizer,
    twin'.database.trans twin.database, twin.files.trans (twin.layout ▸ twin'.files)⟩

theorem hashes (twin : Twin s s') : s'.hashes = s.hashes := by
  rw [Store.hashes, twin.layout, twin.config]
  rfl

theorem gestures (twin : Twin s s') : s'.gestures = s.gestures := by
  rw [Store.gestures, twin.layout, twin.config]
  rfl

theorem variant (twin : Twin s s') (u : UserId) : s'.variant u = s.variant u := by
  rw [Store.variant, twin.database]
  rfl

/-- Twins hold the same. -/
theorem holdings (twin : Twin s s') : s'.holdings = s.holdings := by
  rw [Store.holdings, Store.holdings, twin.database, twin.layout,
    Layout.contents_congr fun q database journal => twin.files q database journal]

end Twin

/-- Whether an action leaves alone whatever is no credential file and not in the database, and does
the same to twins. -/
structure Steady {α : Type} (act : StoreAction α) : Prop where
  leaves : ∀ s, Leaves s (outcome act s).2
  same : ∀ s s', Twin s s' →
    (outcome act s').1 = (outcome act s).1 ∧ Twin (outcome act s).2 (outcome act s').2

namespace Steady

variable {α β : Type}

protected theorem pure (a : α) : Steady (pure a : StoreAction α) :=
  ⟨fun s => .refl s, fun _ _ twin => ⟨rfl, twin⟩⟩

protected theorem throw (e : StoreError) : Steady (throw e : StoreAction α) :=
  ⟨fun s => .refl s, fun _ _ twin => ⟨rfl, twin⟩⟩

/-- Steady actions can be done in sequence. -/
protected theorem bind {act : StoreAction α} {f : α → StoreAction β} (first : Steady act)
    (second : ∀ a, Steady (f a)) : Steady (act >>= f) :=
  ⟨outcome_bind_leads (fun _ _ _ leaves leaves' => leaves.trans leaves') first.leaves
      fun a => (second a).leaves,
    fun _ _ twin => outcome_bind_alike first.same (fun a => (second a).same) twin⟩

/-- Locks are no part of what makes twins. -/
theorem withLocks {act : StoreAction α} (steady : Steady act) (locks : List Lock) :
    Steady (Store.withLocks locks act) := by
  refine ⟨fun s => ?_, fun s s' twin => ?_⟩
  · rw [outcome_withLocks]
    have taken := steady.leaves { s with locks := s.locks.acquireAll locks }
    exact ⟨taken.config, taken.recognizer, taken.connection, taken.files⟩
  · rw [outcome_withLocks, outcome_withLocks]
    obtain ⟨result, twin'⟩ := steady.same { s with locks := s.locks.acquireAll locks }
      { s' with locks := s'.locks.acquireAll locks }
      ⟨twin.config, twin.recognizer, twin.database, twin.files⟩
    exact ⟨result, ⟨twin'.config, twin'.recognizer, twin'.database, twin'.files⟩⟩

/-- Looking at a store. -/
theorem reading {f : Store → Except StoreError α} (same : ∀ s s', Twin s s' → f s' = f s) :
    Steady (Store.reading f) := by
  refine ⟨fun s => ?_, fun s s' twin => ?_⟩
  · simp only [outcome, Store.reading]
    rcases f s with e | a <;> exact .refl s
  · simp only [outcome, Store.reading, same s s' twin]
    rcases f s with e | a <;> exact ⟨rfl, twin⟩

theorem asking (f : Database → Except DatabaseFault α) : Steady (Store.asking f) :=
  reading fun s s' twin => by rw [twin.database]

theorem commit (cs : List Change) : Steady (Store.commit cs) := by
  refine ⟨fun s => ?_, fun s s' twin => ?_⟩
  · simp only [outcome, Store.commit]
    rcases s.database.commit cs with ⟨_ | _, db⟩ <;> exact ⟨rfl, rfl, rfl, .refl _ _⟩
  · simp only [outcome, Store.commit, twin.database]
    rcases s.database.commit cs with ⟨_ | _, db⟩ <;>
      exact ⟨rfl, twin.config, twin.recognizer, rfl, twin.files⟩

/-- A steady action on the files of a store, which twins do alike. -/
theorem files {ε : Type} {act : StoreAction α} (f : ε → StoreError)
    (inner : Store → EStateM ε FileTree α)
    (unfolded : ∀ s, outcome act s = ((outcome (inner s) s.files).1.mapError f,
      { s with files := (outcome (inner s) s.files).2 }))
    (steady : ∀ s, FileTree.Steady s.layout (inner s))
    (same : ∀ s s', Twin s s' → inner s' = inner s) : Steady act := by
  refine ⟨fun s => ?_, fun s s' twin => ?_⟩
  · rw [unfolded]
    exact ⟨rfl, rfl, rfl, (steady s).only s.files⟩
  · obtain ⟨result, agree⟩ := (steady s).same s.files s'.files twin.files
    rw [unfolded, unfolded, same s s' twin, result]
    exact ⟨rfl, twin.config, twin.recognizer, twin.database, agree⟩

theorem onFiles (inner : Store → FileAction α) (steady : ∀ s, FileTree.Steady s.layout (inner s))
    (same : ∀ s s', Twin s s' → inner s' = inner s) :
    Steady fun s => Store.onFiles (inner s) s := by
  refine files .io inner (fun s => ?_) steady same
  simp only [outcome, Store.onFiles]
  rcases inner s s.files with ⟨a, t⟩ | ⟨fault, t⟩ <;> rfl

/-! ### The actions of the store -/

theorem writePatternSize (value : SettingValue) (u : UserId) :
    Steady (Store.writePatternSize value u) := by
  have variant : Steady (Store.reading fun s => .ok (s.variant u)) :=
    reading fun s s' twin => by rw [twin.variant]
  refine withLocks (.bind variant fun before => .bind (commit _) fun _ =>
    .bind variant fun after => ?_) _
  have moved : Steady fun s => Store.onFiles (s.hashes.movePattern u before after) s :=
    onFiles _ (fun s => s.hashes.steady_movePattern u before after) fun s s' twin => by
      rw [twin.hashes]
  exact moved

theorem writeSetting (key : String) (value : SettingValue) (u : UserId) :
    Steady (Store.writeSetting key value u) := by
  rw [Store.writeSetting]
  split
  · exact writePatternSize value u
  · exact commit _

theorem setHash (kind : CredentialKind) (hash : Bytes) (u : UserId) :
    Steady (Store.setHash kind hash u) := by
  refine withLocks ?_ _
  exact onFiles (fun s => s.hashes.set kind hash u (s.variant u))
    (fun s => s.hashes.steady_set kind hash u _) fun s s' twin => by
      rw [twin.hashes, twin.variant]

theorem checkHash (kind : CredentialKind) (hash : Bytes) (u : UserId) :
    Steady (Store.checkHash kind hash u) :=
  withLocks (reading fun s s' twin => by
    rw [twin.hashes, twin.variant, s.hashes.check_of_agree twin.files]) _

theorem setGesture (sample : Gesture) (u : UserId) : Steady (Store.setGesture sample u) := by
  refine withLocks (files id (fun s => s.gestures.set sample u) (fun s => ?_)
    (fun s => s.gestures.steady_set sample u) fun s s' twin => by rw [twin.gestures]) _
  simp only [outcome]
  rcases s.gestures.set sample u s.files with ⟨a, t⟩ | ⟨e, t⟩ <;> rfl

theorem checkGesture (sample : Gesture) (u : UserId) : Steady (Store.checkGesture sample u) :=
  withLocks (reading fun s s' twin => by
    rw [twin.gestures, twin.recognizer, s.gestures.check_of_agree twin.files]) _

theorem removeUser (u : UserId) : Steady (Store.removeUser u) := by
  have removed : Steady (Store.removeFiles u) :=
    files .io (fun s t => .ok () (s.gestures.remove u (s.hashes.removeAll u t)))
      (fun s => by simp only [outcome, Store.removeFiles]; rfl)
      (fun s => steady_removeFiles s.hashes s.gestures rfl u) fun s s' twin => by
        rw [twin.gestures, twin.hashes]
  have forgotten : Steady (Store.forgetUser u) :=
    ⟨fun s => ⟨rfl, rfl, rfl, .refl _ _⟩, fun s s' twin =>
      ⟨rfl, twin.config, twin.recognizer, twin.database, twin.files⟩⟩
  exact .bind (withLocks (.bind removed fun _ => commit _) _) fun _ => forgotten

theorem importLegacy (source : LegacySource) : Steady (Store.importLegacy source) := by
  refine ⟨fun s => ⟨rfl, rfl, rfl, .refl _ _⟩, fun s s' twin => ?_⟩
  have unfolded (s : Store) : outcome (Store.importLegacy source) s =
      (.ok (s.database.importLegacy source).1,
        { s with database := (s.database.importLegacy source).2 }) := rfl
  rw [unfolded, unfolded, twin.database]
  exact ⟨rfl, twin.config, twin.recognizer, rfl, twin.files⟩

theorem patternSize (u : UserId) :
    Steady (Store.reading fun s => .ok (Answer.size (s.patternSize u))) :=
  reading fun s s' twin => by
    rw [Store.patternSize, Store.patternSize, twin.database]

theorem haveHash (kind : CredentialKind) (u : UserId) :
    Steady (Store.reading fun s => .ok (Answer.boolean (s.haveHash kind u))) :=
  reading fun s s' twin => by
    rw [Store.haveHash, Store.haveHash, twin.hashes, twin.variant,
      s.hashes.holds_of_agree twin.files]

theorem haveGesture (u : UserId) :
    Steady (Store.reading fun s => .ok (Answer.boolean (s.gestures.holds u s.files))) :=
  reading fun s s' twin => by
    rw [twin.gestures, s.gestures.holds_of_agree twin.files]

/-! ### Calls -/

theorem answer (call : Call) : Steady (Store.answer call) := by
  cases call with
  | setBoolean key value u => exact .bind (writeSetting key _ u) fun _ => .pure _
  | setLong key value u => exact .bind (writeSetting key _ u) fun _ => .pure _
  | setString key value u => exact .bind (writeSetting key _ u) fun _ => .pure _
  | getBoolean key default u =>
    exact asking fun db => (db.getBoolean key default u).map Answer.boolean
  | getLong key default u => exact asking fun db => (db.getLong key default u).map Answer.long
  | getString key default u => exact asking fun db => (db.getString key default u).map Answer.text
  | getLockPatternSize u => exact patternSize u
  | setLockPattern hash u => exact .bind (setHash .pattern hash u) fun _ => .pure _
  | checkPattern hash u => exact .bind (checkHash .pattern hash u) fun _ => .pure _
  | setLockPassword hash u => exact .bind (setHash .password hash u) fun _ => .pure _
  | checkPassword hash u => exact .bind (checkHash .password hash u) fun _ => .pure _
  | setLockGesture sample u => exact .bind (setGesture sample u) fun _ => .pure _
  | checkGesture sample u => exact .bind (checkGesture sample u) fun _ => .pure _
  | havePassword u => exact haveHash .password u
  | havePattern u => exact haveHash .pattern u
  | haveGesture u => exact haveGesture u
  | removeUser u => exact .bind (removeUser u) fun _ => .pure _
  | systemReady source => exact .bind (importLegacy source) fun _ => .pure _

/-- **Every call is steady**, whoever makes it. -/
theorem perform (caller : Caller) (call : Call) : Steady (Store.perform caller call) := by
  rw [Store.perform]
  split
  · exact answer call
  · exact .throw _

end Steady

end Store

end Keyguard
