import Keyguard.Proofs.Store.Holdings

/-!
# Where a pattern is

A pattern's hash is **at** a variant if the file of that variant has it and the file of the other
one has nothing (`Contents.PatternAt`). Storing puts the hash at the variant given
(`patternAt_store`), and moving takes it from one variant to the other
(`PatternAt.movePattern`). Neither touches another user or the password.

The variant in force is read from one setting of the user (`Database.variant_congr`), and it is
the standard one while that setting is missing or there is no settings table.
-/

namespace Keyguard

/-! ### The files -/

namespace Contents

variable {c c' : Contents} {u w : UserId} {v : GridVariant} {hash : Bytes}

theorem bytes_put (c : Contents) (u w : UserId) (f g : CredentialFile) (x : Option Bytes) :
    (c.put u f x).bytes w g = if w = u ∧ g = f then x.getD [] else c.bytes w g := by
  rw [bytes, put]
  split <;> rfl

/-- Whether a pattern's hash is in the file of one variant and nothing in that of the other. -/
def PatternAt (c : Contents) (u : UserId) (v : GridVariant) (hash : Bytes) : Prop :=
  c.bytes u (.pattern v) = hash ∧ c.bytes u (.pattern v.other) = []

theorem PatternAt.congr (h : c.PatternAt u v hash)
    (same : ∀ v, c'.bytes u (.pattern v) = c.bytes u (.pattern v)) : c'.PatternAt u v hash :=
  ⟨(same v).trans h.1, (same v.other).trans h.2⟩

theorem other_ne (v : GridVariant) : v.other ≠ v := by cases v <;> simp [GridVariant.other]

theorem other_other (v : GridVariant) : v.other.other = v := by cases v <;> rfl

/-- The other one of two variants. -/
theorem eq_other_of_ne {v v' : GridVariant} (h : v' ≠ v) : v' = v.other := by
  cases v <;> cases v' <;> simp [GridVariant.other] at h ⊢

/-- A stored pattern is at its variant. -/
theorem patternAt_store (c : Contents) (u : UserId) (v : GridVariant) (hash : Bytes) :
    (c.store .pattern hash u v).PatternAt u v hash := by
  constructor
  · rw [store, bytes_put, if_pos ⟨rfl, rfl⟩]
    rfl
  · rw [store, bytes_put, if_neg (by simp [other_ne]), bytes_put, if_pos ⟨rfl, rfl⟩]
    rfl

/-- A moved pattern is at the variant that it was moved to. -/
theorem PatternAt.movePattern (h : c.PatternAt u v hash) (v' : GridVariant) :
    (c.movePattern u v v').PatternAt u v' hash := by
  rw [Contents.movePattern, h.1]
  split
  · rename_i none
    by_cases same : v = v'
    · exact same ▸ h
    · have empty : hash = [] := none.resolve_left same
      rw [eq_other_of_ne fun e => same e.symm, empty]
      exact ⟨h.2, by rw [other_other, h.1, empty]⟩
  · exact patternAt_store c u v' hash

/-- Storing a pattern leaves passwords and other users alone. -/
theorem bytes_store_pattern {f : CredentialFile} (h : w ≠ u ∨ f = .password) :
    (c.store .pattern hash u v).bytes w f = c.bytes w f := by
  have other (v : GridVariant) : ¬(w = u ∧ f = .pattern v) := by
    rintro ⟨e, rfl⟩
    exact h.elim (· e) (by simp)
  rw [store, bytes_put, if_neg (other _), bytes_put, if_neg (other _)]

theorem bytes_store_password {f : CredentialFile} :
    (c.store .password hash u v).bytes w f =
      if w = u ∧ f = .password then hash else c.bytes w f := by
  rw [store, bytes_put]
  rfl

theorem bytes_movePattern {v' : GridVariant} {f : CredentialFile} (h : w ≠ u ∨ f = .password) :
    (c.movePattern u v v').bytes w f = c.bytes w f := by
  rw [Contents.movePattern]
  split
  · rfl
  · exact bytes_store_pattern h

theorem bytes_removeUser (f : CredentialFile) :
    (c.removeUser u).bytes w f = if w = u then [] else c.bytes w f := by
  rw [bytes, removeUser]
  split <;> rfl

/-- Setting a gesture changes no hash. -/
theorem bytes_setGesture {sample : Gesture} {f : CredentialFile}
    (h : c.setGesture sample u = .ok c') (hf : f ≠ .gesture) : c'.bytes w f = c.bytes w f := by
  rw [setGesture] at h
  split at h
  · rw [Except.ok.inj h]
  · cases hl : c.library u with
    | error e => simp [hl, Except.map] at h
    | ok l =>
      rw [hl] at h
      rw [← Except.ok.inj h, bytes_put, if_neg fun e => hf e.2]

end Contents

/-! ### The variant in force -/

namespace Database

variable {db db' : Database} {user : UserId}

theorem variant_congr (h : db'.cells? patternSizeKey user = db.cells? patternSizeKey user) :
    db'.variant user = db.variant user := by
  rw [variant, variant, patternSize, patternSize, getLong_congr h]

theorem variant_of_no_table (h : db.settings = none) : db.variant user = .standard := by
  rw [variant, patternSize, getLong, readText_eq, cells?, h]
  rfl

theorem variant_of_no_cells (h : db.cells? patternSizeKey user = some []) :
    db.variant user = .standard := by
  rw [variant, patternSize, getLong, readText_eq, h]
  rfl

/-- Changes of other settings do not change the variant. -/
private theorem variant_commit {cs : List Change}
    (others : ∀ c ∈ cs, ∀ cells, c.onCells patternSizeKey user cells = cells) :
    (db.commit cs).2.variant user = db.variant user := by
  refine variant_congr ?_
  rw [cells?_commit]
  cases db.cells? patternSizeKey user with
  | none => rfl
  | some cells => exact congrArg some (foldl_onCells_of_forall others cells)

/-- Writing another setting does not change the variant. -/
theorem variant_write {key text : String} {u : UserId} (other : patternSizeKey ≠ key ∨ user ≠ u) :
    (db.commit [.write key u text]).2.variant user = db.variant user := by
  refine variant_commit fun c hc cells => ?_
  rw [List.mem_singleton.mp hc]
  exact Change.onCells_write_of_ne other text cells

/-- Deleting the rows of another user does not change the variant. -/
theorem variant_deleteUser {u : UserId} (other : user ≠ u) :
    (db.commit [.deleteUser u]).2.variant user = db.variant user := by
  refine variant_commit fun c hc cells => ?_
  rw [List.mem_singleton.mp hc]
  exact Change.onCells_deleteUser_of_ne other patternSizeKey cells

/-- The import does not write the size of a pattern grid. -/
theorem variant_importLegacy (source : LegacySource) :
    (db.importLegacy source).2.variant user = db.variant user := by
  rcases db.importLegacy_cases source with ⟨o, -, h⟩ | ⟨found, collected, -, h⟩
  · rw [h]
  · have foreign : patternSizeKey ≠ importedKey ∧ patternSizeKey ∉ legacyKeys := by decide
    rw [h]
    refine variant_congr ?_
    rw [cells?_importChanges collected, LegacySource.given?, if_neg foreign.1, if_neg foreign.2]
    simp

/-- Whether the settings table was there and is gone for good. -/
def Lost (db : Database) : Prop := db.settings = none ∧ db.version = schemaVersion

theorem lost_commit {cs : List Change} : (db.commit cs).2.Lost ↔ db.Lost := by
  rw [Lost, settings_commit_eq_none, version_congr (versions_commit db cs), Lost]

theorem lost_importLegacy {source : LegacySource} :
    (db.importLegacy source).2.Lost ↔ db.Lost := by
  rw [Lost, settings_importLegacy_eq_none, version_congr (versions_importLegacy db source), Lost]

end Database

end Keyguard
