import Keyguard.Proofs.Files.Trail
import Keyguard.Settings.Legacy

/-!
# What an export is read from

A legacy export may be named by any path, so by that of a settings database or its journal as well.
Neither is JSON, whatever is in it (`Database.json_ofBytes?_bytes`). So in two trees that differ
in databases and journals only, every path leads to the same export or to none
(`LegacyExport.load_congr`).
-/

namespace Keyguard

open FileTree

/-! ### Databases are no JSON -/

/-- The file of a database is no JSON text. -/
theorem Database.json_ofBytes?_bytes (db : Database) : Json.ofBytes? db.bytes = none := by
  obtain ⟨rest, begins⟩ : ∃ rest, db.bytes = 0x4b :: rest := by
    have first : Database.mark.head? = some 0x4b := by decide +kernel
    obtain ⟨rest, mark⟩ := List.head?_eq_some_iff.mp first
    exact ⟨rest ++ db.toJson.bytes, by rw [Database.bytes, mark, List.cons_append]⟩
  -- a text that begins like this is not even a token
  have unread : Json.Token.ofBytes? (0x4b :: rest) = none := by
    have kept : (0x4b :: rest).dropWhile Json.Token.isSpace = 0x4b :: rest := rfl
    have scanned : Json.Token.scan (0x4b :: rest) = none := rfl
    rw [Json.Token.ofBytes?]
    split
    · rename_i empty
      exact absurd (kept.symm.trans empty) (by simp)
    · rename_i y ys same
      obtain ⟨rfl, rfl⟩ := List.cons.inj (kept.symm.trans same)
      split
      · rfl
      · rename_i found
        exact absurd (scanned.symm.trans found) (by simp)
  rw [Json.ofBytes?, begins, unread]
  rfl

/-- Whether a node is a settings database or the journal of one. -/
def Node.IsStored : Node → Prop
  | .database _ | .journal _ => True
  | .file _ | .directory => False

/-- A node of a database is a file, and no export. -/
theorem Node.IsStored.content {n : Node} (stored : n.IsStored) (p : Path) :
    ∃ content, n.content? = some content ∧
      LegacyExport.ofBytes p content = .error .serialization := by
  have database (db : Database) : LegacyExport.ofBytes p db.bytes = .error .serialization := by
    rw [LegacyExport.ofBytes, db.json_ofBytes?_bytes]
  rcases n with content | _ | db | whole
  · exact absurd stored id
  · exact absurd stored id
  · exact ⟨db.bytes, rfl, database db⟩
  · rcases whole with _ | db
    · have nothing : Json.ofBytes? [] = none := by
        simp [Json.ofBytes?, Json.Token.ofBytes?, Json.ofTokens?, Json.build]
      exact ⟨[], rfl, by rw [LegacyExport.ofBytes, nothing]⟩
    · exact ⟨db.bytes, rfl, database db⟩

/-! ### Trees that differ in databases only -/

/-- Whether two trees differ at most in what their databases and journals are. -/
def FileTree.SameButStored (t t' : FileTree) : Prop :=
  ∀ q, t'.at? q = t.at? q ∨
    ∃ n n', t.at? q = some n ∧ t'.at? q = some n' ∧ n.IsStored ∧ n'.IsStored

namespace FileTree.SameButStored

variable {t t' : FileTree}

theorem isSome_file? (same : SameButStored t t') (q : Place) :
    (t'.file? q).isSome = (t.file? q).isSome := by
  rcases same q with e | ⟨n, n', found, found', stored, stored'⟩
  · rw [file?, file?, e]
  · obtain ⟨content, holds, -⟩ := stored.content ⟨""⟩
    obtain ⟨content', holds', -⟩ := stored'.content ⟨""⟩
    rw [file?, file?, found, found', Option.bind_some, Option.bind_some, holds, holds']
    rfl

theorem follow_eq (same : SameButStored t t') (p : Path) : t'.follow p = t.follow p := by
  have step : t'.step = t.step := by
    funext place segment
    rcases same place with e | ⟨n, n', found, found', stored, stored'⟩
    · rw [FileTree.step, FileTree.step, e]
    · rw [FileTree.step, FileTree.step, found, found']
      rcases n <;> rcases n' <;> first | rfl | exact absurd stored id | exact absurd stored' id
  have walks : t'.walk = t.walk := by
    funext place segments
    rw [walk, walk, step]
  rw [follow, follow, walks]

end FileTree.SameButStored

/-- **A path leads to the same export** in trees that differ in databases and journals only, or to
none with the same error. -/
theorem LegacyExport.load_congr {t t' : FileTree} (same : SameButStored t t') (p : Path) :
    LegacyExport.load p t' = LegacyExport.load p t := by
  rw [load, load, readAt, readAt, same.follow_eq]
  rcases t.follow p with fault | place
  · rfl
  · have way : t'.blocked place = t.blocked place := by
      rw [blocked, blocked, funext same.isSome_file?]
    simp only [bind, Except.bind, FileTree.read, way]
    rcases t.blocked place
    · rcases same place with e | ⟨n, n', found, found', stored, stored'⟩
      · rw [e]
      · obtain ⟨content, holds, unread⟩ := stored.content p
        obtain ⟨content', holds', unread'⟩ := stored'.content p
        simp only [found, found', holds, holds', Bool.false_eq_true, if_false]
        rw [unread, unread']
    · rfl

end Keyguard
