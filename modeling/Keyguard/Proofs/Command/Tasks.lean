import Keyguard.Command.Run
import Keyguard.Proofs.Credential.Ledger

/-!
# Tasks as calls of a service

What the command line does can be said without a command line. A task asks for some calls
(`Task.request`), unless a hash in it cannot be decoded or the legacy export that it names cannot
be read, and what is printed is a function of the answers (`Task.summary`). So a **service**, a
session that is open for the system, can do tasks as well (`Session.serve`). A task on an open
store reports what a service reports that has this store, and leaves the store that the service
has then (`Task.conclude_perform`).
-/

namespace Keyguard

namespace Task

/-- The bytes of a hash. -/
def decoded (text : String) : Except TaskFault Bytes :=
  match Hex.decode? text.toList with
  | some hash => .ok hash
  | none => .error (.invalidHash text)

/-- The legacy settings that an import copies, by the files there are. -/
def legacy (files : FileTree) : Option Path → Except TaskFault LegacySource
  | none => .ok (.ofMap .empty)
  | some p =>
    match LegacyExport.load p files with
    | .ok x => .ok (.ofExport x)
    | .error e => .error (.readingExport p e)

/-- The calls that a task asks for. -/
def request (files : FileTree) : Task → Except TaskFault (List Call)
  | .get key u => .ok [.getString key none u]
  | .set key value u => .ok [.setString key value u]
  | .setPattern text u => (decoded text).map fun hash => [.setLockPattern hash u]
  | .checkPattern text u => (decoded text).map fun hash => [.checkPattern hash u]
  | .setPassword text u => (decoded text).map fun hash => [.setLockPassword hash u]
  | .checkPassword text u => (decoded text).map fun hash => [.checkPassword hash u]
  | .status u => .ok [.getLockPatternSize u, .havePassword u, .havePattern u, .haveGesture u]
  | .removeUser u => .ok [.removeUser u]
  | .migrate p => (legacy files p).map fun source => [.systemReady source]

/-- The hash that a task is given, as it is typed. -/
def hash? : Task → Option String
  | .setPattern text _ | .checkPattern text _ => some text
  | .setPassword text _ | .checkPassword text _ => some text
  | _ => none

/-- The report of a task by the answers to its calls. -/
def summary : Task → List Answer → Report
  | .get .., [.text (some value)] => ⟨[value], none⟩
  | .checkPattern .., [.boolean true] => ⟨["Pattern matches"], none⟩
  | .checkPattern .., _ => ⟨[], some (.mismatch .pattern)⟩
  | .checkPassword .., [.boolean true] => ⟨["Password matches"], none⟩
  | .checkPassword .., _ => ⟨[], some (.mismatch .password)⟩
  | .status u, [.size n, .boolean password, .boolean pattern, .boolean gesture] =>
    ⟨["user:         " ++ u.text,
      "pattern size: " ++ Digits.text (Digits.ofNat n),
      "password:     " ++ boolText password,
      "pattern:      " ++ boolText pattern,
      "gesture:      " ++ boolText gesture], none⟩
  | .migrate _, [.outcome .failed] => ⟨[], some .importFailed⟩
  | _, _ => ⟨[], none⟩

end Task

/-- The task that compares a candidate with a user's hash. -/
def CredentialKind.checkTask (kind : CredentialKind) (candidate : String) (u : UserId) : Task :=
  match kind with
  | .pattern => .checkPattern candidate u
  | .password => .checkPassword candidate u

namespace Session

/-- The answers in some replies, or the first error among them. -/
def answers : List Reply → Except StoreError (List Answer)
  | [] => .ok []
  | some (.error e) :: _ => .error e
  | some (.ok a) :: replies => (answers replies).map (a :: ·)
  | none :: replies => answers replies

/-- Makes the calls of a task as the system, if there are any, and reports. -/
def respond (s : Session) (task : Task) : Except TaskFault (List Call) → Report × Session
  | .error fault => (⟨[], some fault⟩, s)
  | .ok calls =>
    let (replies, s) := s.run (calls.map (.calling .system))
    match answers replies with
    | .error e => (⟨[], some (.store e)⟩, s)
    | .ok found => (task.summary found, s)

/-- Does a task on a session that is kept open. -/
def serve (s : Session) (task : Task) : Report × Session :=
  s.respond task (task.request s.files)

/-- Does some tasks in order. -/
def serveAll (s : Session) : List Task → List Report × Session
  | [] => ([], s)
  | task :: tasks =>
    let (report, s) := s.serve task
    let (reports, s) := s.serveAll tasks
    (report :: reports, s)

theorem serveAll_append (s : Session) (tasks tasks' : List Task) :
    s.serveAll (tasks ++ tasks') =
      ((s.serveAll tasks).1 ++ ((s.serveAll tasks).2.serveAll tasks').1,
        ((s.serveAll tasks).2.serveAll tasks').2) := by
  induction tasks generalizing s with
  | nil => rfl
  | cons task tasks ih => simp only [List.cons_append, serveAll, ih]

end Session

namespace Task

/-- What an action on a store reports, and the session with the store that it leaves. -/
def conclude (act : TaskAction (List String)) (s : Store) : Report × Session :=
  match act s with
  | .ok lines s => (⟨lines, none⟩, .opened s)
  | .error fault s => (⟨[], some fault⟩, .opened s)

variable {task : Task} {call : Call} {s : Store}

/-- A task with a hash that cannot be decoded asks for no calls. -/
theorem request_of_hash {text : String} (given : task.hash? = some text)
    (undecoded : Hex.decode? text.toList = none) (files : FileTree) :
    task.request files = .error (.invalidHash text) := by
  have none : decoded text = .error (.invalidHash text) := by
    rw [decoded, undecoded]
  cases task with
  | setPattern _ _ | checkPattern _ _ | setPassword _ _ | checkPassword _ _ =>
    obtain rfl := Option.some.inj given
    rw [request, none]
    rfl
  | _ => exact absurd given nofun

/-- A task with a legacy export that cannot be read asks for no calls. -/
theorem request_of_legacy {p : Path} {cause : StoreError} {files : FileTree}
    (unread : LegacyExport.load p files = .error cause) :
    (Task.migrate (some p)).request files = .error (.readingExport p cause) := by
  rw [request, legacy, unread]
  rfl

/-- A single call is answered by the store. -/
theorem respond_call (task : Task) (s : Store) (call : Call) :
    (Session.opened s).respond task (.ok [call]) =
      match Store.perform .system call s with
      | .ok a s => (task.summary [a], .opened s)
      | .error e s => (⟨[], some (.store e)⟩, .opened s) := by
  simp only [Session.respond, List.map_cons, List.map_nil, Session.run, Session.handle]
  rcases Store.perform .system call s with ⟨a, s⟩ | ⟨e, s⟩ <;> rfl

/-- Making a call without a word. -/
private theorem conclude_tell (silent : ∀ a, task.summary [a] = ⟨[], none⟩) :
    conclude (tell call) s = (Session.opened s).respond task (.ok [call]) := by
  rw [respond_call, conclude]
  simp only [tell, ask, bind, EStateM.bind]
  rcases Store.perform .system call s with ⟨a, s⟩ | ⟨e, s⟩
  · exact congrArg (·, Session.opened s) (silent a).symm
  · rfl

/-- Making a call and saying whether a hash matched. -/
private theorem conclude_match {kind : CredentialKind}
    (said : ∀ a, task.summary [a] = if a = .boolean true then ⟨[kind.title ++ " matches"], none⟩
      else ⟨[], some (.mismatch kind)⟩) :
    conclude (do reportMatch kind (← ask call)) s =
      (Session.opened s).respond task (.ok [call]) := by
  rw [respond_call, conclude]
  simp only [ask, bind, EStateM.bind]
  rcases Store.perform .system call s with ⟨a, s⟩ | ⟨e, s⟩
  · have reported := congrArg (·, Session.opened s) (said a).symm
    rcases a with _ | (_ | _) | _ | _ | _ | _ <;> exact reported
  · rfl

/-- Decoding a hash before anything else. -/
private theorem conclude_decode {text : String} {next : Bytes → TaskAction (List String)}
    {calls : Bytes → List Call}
    (does : ∀ hash, conclude (next hash) s = (Session.opened s).respond task (.ok (calls hash))) :
    conclude (decodeHash text >>= next) s =
      (Session.opened s).respond task ((decoded text).map calls) := by
  rw [decoded, decodeHash]
  rcases Hex.decode? text.toList with _ | hash
  · rfl
  · exact does hash

/-- Reading a legacy export before anything else. -/
private theorem conclude_legacy {p : Option Path} {next : LegacySource → TaskAction (List String)}
    {calls : LegacySource → List Call}
    (does : ∀ source, conclude (next source) s =
      (Session.opened s).respond task (.ok (calls source))) :
    conclude (legacySource p >>= next) s =
      (Session.opened s).respond task ((legacy s.files p).map calls) := by
  rcases p with _ | p
  · exact does _
  · rw [legacy, conclude]
    simp only [legacySource, bind, EStateM.bind]
    rcases LegacyExport.load p s.files with e | x
    · rfl
    · exact does _

/-- **A task is what a service does.** On any store it reports what a session with this store
reports, and leaves the store that the session has then. -/
theorem conclude_perform (task : Task) (s : Store) :
    conclude task.perform s = (Session.opened s).respond task (task.request s.files) := by
  cases task with
  | get key u =>
    rw [request, respond_call, conclude]
    simp only [perform, ask, bind, EStateM.bind]
    rcases Store.perform .system (.getString key none u) s with ⟨a, s⟩ | ⟨e, s⟩
    · rcases a with _ | _ | _ | (_ | _) | _ | _ <;> rfl
    · rfl
  | set key value u => exact conclude_tell fun _ => rfl
  | removeUser u => exact conclude_tell fun _ => rfl
  | setPattern text u => exact conclude_decode fun hash => conclude_tell fun _ => rfl
  | setPassword text u => exact conclude_decode fun hash => conclude_tell fun _ => rfl
  | checkPattern text u =>
    refine conclude_decode fun hash => conclude_match fun a => ?_
    rcases a with _ | (_ | _) | _ | _ | _ | _ <;> rfl
  | checkPassword text u =>
    refine conclude_decode fun hash => conclude_match fun a => ?_
    rcases a with _ | (_ | _) | _ | _ | _ | _ <;> rfl
  | status u => rfl
  | migrate p =>
    refine conclude_legacy fun source => ?_
    rw [respond_call, conclude]
    simp only [ask, bind, EStateM.bind]
    rcases Store.perform .system (.systemReady source) s with ⟨a, s⟩ | ⟨e, s⟩
    · rcases a with _ | _ | _ | _ | _ | (_ | _ | _) <;> rfl
    · rfl

/-- A check succeeds if the service answers yes for the bytes that are typed. -/
theorem serve_checkTask (s : Session) (isOpen : s.isOpen) (kind : CredentialKind) (text : String)
    (u : UserId) :
    (s.serve (kind.checkTask text u)).1.fault = none ↔
      ∃ hash, Hex.decode? text.toList = some hash ∧
        (s.handle (.calling .system (kind.checking hash u))).1 = some (.ok (.boolean true)) := by
  obtain ⟨s, rfl⟩ : ∃ store, s = .opened store := by
    rcases s with t | s
    · exact absurd isOpen (by simp [Session.isOpen])
    · exact ⟨s, rfl⟩
  have request (t : FileTree) : (kind.checkTask text u).request t =
      (decoded text).map fun hash => [kind.checking hash u] := by
    cases kind <;> rfl
  rw [Session.serve, request, decoded]
  rcases decode : Hex.decode? text.toList with _ | hash
  · simp [Except.map, Session.respond]
  · have answer : (Session.opened s).respond (kind.checkTask text u) (.ok [kind.checking hash u]) =
        _ := respond_call _ s _
    simp only [Except.map, answer, Session.handle, Option.some.injEq, exists_eq_left']
    rcases Store.perform .system (kind.checking hash u) s with ⟨a, s⟩ | ⟨cause, s⟩
    · rcases a with _ | (_ | _) | _ | _ | _ | _ <;> cases kind <;>
        simp [CredentialKind.checkTask, summary]
    · simp

end Task

end Keyguard
