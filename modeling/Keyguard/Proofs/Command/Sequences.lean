import Keyguard.Proofs.Command.Tasks
import Keyguard.Proofs.Settings.Exports
import Keyguard.Proofs.Store.Reopening

/-!
# Invocations in sequence

Every invocation opens the store anew, with its configuration read anew, and closes it. Still a
sequence of them is the same as one service that is kept open (`Invocation.runs_are_one_service`):
the reports are the same, and so is what is held in the end.

The proof follows both side by side (`Follows`). Between two invocations there is the tree that the
last one left, and whoever opens a store on it gets a twin of the service's store. One invocation
opens this twin, does its task on it as the service does on its own store, and closes it, which
leaves a tree of the same kind (`Follows.step`). Everything that was there before the first
invocation stays, so the configuration stays the same as well.

A service that cannot open its store does nothing, and no invocation can do more (`Refuses`).
-/

namespace Keyguard

open FileTree

-- unification must not compute what a tree has at the places of a layout
attribute [local irreducible] FileTree.at?

variable {c : Config} {e : Environment} {r : Recognizer} {s s' : Store} {t u : FileTree}

/-! ### Tasks on twins -/

/-- Calls are answered alike by twins, which they leave twins. -/
theorem Session.run_of_twin (twin : s.Twin s') (settled : s.Settled c r)
    (settled' : s'.Settled c r) (calls : List Call) :
    ∃ replies k k',
      (Session.opened s).run (calls.map (.calling .system)) = (replies, .opened k) ∧
      (Session.opened s').run (calls.map (.calling .system)) = (replies, .opened k') ∧
      k.Twin k' ∧ k.Settled c r ∧ k'.Settled c r ∧ s'.Leaves k' := by
  induction calls generalizing s s' with
  | nil => exact ⟨[], s, s', rfl, rfl, twin, settled, settled', .refl s'⟩
  | cons call calls ih =>
    have steady := Store.Steady.perform .system call
    obtain ⟨answer, twin₁⟩ := steady.same s s' twin
    obtain ⟨replies, k, k', ran, ran', final⟩ :=
      ih twin₁ (settled.perform .system call) (settled'.perform .system call)
    obtain ⟨twin₂, settled₂, settled₂', leaves⟩ := final
    refine ⟨some (outcome (Store.perform .system call) s).1 :: replies, k, k', ?_, ?_, twin₂,
      settled₂, settled₂', (steady.leaves s').trans leaves⟩
    · rw [List.map_cons, Session.run, handle_opened]
      dsimp only
      rw [ran]
    · rw [List.map_cons, Session.run, handle_opened]
      dsimp only
      rw [ran', answer]

/-- A task is done alike on twins, which it leaves twins. -/
theorem Session.respond_of_twin (twin : s.Twin s') (settled : s.Settled c r)
    (settled' : s'.Settled c r) (task : Task) (request : Except TaskFault (List Call)) :
    ∃ report k k',
      (Session.opened s).respond task request = (report, .opened k) ∧
      (Session.opened s').respond task request = (report, .opened k') ∧
      k.Twin k' ∧ k.Settled c r ∧ k'.Settled c r ∧ s'.Leaves k' := by
  rcases request with fault | calls
  · exact ⟨_, s, s', rfl, rfl, twin, settled, settled', .refl s'⟩
  · obtain ⟨replies, k, k', ran, ran', final⟩ := run_of_twin twin settled settled' calls
    rw [respond, respond, ran, ran']
    dsimp only
    rcases answers replies with cause | found
    · exact ⟨_, k, k', rfl, rfl, final⟩
    · exact ⟨_, k, k', rfl, rfl, final⟩

/-- What a settled store shows is, but for its database and journal, the tree it has. -/
theorem Store.Settled.sameButStored (twin : s.Twin s') (settled : s.Settled c r)
    (settled' : s'.Settled c r) : SameButStored s.shown s'.files := by
  intro q
  have layout := twin.layout
  by_cases database : q = s.layout.database.names
  · obtain ⟨db, found⟩ := settled'.database
    rw [layout] at found
    rw [database]
    exact .inr ⟨.database s.database, .database db,
      Connection.at_shown_database settled.file s.layout s.files, found, trivial, trivial⟩
  by_cases journal : q = s.layout.journal.names
  · obtain ⟨x, found⟩ := Connection.at_shown_journal settled.shows s.layout s.files
    obtain ⟨x', found'⟩ := settled'.journal
    rw [layout] at found'
    rw [journal]
    exact .inr ⟨.journal x, .journal x', found, found', trivial, trivial⟩
  · have shown := s.toConnection.at_shown s.layout s.files database journal
    exact .inl ((twin.files q database journal).trans shown.symm)

/-- A task asks a service for what it asks a store that is a twin of the service's. -/
theorem Task.request_of_twin (twin : s.Twin s') (settled : s.Settled c r)
    (settled' : s'.Settled c r) (task : Task) :
    task.request s'.files = task.request s.shown := by
  have legacy (p : Option Path) : Task.legacy s'.files p = Task.legacy s.shown p := by
    rcases p with _ | p
    · rfl
    · rw [Task.legacy, Task.legacy,
        LegacyExport.load_congr (settled.sameButStored twin settled') p]
  cases task with
  | migrate p => rw [request, request, legacy]
  | _ => rfl

/-! ### One invocation -/

/-- A configuration that could be loaded is loaded again as long as its file stays. -/
theorem Config.load_of_stay {p : Path} (stay : ∀ q n, t.at? q = some n → u.at? q = some n)
    (loaded : Config.load e p t = .ok c) : Config.load e p u = .ok c := by
  unfold Config.load at loaded ⊢
  rcases content : t.readAt p with fault | bytes
  · rw [content] at loaded
    exact absurd loaded (by simp)
  · rw [content] at loaded
    rwa [readAt_of_stay stay content]

namespace Invocation

variable {i : Invocation}

/-- Runs some invocations in order. -/
def runAll (e : Environment) (t : FileTree) : List Invocation → List Report × FileTree
  | [] => ([], t)
  | i :: is =>
    let (report, t) := i.run e t
    let (reports, t) := runAll e t is
    (report :: reports, t)

/-- An invocation has the same configuration as long as everything stays. -/
theorem configure_of_stay (stay : ∀ q n, t.at? q = some n → u.at? q = some n)
    (configured : i.configure e t = .ok c) : i.configure e u = .ok c := by
  obtain ⟨config, dataDir, task⟩ := i
  rcases config with _ | p
  · exact configured
  · simp only [configure] at configured ⊢
    rcases load : Config.load e p t with fault | c'
    · rw [load] at configured
      have failed : Except.error (TaskFault.loadingConfig p fault) = Except.ok c := configured
      exact absurd failed (by simp)
    · rw [Config.load_of_stay stay load]
      rwa [load] at configured

/-- An invocation of which the configuration is known opens a store, if it can, does its task on
it and closes it. -/
theorem run_of_configure (configured : i.configure e t = .ok c) {k : Store} {report : Report}
    (opened : Store.openWith c rankByDistance t = .ok s u)
    (done : Task.conclude i.task.perform s = (report, .opened k)) :
    i.run e t = (report, k.close) := by
  unfold run
  rw [configured]
  dsimp only
  rw [opened]
  dsimp only
  unfold Task.conclude at done
  rcases performed : i.task.perform s with ⟨lines, s₁⟩ | ⟨fault, s₁⟩
  · rw [performed] at done
    obtain ⟨rfl, same⟩ := Prod.mk.inj done
    injection same with same
    rw [same]
  · rw [performed] at done
    obtain ⟨rfl, same⟩ := Prod.mk.inj done
    injection same with same
    rw [same]

end Invocation

/-! ### Beside a service -/

/-- Whether a tree is one that an invocation may find while a service has a store: whoever opens a
store on it has a twin of the service's store, and all is there that was there in the beginning. -/
structure Follows (c : Config) (t u : FileTree) (s : Store) : Prop where
  settled : s.Settled c rankByDistance
  rest : (Layout.mk c.dataDir).Resting u
  own : WritesOnly (Layout.mk c.dataDir).Own t u
  twin : ∃ s' u', Store.openWith c rankByDistance u = .ok s' u' ∧ s.Twin s'

/-- In an empty data directory the configuration does not depend on what a store wrote. -/
theorem FileTree.Vacant.configure {i : Invocation} (vacant : t.Vacant c.dataDir)
    (own : WritesOnly (Layout.mk c.dataDir).Own t u) (configured : i.configure e t = .ok c) :
    i.configure e u = .ok c := by
  refine i.configure_of_stay (fun q n found => own.elsewhere (fun here => ?_) found) configured
  exact absurd ((vacant.at_own here).symm.trans found) (by simp)

namespace Follows

/-- A service that has just opened its store in an empty data directory. -/
theorem start (vacant : t.Vacant c.dataDir)
    (opened : Store.openWith c rankByDistance t = .ok s u) : Follows c t t s := by
  have rest := vacant.resting.1
  exact ⟨(Store.settled_of_openWith rest vacant.isDirect opened).1, rest, .refl _ t,
    s, u, opened, .refl s⟩

/-- **One invocation** reports what the service reports of the same task, holds what it holds, and
leaves a tree for the next invocation. -/
theorem step {i : Invocation} (h : Follows c t u s) (vacant : t.Vacant c.dataDir)
    (configured : i.configure e t = .ok c) :
    ∃ report u' k, i.run e u = (report, u') ∧
      (Session.opened s).serve i.task = (report, .opened k) ∧ Follows c t u' k ∧
      (Layout.mk c.dataDir).holdings u' = (Session.opened k).holdings c.dataDir := by
  obtain ⟨s', u', opened, twin⟩ := h.twin
  obtain ⟨settled', own⟩ := Store.settled_of_openWith h.rest vacant.isDirect opened
  obtain ⟨report, k, k', served, served', twin', settledk, settledk', leaves⟩ :=
    Session.respond_of_twin twin h.settled settled' i.task (i.task.request s.shown)
  have done : Task.conclude i.task.perform s' = (report, .opened k') := by
    rw [Task.conclude_perform, Task.request_of_twin twin h.settled settled', served']
  have layout : (Layout.mk c.dataDir).Own = s'.layout.Own := by
    rw [Store.layout, settled'.config]
  have layoutk : (Layout.mk c.dataDir).Own = k'.layout.Own := by
    rw [Store.layout, settledk'.config]
  obtain ⟨rest, holdings⟩ := Store.close_resting settledk'.toSound
  obtain ⟨s'', u'', reopened, twin'', -⟩ := settledk'.reopen vacant.isDirect
  have called : WritesOnly (Layout.mk c.dataDir).Own s'.files k'.files := by
    rw [layout]
    exact leaves.files.mono fun q here => .inr (.inr here)
  have closed : WritesOnly (Layout.mk c.dataDir).Own k'.files k'.close := by
    rw [layoutk]
    exact settledk'.writesOnly_close
  refine ⟨report, k'.close, k,
    Invocation.run_of_configure (vacant.configure h.own configured) opened done, served,
    ⟨settledk, rest, ((h.own.trans own).trans called).trans closed,
      s'', u'', reopened, twin'.trans twin''⟩, ?_⟩
  rw [holdings, Session.holdings_opened settledk.toSound rfl, twin'.holdings]

/-- **Invocations in sequence** report what the service reports, and leave a tree for the next. -/
theorem run {is : List Invocation} (h : Follows c t u s) (vacant : t.Vacant c.dataDir)
    (configured : ∀ i ∈ is, i.configure e t = .ok c) :
    ∃ reports u' k, Invocation.runAll e u is = (reports, u') ∧
      (Session.opened s).serveAll (is.map Invocation.task) = (reports, .opened k) ∧
      Follows c t u' k := by
  induction is generalizing u s with
  | nil => exact ⟨[], u, s, rfl, rfl, h⟩
  | cons i is ih =>
    obtain ⟨report, u₁, k₁, ran, served, h₁, -⟩ :=
      h.step vacant (configured i List.mem_cons_self)
    obtain ⟨reports, u₂, k₂, ran', served', h₂⟩ :=
      ih h₁ fun i hi => configured i (List.mem_cons_of_mem _ hi)
    refine ⟨report :: reports, u₂, k₂, ?_, ?_, h₂⟩
    · rw [Invocation.runAll, ran]
      dsimp only
      rw [ran']
    · rw [List.map_cons, Session.serveAll, served]
      dsimp only
      rw [served']

/-- A task that asks for no calls fails, and the store is left as it was opened. -/
theorem refuse {i : Invocation} (h : Follows c t u s) (vacant : t.Vacant c.dataDir)
    (configured : i.configure e t = .ok c) {fault : TaskFault} :
    let own := ((Session.closed u).handle (.opening c rankByDistance)).2
    i.task.request own.files = .error fault →
      (i.run e u).1 = ⟨[], some fault⟩ ∧
        (Layout.mk c.dataDir).holdings (i.run e u).2 = own.holdings c.dataDir := by
  intro own refused
  obtain ⟨s', u', opened, -⟩ := h.twin
  obtain ⟨settled', -⟩ := Store.settled_of_openWith h.rest vacant.isDirect opened
  have opening : own = .opened s' := by
    simp only [own, Session.handle, Session.close, opened]
  rw [opening] at refused ⊢
  have done : Task.conclude i.task.perform s' = (⟨[], some fault⟩, .opened s') := by
    rw [Task.conclude_perform, Task.request_of_twin (.refl s') settled' settled', ← Session.files,
      refused]
    rfl
  rw [Invocation.run_of_configure (vacant.configure h.own configured) opened done,
    Session.holdings_opened settled'.toSound rfl]
  exact ⟨rfl, (Store.close_resting settled'.toSound).2⟩

end Follows

/-- Whether a tree is one that an invocation may find if no store could be opened so far. -/
structure Refuses (c : Config) (t u : FileTree) : Prop where
  rest : (Layout.mk c.dataDir).Resting u
  own : WritesOnly (Layout.mk c.dataDir).Own t u
  nothing : (Layout.mk c.dataDir).holdings u = ⟨.blank, fun _ _ => none⟩
  refused : ∃ cause u', Store.openWith c rankByDistance u = .error cause u'

namespace Refuses

/-- Where a store could not be opened, none can be opened by the next invocation. -/
theorem step {i : Invocation} (h : Refuses c t u) (vacant : t.Vacant c.dataDir)
    (configured : i.configure e t = .ok c) :
    ∃ cause u', i.run e u = (⟨[], some (.store cause)⟩, u') ∧ Refuses c t u' := by
  obtain ⟨cause, u', refused⟩ := h.refused
  refine ⟨cause, u', ?_, ?_⟩
  · rw [Invocation.run, vacant.configure h.own configured]
    dsimp only
    rw [refused]
  · obtain ⟨again, own⟩ := Store.openWith_error_again h.rest vacant.isDirect refused
    rcases Store.openWith_of_resting h.rest vacant.isDirect rankByDistance with
      ⟨cause', u'', refused', rest, same⟩ | ⟨s, u'', opened, -⟩
    · obtain ⟨rfl, rfl⟩ : cause = cause' ∧ u' = u'' := by
        rw [refused] at refused'
        exact EStateM.Result.error.inj refused'
      exact ⟨rest, h.own.trans own, same.trans h.nothing, again⟩
    · exact absurd (refused.symm.trans opened) (by simp)

/-- Where a store could not be opened, no invocation can open one. -/
theorem run {is : List Invocation} (h : Refuses c t u) (vacant : t.Vacant c.dataDir)
    (configured : ∀ i ∈ is, i.configure e t = .ok c) :
    (∀ report ∈ (Invocation.runAll e u is).1, ∃ cause, report = ⟨[], some (.store cause)⟩) ∧
      Refuses c t (Invocation.runAll e u is).2 := by
  induction is generalizing u with
  | nil => exact ⟨fun report none => absurd none List.not_mem_nil, h⟩
  | cons i is ih =>
    obtain ⟨cause, u₁, ran, h₁⟩ := h.step vacant (configured i List.mem_cons_self)
    obtain ⟨reports, h₂⟩ := ih h₁ fun i hi => configured i (List.mem_cons_of_mem _ hi)
    rw [Invocation.runAll, ran]
    refine ⟨fun report mem => ?_, h₂⟩
    rcases List.mem_cons.mp mem with rfl | mem
    · exact ⟨cause, rfl⟩
    · exact reports report mem

end Refuses

namespace Invocation

theorem runAll_append (is js : List Invocation) (t : FileTree) :
    runAll e t (is ++ js) =
      ((runAll e t is).1 ++ (runAll e (runAll e t is).2 js).1,
        (runAll e (runAll e t is).2 js).2) := by
  induction is generalizing t with
  | nil => rfl
  | cons i is ih => simp only [List.cons_append, runAll, ih]

/-- **A sequence of invocations is one service.** Some invocations with the same configuration are
run from an empty data directory, and the same tasks are done by a service that is kept open.

If the service can open its store, the reports are the same, one by one, and what is held in the
end is the same. A check succeeds if and only if the service answers yes for the bytes that are
typed. A hash that cannot be decoded, or a legacy export that cannot be read, makes an invocation
fail and leaves what the opening of its own store left. If the service cannot open its store,
neither can any invocation, and nothing is held. -/
theorem runs_are_one_service (vacant : t.Vacant c.dataDir) (before : List Invocation)
    (i : Invocation) (configured : ∀ j ∈ before ++ [i], j.configure e t = .ok c) :
    let opening : Event := .opening c rankByDistance
    let service := ((Session.closed t).handle opening).2
    let all := runAll e t (before ++ [i])
    let served := service.serveAll ((before ++ [i]).map task)
    let holdings := (Layout.mk c.dataDir).holdings
    if service.isOpen then
      let left := (runAll e t before).2
      let kept := (service.serveAll (before.map task)).2
      let own := ((Session.closed left).handle opening).2
      let last := i.run e left
      all.1 = served.1 ∧ holdings all.2 = served.2.holdings c.dataDir ∧
      (∀ kind text u, i.task = CredentialKind.checkTask kind text u →
        (last.1.fault = none ↔ ∃ hash, Hex.decode? text.toList = some hash ∧
          (kept.handle (.calling .system (kind.checking hash u))).1 =
            some (.ok (.boolean true)))) ∧
      (∀ text, i.task.hash? = some text → Hex.decode? text.toList = none →
        last.1 = ⟨[], some (.invalidHash text)⟩ ∧ holdings last.2 = own.holdings c.dataDir) ∧
      ∀ p cause, i.task = .migrate (some p) → LegacyExport.load p own.files = .error cause →
        last.1 = ⟨[], some (.readingExport p cause)⟩ ∧ holdings last.2 = own.holdings c.dataDir
    else
      (∀ report ∈ all.1, ∃ cause, report = ⟨[], some (.store cause)⟩) ∧
        holdings all.2 = ⟨.blank, fun _ _ => none⟩ := by
  intro opening service all served holdings
  have configured₁ : ∀ j ∈ before, j.configure e t = .ok c := fun j hj =>
    configured j (List.mem_append_left _ hj)
  have configured₂ : i.configure e t = .ok c :=
    configured i (List.mem_append_right _ (List.mem_singleton.mpr rfl))
  rcases opened : Store.openWith c rankByDistance t with ⟨s, u⟩ | ⟨cause, u⟩
  · have opens : service = .opened s := by
      simp only [service, opening, Session.handle, Session.close, opened]
    have isOpen : service.isOpen = true := by rw [opens, Session.isOpen]
    rw [if_pos isOpen]
    obtain ⟨reports, t₁, k, ran, answered, follows⟩ :=
      (Follows.start vacant opened).run vacant configured₁
    obtain ⟨report, t₂, k', ran', answered', -, held⟩ := follows.step vacant configured₂
    have all_eq : all = (reports ++ [report], t₂) := by
      simp only [all, runAll_append, runAll, ran, ran']
    have served_eq : served = (reports ++ [report], .opened k') := by
      simp only [served, List.map_append, List.map_cons, List.map_nil, Session.serveAll_append,
        Session.serveAll, opens, answered, answered']
    rw [all_eq, served_eq, opens, ran, answered]
    dsimp only
    rw [ran']
    refine ⟨rfl, held, fun kind text u checks => ?_, fun text given undecoded => ?_,
      fun p cause migrates unread => ?_⟩
    · rw [← Task.serve_checkTask _ rfl, ← checks, answered']
    · have refused := follows.refuse vacant configured₂ (Task.request_of_hash given undecoded _)
      rwa [ran'] at refused
    · have asked := Task.request_of_legacy unread
      rw [← migrates] at asked
      have refused := follows.refuse vacant configured₂ asked
      rwa [ran'] at refused
  · have closed : service.isOpen = false := by
      simp only [service, opening, Session.handle, Session.close, opened, Session.isOpen]
    rw [if_neg (by rw [closed]; exact Bool.false_ne_true)]
    obtain ⟨rest, nothing⟩ := vacant.resting
    have start : Refuses c t t := ⟨rest, .refl _ t, nothing, cause, u, opened⟩
    obtain ⟨reports, final⟩ := start.run vacant configured
    exact ⟨reports, final.nothing⟩

/-- Hashes may be typed in either case, and a hash that cannot be decoded changes nothing. -/
theorem five_invocations_are_one_service :
    let e : Environment := ⟨some "data", none, some "/home"⟩
    let c : Config := .ofDataDir ⟨"data"⟩
    let before : List Invocation := [⟨none, none, .setPattern "c0DE" ⟨3⟩⟩,
      ⟨none, some ⟨"data"⟩, .setPattern "c0DEx" ⟨3⟩⟩, ⟨none, none, .migrate (some ⟨"export"⟩)⟩,
      ⟨none, none, .status ⟨3⟩⟩]
    let last : Invocation := ⟨none, none, .checkPattern "C0de" ⟨3⟩⟩
    FileTree.empty.Vacant c.dataDir ∧
      (∀ i ∈ before ++ [last], i.configure e .empty = .ok c) ∧
      ((Session.closed .empty).handle (.opening c rankByDistance)).2.isOpen ∧
      (runAll e .empty (before ++ [last])).1 = [⟨[], none⟩,
        ⟨[], some (.invalidHash "c0DEx")⟩,
        ⟨[], some (.readingExport ⟨"export"⟩ (.io .notFound))⟩,
        ⟨["user:         3", "pattern size: 3", "password:     false", "pattern:      true",
          "gesture:      false"], none⟩,
        ⟨["Pattern matches"], none⟩] := by
  intro e c before last
  have vacant : FileTree.empty.Vacant c.dataDir := FileTree.vacant_empty (by decide)
  have configured : ∀ i ∈ before ++ [last], i.configure e .empty = .ok c := by
    simp [before, last, configure, e, c, Config.default, Environment.defaultDataDir,
      Config.ofDataDir, pure, Except.pure, bind, Except.bind]
  have isOpen : ((Session.closed .empty).handle (.opening c rankByDistance)).2.isOpen := by
    decide +kernel
  have same := runs_are_one_service vacant before last configured
  rw [if_pos isOpen] at same
  refine ⟨vacant, configured, isOpen, same.1.trans ?_⟩
  decide +kernel

end Invocation

end Keyguard
