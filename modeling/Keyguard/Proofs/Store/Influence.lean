import Keyguard.Proofs.Store.Runs

/-!
# Events without influence

A run can be followed with some of its events left out. Two sessions are compared by a relation:
an event that is left out must not take the session out of the relation (it is **unseen**), and an
event that is kept must be answered alike by related sessions and leave them related. Then the run
without the other events gives the same replies to those that are kept and ends in a related
session (`Session.run_filter`).

With equality as the relation, the calls of **ordinary callers** are unseen by all other events:
most of them are denied, and those by which a user looks at its own settings and credentials
change nothing (`Store.perform_user`, `Session.ordinary_callers_without_influence`).

Which operation and which user a refusal names is stated for each method: writes of settings and
of credentials, comparisons with a secret, the removal of users and the import are refused
altogether, and the reads where they are for somebody else (`Store.Refuses`).
-/

namespace Keyguard

namespace Session

/-- The replies of a run to those of its events that are kept. -/
def repliesTo (keep : Event → Bool) (s : Session) (es : List Event) : List Reply :=
  ((s.history es).filter fun note => keep note.1).map Prod.snd

theorem repliesTo_cons (keep : Event → Bool) (s : Session) (e : Event) (es : List Event) :
    s.repliesTo keep (e :: es) =
      if keep e then (s.handle e).1 :: (s.handle e).2.repliesTo keep es
      else (s.handle e).2.repliesTo keep es := by
  simp only [repliesTo, history, run, List.zip_cons_cons, List.filter_cons]
  cases keep e <;> rfl

/-- **Leaving events out.** If related sessions answer every event that is kept alike and stay
related, and no other event takes the first session out of the relation, then the run with the
kept events alone gives their replies, and the runs end in related sessions. -/
theorem run_filter {R : Session → Session → Prop} {keep : Event → Bool} {es : List Event}
    (unseen : ∀ e ∈ es, keep e = false → ∀ s s', R s s' → R (s.handle e).2 s')
    (seen : ∀ e ∈ es, keep e = true → ∀ s s', R s s' →
      (s'.handle e).1 = (s.handle e).1 ∧ R (s.handle e).2 (s'.handle e).2)
    {s s' : Session} (related : R s s') :
    (s'.run (es.filter keep)).1 = s.repliesTo keep es ∧
      R (s.run es).2 (s'.run (es.filter keep)).2 := by
  induction es generalizing s s' with
  | nil => exact ⟨rfl, related⟩
  | cons e es ih =>
    have rest {s s' : Session} (related : R s s') :=
      ih (fun e he => unseen e (List.mem_cons_of_mem _ he))
        (fun e he => seen e (List.mem_cons_of_mem _ he)) related
    rw [repliesTo_cons, List.filter_cons]
    cases kept : keep e with
    | false => exact rest (unseen e List.mem_cons_self kept s s' related)
    | true =>
      obtain ⟨reply, related'⟩ := seen e List.mem_cons_self kept s s' related
      obtain ⟨replies, final⟩ := rest related'
      have first : (s'.run (e :: es.filter keep)).1 =
          (s'.handle e).1 :: ((s'.handle e).2.run (es.filter keep)).1 := rfl
      exact ⟨first.trans (by rw [reply, replies, if_pos rfl]), final⟩

end Session

/-! ### Ordinary callers -/

/-- The operations by which an ordinary caller may look at what is its own. -/
def Operation.ownReads : List Operation :=
  [.getBoolean, .getLong, .getString, .getLockPatternSize, .havePassword, .havePattern,
    .haveGesture]

/-- An ordinary caller may do nothing but look at what is its own. -/
theorem Caller.mayRun_user_iff_mem {id target : UserId} {op : Operation} :
    (Caller.user id).mayRun op target = true ↔ op ∈ Operation.ownReads ∧ target = id := by
  rw [Caller.mayRun_user_iff, eq_comm (a := id)]
  refine and_congr_left fun _ => ?_
  cases op <;> decide

/-- Whether an event is a call of an ordinary caller. -/
def Event.isOrdinary : Event → Bool
  | .calling (.user _) _ => true
  | _ => false

namespace Store

private theorem reading_snd {α : Type} (f : Store → Except StoreError α) (s : Store) :
    (outcome (reading f) s).2 = s := by
  simp only [outcome, reading]
  cases f s <;> rfl

/-- A call by which somebody looks at what is its own changes nothing. -/
private theorem answer_of_ownReads {call : Call} (own : call.operation ∈ Operation.ownReads)
    (s : Store) : (outcome (answer call) s).2 = s := by
  cases call with
  | getBoolean _ _ _ | getLong _ _ _ | getString _ _ _ => exact reading_snd _ s
  | getLockPatternSize _ | havePassword _ | havePattern _ | haveGesture _ => rfl
  | _ => exact absurd own (by simp [Call.operation, Operation.ownReads])

/-- The call of an ordinary caller is denied unless the caller looks at what is its own, and it
changes nothing at all. -/
theorem perform_user (id : UserId) (call : Call) (s : Store) :
    (outcome (perform (.user id) call) s).2 = s ∧
      (¬(call.operation ∈ Operation.ownReads ∧ call.user = id) →
        (outcome (perform (.user id) call) s).1 =
          .error (.permissionDenied (.user id) call.operation call.user)) := by
  rw [perform]
  by_cases own : call.operation ∈ Operation.ownReads ∧ call.user = id
  · rw [if_pos (Caller.mayRun_user_iff_mem.mpr own)]
    exact ⟨answer_of_ownReads own.1 s, fun other => absurd own other⟩
  · rw [if_neg fun may => own (Caller.mayRun_user_iff_mem.mp may)]
    exact ⟨rfl, fun _ => rfl⟩

/-! ### Refusals, method by method -/

/-- Whether a store refuses a call of an ordinary caller, with the caller, an operation and a user
named, and stays what it is. -/
def Refuses (s : Store) (id : UserId) (call : Call) (op : Operation) (u : UserId) : Prop :=
  outcome (perform (.user id) call) s = (.error (.permissionDenied (.user id) op u), s)

variable (s : Store) {id u : UserId} {call : Call}

/-- A call is refused under its own operation and its own user. -/
theorem refuses_of_foreign (foreign : ¬(call.operation ∈ Operation.ownReads ∧ call.user = id)) :
    s.Refuses id call call.operation call.user := by
  obtain ⟨unchanged, denied⟩ := perform_user id call s
  exact Prod.ext (denied foreign) unchanged

/-- Writes and comparisons with a secret are refused, also where they are for the caller. -/
theorem refuses_of_guarded (guarded : call.operation.accessClass = .write ∨
    call.operation.accessClass = .secretRead) :
    s.Refuses id call call.operation call.user := by
  refine s.refuses_of_foreign fun own => ?_
  obtain ⟨read, -⟩ := Caller.mayRun_user_iff.mp (Caller.mayRun_user_iff_mem.mpr own)
  rcases guarded with write | secret
  · exact absurd (write.symm.trans read) (by decide)
  · exact absurd (secret.symm.trans read) (by decide)

/-- No ordinary caller writes a setting. -/
theorem refuses_setting_writes (key : String) :
    (∀ value, s.Refuses id (.setBoolean key value u) .setBoolean u) ∧
      (∀ value, s.Refuses id (.setLong key value u) .setLong u) ∧
      ∀ value, s.Refuses id (.setString key value u) .setString u :=
  ⟨fun _ => s.refuses_of_guarded (.inl rfl), fun _ => s.refuses_of_guarded (.inl rfl),
    fun _ => s.refuses_of_guarded (.inl rfl)⟩

/-- No ordinary caller sets a credential. -/
theorem refuses_credential_writes :
    (∀ hash, s.Refuses id (.setLockPattern hash u) .setLockPattern u) ∧
      (∀ hash, s.Refuses id (.setLockPassword hash u) .setLockPassword u) ∧
      ∀ sample, s.Refuses id (.setLockGesture sample u) .setLockGesture u :=
  ⟨fun _ => s.refuses_of_guarded (.inl rfl), fun _ => s.refuses_of_guarded (.inl rfl),
    fun _ => s.refuses_of_guarded (.inl rfl)⟩

/-- No ordinary caller has a candidate compared with a credential, be it the caller's own. -/
theorem refuses_checks :
    (∀ hash, s.Refuses id (.checkPattern hash u) .checkPattern u) ∧
      (∀ hash, s.Refuses id (.checkPassword hash u) .checkPassword u) ∧
      ∀ sample, s.Refuses id (.checkGesture sample u) .checkGesture u :=
  ⟨fun _ => s.refuses_of_guarded (.inr rfl), fun _ => s.refuses_of_guarded (.inr rfl),
    fun _ => s.refuses_of_guarded (.inr rfl)⟩

/-- No ordinary caller removes a user or imports settings. An import is refused for the system's
user. -/
theorem refuses_administration :
    s.Refuses id (.removeUser u) .removeUser u ∧
      ∀ source, s.Refuses id (.systemReady source) .systemReady .system :=
  ⟨s.refuses_of_guarded (.inl rfl), fun _ => s.refuses_of_guarded (.inl rfl)⟩

/-- No ordinary caller reads what belongs to another user. -/
theorem refuses_reads_of_others (other : u ≠ id) (key : String) :
    (∀ default, s.Refuses id (.getBoolean key default u) .getBoolean u) ∧
      (∀ default, s.Refuses id (.getLong key default u) .getLong u) ∧
      (∀ default, s.Refuses id (.getString key default u) .getString u) ∧
      s.Refuses id (.getLockPatternSize u) .getLockPatternSize u ∧
      s.Refuses id (.havePassword u) .havePassword u ∧
      s.Refuses id (.havePattern u) .havePattern u ∧
      s.Refuses id (.haveGesture u) .haveGesture u := by
  have refused (call : Call) (about : call.user = u) :
      s.Refuses id call call.operation call.user :=
    s.refuses_of_foreign fun own => other (about.symm.trans own.2)
  exact ⟨fun _ => refused _ rfl, fun _ => refused _ rfl, fun _ => refused _ rfl, refused _ rfl,
    refused _ rfl, refused _ rfl, refused _ rfl⟩

end Store

namespace Session

/-- The call of an ordinary caller leaves a session exactly as it was. -/
theorem handle_of_isOrdinary {e : Event} (ordinary : e.isOrdinary) (s : Session) :
    (s.handle e).2 = s := by
  cases e with
  | opening _ _ | closing => exact absurd ordinary (by simp [Event.isOrdinary])
  | calling caller call =>
    cases caller with
    | system => exact absurd ordinary (by simp [Event.isOrdinary])
    | user id =>
      cases s with
      | closed t => rfl
      | opened s => rw [handle_opened, (Store.perform_user id call s).1]

/-- **Ordinary callers have no influence.** Whatever a store starts with, its run without the
calls of ordinary callers gives the same replies to all other events and ends with the same store:
the same rows, files, directories and locks. Every call of an ordinary caller is denied, with its
caller, its operation and its user named, unless the caller looks at what is its own. -/
theorem ordinary_callers_without_influence (s : Session) (es : List Event) :
    (s.run (es.filter fun e => !e.isOrdinary)).1 = s.repliesTo (fun e => !e.isOrdinary) es ∧
      (s.run (es.filter fun e => !e.isOrdinary)).2 = (s.run es).2 ∧
      ∀ (store : Store) (id : UserId) (call : Call),
        ¬(call.operation ∈ Operation.ownReads ∧ call.user = id) →
          (Session.opened store).handle (.calling (.user id) call) =
            (some (.error (.permissionDenied (.user id) call.operation call.user)),
              .opened store) := by
  have unseen (e : Event) (_ : e ∈ es) (left : (!e.isOrdinary) = false) (s s' : Session)
      (same : s = s') : (s.handle e).2 = s' :=
    (handle_of_isOrdinary (by simpa using left) s).trans same
  have seen (e : Event) (_ : e ∈ es) (_ : (!e.isOrdinary) = true) (s s' : Session)
      (same : s = s') : (s'.handle e).1 = (s.handle e).1 ∧ (s.handle e).2 = (s'.handle e).2 := by
    rw [same]
    exact ⟨rfl, rfl⟩
  obtain ⟨replies, final⟩ := run_filter unseen seen (rfl : s = s)
  refine ⟨replies, final.symm, fun store id call foreign => ?_⟩
  rw [handle_opened, store.refuses_of_foreign foreign]

/-- A user who tries to set a password is denied, and there is none afterwards. -/
theorem denied_password_is_not_set :
    let store : Store := ⟨.fresh, .ofDataDir ⟨"data"⟩, rankByDistance, .empty, .empty⟩
    let setting : Call := .setLockPassword [0xaa] ⟨5⟩
    let es : List Event := [.calling (.user ⟨5⟩) setting, .calling .system (.havePassword ⟨5⟩)]
    (Session.opened store).repliesTo (fun e => !e.isOrdinary) es =
        [some (.ok (.boolean false))] ∧
      ¬(setting.operation ∈ Operation.ownReads ∧ setting.user = ⟨5⟩) ∧
      ((Session.opened store).handle (.calling (.user ⟨5⟩) setting)).1 =
        some (.error (.permissionDenied (.user ⟨5⟩) .setLockPassword ⟨5⟩)) := by
  intro store setting es
  obtain ⟨replies, -, denied⟩ := ordinary_callers_without_influence (.opened store) es
  have foreign : ¬(setting.operation ∈ Operation.ownReads ∧ setting.user = ⟨5⟩) := by decide
  refine ⟨replies.symm.trans ?_, foreign, congrArg Prod.fst (denied store ⟨5⟩ setting foreign)⟩
  decide +kernel

end Session

end Keyguard
