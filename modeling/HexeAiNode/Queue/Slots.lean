import HexeAiNode.Queue.Records

/-!
# Slots

A queue counts the slots that are taken (`activeCounts`); a slot is taken in the block that takes a job
from its heap, the runner task is created after it, and the slot is given back in the `finally` of the
task.  The accounting is right as long as no slot is taken without a task and no task ends without its
`finally` (`Slots.edit`).

Two things break it.  A task that is cancelled before its first step never enters its coroutine, and a task
that is cancelled while it waits for the lock of its last blocks leaves them out: `Step.CancelFits` says
that a cancellation finds its task waiting for the runner, or for the lock after the runner returned.  And
a dispatcher that raises while it saves the queue has taken a slot and makes no task: `Step.StartFits` says
that the records can be saved then.
-/

namespace HexeAiNode
namespace Queue

open Py Execution StoreAction

variable {cfg : Config} {now : ℤ} {faulty : Prop} {s₀ s s' a b : Service} {step : Step}
  {id : JobId} {job job' : Job} {q q' : QueueKey} {released : List ℕ}

/-! ## Counting -/

/-- The task is not done, and its job was dispatched from the queue. -/
def Runner.holds (q : QueueKey) (r : Runner) : Bool := decide (r.queue = q) && !r.state.done

/-- The jobs that were dispatched from a queue and whose runner task has not finished. -/
def Service.unfinished (q : QueueKey) (s : Service) : ℕ := s.runners.countP (Runner.holds q)

theorem modify_eq_set {α : Type*} {l : List α} {i : ℕ} {x : α} (g : α → α) (h : l[i]? = some x) :
    l.modify i g = l.set i (g x) := by
  obtain ⟨hi, rfl⟩ := List.getElem?_eq_some_iff.mp h
  ext j y
  rw [List.getElem?_modify, List.getElem?_set]
  by_cases hij : i = j
  · subst hij
    simp [hi]
  · simp [hij]

/-- The count changes with the one element that is changed. -/
theorem countP_modify {α : Type*} {p : α → Bool} {l : List α} {i : ℕ} {x : α} (g : α → α)
    (h : l[i]? = some x) :
    (l.modify i g).countP p = l.countP p - (if p x then 1 else 0) + if p (g x) then 1 else 0 := by
  obtain ⟨hi, rfl⟩ := List.getElem?_eq_some_iff.mp h
  rw [modify_eq_set g h, List.countP_set hi]

theorem countP_pos_of_getElem? {α : Type*} {p : α → Bool} {l : List α} {i : ℕ} {x : α}
    (h : l[i]? = some x) (hx : p x = true) : 0 < l.countP p :=
  List.countP_pos_iff.mpr ⟨x, List.mem_of_getElem? h, hx⟩

/-! ## The invariant -/

/-- The task waits for its `finally`, or is done. -/
def RunnerState.ending : RunnerState → Bool
  | .finishing | .finished => true
  | _ => false

theorem RunnerState.ending_of_done {state : RunnerState} (h : state.done = true) : state.ending = true := by
  cases state <;> simp [done, ending] at h ⊢

/-- The task is done. -/
def Service.isDone (task : ℕ) (s : Service) : Bool := s.runners[task]?.any fun r => r.state.done

/-- The slots taken are those of the unfinished tasks, at most as many as there are; a dispatcher that checks
an admission has seen a free one.  No task is on its way to an end that leaves its coroutine out, and a task
that waits for its `finally` or is done has ended its job.  `released` lists the tasks that gave their slots
back. -/
structure Service.Slots (cfg : Config) (released : List ℕ) (s : Service) : Prop where
  counted : ∀ q, s.activeCounts q = s.unfinished q
  bounded : ∀ q, s.activeCounts q ≤ cfg.concurrency q
  free : ∀ q id, s.dispatchers q = some (.admission id) → s.activeCounts q < cfg.concurrency q
  entering : ∀ r ∈ s.runners, r.state ≠ .doomed
  ended : ∀ r ∈ s.runners, r.state.ending = true → s.IsOver r.jobId
  given : ∀ task, released.count task = if s.isDone task then 1 else 0

theorem Service.Idle.slots (h : s.Idle) : s.Slots cfg [] where
  counted := by
    intro q
    unfold Service.unfinished
    rw [h.activeCounts, h.runners]
    rfl
  bounded := by
    intro q
    rw [h.activeCounts]
    exact Nat.zero_le _
  free := by
    intro q id hdispatcher
    rw [h.dispatchers] at hdispatcher
    cases hdispatcher
  entering := by
    intro r hr
    rw [h.runners] at hr
    cases hr
  ended := by
    intro r hr
    rw [h.runners] at hr
    cases hr
  given := by
    intro task
    unfold Service.isDone
    rw [h.runners]
    rfl

namespace Service.Slots

/-- A change of the records and the dispatchers, under which no job starts anew and no dispatcher goes on to
an admission. -/
theorem congr (h : a.Slots cfg released) (hactive : b.activeCounts = a.activeCounts)
    (hrunners : b.runners = a.runners)
    (hdispatchers : ∀ q id, b.dispatchers q = some (.admission id) → a.dispatchers q = some (.admission id))
    (hover : ∀ r ∈ a.runners, a.IsOver r.jobId → b.IsOver r.jobId) : b.Slots cfg released where
  counted := by
    intro q
    unfold Service.unfinished
    rw [hactive, hrunners]
    exact h.counted q
  bounded := by
    intro q
    rw [hactive]
    exact h.bounded q
  free := by
    intro q id hdispatcher
    rw [hactive]
    exact h.free q id (hdispatchers q id hdispatcher)
  entering := by
    rw [hrunners]
    exact h.entering
  ended := by
    intro r hr hstate
    rw [hrunners] at hr
    exact hover r hr (h.ended r hr hstate)
  given := by
    intro task
    unfold Service.isDone
    rw [hrunners]
    exact h.given task

/-- A task goes on, but not to its end. -/
theorem modify (h : a.Slots cfg released) {task : ℕ} {r : Runner} (hr : a.runners[task]? = some r)
    {g : Runner → Runner} (hqueue : (g r).queue = r.queue) (hid : (g r).jobId = r.jobId)
    (hdone : (g r).state.done = r.state.done) (hdoomed : (g r).state ≠ .doomed)
    (hover : (g r).state.ending = true → a.IsOver r.jobId) :
    Service.Slots cfg released { a with runners := a.runners.modify task g } where
  counted := by
    intro q
    have hsame : (g r).holds q = r.holds q := by
      unfold Runner.holds
      rw [hqueue, hdone]
    show a.activeCounts q = (a.runners.modify task g).countP (Runner.holds q)
    rw [countP_modify g hr, hsame, h.counted q]
    unfold Service.unfinished
    split
    · next hholds =>
      have hpos := countP_pos_of_getElem? hr hholds
      omega
    · omega
  bounded := h.bounded
  free := h.free
  entering := by
    intro r' hr'
    rw [modify_eq_set g hr] at hr'
    rcases List.mem_or_eq_of_mem_set hr' with hmem | rfl
    · exact h.entering r' hmem
    · exact hdoomed
  ended := by
    intro r' hr' hstate
    rw [modify_eq_set g hr] at hr'
    rcases List.mem_or_eq_of_mem_set hr' with hmem | rfl
    · exact h.ended r' hmem hstate
    · rw [hid]
      exact hover hstate
  given := by
    intro task'
    rw [h.given task']
    unfold Service.isDone
    dsimp only
    rw [List.getElem?_modify]
    by_cases htask : task = task'
    · subst htask
      simp [hr, hdone]
    · simp [htask]

/-- A slot is taken together with its task. -/
theorem create (h : a.Slots cfg released) (hfree : a.activeCounts q < cfg.concurrency q)
    {callable : Bool}
    (hactive : b.activeCounts = Function.update a.activeCounts q (a.activeCounts q + 1))
    (hrunners : b.runners = a.runners ++ [⟨q, id, callable, .created⟩])
    (hdispatchers : ∀ q' id, b.dispatchers q' = some (.admission id) →
      q' ≠ q ∧ a.dispatchers q' = some (.admission id))
    (hover : ∀ r ∈ a.runners, a.IsOver r.jobId → b.IsOver r.jobId) : b.Slots cfg released where
  counted := by
    intro q'
    unfold Service.unfinished
    rw [hactive, hrunners, List.countP_append, Function.update_apply]
    have hcounted := h.counted q'
    unfold Service.unfinished at hcounted
    by_cases hq : q' = q
    · subst hq
      simp [Runner.holds, RunnerState.done, hcounted]
    · simp [Runner.holds, hq, hcounted, Ne.symm hq]
  bounded := by
    intro q'
    rw [hactive, Function.update_apply]
    split
    · next hq =>
      subst hq
      exact hfree
    · exact h.bounded q'
  free := by
    intro q' id' hdispatcher
    obtain ⟨hq, hdispatcher⟩ := hdispatchers q' id' hdispatcher
    rw [hactive, Function.update_of_ne hq]
    exact h.free q' id' hdispatcher
  entering := by
    intro r hr
    rw [hrunners] at hr
    rcases List.mem_append.mp hr with hr | hr
    · exact h.entering r hr
    · obtain rfl := List.mem_singleton.mp hr
      exact fun hstate => nomatch hstate
  ended := by
    intro r hr hstate
    rw [hrunners] at hr
    rcases List.mem_append.mp hr with hr | hr
    · exact hover r hr (h.ended r hr hstate)
    · obtain rfl := List.mem_singleton.mp hr
      cases hstate
  given := by
    intro task
    rw [h.given task]
    unfold Service.isDone
    rw [hrunners]
    by_cases hlength : task < a.runners.length
    · rw [List.getElem?_append_left hlength]
    · -- the new task has only been created
      have hlength := not_lt.mp hlength
      rw [List.getElem?_eq_none hlength, List.getElem?_append_right hlength, List.getElem?_singleton]
      by_cases hlast : task - a.runners.length = 0 <;> simp [hlast, RunnerState.done]

/-- The `finally` gives a slot back and ends the task. -/
theorem release (h : a.Slots cfg released) {task : ℕ} {r : Runner} (hr : a.runners[task]? = some r)
    (hstate : r.state = .finishing) : (releaseSlot task r a).Slots cfg (task :: released) where
  counted := by
    intro q
    have hholds : r.holds r.queue = true := by simp [Runner.holds, hstate, RunnerState.done]
    have hpos := countP_pos_of_getElem? hr hholds
    have hcounted := h.counted q
    show Function.update a.activeCounts r.queue (a.activeCounts r.queue - 1) q =
      (a.runners.modify task _).countP (Runner.holds q)
    rw [countP_modify _ hr, Function.update_apply]
    unfold Service.unfinished at hcounted
    by_cases hq : q = r.queue
    · subst hq
      simp [Runner.holds, hstate, RunnerState.done, hcounted]
    · simp [Runner.holds, hq, hcounted, Ne.symm hq]
  bounded := by
    intro q
    show Function.update a.activeCounts r.queue (a.activeCounts r.queue - 1) q ≤ _
    have hbounded := h.bounded q
    rw [Function.update_apply]
    split
    · next hq =>
      subst hq
      omega
    · exact hbounded
  free := by
    intro q id hdispatcher
    show Function.update a.activeCounts r.queue (a.activeCounts r.queue - 1) q < _
    have hdispatcher : some ((a.dispatchers q).getD .attempt) = some (.admission id) := hdispatcher
    have hfree : a.activeCounts q < cfg.concurrency q := by
      rcases hd : a.dispatchers q with _ | d
      · rw [hd] at hdispatcher
        cases hdispatcher
      · rw [hd] at hdispatcher
        obtain rfl := Option.some.inj hdispatcher
        exact h.free q id hd
    rw [Function.update_apply]
    split
    · next hq =>
      subst hq
      omega
    · exact hfree
  entering := by
    intro r' hr'
    have hr' : r' ∈ a.runners.modify task _ := hr'
    rw [modify_eq_set _ hr] at hr'
    rcases List.mem_or_eq_of_mem_set hr' with hmem | rfl
    · exact h.entering r' hmem
    · exact fun hstate => nomatch hstate
  ended := by
    intro r' hr' hover
    have hr' : r' ∈ a.runners.modify task _ := hr'
    rw [modify_eq_set _ hr] at hr'
    rcases List.mem_or_eq_of_mem_set hr' with hmem | rfl
    · exact h.ended r' hmem hover
    · refine h.ended r (List.mem_of_getElem? hr) ?_
      rw [hstate]
      rfl
  given := by
    intro task'
    have hgiven := h.given task'
    rw [List.count_cons, hgiven]
    show _ = if (a.runners.modify task _)[task']?.any _ then 1 else 0
    unfold Service.isDone
    rw [List.getElem?_modify]
    by_cases htask : task = task'
    · subst htask
      simp [hr, hstate, RunnerState.done]
    · simp [htask]

end Service.Slots

/-! ## What ends a job for good -/

/-- A record that its runner has ended stays ended. -/
theorem JobEdit.ofRunner (h : JobEdit cfg faulty s₀ step job job') (hstatus : job.status.ofRunner = true) :
    job'.status.ofRunner = true := by
  have hqueued : job.status ≠ .queued := by
    intro hqueued
    rw [hqueued] at hstatus
    cases hstatus
  cases h with
  | amend hamends =>
    rw [hamends.status]
    exact hstatus
  | move _ h => exact absurd h hqueued
  | start _ h => exact absurd h hqueued
  | endQueued _ _ h => exact absurd h hqueued
  | undatedQueued _ _ h => exact absurd h hqueued
  | finish _ _ _ _ _ _ hstatus => exact hstatus
  | undated _ _ _ _ _ _ _ hstatus => exact hstatus

/-- A job that is over stays over, unless the step draws its id. -/
theorem Edit.isOver (h : Edit cfg faulty s₀ step a b) (hnew : id ∉ step.drawn) (hover : a.IsOver id) :
    b.IsOver id := by
  intro job hjob
  have hrecord := h.record id
  rw [hjob] at hrecord
  rcases ha : a.jobs.get? id with _ | job₀
  · rw [ha] at hrecord
    cases hrecord with
    | insert hstep =>
      subst hstep
      exact absurd rfl hnew
  · rw [ha] at hrecord
    cases hrecord with
    | same => exact hover job ha
    | edit hedit => exact hedit.ofRunner (hover job₀ ha)
    | insert hstep =>
      subst hstep
      exact absurd rfl hnew

/-- A step that draws an id leaves the tasks alone. -/
theorem Edit.runners_of_drawn (h : Edit cfg faulty s₀ step a b) (hdrawn : id ∈ step.drawn) :
    b.runners = a.runners := by
  cases h with
  | reroute => exact Service.enterCloud_runners _ _ _
  | ensure => exact Service.ensureDispatcher_runners _ _
  | cancelTask => cases hdrawn
  | start => cases hdrawn
  | enter => cases hdrawn
  | outcome => cases hdrawn
  | settled => cases hdrawn
  | handled => cases hdrawn
  | release => cases hdrawn
  | attempt => cases hdrawn
  | wake => cases hdrawn
  | _ => rfl

/-! ## Dispatchers -/

theorem admission_of_setDispatcher {d : Option Dispatcher} (hd : ∀ id, d ≠ some (.admission id))
    (h : (s.setDispatcher q d).dispatchers q' = some (.admission id)) :
    q' ≠ q ∧ s.dispatchers q' = some (.admission id) := by
  have h : Function.update s.dispatchers q d q' = some (.admission id) := h
  rw [Function.update_apply] at h
  split at h
  · exact absurd h (hd id)
  · next hq => exact ⟨hq, h⟩

theorem admission_of_getD {d : Option Dispatcher} (h : some (d.getD .attempt) = some (.admission id)) :
    d = some (.admission id) := by
  rcases d with _ | d
  · cases h
  · exact h

theorem admission_of_ensureDispatcher (h : (s.ensureDispatcher q).dispatchers q' = some (.admission id)) :
    s.dispatchers q' = some (.admission id) := by
  rcases s.ensureDispatcher_eq q with heq | heq <;> rw [heq] at h
  · exact h
  · exact (admission_of_setDispatcher (by simp) h).2

/-! ## Tasks -/

/-- A live task is one of the tasks, and not done. -/
theorem Service.exists_of_liveTask {task : ℕ} (h : s.liveTask id = some task) :
    ∃ r, s.runners[task]? = some r ∧ r.state.done = false := by
  unfold Service.liveTask at h
  split at h
  · cases h
  split at h
  · cases h
  next r hr =>
  split at h
  · cases h
  · next hdone =>
    obtain rfl := Option.some.inj h
    exact ⟨r, hr, Bool.eq_false_iff.mpr hdone⟩

/-! ## Steps -/

/-- The task waits for its runner, or for the lock after the runner returned. -/
def RunnerState.interruptible : RunnerState → Bool
  | .awaiting | .completing _ => true
  | _ => false

/-- A cancellation that finds a running job with a live task finds the task waiting for its runner, or for
the lock after the runner returned. -/
def Step.CancelFits (s : Service) : Step → Prop
  | .cancel _ id _ => ∀ job task r, s.jobs.get? id = some job → job.status = .running →
      job.runningCancellationSupported = true → s.liveTask id = some task →
      s.runners[task]? = some r → r.state.interruptible = true
  | _ => True

/-- When a dispatcher takes a job, the records can be saved. -/
def Step.StartFits (cfg : Config) (s : Service) : Step → Prop
  | .decide now q admission => ∀ id e job, s.dispatchers q = some (.admission id) →
      (s.queues q).head? = some e → e.jobId = id → s.jobs.get? id = some job → job.status = .queued →
      (admission.content.get "allowed").truthy = true → cfg.statePath = true →
      ((s.takeHead now q id job).jobs.values.mapM
        (publicJobPayload cfg now (s.takeHead now q id job))).isOk = true
  | _ => True

theorem RunnerState.interruptible_cancel {state : RunnerState} (h : state.interruptible = true) :
    state.cancel.done = state.done ∧ state.cancel ≠ .doomed ∧ state.cancel.ending = false := by
  cases state <;> simp [interruptible, cancel, done, ending] at h ⊢

theorem RunnerState.leaving_afterError (state : RunnerState) (e : Exc) :
    (state.afterError e).done = false ∧ state.afterError e ≠ .doomed := by
  cases state <;> exact ⟨rfl, fun h => (nomatch h)⟩

theorem RunnerState.not_done_of_leaving {state : RunnerState} (h : state.leaving = true) :
    state.done = false := by
  cases state <;> simp [leaving, done] at h ⊢

theorem Outcome.next_live (outcome : Outcome) :
    outcome.next.done = false ∧ outcome.next ≠ .doomed ∧ outcome.next.ending = false := by
  cases outcome <;> exact ⟨rfl, fun h => (nomatch h), rfl⟩

namespace Service.Slots

theorem setDispatcher (h : a.Slots cfg released) {d : Option Dispatcher}
    (hd : ∀ id, d ≠ some (.admission id)) : (a.setDispatcher q d).Slots cfg released :=
  h.congr rfl rfl (fun _ _ h => (admission_of_setDispatcher hd h).2) fun _ _ h => h

theorem dispatchAttempt (h : a.Slots cfg released) (q : QueueKey) :
    (dispatchAttempt cfg q a).Slots cfg released := by
  rcases dispatchAttempt_cases cfg q a with ⟨heq, -⟩ | ⟨id, heq, hfree⟩ | ⟨e, heq, -⟩
  · rw [heq]
    exact h.setDispatcher fun _ h => nomatch h
  · -- the one way to an admission, with a free slot
    rw [heq]
    refine ⟨h.counted, h.bounded, fun q' id' hdispatcher => ?_, h.entering, h.ended, h.given⟩
    have hdispatcher : Function.update a.dispatchers q _ q' = some (.admission id') := hdispatcher
    rw [Function.update_apply] at hdispatcher
    split at hdispatcher
    · next hq =>
      rw [hq]
      exact hfree
    · exact h.free q' id' hdispatcher
  · rw [heq]
    exact h.congr rfl rfl (fun _ _ h => h) fun _ _ h => h

theorem enterRunner (h : a.Slots cfg released) (task : ℕ) :
    (a.enterRunner task).Slots cfg released := by
  unfold Service.enterRunner
  split
  · exact h
  next r hr =>
  split
  · next hstate =>
    refine h.modify hr rfl rfl ?_ ?_ ?_
    · rw [hstate]
      dsimp only
      split <;> rfl
    · dsimp only
      split <;> exact fun h => nomatch h
    · dsimp only
      split <;> exact fun h => nomatch h
  · next hstate => exact absurd hstate (h.entering r (List.mem_of_getElem? hr))
  · exact h

theorem endRunner (h : a.Slots cfg released) (task : ℕ) (ending : Outcome) :
    (a.endRunner task ending).Slots cfg released := by
  unfold Service.endRunner
  split
  · exact h
  next r hr =>
  obtain ⟨hdone, hdoomed, hover⟩ := ending.next_live
  split
  · next hstate =>
    refine h.modify hr rfl rfl ?_ hdoomed ?_
    · rw [hstate]
      exact hdone
    · dsimp only
      rw [hover]
      exact fun h => nomatch h
  · exact h

/-- **Every change of a step keeps the accounting**, if its cancellations and its starts fit. -/
theorem edit (hcancel : step.CancelFits s₀) (hstart : step.StartFits cfg s₀)
    (hrelease : ∀ task, step ≠ .release task)
    (hfresh : ∀ r ∈ a.runners, r.jobId ∉ step.drawn) (h : a.Slots cfg released)
    (hedit : Edit cfg faulty s₀ step a b) : b.Slots cfg released := by
  have hover : ∀ r ∈ a.runners, a.IsOver r.jobId → b.IsOver r.jobId :=
    fun r hr => hedit.isOver (hfresh r hr)
  cases hedit with
  | reroute =>
    refine h.congr ?_ (Service.enterCloud_runners _ _ _) (fun _ _ hd => ?_) hover
    · exact Service.ensureDispatcher_activeCounts _ _
    · exact admission_of_ensureDispatcher (s := (a.takeOut _ _ _).pushEntry _ _) hd
  | ensure =>
    refine h.congr (Service.ensureDispatcher_activeCounts _ _) (Service.ensureDispatcher_runners _ _)
      (fun _ _ hd => ?_) hover
    exact admission_of_ensureDispatcher hd
  | @cancelTask now id _ _ job task hjob₀ hrunning hsupported htask hrunners =>
    obtain ⟨r, hr, -⟩ := Service.exists_of_liveTask htask
    have hfits := hcancel job task r hjob₀ hrunning hsupported htask hr
    rw [← hrunners] at hr
    obtain ⟨hdone, hdoomed, hover⟩ := RunnerState.interruptible_cancel hfits
    refine h.modify hr rfl rfl hdone hdoomed ?_
    dsimp only
    rw [hover]
    exact fun h => nomatch h
  | ensureBusy =>
    refine h.congr rfl rfl (fun q id hd => ?_) hover
    have hd : (if a.queues q = [] then a.dispatchers q else some ((a.dispatchers q).getD .attempt)) =
      some (.admission id) := hd
    split at hd
    · exact hd
    · exact admission_of_getD hd
  | attempt => exact h.dispatchAttempt _
  | again => exact h.setDispatcher fun _ h => nomatch h
  | stale =>
    refine h.congr rfl rfl (fun _ _ hd => ?_) hover
    exact (admission_of_setDispatcher (s := s₀.popEntry _) (by simp) hd).2
  | @start now q admission id e job t hdispatcher hhead heid hjob hqueued hpersist =>
    have hrunners : (t.createRunner q id job).runners =
        s₀.runners ++ [⟨q, id, job.runner, .created⟩] := by
      rcases hpersist with ⟨rfl, -⟩ | rfl <;> rfl
    refine h.create (h.free q id hdispatcher) ?_ hrunners ?_ hover
    · rcases hpersist with ⟨rfl, -⟩ | rfl <;> rfl
    · intro q' id' hd
      rcases hpersist with ⟨rfl, -⟩ | rfl
      · exact admission_of_setDispatcher (s := s₀.takeHead now q id job) (by simp) hd
      · exact admission_of_setDispatcher (s := (s₀.takeHead now q id job).saved)
          (by simp) hd
  | strand hfaulty hdispatcher hhead heid hjob hqueued hpath hrecords hallowed =>
    have hok := hstart _ _ _ hdispatcher hhead heid hjob hqueued hallowed hpath
    rw [hrecords] at hok
    cases hok
  | rest => exact h.setDispatcher fun _ h => nomatch h
  | crash => exact h.setDispatcher fun _ h => nomatch h
  | register =>
    refine h.congr rfl rfl (fun _ _ hd => ?_) hover
    exact (admission_of_setDispatcher (s := s₀) (by simp) hd).2
  | wake =>
    refine h.congr ?_ ?_ (fun _ _ hd => ?_) hover
    · split
      · rfl
      · exact Service.ensureDispatcher_activeCounts _ _
    · split
      · rfl
      · exact Service.ensureDispatcher_runners _ _
    · split at hd
      · exact hd
      · exact admission_of_ensureDispatcher hd
  | enter task => exact h.enterRunner task
  | outcome task ending => exact h.endRunner task ending
  | @settled now task r _ hr hrunners hends hleaving =>
    rw [← hrunners] at hr
    exact h.modify hr rfl rfl (RunnerState.not_done_of_leaving hleaving).symm (fun h => nomatch h)
      fun _ => hends
  | @handled now task r _ e hfaulty hr hrunners hends hleaving =>
    rw [← hrunners] at hr
    obtain ⟨hdone, hdoomed⟩ := r.state.leaving_afterError e
    exact h.modify hr rfl rfl (hdone.trans (RunnerState.not_done_of_leaving hleaving).symm) hdoomed
      fun _ => hends
  | release => exact absurd rfl (hrelease _)
  | _ => exact h.congr rfl rfl (fun _ _ h => h) hover

end Service.Slots

/-! ## Runs -/

/-- A node with the tasks of its process that gave their slots back. -/
structure Audit where
  node : Node := {}
  released : List ℕ := []

/-- The task that gives its slot back in a step. -/
def Step.releases (s : Service) : Step → Option ℕ
  | .release task =>
    match s.runners[task]? with
    | some ⟨_, _, _, .finishing⟩ => some task
    | _ => none
  | _ => none

/-- A step of the node, with the slot it gives back; a start begins anew. -/
def Audit.fire (cfg : Config) (x : Audit) (step : Step) : Audit where
  node := Queue.fire cfg x.node step
  released :=
    match step with
    | .restart now recovers => if (x.node.service.restart cfg now recovers).isSome then [] else x.released
    | step => (step.releases x.node.service).toList ++ x.released

/-- The audit of a run. -/
def audit (cfg : Config) (steps : List Step) : Audit := Run.after (Audit.fire cfg) {} steps

theorem audit_node (cfg : Config) (steps : List Step) : (audit cfg steps).node = run cfg steps :=
  Run.after_map (p := Audit.node) (fun _ _ => rfl) {} steps

/-- A step fits: no task is cancelled that would leave its `finally` out, and no slot is taken without a
task. -/
def SlotsFit (cfg : Config) (n : Node) (step : Step) : Prop :=
  step.CancelFits n.service ∧ step.StartFits cfg n.service

/-- The step of a `finally` gives back the slot of its task, or does nothing. -/
theorem fire_release (cfg : Config) (task : ℕ) (s : Service) :
    (∃ r, s.runners[task]? = some r ∧ r.state = .finishing ∧
      (Step.release task).releases s = some task ∧
      s.fire cfg (.release task) = releaseSlot task r s) ∨
    ((Step.release task).releases s = none ∧ s.fire cfg (.release task) = s) := by
  unfold Step.releases Service.fire Step.body
  dsimp only
  rcases hr : s.runners[task]? with _ | ⟨q, id, callable, state⟩
  · exact Or.inr ⟨rfl, rfl⟩
  · cases state with
    | finishing => exact Or.inl ⟨_, rfl, rfl, rfl, rfl⟩
    | _ => exact Or.inr ⟨rfl, rfl⟩

/-- A step of the process keeps the accounting. -/
theorem slots_fire {fit : Prop} {drawn started : List JobId} (hsound : Sound fit drawn started s)
    (hnew : ∀ id ∈ step.drawn, id ∉ drawn) (hcancel : step.CancelFits s)
    (hstart : step.StartFits cfg s) (h : s.Slots cfg released) :
    (s.fire cfg step).Slots cfg ((step.releases s).toList ++ released) := by
  by_cases hrelease : ∃ task, step = .release task
  · obtain ⟨task, rfl⟩ := hrelease
    rcases fire_release cfg task s with ⟨r, hr, hstate, hreleases, hfire⟩ | ⟨hreleases, hfire⟩
    · rw [hreleases, hfire]
      exact h.release hr hstate
    · rw [hreleases, hfire]
      exact h
  · have hrelease : ∀ task, step ≠ .release task := fun task heq => hrelease ⟨task, heq⟩
    have hreleases : step.releases s = none := by
      cases step with
      | release task => exact absurd rfl (hrelease task)
      | _ => rfl
    rw [hreleases]
    -- while an id is drawn, no task is created
    have hkeep := (fire_edited cfg s step).keeps (I := fun t => t.Slots cfg released ∧
        ∀ r ∈ t.runners, r.jobId ∉ step.drawn) ⟨h, fun r hr hmem => ?_⟩ fun a b ha hedit => ?_
    · exact hkeep.1
    · exact hnew _ hmem (hsound.known.runners r hr)
    · refine ⟨ha.1.edit hcancel hstart hrelease ha.2 hedit, fun r hr hmem => ?_⟩
      rw [hedit.runners_of_drawn hmem] at hr
      exact ha.2 r hr hmem

/-- What a process has after its start. -/
theorem slots_restart {drawn started : List JobId} {recovers : JobId → Bool} {fit : Prop}
    (hsound : Sound fit drawn started s) (hrestart : s.restart cfg now recovers = some s') :
    s'.Slots cfg [] := by
  rcases restart_eq_some hsound.known.fileDistinct hrestart with ⟨-, records, -, hrecovered⟩ | ⟨-, rfl⟩
  · exact hrecovered.idle.slots
  · exact (idle_initial _).slots

/-- A step of the node keeps the accounting. -/
theorem slots_audit {x : Audit} (hsound : NodeSound False x.node) (hfits : SlotsFit cfg x.node step)
    (h : x.node.service.Slots cfg x.released) :
    (x.fire cfg step).node.service.Slots cfg (x.fire cfg step).released := by
  by_cases hrestart : ∃ now recovers, step = .restart now recovers
  · obtain ⟨now, recovers, rfl⟩ := hrestart
    show (Queue.fire cfg x.node (.restart now recovers)).service.Slots cfg
      (if (x.node.service.restart cfg now recovers).isSome then [] else x.released)
    rcases hs : x.node.service.restart cfg now recovers with _ | s
    · rw [fire_restart_of_none hs]
      exact h
    · rw [fire_restart_of_some hs]
      exact slots_restart hsound.sound hs
  have hreleased : (x.fire cfg step).released = (step.releases x.node.service).toList ++ x.released := by
    unfold Audit.fire
    dsimp only
    split
    · exact absurd ⟨_, _, rfl⟩ hrestart
    · rfl
  rw [hreleased]
  show (Queue.fire cfg x.node step).service.Slots cfg _
  unfold Queue.fire
  split
  · exact absurd ⟨_, _, rfl⟩ hrestart
  split
  · next hdrawn =>
    -- a new id that was drawn before
    obtain ⟨id, hid, -⟩ := hdrawn
    have hreleases : step.releases x.node.service = none := by
      cases step with
      | release => cases hid
      | _ => rfl
    rw [hreleases]
    exact h
  · next hdrawn =>
    exact slots_fire hsound.sound (fun id hid hmem => hdrawn ⟨id, hid, hmem⟩) hfits.1 hfits.2 h

/-- The slots taken are those of the unfinished tasks, and at most as many as there are; a job whose task is
done has ended, unless its record is deleted already, and has given its slot back once. -/
structure SlotsAgree (cfg : Config) (x : Audit) : Prop where
  counted : ∀ q, x.node.service.activeCounts q = x.node.service.unfinished q
  bounded : ∀ q, x.node.service.activeCounts q ≤ cfg.concurrency q
  ended : ∀ task r, x.node.service.runners[task]? = some r → r.state.done = true →
    x.released.count task = 1 ∧
      ∀ job, x.node.service.jobs.get? r.jobId = some job → job.status.ofRunner = true

/-- A job that is cancelled while its runner works. -/
def cancelledRun : List Step := [
  .enqueue 1767225600000000 1 { queue := "cloud", importance := "high", runningCancellationSupported := true },
  .attempt .cloud,
  .decide 1767225600000000 .cloud { content := [("allowed", .bool true)] },
  .register .cloud,
  .enter 0,
  .cancel 1767225600000000 1 none,
  .outcome 0 .cancelled,
  .settle 1767225600000000 0,
  .release 0]

/-- A job that is cancelled between the registration of its task and the first step of the task. -/
def leakingRun : List Step := [
  .enqueue 1767225600000000 1 { queue := "cloud", importance := "high", runningCancellationSupported := true },
  .attempt .cloud,
  .decide 1767225600000000 .cloud { content := [("allowed", .bool true)] },
  .register .cloud,
  .cancel 1767225600000000 1 none,
  .enter 0]

end Queue
end HexeAiNode
