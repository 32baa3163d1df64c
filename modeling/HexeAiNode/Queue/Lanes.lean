import HexeAiNode.Queue.Slots
import HexeAiNode.Queue.Starts

/-!
# Runtime lanes

The lane contract bounds the running jobs of a runtime lane, and the diagnostics of the queue repeat it.  The
dispatchers do not look at lanes.  Each of them keeps the slots of its own queue below the concurrency of the
queue, and no slot is given back before the task that took it (`Service.Slotted`); so a lane is kept as long
as its jobs are dispatched from one queue that has no more slots than the lane, and every running job still
has its task (`Service.LaneFree`).

Several queues share a lane, the concurrency of a queue is a setting, and a job whose task was cancelled
before its last block runs in the table for ever: each of these ways breaks the contract.
-/

namespace HexeAiNode
namespace Queue

open Py Execution StoreAction

variable {cfg : Config} {now : ℤ} {faulty : Prop} {s₀ s s' a b : Service} {step : Step}
  {id : JobId} {job job' : Job} {q : QueueKey} {admission : Payload} {lane : RuntimeLane}

/-! ## The lane contract -/

/-- `LANE_CAPACITY[lane]["max_active"]`. -/
def maxActive : RuntimeLane → ℕ
  | .cloud => 1
  | .textLlm => 1
  | .visionLlm => 1
  | .visualGpu => 1
  | .visualCpu => 1
  | .trainingRuntime => 1

/-- The job is running, and the lane is its own. -/
structure Service.RunsOn (s : Service) (lane : RuntimeLane) (id : JobId) (job : Job) : Prop where
  record : s.jobs.get? id = some job
  running : job.status = .running
  lane : job.runtimeLane = lane

/-- The running jobs of a lane. -/
def Service.runningOn (lane : RuntimeLane) (s : Service) : List JobId :=
  (s.jobs.entries.filter fun e => e.2.status = .running && e.2.runtimeLane = lane).map Prod.fst

/-- No lane runs more jobs than its capacity. -/
def Service.LanesFit (s : Service) : Prop := ∀ lane, (s.runningOn lane).length ≤ maxActive lane

/-- A job may start on its lane: no other queue runs a job of the lane, and this one has no more slots than
the lane, all of them held by tasks, or runs no job of the lane. -/
structure Service.LaneFree (cfg : Config) (s : Service) (job : Job) : Prop where
  elsewhere : ∀ id other, s.RunsOn job.runtimeLane id other → other.queue = job.queue
  here : (cfg.concurrency job.queue ≤ maxActive job.runtimeLane ∧
      ∀ id other, s.RunsOn job.runtimeLane id other →
        ∃ r ∈ s.runners, r.jobId = id ∧ r.holds job.queue = true) ∨
    ∀ id other, s.RunsOn job.runtimeLane id other → other.queue ≠ job.queue

/-- The step takes no job, or one whose lane is free. -/
def Step.FitsLane (cfg : Config) (s : Service) (step : Step) : Prop :=
  ∀ job, step.takes s = some job → s.LaneFree cfg job

/-! ## Counting the jobs of a lane -/

theorem mem_runningOn_iff : id ∈ s.runningOn lane ↔ ∃ job, s.RunsOn lane id job := by
  unfold Service.runningOn
  rw [List.mem_map]
  constructor
  · rintro ⟨⟨id, job⟩, hmem, rfl⟩
    obtain ⟨hentry, hrun⟩ := List.mem_filter.mp hmem
    simp only [Bool.and_eq_true, decide_eq_true_eq] at hrun
    exact ⟨job, OrderedDict.get?_of_mem_entries hentry, hrun.1, hrun.2⟩
  · rintro ⟨job, hrecord, hrun, hlane⟩
    refine ⟨(id, job), List.mem_filter.mpr ⟨Assoc.mem_of_get? hrecord, ?_⟩, rfl⟩
    simp [hrun, hlane]

theorem nodup_runningOn (lane : RuntimeLane) (s : Service) : (s.runningOn lane).Nodup :=
  s.jobs.distinct.sublist (List.filter_sublist.map Prod.fst)

/-- A lane runs no more jobs than before. -/
theorem length_runningOn_le (h : ∀ id ∈ s'.runningOn lane, id ∈ s.runningOn lane) :
    (s'.runningOn lane).length ≤ (s.runningOn lane).length :=
  (List.subperm_of_subset (nodup_runningOn lane s') h).length_le

/-- A job starts on its lane. -/
theorem length_runningOn_start (hqueued : s.jobs.get? id = some job) (hstatus : job.status = .queued)
    (hjobs : s'.jobs = s.jobs.set id (startedJob now job)) :
    (s'.runningOn job.runtimeLane).length = (s.runningOn job.runtimeLane).length + 1 := by
  have hnew : id ∉ s.runningOn job.runtimeLane := by
    intro hmem
    obtain ⟨job', hrun⟩ := mem_runningOn_iff.mp hmem
    obtain rfl := Option.some.inj (hqueued.symm.trans hrun.record)
    have hrunning := hrun.running
    rw [hstatus] at hrunning
    cases hrunning
  have hperm : (s'.runningOn job.runtimeLane).Perm (id :: s.runningOn job.runtimeLane) := by
    refine (List.perm_ext_iff_of_nodup (nodup_runningOn _ _)
      (List.nodup_cons.mpr ⟨hnew, nodup_runningOn _ _⟩)).mpr fun id' => ?_
    rw [List.mem_cons, mem_runningOn_iff, mem_runningOn_iff]
    constructor
    · rintro ⟨job', hrecord, hrun, hlane⟩
      rw [hjobs, OrderedDict.get?_set] at hrecord
      split at hrecord
      · next heq => exact Or.inl heq
      · exact Or.inr ⟨job', hrecord, hrun, hlane⟩
    · rintro (rfl | ⟨job', hrecord, hrun, hlane⟩)
      · refine ⟨startedJob now job, ?_, rfl, rfl⟩
        rw [hjobs, OrderedDict.get?_set_self]
      · refine ⟨job', ?_, hrun, hlane⟩
        rw [hjobs, OrderedDict.get?_set_of_ne]
        · exact hrecord
        · rintro rfl
          exact hnew (mem_runningOn_iff.mpr ⟨job', hrecord, hrun, hlane⟩)
  rw [hperm.length_eq, List.length_cons]

/-! ## Slots and tasks -/

/-- The unfinished tasks of a queue hold slots of it, and a dispatcher that waits for a verdict has seen a free
one. -/
structure Service.Slotted (cfg : Config) (s : Service) : Prop where
  held : ∀ q, s.unfinished q ≤ s.activeCounts q
  free : ∀ q id, s.dispatchers q = some (.admission id) → s.activeCounts q < cfg.concurrency q

theorem Service.Idle.slotted (h : s.Idle) : s.Slotted cfg where
  held := by
    intro q
    unfold Service.unfinished
    rw [h.runners]
    exact Nat.zero_le _
  free := by
    intro q id hdispatcher
    rw [h.dispatchers] at hdispatcher
    cases hdispatcher

namespace Service.Slotted

theorem congr (h : a.Slotted cfg) (hactive : b.activeCounts = a.activeCounts)
    (hrunners : ∀ q, b.unfinished q ≤ a.unfinished q)
    (hdispatchers : ∀ q id, b.dispatchers q = some (.admission id) →
      a.dispatchers q = some (.admission id)) : b.Slotted cfg where
  held := by
    intro q
    rw [hactive]
    exact (hrunners q).trans (h.held q)
  free := by
    intro q id hdispatcher
    rw [hactive]
    exact h.free q id (hdispatchers q id hdispatcher)

/-- A task goes on, or ends without giving its slot back. -/
theorem modify (h : a.Slotted cfg) {task : ℕ} {r : Runner} (hr : a.runners[task]? = some r)
    {g : Runner → Runner} (hqueue : (g r).queue = r.queue)
    (hdone : r.state.done = true → (g r).state.done = true) :
    Service.Slotted cfg { a with runners := a.runners.modify task g } := by
  refine h.congr rfl (fun q => ?_) fun _ _ hd => hd
  have hholds : (g r).holds q = true → r.holds q = true := by
    unfold Runner.holds
    simp only [Bool.and_eq_true, decide_eq_true_eq, Bool.not_eq_true', hqueue]
    exact fun hg => ⟨hg.1, Bool.eq_false_iff.mpr fun hr' => by simp [hdone hr'] at hg⟩
  show (a.runners.modify task g).countP (Runner.holds q) ≤ a.runners.countP (Runner.holds q)
  rw [countP_modify g hr]
  by_cases hg : (g r).holds q = true
  · have hpos := countP_pos_of_getElem? hr (hholds hg)
    rw [if_pos hg, if_pos (hholds hg)]
    omega
  · rw [if_neg hg]
    omega

/-- A slot is taken, with a task or without one. -/
theorem take (h : a.Slotted cfg) (q : QueueKey) (id : JobId)
    (hactive : b.activeCounts = Function.update a.activeCounts q (a.activeCounts q + 1))
    (hrunners : b.runners = a.runners ∨
      ∃ callable, b.runners = a.runners ++ [⟨q, id, callable, .created⟩])
    (hdispatchers : ∀ q' id, b.dispatchers q' = some (.admission id) →
      q' ≠ q ∧ a.dispatchers q' = some (.admission id)) : b.Slotted cfg where
  held := by
    intro q'
    have hheld := h.held q'
    unfold Service.unfinished at hheld ⊢
    rw [hactive, Function.update_apply]
    rcases hrunners with hrunners | ⟨callable, hrunners⟩
    · rw [hrunners]
      split
      · next hq =>
        subst hq
        omega
      · exact hheld
    · rw [hrunners, List.countP_append]
      by_cases hq : q' = q
      · subst hq
        simpa [Runner.holds, RunnerState.done] using hheld
      · simpa [Runner.holds, hq, Ne.symm hq] using hheld
  free := by
    intro q' id' hdispatcher
    obtain ⟨hq, hdispatcher⟩ := hdispatchers q' id' hdispatcher
    rw [hactive, Function.update_of_ne hq]
    exact h.free q' id' hdispatcher

/-- The `finally` gives a slot back and ends the task. -/
theorem release (h : a.Slotted cfg) {task : ℕ} {r : Runner} (hr : a.runners[task]? = some r)
    (hstate : r.state = .finishing) : (releaseSlot task r a).Slotted cfg where
  held := by
    intro q
    have hholds : r.holds r.queue = true := by simp [Runner.holds, hstate, RunnerState.done]
    have hpos := countP_pos_of_getElem? hr hholds
    have hheld := h.held q
    show (a.runners.modify task _).countP (Runner.holds q) ≤
      Function.update a.activeCounts r.queue (a.activeCounts r.queue - 1) q
    rw [countP_modify _ hr, Function.update_apply]
    unfold Service.unfinished at hheld
    by_cases hq : q = r.queue
    · subst hq
      simp [Runner.holds, hstate, RunnerState.done]
      omega
    · simpa [Runner.holds, hq, Ne.symm hq] using hheld
  free := by
    intro q id hdispatcher
    have hfree := h.free q id (admission_of_getD hdispatcher)
    show Function.update a.activeCounts r.queue (a.activeCounts r.queue - 1) q < _
    rw [Function.update_apply]
    split
    · next hq =>
      subst hq
      omega
    · exact hfree

theorem setDispatcher (h : a.Slotted cfg) {d : Option Dispatcher} (hd : ∀ id, d ≠ some (.admission id)) :
    (a.setDispatcher q d).Slotted cfg :=
  h.congr rfl (fun _ => le_rfl) fun _ _ hdispatcher => (admission_of_setDispatcher hd hdispatcher).2

theorem dispatchAttempt (h : a.Slotted cfg) (q : QueueKey) : (dispatchAttempt cfg q a).Slotted cfg := by
  rcases dispatchAttempt_cases cfg q a with ⟨heq, -⟩ | ⟨id, heq, hfree⟩ | ⟨e, heq, -⟩
  · rw [heq]
    exact h.setDispatcher fun _ h => nomatch h
  · -- the one way to an admission, with a free slot
    rw [heq]
    refine ⟨h.held, fun q' id' hdispatcher => ?_⟩
    have hdispatcher : Function.update a.dispatchers q _ q' = some (.admission id') := hdispatcher
    rw [Function.update_apply] at hdispatcher
    split at hdispatcher
    · next hq =>
      rw [hq]
      exact hfree
    · exact h.free q' id' hdispatcher
  · rw [heq]
    exact h.congr rfl (fun _ => le_rfl) fun _ _ hd => hd

theorem enterRunner (h : a.Slotted cfg) (task : ℕ) : (a.enterRunner task).Slotted cfg := by
  unfold Service.enterRunner
  split
  · exact h
  next r hr =>
  split
  · next hstate => exact h.modify hr rfl fun hdone => by rw [hstate] at hdone; cases hdone
  · exact h.modify hr rfl fun _ => rfl
  · exact h

theorem endRunner (h : a.Slotted cfg) (task : ℕ) (ending : Outcome) :
    (a.endRunner task ending).Slotted cfg := by
  unfold Service.endRunner
  split
  · exact h
  next r hr =>
  split
  · next hstate => exact h.modify hr rfl fun hdone => by rw [hstate] at hdone; cases hdone
  · exact h

/-- **Every change of a step keeps the slots**, but for one: a verdict whose records cannot be saved leaves
its dispatcher waiting with a slot taken, until the dispatcher ends. -/
theorem edit (h : a.Slotted cfg) (hedit : Edit cfg faulty s₀ step a b)
    (hstep : faulty → ∀ now q admission, step ≠ .decide now q admission) : b.Slotted cfg := by
  cases hedit with
  | reroute =>
    refine h.congr (Service.ensureDispatcher_activeCounts _ _) (fun q => ?_) fun _ _ hd => ?_
    · unfold Service.unfinished
      rw [Service.enterCloud_runners]
      exact le_rfl
    · exact admission_of_ensureDispatcher (s := (a.takeOut _ _ _).pushEntry _ _) hd
  | ensure =>
    refine h.congr (Service.ensureDispatcher_activeCounts _ _) (fun q => ?_) fun _ _ hd => ?_
    · unfold Service.unfinished
      rw [Service.ensureDispatcher_runners]
    · exact admission_of_ensureDispatcher hd
  | @cancelTask _ _ _ _ _ task _ _ _ htask hrunners =>
    obtain ⟨r, hr, hdone⟩ := Service.exists_of_liveTask htask
    rw [← hrunners] at hr
    refine h.modify hr rfl fun hdone' => ?_
    rw [hdone] at hdone'
    cases hdone'
  | ensureBusy =>
    refine h.congr rfl (fun _ => le_rfl) fun q id hd => ?_
    have hd : (if a.queues q = [] then a.dispatchers q else some ((a.dispatchers q).getD .attempt)) =
      some (.admission id) := hd
    split at hd
    · exact hd
    · exact admission_of_getD hd
  | attempt => exact h.dispatchAttempt _
  | again => exact h.setDispatcher fun _ h => nomatch h
  | stale =>
    refine h.congr rfl (fun _ => le_rfl) fun _ _ hd => ?_
    exact (admission_of_setDispatcher (s := s₀.popEntry _) (by simp) hd).2
  | @start now q admission id e job t hdispatcher hhead heid hjob hqueued hpersist =>
    refine h.take q id ?_ (Or.inr ⟨job.runner, ?_⟩) ?_
    · rcases hpersist with ⟨rfl, -⟩ | rfl <;> rfl
    · rcases hpersist with ⟨rfl, -⟩ | rfl <;> rfl
    · intro q' id' hd
      rcases hpersist with ⟨rfl, -⟩ | rfl
      · exact admission_of_setDispatcher (s := s₀.takeHead now q id job) (by simp) hd
      · exact admission_of_setDispatcher (s := (s₀.takeHead now q id job).saved) (by simp) hd
  | strand hfaulty => exact absurd rfl (hstep hfaulty _ _ _)
  | rest => exact h.setDispatcher fun _ h => nomatch h
  | crash => exact h.setDispatcher fun _ h => nomatch h
  | register =>
    refine h.congr rfl (fun _ => le_rfl) fun _ _ hd => ?_
    exact (admission_of_setDispatcher (s := s₀) (by simp) hd).2
  | wake =>
    split
    · exact h
    · refine h.congr (Service.ensureDispatcher_activeCounts _ _) (fun q => ?_) fun _ _ hd => ?_
      · unfold Service.unfinished
        rw [Service.ensureDispatcher_runners]
      · exact admission_of_ensureDispatcher hd
  | enter task => exact h.enterRunner task
  | outcome task ending => exact h.endRunner task ending
  | @settled now task r _ hr hrunners hends hleaving =>
    rw [← hrunners] at hr
    refine h.modify hr rfl fun hdone => ?_
    rw [RunnerState.not_done_of_leaving hleaving] at hdone
    cases hdone
  | @handled now task r _ e hfaulty hr hrunners hends hleaving =>
    rw [← hrunners] at hr
    refine h.modify hr rfl fun hdone => ?_
    rw [RunnerState.not_done_of_leaving hleaving] at hdone
    cases hdone
  | release hr hstate => exact h.release hr hstate
  | _ => exact h.congr rfl (fun _ => le_rfl) fun _ _ hd => hd

theorem edited (h : s₀.Slotted cfg) (hs : Edited cfg faulty s₀ step s)
    (hstep : faulty → ∀ now q admission, step ≠ .decide now q admission) : s.Slotted cfg :=
  hs.keeps h fun _ _ ha hedit => ha.edit hedit hstep

/-- A verdict that raises ends its dispatcher. -/
theorem ofFault (h : s₀.Slotted cfg) (hfault : Fault cfg s₀ (.decide now q admission) s) :
    (s.setDispatcher q none).Slotted cfg := by
  have hedited : Edited cfg False s₀ (.decide now q admission) s → (s.setDispatcher q none).Slotted cfg :=
    fun hs => (h.edited hs False.elim).setDispatcher fun _ h => nomatch h
  cases hfault with
  | unbuilt _ hs => exact hedited hs
  | boundary hnow => cases hnow
  | orphan hnow => cases hnow
  | undatedQueued hnow => cases hnow
  | @strand _ _ _ id e job error =>
    exact h.take q id rfl (Or.inl rfl) fun _ _ hd =>
      admission_of_setDispatcher (s := s₀.takeHead now q id job) (by simp) hd
  | undelayed hs => exact hedited hs

/-- **A step keeps the slots.** -/
theorem fire (h : s.Slotted cfg) (step : Step) : (s.fire cfg step).Slotted cfg := by
  by_cases hraises : step.Raises cfg s
  · obtain ⟨e, t, hexec, hfault⟩ := fault_of_raises hraises
    by_cases hdecide : ∃ now q admission, step = .decide now q admission
    · obtain ⟨now, q, admission, rfl⟩ := hdecide
      have hfire : s.fire cfg (.decide now q admission) = t.setDispatcher q none := by
        unfold Service.fire store
        rw [exec_recover, hexec]
        rfl
      rw [hfire]
      exact h.ofFault hfault
    · exact h.edited (fire_edited cfg s step) fun _ now q admission heq => hdecide ⟨now, q, admission, heq⟩
  · exact h.edited (fire_edited_of_not_raises hraises) False.elim

end Service.Slotted

/-- The invariants along a run. -/
structure NodeSlotted (cfg : Config) (n : Node) : Prop where
  sound : NodeSound False n
  slotted : n.service.Slotted cfg

theorem nodeSlotted_initial : NodeSlotted cfg {} :=
  ⟨nodeSound_initial, Service.Idle.slotted ⟨rfl, rfl, rfl, rfl⟩⟩

/-- What a start leaves: no task, and no running job. -/
theorem idle_of_restart {n : Node} {recovers : JobId → Bool} (hsound : NodeSound False n)
    (hrestart : n.service.restart cfg now recovers = some s') :
    s'.Idle ∧ ∀ id job, s'.jobs.get? id = some job → job.status ≠ .running := by
  rcases restart_eq_some hsound.sound.known.fileDistinct hrestart with
    ⟨-, records, -, hrecovered⟩ | ⟨-, rfl⟩
  · refine ⟨hrecovered.idle, fun id job hget => ?_⟩
    obtain ⟨record, -, -, rfl, -⟩ := hrecovered.get?_iff.mp hget
    exact Job.recovered_ne_running
  · exact ⟨idle_initial _, fun _ _ hget => nomatch hget⟩

theorem NodeSlotted.fire {n : Node} (h : NodeSlotted cfg n) (step : Step) :
    NodeSlotted cfg (fire cfg n step) := by
  refine ⟨h.sound.fire False.elim, ?_⟩
  rcases fire_cases cfg n step with heq | ⟨now, recovers, s, -, hs, heq⟩ | ⟨-, heq⟩ <;> rw [heq]
  · exact h.slotted
  · exact (idle_of_restart h.sound hs).1.slotted
  · exact h.slotted.fire step

/-! ## The capacity of a lane -/

/-- A lane that is free runs no job. -/
theorem Service.LaneFree.runs_none (h : s.LaneFree cfg job) (hslotted : s.Slotted cfg)
    (hasked : s.dispatchers job.queue = some (.admission id)) (id' : JobId) (other : Job) :
    ¬s.RunsOn job.runtimeLane id' other := by
  intro hrun
  rcases h.here with ⟨hconcurrency, htasks⟩ | hnone
  · -- the one slot of the queue is free, but the task of the other job holds it
    obtain ⟨r, hr, -, hholds⟩ := htasks id' other hrun
    have hunfinished : 0 < s.unfinished job.queue := List.countP_pos_iff.mpr ⟨r, hr, hholds⟩
    have hheld := hslotted.held job.queue
    have hfree := hslotted.free job.queue id hasked
    have hone : maxActive job.runtimeLane = 1 := by cases job.runtimeLane <;> rfl
    omega
  · exact hnone id' other hrun (h.elsewhere id' other hrun)

/-- **One step**: the lanes fit after it exactly when the lane of the job it takes was free. -/
theorem lanesFit_fire_iff {n : Node} (h : NodeSlotted cfg n) (hfit : n.service.LanesFit) (step : Step) :
    (fire cfg n step).service.LanesFit ↔ step.FitsLane cfg n.service := by
  have hone : ∀ lane, maxActive lane = 1 := by
    intro lane
    cases lane <;> rfl
  rcases htakes : step.takes n.service with _ | job
  · refine ⟨fun _ job hjob => ?_, fun _ lane => ?_⟩
    · rw [htakes] at hjob
      cases hjob
    · have hrest : ∀ id ∈ (Queue.fire cfg n step).service.runningOn lane,
          id ∈ n.service.runningOn lane := by
        intro id hid
        rw [mem_runningOn_iff] at hid ⊢
        obtain ⟨job, hrun⟩ := hid
        rcases fire_cases cfg n step with heq | ⟨now, recovers, s, -, hs, heq⟩ | ⟨-, heq⟩ <;>
          rw [heq] at hrun
        · exact ⟨job, hrun⟩
        · exact absurd hrun.running ((idle_of_restart h.sound hs).2 id job hrun.record)
        · obtain ⟨job₀, hjob₀, hsub, -, hrun₀⟩ :=
            resumes_fire_of_not_takes htakes id job hrun.record hrun.running
          exact ⟨job₀, hjob₀, hrun₀, (congrArg Submission.runtimeLane hsub).symm.trans hrun.lane⟩
      exact (length_runningOn_le hrest).trans (hfit lane)
  · obtain ⟨now, q, admission, id, rfl, ht⟩ := takes_eq_some htakes
    have hjobs : (Queue.fire cfg n (.decide now q admission)).service.jobs =
        n.service.jobs.set id (startedJob now job) := jobs_fire_of_takes ht
    have hlength := length_runningOn_start ht.record ht.queued hjobs
    have hqueue : job.queue = q := by
      obtain ⟨e, he, heid⟩ := ht.head
      obtain ⟨job', hjob', -, hq, -⟩ := h.sound.sound.agrees.listed q e (List.mem_of_mem_head? he)
      rw [heid] at hjob'
      obtain rfl := Option.some.inj (ht.record.symm.trans hjob')
      exact hq
    constructor
    · intro hfits job' hjob'
      obtain rfl := Option.some.inj (htakes.symm.trans hjob')
      -- there was room for one job, so nothing was running
      have hlane := hfits job.runtimeLane
      rw [hlength, hone] at hlane
      have hnone : ∀ id other, ¬n.service.RunsOn job.runtimeLane id other := by
        intro id' other hrun
        have hpos := List.length_pos_of_mem (mem_runningOn_iff.mpr ⟨other, hrun⟩)
        omega
      exact ⟨fun id' other hrun => absurd hrun (hnone id' other),
        Or.inr fun id' other hrun => absurd hrun (hnone id' other)⟩
    · intro hfits lane
      have hasked : n.service.dispatchers job.queue = some (.admission id) := by
        rw [hqueue]
        exact ht.asked
      have hnone := (hfits job htakes).runs_none h.slotted hasked
      by_cases hlane : lane = job.runtimeLane
      · subst hlane
        have hempty : n.service.runningOn job.runtimeLane = [] := by
          refine List.eq_nil_iff_forall_not_mem.mpr fun id' hid' => ?_
          obtain ⟨other, hrun⟩ := mem_runningOn_iff.mp hid'
          exact hnone id' other hrun
        rw [hlength, hempty, hone]
        rfl
      · refine (length_runningOn_le fun id' hid' => ?_).trans (hfit lane)
        rw [mem_runningOn_iff] at hid' ⊢
        obtain ⟨other, hrecord, hrun, hother⟩ := hid'
        rw [hjobs, OrderedDict.get?_set] at hrecord
        split at hrecord
        · obtain rfl := Option.some.inj hrecord
          exact absurd hother.symm hlane
        · exact ⟨other, hrecord, hrun, hother⟩

/-- **Runtime lane capacity**: in every state that a run reaches no lane runs more jobs than its capacity,
exactly when the lane of every job that is taken was free. -/
theorem lanes_fit_iff (cfg : Config) (steps : List Step) :
    (∀ before, before <+: steps → (run cfg before).service.LanesFit) ↔
      Run.Along (fire cfg) (fun n step => step.FitsLane cfg n.service) {} steps := by
  constructor
  · intro h
    exact Run.along_of_prefixes h nodeSlotted_initial (fun n step hn => hn.fire step)
      fun n step hn hfit hfits => (lanesFit_fire_iff hn hfit step).mp hfits
  · rintro h before ⟨after, rfl⟩
    have hinitial : Service.LanesFit {} := fun lane => Nat.zero_le _
    refine ((Run.along_append.mp h).1.keeps (I := fun n => NodeSlotted cfg n ∧ n.service.LanesFit)
      ⟨nodeSlotted_initial, hinitial⟩ fun n step hn hfree => ?_).2
    exact ⟨hn.1.fire step, (lanesFit_fire_iff hn.1 hn.2 step).mpr hfree⟩

/-- Two jobs for the text model, one on the queue `local` and one on the queue `text_llm`. -/
def textJobs : List Step := [
  .enqueue 1767225600000000 1 { queue := "local", importance := "normal" },
  .enqueue 1767225600000000 2 { queue := "text_llm", importance := "normal" },
  .attempt .localNode,
  .attempt .textLlm,
  .decide 1767225600000000 .localNode { content := [("allowed", .bool true)] },
  .decide 1767225600000000 .textLlm { content := [("allowed", .bool true)] }]

/-- The verdict of the lane admission, if the step hears one, lets the job through. -/
def Step.admits : Step → Bool
  | .decide _ _ admission => (admission.content.get "allowed").truthy
  | _ => true

/-- Both run at once. -/
theorem textJobs_share_lane : textJobs.all Step.admits = true ∧ ¬(run {} textJobs).service.LanesFit := by
  refine ⟨by decide, fun h => ?_⟩
  have htext := h .textLlm
  revert htext
  decide +kernel

end Queue
end HexeAiNode
