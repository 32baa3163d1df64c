import Mathlib.Logic.Relation
import HexeAiNode.Queue.Blocks

/-!
# What a step can do to the service

`Edit` lists the changes that the blocks of a step are made of, with the circumstances under which the
code makes them; `fire_edited` says that a step is a sequence of them.  An invariant of the queue is then
a question about each change.

Some changes are made only by a block that raises: they ask for `faulty`.  A step that does not raise is
a sequence of the others (`fire_edited_of_not_raises`).
-/

namespace HexeAiNode
namespace Queue

open Py Execution StoreAction

variable {cfg : Config} {now : ℤ} {faulty : Prop} {s₀ s s' : Service} {step : Step}
  {id : JobId} {job job' : Job}

/-! ## What a deadline pass leaves alone -/

/-- A pass, and the numbering of a new job before it, leave the slots, the tasks and the running jobs
alone; a local job that is still queued has not been touched. -/
structure Service.Passed (s₀ s : Service) : Prop where
  activeCounts : s.activeCounts = s₀.activeCounts
  runners : s.runners = s₀.runners
  running : ∀ id job, s.jobs.get? id = some job → job.status = .running → s₀.jobs.get? id = some job
  waiting : ∀ id job, s.jobs.get? id = some job → job.status = .queued → job.queue = .localNode →
    s₀.jobs.get? id = some job
  tasks : ∀ id task, s.runningTasks.get? id = some task → s₀.runningTasks.get? id = some task
  known : ∀ id, s₀.jobs.get? id = none → s.jobs.get? id = none

namespace Service.Passed

theorem refl (s : Service) : s.Passed s :=
  ⟨rfl, rfl, fun _ _ h _ => h, fun _ _ h _ _ => h, fun _ _ h => h, fun _ h => h⟩

theorem saved (h : s₀.Passed s) : s₀.Passed s.saved :=
  ⟨h.activeCounts, h.runners, h.running, h.waiting, h.tasks, h.known⟩

theorem number (h : s₀.Passed s) (n : ℕ) : s₀.Passed { s with nextSequence := n } :=
  ⟨h.activeCounts, h.runners, h.running, h.waiting, h.tasks, h.known⟩

theorem dropJobs (h : s₀.Passed s) (ids : List JobId) : s₀.Passed (s.dropJobs ids) := by
  have hkept : ∀ id job, (s.dropJobs ids).jobs.get? id = some job → s.jobs.get? id = some job := by
    intro id job hget
    rw [Service.get?_dropJobs] at hget
    split at hget
    · cases hget
    · exact hget
  refine ⟨h.activeCounts, h.runners, fun id job hget => h.running id job (hkept id job hget),
    fun id job hget => h.waiting id job (hkept id job hget), fun id task htask => h.tasks id task ?_,
    fun id hnone => ?_⟩
  · have htask : (s.runningTasks.eraseAll ids).get? id = some task := htask
    rw [OrderedDict.get?_eraseAll] at htask
    split at htask
    · cases htask
    · exact htask
  · rw [Service.get?_dropJobs]
    split
    · rfl
    · exact h.known id hnone

/-- A queued job leaves its heap, and is afterwards neither running nor queued locally. -/
theorem takeOut (h : s₀.Passed s) (hjob : s.jobs.get? id = some job)
    (hrunning : job'.status ≠ .running)
    (hwaiting : job'.status = .queued → job'.queue ≠ .localNode) :
    s₀.Passed (s.takeOut id job job') := by
  refine ⟨h.activeCounts, h.runners, ?_, ?_, h.tasks, fun id' hnone => ?_⟩
  · intro id' j hget hj
    rw [Service.get?_takeOut] at hget
    split at hget
    · obtain rfl := Option.some.inj hget
      exact absurd hj hrunning
    · exact h.running id' j hget hj
  · intro id' j hget hj hlocal
    rw [Service.get?_takeOut] at hget
    split at hget
    · obtain rfl := Option.some.inj hget
      exact absurd hlocal (hwaiting hj)
    · exact h.waiting id' j hget hj hlocal
  · rw [Service.get?_takeOut, if_neg]
    · exact h.known id' hnone
    · rintro rfl
      rw [h.known id' hnone] at hjob
      cases hjob

theorem enterCloud (h : s₀.Passed s) (job : Job) (key : WithTop ℚ) :
    s₀.Passed (s.enterCloud job key) := by
  have hensure : ∀ t : Service, s₀.Passed t → s₀.Passed (t.ensureDispatcher .cloud) := by
    intro t ht
    unfold Service.ensureDispatcher
    split
    · exact ht
    · exact ⟨ht.activeCounts, ht.runners, ht.running, ht.waiting, ht.tasks, ht.known⟩
  exact hensure _ ⟨h.activeCounts, h.runners, h.running, h.waiting, h.tasks, h.known⟩

/-- The live task of a job was live before. -/
theorem liveTask (h : s₀.Passed s) {task : ℕ} (htask : s.liveTask id = some task) :
    s₀.liveTask id = some task := by
  unfold Service.liveTask at htask ⊢
  rcases hget : s.runningTasks.get? id with _ | task'
  · rw [hget] at htask
    cases htask
  · rw [hget] at htask
    rw [h.tasks id task' hget]
    dsimp only at htask ⊢
    rwa [h.runners] at htask

end Service.Passed

/-! ## Edits -/

/-- What comes from outside with a step can be serialised. -/
def Step.safe : Step → Bool
  | .enqueue _ _ request => request.requestPayload.jsonSafe
  | .acknowledge _ _ acknowledgement => acknowledgement.jsonSafe
  | .decide _ _ admission => admission.jsonSafe
  | .outcome _ (.returned result) => result.all Payload.jsonSafe
  | _ => true

/-- The runner of the job has ended, or the record is gone. -/
def Service.IsOver (id : JobId) (s : Service) : Prop :=
  ∀ job, s.jobs.get? id = some job → job.status.ofRunner = true

/-- A dispatcher takes the queued job at the head of its heap, for which it asked. -/
structure Service.Takes (s : Service) (q : QueueKey) (admission : Payload) (id : JobId) (job : Job) :
    Prop where
  asked : s.dispatchers q = some (.admission id)
  head : ∃ e ∈ (s.queues q).head?, e.jobId = id
  record : s.jobs.get? id = some job
  queued : job.status = .queued
  allowed : (admission.content.get "allowed").truthy = true

/-- The states in which a queued job ends. -/
def Status.ofQueue : Status → Bool
  | .expiredWaitBudget | .cancelled => true
  | .queued | .running | .completed | .failed => false

/-- The changes a step makes, which is taken in the service `s₀`. -/
inductive Edit (cfg : Config) (faulty : Prop) (s₀ : Service) : Step → Service → Service → Prop where
  | save (step : Step) (s : Service) : Edit cfg faulty s₀ step s s.saved
  -- the deadline pass
  | drop {step : Step} {now : ℤ} {s : Service} {ids : List JobId} (hnow : now ∈ step.pass)
      (hdue : ∀ id ∈ ids, ∃ job, s.jobs.get? id = some job ∧ job.isDue now = true) :
      Edit cfg faulty s₀ step s (s.dropJobs ids)
  | reroute {step : Step} {now : ℤ} {s : Service} {id : JobId} {job : Job} {d : ℤ} {key : WithTop ℚ}
      (hnow : now ∈ step.pass) (hjob : s.jobs.get? id = some job) (hqueued : job.status = .queued)
      (hlocal : job.queue = .localNode) (hspill : job.allowsCloudSpillover = true)
      (hd : job.effectiveDeadline = .ok (some d)) (hover : d < now)
      (hkey : deadlineSortValue cfg now job.queueIntent = .ok key) :
      Edit cfg faulty s₀ step s ((s.takeOut id job (movedJob job)).enterCloud (movedJob job) key)
  | orphan {step : Step} {now : ℤ} {s : Service} {id : JobId} {job : Job} {d : ℤ} {e : Exc}
      (hfaulty : faulty) (hnow : now ∈ step.pass) (hjob : s.jobs.get? id = some job)
      (hjob₀ : s₀.jobs.get? id = some job) (hqueued : job.status = .queued)
      (hlocal : job.queue = .localNode) (hspill : job.allowsCloudSpillover = true)
      (hd : job.effectiveDeadline = .ok (some d)) (hover : d < now)
      (hkey : deadlineSortValue cfg now job.queueIntent = .error e) :
      Edit cfg faulty s₀ step s (s.takeOut id job (movedJob job))
  | endQueued {step : Step} {now expiresAt : ℤ} {s : Service} {id : JobId} {job : Job}
      {status : Status} (error : JobError) (hnow : now ∈ step.pass)
      (hjob : s.jobs.get? id = some job) (hqueued : job.status = .queued)
      (hterminal : status.terminal = true) (hexpires : addSeconds now cfg.jobTtl = .ok expiresAt)
      (hstatus : status.ofQueue = true) :
      Edit cfg faulty s₀ step s
        (s.takeOut id job (closedJob expiresAt error (endedJob now status job)))
  | undatedQueued {step : Step} {now : ℤ} {s : Service} {id : JobId} {job : Job} {status : Status}
      {e : Exc} (hfaulty : faulty) (hnow : now ∈ step.pass) (hjob : s.jobs.get? id = some job)
      (hqueued : job.status = .queued) (hterminal : status.terminal = true)
      (hexpires : addSeconds now cfg.jobTtl = .error e) (hstatus : status.ofQueue = true) :
      Edit cfg faulty s₀ step s (s.takeOut id job (endedJob now status job))
  -- `enqueue`
  | number (now : ℤ) (id : JobId) (request : EnqueueRequest) (s : Service) (n : ℕ) :
      Edit cfg faulty s₀ (.enqueue now id request) s { s with nextSequence := n }
  | insert {now : ℤ} {id : JobId} {request : EnqueueRequest} {s : Service} {job : Job}
      {key : WithTop ℚ} (hprepared : Prepared cfg now id request job key) (hpassed : s₀.Passed s) :
      Edit cfg faulty s₀ (.enqueue now id request) s
        ((s.setJob job.jobId job).pushEntry job.queue (job.entry key))
  | ensure (now : ℤ) (id : JobId) (request : EnqueueRequest) (s : Service) (q : QueueKey) :
      Edit cfg faulty s₀ (.enqueue now id request) s (s.ensureDispatcher q)
  -- a record is amended by a cancellation request, an acknowledgement or a blocked admission
  | amend {step : Step} {s : Service} {id : JobId} {job job' : Job}
      (hjob : s.jobs.get? id = some job) (hamends : job.Amends step.safe job') :
      Edit cfg faulty s₀ step s (s.setJob id job')
  | cancelTask {now : ℤ} {id : JobId} {reason : Option String} {s : Service} {job : Job} {task : ℕ}
      (hjob₀ : s₀.jobs.get? id = some job) (hrunning : job.status = .running)
      (hsupported : job.runningCancellationSupported = true) (htask : s₀.liveTask id = some task)
      (hrunners : s.runners = s₀.runners) :
      Edit cfg faulty s₀ (.cancel now id reason) s (s.cancelRunner task)
  | ensureBusy (now : ℤ) (s : Service) :
      Edit cfg faulty s₀ (.startRecovered now) s s.ensureBusyDispatchers
  -- the dispatcher
  | attempt {q : QueueKey} (hdispatcher : s₀.dispatchers q = some .attempt) :
      Edit cfg faulty s₀ (.attempt q) s₀ (dispatchAttempt cfg q s₀)
  | again (now : ℤ) (q : QueueKey) (admission : Payload) :
      Edit cfg faulty s₀ (.decide now q admission) s₀ (s₀.setDispatcher q (some .attempt))
  | stale {now : ℤ} {q : QueueKey} {admission : Payload} {e : Entry}
      (hhead : (s₀.queues q).head? = some e)
      (hstale : ∀ job, s₀.jobs.get? e.jobId = some job → job.status ≠ .queued) :
      Edit cfg faulty s₀ (.decide now q admission) s₀
        ((s₀.popEntry q).setDispatcher q (some .attempt))
  | start {now : ℤ} {q : QueueKey} {admission : Payload} {id : JobId} {e : Entry} {job : Job}
      {s : Service} (hdispatcher : s₀.dispatchers q = some (.admission id))
      (hhead : (s₀.queues q).head? = some e) (heid : e.jobId = id)
      (hjob : s₀.jobs.get? id = some job) (hqueued : job.status = .queued)
      (hpersist : (s = s₀.takeHead now q id job ∧ (cfg.statePath = false ∨
        ∃ record ∈ s.jobs.values, record.jsonSafe = false)) ∨ s = (s₀.takeHead now q id job).saved)
      (hallowed : (admission.content.get "allowed").truthy = true) :
      Edit cfg faulty s₀ (.decide now q admission) s₀ (s.createRunner q id job)
  | strand {now : ℤ} {q : QueueKey} {admission : Payload} {id : JobId} {e : Entry} {job : Job}
      {error : Exc} (hfaulty : faulty) (hdispatcher : s₀.dispatchers q = some (.admission id))
      (hhead : (s₀.queues q).head? = some e) (heid : e.jobId = id)
      (hjob : s₀.jobs.get? id = some job) (hqueued : job.status = .queued)
      (hpath : cfg.statePath = true) (hrecords : (s₀.takeHead now q id job).jobs.values.mapM
        (publicJobPayload cfg now (s₀.takeHead now q id job)) = .error error)
      (hallowed : (admission.content.get "allowed").truthy = true) :
      Edit cfg faulty s₀ (.decide now q admission) s₀ (s₀.takeHead now q id job)
  | defer {now : ℤ} {q : QueueKey} {admission : Payload} {s : Service} {d : FloatVal}
      (hblocked : (admission.content.get "allowed").truthy = false) (hnone : s.retries q = none)
      (hdelay : retryDelay cfg (admission.content.get "retry_after_seconds") = .ok d) :
      Edit cfg faulty s₀ (.decide now q admission) s
        { s with retries := Function.update s.retries q (some d) }
  | rest {now : ℤ} {q : QueueKey} {admission : Payload} {s : Service} (hretry : s.retries q ≠ none) :
      Edit cfg faulty s₀ (.decide now q admission) s (s.setDispatcher q none)
  | crash (now : ℤ) (q : QueueKey) (admission : Payload) (s : Service) (hfaulty : faulty) :
      Edit cfg faulty s₀ (.decide now q admission) s (s.setDispatcher q none)
  | register {q : QueueKey} {id : JobId} {task : ℕ}
      (hdispatcher : s₀.dispatchers q = some (.registration id task)) :
      Edit cfg faulty s₀ (.register q) s₀ (registerRunner q id task s₀)
  -- the retry timer
  | timer (now : ℤ) (q : QueueKey) :
      Edit cfg faulty s₀ (.retry now q) s₀ { s₀ with retries := Function.update s₀.retries q none }
  | wake (now : ℤ) (q : QueueKey) (s : Service) :
      Edit cfg faulty s₀ (.retry now q) s (if s.queues q = [] then s else s.ensureDispatcher q)
  -- the runner tasks
  | enter (task : ℕ) : Edit cfg faulty s₀ (.enter task) s₀ (s₀.enterRunner task)
  | outcome (task : ℕ) (ending : Outcome) :
      Edit cfg faulty s₀ (.outcome task ending) s₀ (s₀.endRunner task ending)
  | finish {now expiresAt : ℤ} {task : ℕ} {r : Runner} {job job' : Job}
      (hr : s₀.runners[task]? = some r) (hjob : s₀.jobs.get? r.jobId = some job)
      (hended : job.EndedAt now r.state.safe job')
      (hexpires : addSeconds now cfg.jobTtl = .ok expiresAt) (hjob' : job'.expiresAt = expiresAt)
      (hstatus : job'.status.ofRunner = true) :
      Edit cfg faulty s₀ (.settle now task) s₀ (s₀.setJob r.jobId job')
  | undated {now : ℤ} {task : ℕ} {r : Runner} {job job' : Job} {e : Exc} (hfaulty : faulty)
      (hr : s₀.runners[task]? = some r) (hjob : s₀.jobs.get? r.jobId = some job)
      (hended : job.EndedAt now r.state.safe job') (hjob' : job'.expiresAt = job.expiresAt)
      (hexpires : addSeconds now cfg.jobTtl = .error e) (hstatus : job'.status.ofRunner = true) :
      Edit cfg faulty s₀ (.settle now task) s₀ (s₀.setJob r.jobId job')
  | settled {now : ℤ} {task : ℕ} {r : Runner} {s : Service} (hr : s₀.runners[task]? = some r)
      (hrunners : s.runners = s₀.runners) (hover : s.IsOver r.jobId) (hleaving : r.state.leaving = true) :
      Edit cfg faulty s₀ (.settle now task) s (s.setRunner task .finishing)
  | handled {now : ℤ} {task : ℕ} {r : Runner} {s : Service} (e : Exc) (hfaulty : faulty)
      (hr : s₀.runners[task]? = some r) (hrunners : s.runners = s₀.runners)
      (hover : s.IsOver r.jobId) (hleaving : r.state.leaving = true) :
      Edit cfg faulty s₀ (.settle now task) s (s.setRunner task (r.state.afterError e))
  | release {task : ℕ} {r : Runner} (hr : s₀.runners[task]? = some r) (hstate : r.state = .finishing) :
      Edit cfg faulty s₀ (.release task) s₀ (releaseSlot task r s₀)

/-- The service `s` comes from `s₀` by changes that the step makes. -/
def Edited (cfg : Config) (faulty : Prop) (s₀ : Service) (step : Step) (s : Service) : Prop :=
  Relation.ReflTransGen (Edit cfg faulty s₀ step) s₀ s

/-- A block that raises makes the other changes as well. -/
theorem Edit.mono (h : Edit cfg False s₀ step s s') : Edit cfg faulty s₀ step s s' := by
  cases h with
  | save => exact .save _ _
  | drop hnow hdue => exact .drop hnow hdue
  | reroute hnow hjob hqueued hlocal hspill hd hover hkey =>
    exact .reroute hnow hjob hqueued hlocal hspill hd hover hkey
  | orphan hfaulty => exact hfaulty.elim
  | endQueued error hnow hjob hqueued hterminal hexpires hstatus =>
    exact .endQueued error hnow hjob hqueued hterminal hexpires hstatus
  | undatedQueued hfaulty => exact hfaulty.elim
  | number => exact .number _ _ _ _ _
  | insert hprepared hpassed => exact .insert hprepared hpassed
  | ensure => exact .ensure _ _ _ _ _
  | amend hjob hamends => exact .amend hjob hamends
  | cancelTask hjob₀ hrunning hsupported htask hrunners =>
    exact .cancelTask hjob₀ hrunning hsupported htask hrunners
  | ensureBusy => exact .ensureBusy _ _
  | attempt hdispatcher => exact .attempt hdispatcher
  | again => exact .again _ _ _
  | stale hhead hstale => exact .stale hhead hstale
  | start hdispatcher hhead heid hjob hqueued hpersist hallowed =>
    exact .start hdispatcher hhead heid hjob hqueued hpersist hallowed
  | strand hfaulty => exact hfaulty.elim
  | defer hblocked hnone hdelay => exact .defer hblocked hnone hdelay
  | rest hretry => exact .rest hretry
  | crash _ _ _ _ hfaulty => exact hfaulty.elim
  | register hdispatcher => exact .register hdispatcher
  | timer => exact .timer _ _
  | wake => exact .wake _ _ _
  | enter => exact .enter _
  | outcome => exact .outcome _ _
  | finish hr hjob hended hexpires hjob' hstatus => exact .finish hr hjob hended hexpires hjob' hstatus
  | undated hfaulty => exact hfaulty.elim
  | settled hr hrunners hover hleaving => exact .settled hr hrunners hover hleaving
  | handled _ hfaulty => exact hfaulty.elim
  | release hr hstate => exact .release hr hstate

namespace Edited

theorem refl (cfg : Config) (faulty : Prop) (s : Service) (step : Step) :
    Edited cfg faulty s step s := Relation.ReflTransGen.refl

theorem edit (h : Edited cfg faulty s₀ step s) (hedit : Edit cfg faulty s₀ step s s') :
    Edited cfg faulty s₀ step s' := Relation.ReflTransGen.tail h hedit

theorem mono (h : Edited cfg False s₀ step s) : Edited cfg faulty s₀ step s :=
  Relation.ReflTransGen.mono (fun _ _ => Edit.mono) _ _ h

/-- **The invariant rule**: what every change keeps, the step keeps. -/
theorem keeps {I : Service → Prop} (h : Edited cfg faulty s₀ step s) (hs : I s₀)
    (hedit : ∀ a b, I a → Edit cfg faulty s₀ step a b → I b) : I s := by
  unfold Edited at h
  induction h with
  | refl => exact hs
  | tail _ hstep ih => exact hedit _ _ ih hstep

end Edited

/-! ## Faults -/

/-- After a block of `_run_job` that raises, the job is over all the same. -/
def Step.Left (s₀ s : Service) : Step → Prop
  | .settle _ task => ∀ r, s₀.runners[task]? = some r →
    s.runners = s₀.runners ∧ s.IsOver r.jobId ∧ r.state.leaving = true
  | _ => True

theorem Step.left_of_pass (hnow : now ∈ step.pass) : step.Left s₀ s := by
  cases step <;> trivial

/-- The ways in which a step, which is taken in the service `s₀`, raises, with the service its block
leaves. -/
inductive Fault (cfg : Config) (s₀ : Service) : Step → Service → Prop where
  /-- The payload of a record cannot be built. -/
  | unbuilt {step : Step} {now : ℤ} {s : Service} {e : Exc} (hnow : step.reading = some now)
      (hs : Edited cfg False s₀ step s)
      (hrecords : s.jobs.values.mapM (publicJobPayload cfg now s) = .error e) (hleft : step.Left s₀ s) :
      Fault cfg s₀ step s
  /-- The pass cannot compute the wait boundary of a job. -/
  | boundary {step : Step} {now : ℤ} {s : Service} {id : JobId} {job : Job} {e : Exc}
      (hnow : now ∈ step.pass) (hs : Edited cfg False s₀ step s) (hjob : s.jobs.get? id = some job)
      (hd : job.effectiveDeadline = .error e) : Fault cfg s₀ step s
  | orphan {step : Step} {now : ℤ} {s : Service} {id : JobId} {job : Job} {d : ℤ} {e : Exc}
      (hnow : now ∈ step.pass) (hs : Edited cfg False s₀ step s) (hjob : s.jobs.get? id = some job)
      (hjob₀ : s₀.jobs.get? id = some job) (hqueued : job.status = .queued)
      (hlocal : job.queue = .localNode) (hspill : job.allowsCloudSpillover = true)
      (hd : job.effectiveDeadline = .ok (some d)) (hover : d < now)
      (hkey : deadlineSortValue cfg now job.queueIntent = .error e) :
      Fault cfg s₀ step (s.takeOut id job (movedJob job))
  | undatedQueued {step : Step} {now : ℤ} {s : Service} {id : JobId} {job : Job} {status : Status}
      {e : Exc} (hnow : now ∈ step.pass) (hs : Edited cfg False s₀ step s)
      (hjob : s.jobs.get? id = some job) (hqueued : job.status = .queued)
      (hterminal : status.terminal = true) (hexpires : addSeconds now cfg.jobTtl = .error e)
      (hstatus : status.ofQueue = true) :
      Fault cfg s₀ step (s.takeOut id job (endedJob now status job))
  /-- `enqueue` raises before it takes the lock. -/
  | unprepared (now : ℤ) (id : JobId) (request : EnqueueRequest) (n : ℕ) :
      Fault cfg s₀ (.enqueue now id request) { s₀ with nextSequence := n }
  /-- The answer of `enqueue` cannot be built. -/
  | unanswered {now : ℤ} {id : JobId} {request : EnqueueRequest} {s : Service} {job : Job}
      {key : WithTop ℚ} {e : Exc} (hs : Edited cfg False s₀ (.enqueue now id request) s)
      (hprepared : Prepared cfg now id request job key)
      (hanswer : queuedResponse cfg now s job = .error e) : Fault cfg s₀ (.enqueue now id request) s
  | strand {now : ℤ} {q : QueueKey} {admission : Payload} {id : JobId} {e : Entry} {job : Job}
      {error : Exc} (hdispatcher : s₀.dispatchers q = some (.admission id))
      (hhead : (s₀.queues q).head? = some e) (heid : e.jobId = id)
      (hjob : s₀.jobs.get? id = some job) (hqueued : job.status = .queued)
      (hpath : cfg.statePath = true) (hrecords : (s₀.takeHead now q id job).jobs.values.mapM
        (publicJobPayload cfg now (s₀.takeHead now q id job)) = .error error)
      (hallowed : (admission.content.get "allowed").truthy = true) :
      Fault cfg s₀ (.decide now q admission) (s₀.takeHead now q id job)
  /-- The verdict of a blocked job has no delay. -/
  | undelayed {now : ℤ} {q : QueueKey} {admission : Payload} {s : Service} {e : Exc}
      (hs : Edited cfg False s₀ (.decide now q admission) s)
      (hblocked : (admission.content.get "allowed").truthy = false)
      (hdelay : retryDelay cfg (admission.content.get "retry_after_seconds") = .error e) :
      Fault cfg s₀ (.decide now q admission) s
  | undated {now : ℤ} {task : ℕ} {r : Runner} {job job' : Job} {e : Exc}
      (hr : s₀.runners[task]? = some r) (hjob : s₀.jobs.get? r.jobId = some job)
      (hended : job.EndedAt now r.state.safe job') (hjob' : job'.expiresAt = job.expiresAt)
      (hexpires : addSeconds now cfg.jobTtl = .error e) (hstatus : job'.status.ofRunner = true)
      (hleaving : r.state.leaving = true) :
      Fault cfg s₀ (.settle now task) (s₀.setJob r.jobId job')

/-- The record of a job that has just ended. -/
theorem isOver_setJob (hstatus : job'.status.ofRunner = true) : (s.setJob id job').IsOver id := by
  intro j hget
  rw [Service.get?_setJob, if_pos rfl] at hget
  obtain rfl := Option.some.inj hget
  exact hstatus

/-- A block that raises leaves what the changes of its step make. -/
theorem Fault.edited (h : Fault cfg s₀ step s) : Edited cfg True s₀ step s ∧ step.Left s₀ s := by
  cases h with
  | unbuilt _ hs _ hleft => exact ⟨hs.mono, hleft⟩
  | boundary hnow hs => exact ⟨hs.mono, Step.left_of_pass hnow⟩
  | orphan hnow hs hjob hjob₀ hqueued hlocal hspill hd hover hkey =>
    exact ⟨hs.mono.edit (.orphan trivial hnow hjob hjob₀ hqueued hlocal hspill hd hover hkey),
      Step.left_of_pass hnow⟩
  | undatedQueued hnow hs hjob hqueued hterminal hexpires hstatus =>
    exact ⟨hs.mono.edit (.undatedQueued trivial hnow hjob hqueued hterminal hexpires hstatus),
      Step.left_of_pass hnow⟩
  | unprepared => exact ⟨(Edited.refl cfg True s₀ _).edit (.number _ _ _ _ _), trivial⟩
  | unanswered hs => exact ⟨hs.mono, trivial⟩
  | strand hdispatcher hhead heid hjob hqueued hpath hrecords hallowed =>
    exact ⟨(Edited.refl cfg True s₀ _).edit
      (.strand trivial hdispatcher hhead heid hjob hqueued hpath hrecords hallowed), trivial⟩
  | undelayed hs => exact ⟨hs.mono, trivial⟩
  | undated hr hjob hended hjob' hexpires hstatus hleaving =>
    refine ⟨(Edited.refl cfg True s₀ _).edit
      (.undated trivial hr hjob hended hjob' hexpires hstatus), ?_⟩
    intro r' hr'
    obtain rfl := Option.some.inj (hr.symm.trans hr')
    exact ⟨rfl, isOver_setJob hstatus, hleaving⟩

/-! ## Deadline passes -/

/-- A service on the way through a pass. -/
def Passing (cfg : Config) (s₀ : Service) (step : Step) (s : Service) : Prop :=
  Edited cfg False s₀ step s ∧ s₀.Passed s

/-- Persisting is a change or a fault; what a save leaves alone still holds. -/
theorem triple_persist_edited {I : Service → Prop} (hnow : step.reading = some now)
    (hsave : ∀ s, I s → I s.saved) (hleft : ∀ s, I s → step.Left s₀ s) :
    Triple (fun s => Edited cfg False s₀ step s ∧ I s) (persistJobs cfg now)
      (fun _ s => Edited cfg False s₀ step s ∧ I s) (Fault cfg s₀ step) :=
  triple_persistJobs_safe (fun _ _ hs => hs) (fun _ hs _ _ _ => hs)
    (fun s hs => ⟨hs.1.edit (.save step s), hsave s hs.2⟩)
    fun _ s _ hs hrecords => .unbuilt hnow hs.1 hrecords (hleft s hs.2)

/-- The persist of a block that ends with it. -/
theorem triple_persist_last (hnow : step.reading = some now) (hleft : ∀ s, step.Left s₀ s) :
    Triple (Edited cfg False s₀ step) (persistJobs cfg now) (fun _ => Edited cfg False s₀ step)
      (Fault cfg s₀ step) :=
  (triple_persist_edited (I := fun _ => True) hnow (fun _ _ => trivial) fun s _ => hleft s).mono
    (fun _ hs => ⟨hs, trivial⟩) (fun _ _ hs => hs.1) fun _ hs => hs

theorem passRules_edited (hnow : now ∈ step.pass) :
    PassRules cfg now (Passing cfg s₀ step) (Fault cfg s₀ step) where
  persist := triple_persist_edited (Step.reading_of_pass hnow) (fun _ hs => hs.saved)
    fun _ _ => Step.left_of_pass hnow
  drop := fun s ids hs hdue => ⟨hs.1.edit (.drop hnow hdue), hs.2.dropJobs ids⟩
  boundary := fun s id job e hs hjob _ hd => .boundary hnow hs.1 hjob hd
  reroute := by
    intro s id job d key hs hjob hqueued hlocal hspill hd hover hkey
    refine ⟨hs.1.edit (.reroute hnow hjob hqueued hlocal hspill hd hover hkey), ?_⟩
    exact (hs.2.takeOut hjob (by simp [movedJob]) fun _ => by simp [movedJob]).enterCloud _ _
  orphan := by
    intro s id job d e hs hjob hqueued hlocal hspill hd hover hkey
    have hjob₀ := hs.2.waiting id job hjob hqueued hlocal
    exact .orphan hnow hs.1 hjob hjob₀ hqueued hlocal hspill hd hover hkey
  expire := by
    intro s id job d expiresAt error hs hjob hqueued hd hover hexpires
    refine ⟨hs.1.edit (.endQueued error hnow hjob hqueued rfl hexpires rfl), ?_⟩
    exact hs.2.takeOut hjob (by simp [closedJob, endedJob]) fun h => by simp [closedJob, endedJob] at h
  undated := fun s id job e hs hjob hqueued hexpires =>
    .undatedQueued hnow hs.1 hjob hqueued rfl hexpires rfl

theorem triple_pass_edited (hnow : now ∈ step.pass) :
    Triple (Passing cfg s₀ step) (monitorDeadlines cfg now) (fun _ => Passing cfg s₀ step)
      (Fault cfg s₀ step) := triple_monitorDeadlines (passRules_edited hnow)

/-! ## Steps -/

theorem triple_enqueue_edited {request : EnqueueRequest} :
    Triple (fun s => s = s₀) (enqueue cfg now id request)
      (fun _ => Edited cfg False s₀ (.enqueue now id request))
      (Fault cfg s₀ (.enqueue now id request)) := by
  refine (triple_enqueue (P := fun s => ∃ n, s = { s₀ with nextSequence := n })
    (I := Passing cfg s₀ (.enqueue now id request)) ?_ ?_ ?_ (fun _ hs => hs.1) ?_
    fun _ _ _ _ hprepared hs hanswer => .unanswered hs hprepared hanswer).mono ?_
    (fun _ _ hs => hs) fun _ hs => hs
  · rintro s n ⟨-, rfl⟩
    exact ⟨n, rfl⟩
  · rintro s ⟨n, rfl⟩
    exact .unprepared now id request n
  · refine (triple_pass_edited rfl).mono ?_ (fun _ _ hs => hs) fun _ hs => hs
    rintro s ⟨n, rfl⟩
    exact ⟨(Edited.refl cfg False s₀ _).edit (.number now id request s₀ n),
      (Service.Passed.refl s₀).number n⟩
  · intro job key hprepared
    unfold insertJob
    refine Triple.bind (Q := fun _ => Edited cfg False s₀ (.enqueue now id request))
      (Triple.update fun s hs => hs.1.edit (.insert hprepared hs.2)) fun _ => ?_
    refine Triple.bind (triple_persist_last rfl fun _ => trivial) fun _ => Triple.update fun s hs => ?_
    exact hs.edit (.ensure now id request s job.queue)
  · rintro s rfl
    exact ⟨s.nextSequence, rfl⟩

theorem triple_cancelJob_edited {reason : Option String} :
    Triple (Passing cfg s₀ (.cancel now id reason)) (cancelJob cfg now id reason)
      (fun _ => Edited cfg False s₀ (.cancel now id reason))
      (Fault cfg s₀ (.cancel now id reason)) := by
  refine triple_cancelJob (triple_pass_edited rfl) (fun _ hs => hs.1) (fun job hqueued => ?_)
    fun job task hrunning hsupported => ?_
  · refine triple_cancelQueued ?_ ?_ (triple_persist_last rfl fun _ => trivial)
    · intro s expiresAt error hs hexpires
      exact hs.1.1.edit (.endQueued error rfl hs.2 hqueued rfl hexpires rfl)
    · intro s e hs hexpires
      exact .undatedQueued rfl hs.1.1 hs.2 hqueued rfl hexpires rfl
  · -- the pass has left the job and its task alone
    refine triple_cancelRunning (Q := fun s => Edited cfg False s₀ (.cancel now id reason) s ∧
      s.runners = s₀.runners ∧ s₀.jobs.get? id = some job ∧ s₀.liveTask id = some task) ?_
      (triple_persist_edited rfl (fun _ hs => hs) fun _ _ => trivial) ?_
    · rintro s job' ⟨hs, hjob, htask⟩ hamends
      refine ⟨hs.1.edit (.amend hjob hamends), hs.2.runners, hs.2.running id job hjob hrunning, ?_⟩
      exact hs.2.liveTask htask
    · rintro s ⟨hs, hrunners, hjob₀, htask⟩
      exact hs.edit (.cancelTask hjob₀ hrunning hsupported htask hrunners)

theorem triple_dispatchDecision_edited {q : QueueKey} {admission : Payload}
    (hdispatcher : s₀.dispatchers q = some (.admission id)) :
    Triple (fun s => s = s₀) (dispatchDecision cfg now q id admission)
      (fun _ => Edited cfg False s₀ (.decide now q admission))
      (Fault cfg s₀ (.decide now q admission)) := by
  have hbegin := Edited.refl cfg False s₀ (.decide now q admission)
  refine triple_dispatchDecision ?_ ?_ ?_ ?_
  · rintro s rfl
    exact hbegin.edit (.again now q admission)
  · rintro s e rfl hhead heid hstale
    rw [← heid] at hstale
    exact hbegin.edit (.stale hhead hstale)
  · rintro e job heid hqueued hallowed s ⟨rfl, hhead, hjob⟩
    refine (triple_startHead (P := fun t => t = s) (Q := fun t => t = s.takeHead now q id job)
      (R := fun t => (t = s.takeHead now q id job ∧ (cfg.statePath = false ∨
        ∃ record ∈ t.jobs.values, record.jsonSafe = false)) ∨ t = (s.takeHead now q id job).saved)
      ?_ (triple_persistJobs_safe ?_ ?_ ?_ ?_) ?_) s rfl
    · rintro t rfl
      rfl
    · rintro hpath t rfl
      exact Or.inl ⟨rfl, Or.inl hpath⟩
    · rintro t rfl record hrecord hrefused
      exact Or.inl ⟨rfl, Or.inr ⟨record, hrecord, hrefused⟩⟩
    · rintro t rfl
      exact Or.inr rfl
    · -- the slot has no task then
      rintro hpath t error rfl hrecords
      exact .strand hdispatcher hhead heid hjob hqueued hpath hrecords hallowed
    · intro t ht
      exact hbegin.edit (.start hdispatcher hhead heid hjob hqueued ht hallowed)
  · rintro e job heid hqueued hblocked
    refine triple_blockHead (Q := Edited cfg False s₀ (.decide now q admission)) ?_
      (triple_persist_last rfl fun _ => trivial) (triple_scheduleBlockedRetry (J := fun s =>
        Edited cfg False s₀ (.decide now q admission) s ∧ s.retries q ≠ none) ?_ ?_ ?_) ?_
    · rintro s job' ⟨rfl, -, hjob⟩ hamends
      exact hbegin.edit (.amend hjob hamends)
    · intro s d hs hretry
      refine ⟨hs, ?_⟩
      rw [hretry]
      exact Option.some_ne_none d
    · intro s d hs hnone hdelay
      refine ⟨hs.edit (.defer hblocked hnone hdelay), ?_⟩
      show Function.update s.retries q (some d) q ≠ none
      rw [Function.update_self]
      exact Option.some_ne_none d
    · exact fun s e hs _ hdelay => .undelayed hs hblocked hdelay
    · exact fun s hs => hs.1.edit (.rest hs.2)

theorem triple_retry_edited {q : QueueKey} :
    Triple (fun s => s = s₀) (retryBlockedQueue cfg now q)
      (fun _ => Edited cfg False s₀ (.retry now q)) (Fault cfg s₀ (.retry now q)) := by
  unfold retryBlockedQueue
  refine Triple.bind (Q := fun _ => Passing cfg s₀ (.retry now q)) (Triple.update ?_) fun _ => ?_
  · rintro s rfl
    have hs := Service.Passed.refl s
    exact ⟨(Edited.refl cfg False s _).edit (.timer now q), hs.activeCounts, hs.runners, hs.running,
      hs.waiting, hs.tasks, hs.known⟩
  · refine Triple.bind (triple_pass_edited rfl) fun _ => Triple.update fun s hs => ?_
    exact hs.1.edit (.wake now q s)

theorem triple_settle_edited {task : ℕ} {r : Runner} (hr : s₀.runners[task]? = some r) :
    Triple (fun s => s = s₀) (settleRunner cfg now task r)
      (fun _ => Edited cfg False s₀ (.settle now task)) (Fault cfg s₀ (.settle now task)) := by
  have hbegin := Edited.refl cfg False s₀ (.settle now task)
  refine triple_settleRunner (Q := fun s => Edited cfg False s₀ (.settle now task) s ∧
    s.runners = s₀.runners ∧ s.IsOver r.jobId ∧ r.state.leaving = true) ?_ ?_ ?_ ?_
  · rintro s rfl
    exact hbegin
  · rintro s hleaving rfl hnone
    refine hbegin.edit (.settled hr rfl (fun job hjob => ?_) hleaving)
    rw [hnone] at hjob
    cases hjob
  · intro job ended close hleaving hended hclose hexpires hexpires' hstatus hstatus'
    refine triple_endRunning (Q := fun s => Edited cfg False s₀ (.settle now task) s ∧
      s.runners = s₀.runners ∧ s.IsOver r.jobId ∧ r.state.leaving = true) ?_ ?_
      (triple_persist_edited rfl (fun _ hs => hs) fun s hs r' hr' => ?_)
    · rintro s expiresAt ⟨rfl, hjob⟩ hadd
      exact ⟨hbegin.edit (.finish hr hjob (hclose expiresAt) hadd (hexpires' expiresAt)
        (hstatus' expiresAt)), rfl, isOver_setJob (hstatus' expiresAt), hleaving⟩
    · rintro s e ⟨rfl, hjob⟩ hadd
      exact .undated hr hjob hended hexpires hadd hstatus hleaving
    · obtain rfl := Option.some.inj (hr.symm.trans hr')
      exact hs
  · exact fun s hleaving hs => hs.1.edit (.settled hr hs.2.1 hs.2.2.1 hleaving)

/-- **The block of a step** is a sequence of changes, or raises in one of the ways of `Fault`. -/
theorem triple_body_edited (step : Step) :
    Triple (fun s => s = s₀) (step.body cfg s₀) (fun _ => Edited cfg False s₀ step)
      (Fault cfg s₀ step) := by
  have hbegin : ∀ step, Edited cfg False s₀ step s₀ := fun step => Edited.refl cfg False s₀ step
  have hskip : ∀ step, Triple (fun s => s = s₀) (pure () : Block Unit)
      (fun _ => Edited cfg False s₀ step) (Fault cfg s₀ step) := by
    refine fun step => Triple.pure ?_
    rintro s rfl
    exact hbegin step
  have hupdate : ∀ {f : Service → Service} {step}, Edit cfg False s₀ step s₀ (f s₀) →
      Triple (fun s => s = s₀) (update f : Block Unit) (fun _ => Edited cfg False s₀ step)
        (Fault cfg s₀ step) := by
    intro f step hedit
    refine Triple.update ?_
    rintro s rfl
    exact (hbegin step).edit hedit
  have hpass : ∀ {m : Block Unit} {step},
      Triple (Passing cfg s₀ step) m (fun _ => Edited cfg False s₀ step) (Fault cfg s₀ step) →
      Triple (fun s => s = s₀) m (fun _ => Edited cfg False s₀ step) (Fault cfg s₀ step) := by
    intro m step hm
    refine hm.mono ?_ (fun _ _ hs => hs) fun s hs => hs
    rintro s rfl
    exact ⟨hbegin step, Service.Passed.refl s⟩
  cases step with
  | enqueue now id request => exact triple_enqueue_edited.discard
  | cancel now id reason => exact hpass triple_cancelJob_edited.discard
  | acknowledge now id acknowledgement =>
    refine triple_acknowledgeArtifacts ?_ ?_ (triple_persist_last rfl fun _ => trivial)
    · rintro s rfl
      exact hbegin _
    · rintro s job job' rfl hjob - hamends
      exact (hbegin _).edit (.amend hjob hamends)
  | poll now =>
    exact hpass ((triple_pass_edited rfl).mono (fun _ hs => hs) (fun _ _ hs => hs.1) fun _ hs => hs)
  | startRecovered now =>
    refine hpass (Triple.bind (triple_pass_edited rfl) fun _ => Triple.update ?_)
    exact fun s hs => hs.1.edit (.ensureBusy now s)
  | attempt q =>
    unfold Step.body
    dsimp only
    split
    · next hdispatcher => exact hupdate (.attempt hdispatcher)
    · exact hskip _
  | decide now q admission =>
    unfold Step.body
    dsimp only
    split
    · next id hdispatcher => exact triple_dispatchDecision_edited hdispatcher
    · exact hskip _
  | register q =>
    unfold Step.body
    dsimp only
    split
    · next id task hdispatcher => exact hupdate (.register hdispatcher)
    · exact hskip _
  | retry now q =>
    unfold Step.body
    dsimp only
    split
    · exact triple_retry_edited
    · exact hskip _
  | enter task => exact hupdate (.enter task)
  | outcome task ending => exact hupdate (.outcome task ending)
  | settle now task =>
    unfold Step.body
    dsimp only
    split
    · next r hr => exact triple_settle_edited hr
    · exact hskip _
  | release task =>
    unfold Step.body
    dsimp only
    split
    · next r hr =>
      split
      · next hstate => exact hupdate (.release hr hstate)
      · exact hskip _
    · exact hskip _
  | restart now recovers => exact hskip _

/-- **A step is a sequence of edits.** -/
theorem fire_edited (cfg : Config) (s₀ : Service) (step : Step) :
    Edited cfg True s₀ step (s₀.fire cfg step) := by
  refine Triple.store (P := fun s => s = s₀) (Triple.recover ((triple_body_edited step).mono
    (fun _ hs => hs) (fun _ _ hs => hs.mono) fun _ hs => hs.edited) fun e => ?_) rfl
  have hskip : Triple (fun s => Edited cfg True s₀ step s ∧ step.Left s₀ s) (pure () : Block Unit)
      (fun _ => Edited cfg True s₀ step) (Edited cfg True s₀ step) := Triple.pure fun _ hs => hs.1
  cases step with
  | decide now q admission =>
    exact Triple.update fun s hs => hs.1.edit (.crash now q admission s trivial)
  | settle now task =>
    unfold Step.onError
    dsimp only
    split
    · next r hr =>
      refine Triple.update fun s hs => hs.1.edit ?_
      exact .handled e trivial hr (hs.2 r hr).1 (hs.2 r hr).2.1 (hs.2 r hr).2.2
    · exact hskip
  | _ => exact hskip

/-- A step that does not raise. -/
theorem fire_edited_of_not_raises (h : ¬step.Raises cfg s₀) :
    Edited cfg False s₀ step (s₀.fire cfg step) := by
  have hbody := @triple_body_edited cfg s₀ step s₀ rfl
  unfold Service.fire StoreAction.store
  rw [exec_recover]
  rcases hexec : (step.body cfg s₀).exec s₀ with ⟨e | u, s'⟩
  · exact absurd ⟨e, by rw [hexec]⟩ h
  · exact hbody.1 u s' hexec

/-- **A step that raises** does so in one of the ways of `Fault`. -/
theorem fault_of_raises (h : step.Raises cfg s₀) : ∃ e s, (step.body cfg s₀).exec s₀ = (.error e, s) ∧
    Fault cfg s₀ step s := by
  obtain ⟨e, he⟩ := h
  have hbody := @triple_body_edited cfg s₀ step s₀ rfl
  rcases hexec : (step.body cfg s₀).exec s₀ with ⟨e' | u, s'⟩
  · exact ⟨e', s', rfl, hbody.2 e' s' hexec⟩
  · rw [hexec] at he
    cases he

end Queue
end HexeAiNode
