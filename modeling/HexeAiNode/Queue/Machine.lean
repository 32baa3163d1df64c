import HexeAiNode.Library.Run
import HexeAiNode.Queue.Service

/-!
# The queue as a system

A step of the system is one `async with self._lock` block of an operation or a task, or a point at which
a task goes on without the lock.  The steps may come in any order; a step that is not enabled in a state
changes nothing there.

A block that raises keeps what it changed.  The exception ends the task it is raised in, except in
`_run_job`, whose handlers and `finally` go on (`Step.onError`).

`Node` adds to the service what outlives the process: the job ids that were ever drawn, which `uuid4` does
not draw again, and the jobs whose runner was called.
-/

namespace HexeAiNode
namespace Queue

open Py Execution StoreAction

/-! ## Steps -/

/-- What a runner does in the end. -/
inductive Outcome where
  | returned (result : Option Payload)
  | raised (code : String)
  | cancelled

/-- The steps, each with the reading of the clock its block makes. -/
inductive Step where
  | enqueue (now : ℤ) (jobId : JobId) (request : EnqueueRequest)
  | cancel (now : ℤ) (jobId : JobId) (reason : Option String)
  | acknowledge (now : ℤ) (jobId : JobId) (acknowledgement : Payload)
  /-- A deadline pass: `job_status`, `diagnostics`, `queue_pressure`, `queue_start_estimate` or the timer
  of the record expiry. -/
  | poll (now : ℤ)
  | startRecovered (now : ℤ)
  | attempt (q : QueueKey)
  | decide (now : ℤ) (q : QueueKey) (admission : Payload)
  | register (q : QueueKey)
  | retry (now : ℤ) (q : QueueKey)
  | enter (task : ℕ)
  | outcome (task : ℕ) (outcome : Outcome)
  | settle (now : ℤ) (task : ℕ)
  | release (task : ℕ)
  /-- A crash at any point, followed by a start from the state file. -/
  | restart (now : ℤ) (recovers : JobId → Bool)

/-- The first step of a runner task. -/
def Service.enterRunner (task : ℕ) (s : Service) : Service :=
  match s.runners[task]? with
  | none => s
  | some r =>
    match r.state with
    | .created =>
      s.setRunner task (if r.callable then .awaiting else .failing "queued_job_runner_missing")
    | .doomed => s.setRunner task .finished
    | _ => s

/-- Where the end of a runner sends its task. -/
def Outcome.next : Outcome → RunnerState
  | .returned result => .completing result
  | .raised code => .failing code
  | .cancelled => .cancelling

/-- The runner of a task ends. -/
def Service.endRunner (task : ℕ) (outcome : Outcome) (s : Service) : Service :=
  match s.runners[task]? with
  | none => s
  | some r =>
    match r.state with
    | .awaiting => s.setRunner task outcome.next
    | _ => s

/-- The block of a step, in the state in which it is taken.  A retry timer whose delay is not finite never
fires. -/
def Step.body (cfg : Config) (s : Service) : Step → Block Unit
  | .enqueue now id request => Functor.discard (Queue.enqueue cfg now id request)
  | .cancel now id reason => Functor.discard (cancelJob cfg now id reason)
  | .acknowledge now id acknowledgement => acknowledgeArtifacts cfg now id acknowledgement
  | .poll now => monitorDeadlines cfg now
  | .startRecovered now => startRecoveredJobs cfg now
  | .attempt q =>
    match s.dispatchers q with
    | some .attempt => update (dispatchAttempt cfg q)
    | _ => pure ()
  | .decide now q admission =>
    match s.dispatchers q with
    | some (.admission id) => dispatchDecision cfg now q id admission
    | _ => pure ()
  | .register q =>
    match s.dispatchers q with
    | some (.registration id task) => update (registerRunner q id task)
    | _ => pure ()
  | .retry now q =>
    match s.retries q with
    | some (.finite _) => retryBlockedQueue cfg now q
    | _ => pure ()
  | .enter task => update (Service.enterRunner task)
  | .outcome task ending => update (Service.endRunner task ending)
  | .settle now task =>
    match s.runners[task]? with
    | some r => settleRunner cfg now task r
    | none => pure ()
  | .release task =>
    match s.runners[task]? with
    | some r =>
      match r.state with
      | .finishing => update (releaseSlot task r)
      | _ => pure ()
    | none => pure ()
  | .restart _ _ => pure ()

/-- What an exception raised in the block leads to. -/
def Step.onError (s : Service) (e : Exc) : Step → Block Unit
  | .decide _ q _ => update (Service.setDispatcher q none)
  | .settle _ task =>
    match s.runners[task]? with
    | some r => update (Service.setRunner task (r.state.afterError e))
    | none => pure ()
  | _ => pure ()

/-- The service a process starts with. -/
def Service.initial (stateFile : Option (List Job)) : Service := { stateFile := stateFile }

/-- A start from the state file; `none` when the constructor raises. -/
def Service.restart (cfg : Config) (now : ℤ) (recovers : JobId → Bool) (s : Service) :
    Option Service :=
  match (loadPersistedJobs cfg now recovers).exec (.initial s.stateFile) with
  | (.ok _, s') => some s'
  | (.error _, _) => none

/-- The service after a step of its process. -/
def Service.fire (cfg : Config) (s : Service) (step : Step) : Service :=
  ((step.body cfg s).recover fun e => step.onError s e).store s

/-- The block of the step raises. -/
def Step.Raises (cfg : Config) (s : Service) (step : Step) : Prop :=
  ∃ e, ((step.body cfg s).exec s).1 = .error e

/-! ## The node -/

/-- The service with what outlives its process.  `started` are the jobs whose runner this process called,
`startedBefore` those of earlier processes; `recovered` says whether `start_recovered_jobs` has run since
the start of the process. -/
structure Node where
  service : Service := {}
  drawn : List JobId := []
  started : List JobId := []
  startedBefore : List JobId := []
  recovered : Bool := false

/-- The reading of the clock at which a step runs a deadline pass. -/
def Step.pass : Step → Option ℤ
  | .enqueue now _ _ | .cancel now _ _ | .poll now | .startRecovered now | .retry now _ => some now
  | _ => none

/-- The reading of the clock of a step. -/
def Step.reading : Step → Option ℤ
  | .enqueue now _ _ | .cancel now _ _ | .acknowledge now _ _ | .poll now | .startRecovered now
  | .decide now _ _ | .retry now _ | .settle now _ | .restart now _ => some now
  | .attempt _ | .register _ | .enter _ | .outcome _ _ | .release _ => none

theorem Step.reading_of_pass {step : Step} {now : ℤ} (h : now ∈ step.pass) :
    step.reading = some now := by
  cases step <;> first | exact h | cases h

/-- The id a step draws. -/
def Step.drawn : Step → Option JobId
  | .enqueue _ id _ => some id
  | _ => none

/-- The job whose runner the first step of a task calls. -/
def Service.calledBy (task : ℕ) (s : Service) : Option JobId :=
  match s.runners[task]? with
  | none => none
  | some r =>
    match r.state with
    | .created => if r.callable then some r.jobId else none
    | _ => none

/-- The job whose runner a step calls. -/
def Step.calls (s : Service) : Step → Option JobId
  | .enter task => s.calledBy task
  | _ => none

/-- The step is `start_recovered_jobs`. -/
def Step.startsRecovered : Step → Bool
  | .startRecovered _ => true
  | _ => false

/-- A step of the node.  A start that raises leaves no service; it counts as a step that did not happen,
as a later start reads the same file. -/
def fire (cfg : Config) (n : Node) (step : Step) : Node :=
  match step with
  | .restart now recovers =>
    match n.service.restart cfg now recovers with
    | none => n
    | some s =>
      { n with
        service := s
        started := []
        startedBefore := n.started ++ n.startedBefore
        recovered := false }
  | step =>
    if ∃ id ∈ step.drawn, id ∈ n.drawn then n
    else
      { n with
        service := n.service.fire cfg step
        drawn := step.drawn.toList ++ n.drawn
        started := (step.calls n.service).toList ++ n.started
        recovered := n.recovered || step.startsRecovered }

theorem fire_restart_of_none {cfg : Config} {n : Node} {now : ℤ} {recovers : JobId → Bool}
    (h : n.service.restart cfg now recovers = none) : fire cfg n (.restart now recovers) = n := by
  unfold fire
  dsimp only
  rw [h]

theorem fire_restart_of_some {cfg : Config} {n : Node} {now : ℤ} {recovers : JobId → Bool}
    {s : Service} (h : n.service.restart cfg now recovers = some s) :
    fire cfg n (.restart now recovers) =
      { n with
        service := s
        started := []
        startedBefore := n.started ++ n.startedBefore
        recovered := false } := by
  unfold fire
  dsimp only
  rw [h]

/-- A step of the node that is not a start is one of the service, or does nothing. -/
theorem fire_of_not_restart {cfg : Config} {n : Node} {step : Step}
    (h : ∀ now recovers, step ≠ .restart now recovers) :
    fire cfg n step = n ∨ (∀ id ∈ step.drawn, id ∉ n.drawn) ∧
      (fire cfg n step).service = n.service.fire cfg step := by
  unfold fire
  split
  · exact absurd rfl (h _ _)
  · split
    · exact Or.inl rfl
    · next hdrawn => exact Or.inr ⟨fun id hid hmem => hdrawn ⟨id, hid, hmem⟩, rfl⟩

/-- **What a step of the node does**: nothing, when a start raises or a new id was drawn before; or a start;
or a step of the process. -/
theorem fire_cases (cfg : Config) (n : Node) (step : Step) :
    fire cfg n step = n ∨
    (∃ now recovers s, step = .restart now recovers ∧ n.service.restart cfg now recovers = some s ∧
      fire cfg n step = { n with
        service := s, started := [], startedBefore := n.started ++ n.startedBefore, recovered := false }) ∨
    ((∀ id ∈ step.drawn, id ∉ n.drawn) ∧ fire cfg n step = { n with
      service := n.service.fire cfg step
      drawn := step.drawn.toList ++ n.drawn
      started := (step.calls n.service).toList ++ n.started
      recovered := n.recovered || step.startsRecovered }) := by
  by_cases hrestart : ∃ now recovers, step = .restart now recovers
  · obtain ⟨now, recovers, rfl⟩ := hrestart
    rcases hs : n.service.restart cfg now recovers with _ | s
    · exact Or.inl (fire_restart_of_none hs)
    · exact Or.inr (Or.inl ⟨now, recovers, s, rfl, hs, fire_restart_of_some hs⟩)
  · unfold fire
    split
    · exact absurd ⟨_, _, rfl⟩ hrestart
    · split
      · exact Or.inl rfl
      · next hdrawn => exact Or.inr (Or.inr ⟨fun id hid hmem => hdrawn ⟨id, hid, hmem⟩, rfl⟩)

/-- The node after a run. -/
def run (cfg : Config) (steps : List Step) : Node := Run.after (fire cfg) {} steps

theorem run_append (cfg : Config) (before after : List Step) :
    run cfg (before ++ after) = Run.after (fire cfg) (run cfg before) after := Run.after_append _ _ _

end Queue
end HexeAiNode
