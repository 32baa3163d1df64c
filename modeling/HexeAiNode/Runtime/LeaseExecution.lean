import HexeAiNode.Execution.TaskExecutionResult
import HexeAiNode.Library.Run

/-!
# Executing leased work

`LeaseExecutionModeRunner.run_once` asks for a lease, executes its job while a second task sends heartbeats, and
completes the lease.  The two tasks are interleaved by the event loop: `fire` is one step of either of them,
where a call that is waited for answers, or a step of the loop that ends a wait.

* `start` reads the answer to the request for a lease.
* `fail` is the way into the `finally` block: a heartbeat that is still going is cancelled and waited for there.
* `RunKept` is what is expected of a run that has ended: the lease is completed once, and an exception of a call
  is the one that the caller sees.
* `run_kept_iff`: this is so exactly if no heartbeat raises, and if a report of progress or the execution raises
  only when the lease is already lost.  There is no call of `complete` on the way through `finally`, and
  the `CancelledError` of the cancelled heartbeat is no `Exception`: it takes the place of the one that is raised.
-/

namespace HexeAiNode
namespace Runtime
namespace LeaseExecution

open Py Execution

/-! ## The lease -/

/-- The answer to a request for a lease. -/
structure LeaseResult where
  status : String
  payload : Value
  retryable : Bool

/-- What a call raises: an `Exception`. -/
structure Raised where
  exc : Exc
  isException : exc.isException = true

/-- What a call ends with. -/
abbrev Answer (α : Type) := Except Raised α

/-- The reading of a task request by pydantic, and of the job of a lease by the runner. -/
def buildTaskRequest (validate : Dict → Except Exc TaskExecutionRequest) (job : Dict) (leaseId : String) :
    Option TaskExecutionRequest :=
  let payload := (job.get "payload").asDict
  let taskPayload := if (Dict.get payload "task_request").isDict then (Dict.get payload "task_request").asDict
    else payload
  if taskPayload = [] then none
  else
    match validate taskPayload with
    | .ok request => some { request with leaseId := some leaseId }
    | .error _ => none

/-- What is done with the answer to a request for a lease. -/
inductive Start where
  | notGranted (retryable : Bool)
  | invalidJob (leaseId : String)
  | granted (leaseId : String) (request : TaskExecutionRequest)

/-- The first part of `run_once`, up to the job of the lease. -/
def start (validate : Dict → Except Exc TaskExecutionRequest) (result : LeaseResult) : Start :=
  if result.status ≠ "ok" then .notGranted result.retryable
  else
    match result.payload.asDict.get "lease", result.payload.asDict.get "job" with
    | .dict lease, .dict job =>
      let leaseId := (Dict.get lease "lease_id").normalizeString
      if leaseId = "" then .notGranted false
      else
        match buildTaskRequest validate job leaseId with
        | some request => .granted leaseId request
        | none => .invalidJob leaseId
    | _, _ => .notGranted false

/-! ## The two tasks -/

/-- The status that a lease is completed with. -/
inductive CompletionStatus where
  | completed
  | failed
  deriving DecidableEq, Repr

/-- The status for the result of an execution. -/
def completionStatus (result : TaskExecutionResult) : CompletionStatus :=
  if result.status = .completed ∨ result.status = .degraded then .completed else .failed

/-- The answer to a heartbeat. -/
structure HeartbeatResult where
  status : String
  error : Option String := none

/-- How the heartbeat task has ended. -/
inductive HeartbeatEnd where
  | stopped
  | lost (reason : String)
  | raised (e : Raised)
  | cancelled

/-- The heartbeat task. -/
inductive Heartbeat where
  /-- It is created and has not run. -/
  | fresh
  /-- It waits for the stop event, or for the interval to pass. -/
  | waiting
  /-- It waits for the answer to a heartbeat. -/
  | calling
  | ended (how : HeartbeatEnd)

/-- What `run_once` returns or raises. -/
inductive Outcome where
  | invalidPayload
  | leaseLost (reason : String)
  | done (result : TaskExecutionResult)
  | raised (e : Exc)

/-- What `run_once` waits for. -/
inductive Phase where
  /-- The completion of a lease whose job cannot be read. -/
  | rejecting
  /-- The telemetry event; without a publisher it is over at once. -/
  | announcing
  | reporting
  | executing
  /-- The heartbeat task, once there is a result. -/
  | joining (result : TaskExecutionResult)
  | completing (result : TaskExecutionResult)
  /-- The cancelled heartbeat task, in the `finally` block. -/
  | closing (e : Raised)
  | finished (outcome : Outcome)

/-- The state of a run.  `completions` are the calls of `complete`, `result` is what the execution returned and
`raised` what the report of progress, the execution and `complete` raised. -/
structure State where
  phase : Phase
  heartbeat : Option Heartbeat
  stop : Bool := false
  completions : List CompletionStatus := []
  result : Option TaskExecutionResult := none
  raised : List Raised := []

/-- The state after the first part of `run_once`; `none` when no lease is granted. -/
def initial : Start → Option State
  | .notGranted _ => none
  | .invalidJob _ => some { phase := .rejecting, heartbeat := none, completions := [.failed] }
  | .granted _ _ => some { phase := .announcing, heartbeat := some .fresh }

/-- A step. -/
inductive Action where
  | published (answer : Answer Unit)
  | reported (answer : Answer Unit)
  | executed (answer : Answer TaskExecutionResult)
  /-- The heartbeat task has ended, and is not waited for any more. -/
  | joined
  | completed (answer : Answer Unit)
  /-- The heartbeat task runs for the first time. -/
  | heartbeatStarts
  | intervalPasses
  | stopSeen
  | heartbeatAnswered (answer : Answer HeartbeatResult)
  /-- The cancelled task takes notice.  When the wait for the stop event is over already, `wait_for` hands its
  result on in some versions of the library, and the loop ends by itself. -/
  | cancellationSeen (handedOn : Bool)

/-- The exception `e` on the way through the `finally` block. -/
def fail (e : Raised) (s : State) : State :=
  match s.heartbeat with
  | none | some (.ended _) => { s with phase := .finished (.raised e.exc), stop := true }
  | some _ => { s with phase := .closing e, stop := true }

/-- What `asyncio.CancelledError` is. -/
def cancelledError : Exc := ⟨.cancelledError, ""⟩

/-- The heartbeat task is over, or there is none. -/
def HeartbeatOver (heartbeat : Option Heartbeat) : Prop := ∀ h ∈ heartbeat, ∃ how, h = .ended how

/-- A step of the heartbeat loop. -/
def Heartbeat.step (stop : Bool) : Heartbeat → Action → Heartbeat
  | .fresh, .heartbeatStarts => if stop then .ended .stopped else .waiting
  | .waiting, .intervalPasses => .calling
  | .waiting, .stopSeen => if stop then .ended .stopped else .waiting
  | .calling, .heartbeatAnswered (.error e) => .ended (.raised e)
  | .calling, .heartbeatAnswered (.ok result) =>
    if result.status ≠ "ok" then .ended (.lost ((result.error.filter (· ≠ "")).getD result.status))
    else if stop then .ended .stopped
    else .waiting
  | heartbeat, _ => heartbeat

/-- The heartbeat task takes notice that it is cancelled. -/
def Heartbeat.cancel (handedOn : Bool) : Heartbeat → Heartbeat
  | .fresh | .calling => .ended .cancelled
  | .waiting => if handedOn then .ended .stopped else .ended .cancelled
  | .ended how => .ended how

/-- `run_once` goes on when the heartbeat task that it waits for has ended. -/
def join (s : State) (how : HeartbeatEnd) : State :=
  match s.phase, how with
  | .joining result, .stopped =>
    { s with phase := .completing result, completions := s.completions ++ [completionStatus result] }
  | .joining _, .lost reason => { s with phase := .finished (.leaseLost reason) }
  | .joining _, .raised e => { s with phase := .finished (.raised e.exc) }
  -- `except Exception` does not catch it.
  | .joining _, .cancelled | .closing _, .cancelled => { s with phase := .finished (.raised cancelledError) }
  | .closing e, _ => { s with phase := .finished (.raised e.exc) }
  | _, _ => s

/-- The exception of a call, on its way through the `finally` block. -/
def raise (s : State) (e : Raised) : State := fail e { s with raised := s.raised ++ [e] }

/-- One step.  A step that cannot be taken in a state changes nothing. -/
def fire (s : State) (action : Action) : State :=
  match s.phase, action with
  | .rejecting, .completed (.ok _) => { s with phase := .finished .invalidPayload }
  | .announcing, .published _ => { s with phase := .reporting }
  | .reporting, .reported (.ok _) => { s with phase := .executing }
  | .executing, .executed (.ok result) => { s with phase := .joining result, stop := true, result := some result }
  | .completing result, .completed (.ok _) => { s with phase := .finished (.done result) }
  | .reporting, .reported (.error e) | .executing, .executed (.error e)
  | .rejecting, .completed (.error e) | .completing _, .completed (.error e) => raise s e
  | .joining _, .joined | .closing _, .joined =>
    match s.heartbeat with
    | some (.ended how) => join s how
    | _ => s
  | .closing _, .cancellationSeen handedOn => { s with heartbeat := s.heartbeat.map (·.cancel handedOn) }
  | .closing _, _ => s
  | _, action => { s with heartbeat := s.heartbeat.map (·.step s.stop action) }

/-! ## What is expected of a run -/

/-- The lease was reported lost. -/
def LeaseLost (s : State) : Prop := ∃ reason, s.heartbeat = some (.ended (.lost reason))

/-- The lease was completed once, as completed exactly if the result of the execution is one. -/
def CompletedOnce (s : State) : Prop :=
  ∃ status, s.completions = [status] ∧
    (status = .completed ↔ ∃ result, s.result = some result ∧
      (result.status = .completed ∨ result.status = .degraded))

/-- What is expected of a run that has ended. -/
structure RunKept (s : State) : Prop where
  completed : ¬LeaseLost s → CompletedOnce s
  same : ∀ e ∈ s.raised, s.phase = .finished (.raised e.exc) ∧ HeartbeatOver s.heartbeat

/-- A step that does no harm: no heartbeat raises, and a call that raises does so when the lease is lost. -/
def Harmless (s : State) (action : Action) : Prop :=
  match s.phase, action with
  | .reporting, .reported (.error _) | .executing, .executed (.error _) => LeaseLost s
  | .closing _, .heartbeatAnswered (.error _) => True
  | _, .heartbeatAnswered (.error _) => s.heartbeat ≠ some .calling
  | _, _ => True

/-! ## Runs -/

/-- A heartbeat that has not raised and is not cancelled; it is over before the stop only when the lease is lost. -/
def Heartbeat.Sound (stop : Bool) (heartbeat : Heartbeat) : Prop :=
  ∀ how, heartbeat = .ended how → (∃ reason, how = .lost reason) ∨ how = .stopped ∧ stop = true

/-- While the job is executed. -/
structure Working (s : State) : Prop where
  completions : s.completions = []
  raised : s.raised = []
  sound : ∃ h, s.heartbeat = some h ∧ h.Sound s.stop

/-- A run without harm, so far. -/
def Good (s : State) : Prop :=
  match s.phase with
  | .rejecting => s.heartbeat = none ∧ s.completions = [.failed] ∧ s.result = none ∧ s.raised = []
  | .announcing | .reporting | .executing => Working s ∧ s.result = none ∧ s.stop = false
  | .joining result => Working s ∧ s.result = some result ∧ s.stop = true
  | .completing result =>
    s.heartbeat = some (.ended .stopped) ∧ s.completions = [completionStatus result] ∧ s.result = some result ∧
      s.raised = []
  | .closing _ => False
  | .finished _ => HeartbeatOver s.heartbeat ∧ RunKept s

/-- A run that has come to harm: the lease will not be completed. -/
def Bad (s : State) : Prop :=
  s.completions = [] ∧ ¬LeaseLost s ∧
    match s.phase with
    | .announcing | .reporting | .executing | .joining _ => ∃ e, s.heartbeat = some (.ended (.raised e))
    | .closing _ => True
    | .finished _ => HeartbeatOver s.heartbeat
    | .rejecting | .completing _ => False

theorem Heartbeat.sound_step {stop : Bool} {h : Heartbeat} {action : Action} (hsound : h.Sound stop)
    (hraise : ∀ e, action = .heartbeatAnswered (.error e) → h ≠ .calling) : (h.step stop action).Sound stop := by
  cases h with
  | fresh =>
    cases action <;> cases stop <;> simp_all [Heartbeat.step, Heartbeat.Sound]
  | waiting =>
    cases action <;> cases stop <;> simp_all [Heartbeat.step, Heartbeat.Sound]
  | calling =>
    cases action with
    | heartbeatAnswered answer =>
      cases answer with
      | error e => exact absurd rfl (hraise e rfl)
      | ok result =>
        unfold Heartbeat.step Heartbeat.Sound
        by_cases hok : result.status = "ok" <;> cases stop <;> simp [hok]
    | _ => simp [Heartbeat.step, Heartbeat.Sound]
  | ended how => cases action <;> exact hsound

/-- A heartbeat that is over does not move. -/
theorem map_step_of_over {heartbeat : Option Heartbeat} (h : HeartbeatOver heartbeat) (stop : Bool)
    (action : Action) : heartbeat.map (·.step stop action) = heartbeat := by
  rcases heartbeat with _ | heartbeat
  · rfl
  · obtain ⟨how, rfl⟩ := h heartbeat rfl
    cases action <;> rfl

theorem heartbeatOver_ended (how : HeartbeatEnd) : HeartbeatOver (some (.ended how)) := by
  rintro _ ⟨⟩
  exact ⟨how, rfl⟩

/-- A run that has ended stays as it is. -/
theorem fire_finished {s : State} {outcome : Outcome} (hphase : s.phase = .finished outcome)
    (hover : HeartbeatOver s.heartbeat) (action : Action) : fire s action = s := by
  obtain ⟨phase, heartbeat, stop, completions, result, raised⟩ := s
  obtain rfl : phase = .finished outcome := hphase
  have hmap := map_step_of_over hover stop action
  show State.mk (.finished outcome) (heartbeat.map (·.step stop action)) stop completions result raised = _
  rw [hmap]

/-- An exception while the heartbeat is over. -/
theorem raise_of_ended {s : State} {how : HeartbeatEnd} (h : s.heartbeat = some (.ended how)) (e : Raised) :
    raise s e = { s with phase := .finished (.raised e.exc), stop := true, raised := s.raised ++ [e] } := by
  unfold raise fail
  dsimp only
  rw [h]

/-- The heartbeat of a run at work, after a step that is not one of the runner. -/
theorem Working.step {s : State} {action : Action} (h : Working s)
    (hraise : ∀ e, action = .heartbeatAnswered (.error e) → s.heartbeat ≠ some .calling) :
    Working { s with heartbeat := s.heartbeat.map (·.step s.stop action) } := by
  obtain ⟨heartbeat, hheartbeat, hsound⟩ := h.sound
  refine ⟨h.completions, h.raised, heartbeat.step s.stop action, ?_, ?_⟩
  · simp only [hheartbeat, Option.map_some]
  · refine Heartbeat.sound_step hsound fun e he hcalling => hraise e he ?_
    rw [hheartbeat, hcalling]

/-- What the heartbeat of a run at work has ended with. -/
theorem Working.ended {s : State} (h : Working s) {how : HeartbeatEnd} (hended : s.heartbeat = some (.ended how)) :
    (∃ reason, how = .lost reason) ∨ how = .stopped := by
  obtain ⟨heartbeat, hheartbeat, hsound⟩ := h.sound
  obtain rfl := Option.some.inj (hheartbeat.symm.trans hended)
  exact (hsound how rfl).imp id And.left

/-- A run at work in which the execution or the report raises after the lease is lost. -/
theorem good_raise {s : State} (hraised : s.raised = []) (hlost : LeaseLost s) (e : Raised) : Good (raise s e) := by
  obtain ⟨reason, hreason⟩ := hlost
  rw [raise_of_ended hreason]
  refine ⟨?_, fun hnot => absurd ⟨reason, hreason⟩ hnot, fun e' he' => ?_⟩
  · show HeartbeatOver s.heartbeat
    rw [hreason]
    exact heartbeatOver_ended _
  · rw [hraised] at he'
    obtain rfl := List.mem_singleton.mp he'
    refine ⟨rfl, ?_⟩
    show HeartbeatOver s.heartbeat
    rw [hreason]
    exact heartbeatOver_ended _

/-- The completion of a lease raises or not; the lease is completed once. -/
theorem completedOnce_of_result {s : State} {result : TaskExecutionResult}
    (hcompletions : s.completions = [completionStatus result]) (hresult : s.result = some result) :
    CompletedOnce s := by
  refine ⟨_, hcompletions, ?_⟩
  rw [hresult]
  unfold completionStatus
  by_cases h : result.status = .completed ∨ result.status = .degraded
  · simp [h]
  · simp [h]

/-- **A step without harm** keeps a run good. -/
theorem good_fire {s : State} (hgood : Good s) {action : Action} (hharmless : Harmless s action) :
    Good (fire s action) := by
  obtain ⟨phase, heartbeat, stop, completions, result, raised⟩ := s
  cases phase with
  | rejecting =>
    obtain ⟨rfl, rfl, rfl, rfl⟩ := hgood
    cases action with
    | completed answer =>
      have honce : ∀ s : State, s.completions = [.failed] → s.result = none → CompletedOnce s :=
        fun s hc hr => ⟨.failed, hc, by simp [hr]⟩
      cases answer with
      | ok _ => exact ⟨nofun, fun _ => honce _ rfl rfl, nofun⟩
      | error e =>
        refine ⟨nofun, fun _ => honce _ rfl rfl, fun e' he' => ?_⟩
        obtain rfl := List.mem_singleton.mp he'
        exact ⟨rfl, nofun⟩
    | _ => exact ⟨rfl, rfl, rfl, rfl⟩
  | announcing =>
    obtain ⟨hworking, hresult, hstop⟩ := hgood
    cases action with
    | published _ => exact ⟨⟨hworking.completions, hworking.raised, hworking.sound⟩, hresult, hstop⟩
    | heartbeatAnswered answer =>
      refine ⟨hworking.step fun e he => ?_, hresult, hstop⟩
      obtain rfl := Action.heartbeatAnswered.inj he
      exact hharmless
    | _ => exact ⟨hworking.step nofun, hresult, hstop⟩
  | reporting =>
    obtain ⟨hworking, hresult, hstop⟩ := hgood
    cases action with
    | reported answer =>
      cases answer with
      | ok _ => exact ⟨⟨hworking.completions, hworking.raised, hworking.sound⟩, hresult, hstop⟩
      | error e => exact good_raise hworking.raised hharmless e
    | heartbeatAnswered answer =>
      refine ⟨hworking.step fun e he => ?_, hresult, hstop⟩
      obtain rfl := Action.heartbeatAnswered.inj he
      exact hharmless
    | _ => exact ⟨hworking.step nofun, hresult, hstop⟩
  | executing =>
    obtain ⟨hworking, hresult, hstop⟩ := hgood
    cases action with
    | executed answer =>
      cases answer with
      | ok result =>
        obtain ⟨h, hh, hsound⟩ := hworking.sound
        refine ⟨⟨hworking.completions, hworking.raised, h, hh, fun how hhow => ?_⟩, rfl, rfl⟩
        exact (hsound how hhow).imp id fun hs => ⟨hs.1, rfl⟩
      | error e => exact good_raise hworking.raised hharmless e
    | heartbeatAnswered answer =>
      refine ⟨hworking.step fun e he => ?_, hresult, hstop⟩
      obtain rfl := Action.heartbeatAnswered.inj he
      exact hharmless
    | _ => exact ⟨hworking.step nofun, hresult, hstop⟩
  | joining result =>
    obtain ⟨hworking, hresult, hstop⟩ := hgood
    cases action with
    | joined =>
      rcases heartbeat with _ | _ | _ | _ | how
      case some.ended =>
        rcases hworking.ended rfl with ⟨reason, rfl⟩ | rfl
        · exact ⟨heartbeatOver_ended _, fun hnot => absurd ⟨reason, rfl⟩ hnot, by
            rw [show raised = [] from hworking.raised]
            exact nofun⟩
        · refine ⟨rfl, ?_, hresult, hworking.raised⟩
          rw [show completions = [] from hworking.completions]
          rfl
      all_goals exact ⟨hworking, hresult, hstop⟩
    | heartbeatAnswered answer =>
      refine ⟨hworking.step fun e he => ?_, hresult, hstop⟩
      obtain rfl := Action.heartbeatAnswered.inj he
      exact hharmless
    | _ => exact ⟨hworking.step nofun, hresult, hstop⟩
  | completing result =>
    obtain ⟨rfl, rfl, rfl, rfl⟩ := hgood
    cases action with
    | completed answer =>
      cases answer with
      | ok _ => exact ⟨heartbeatOver_ended _, fun _ => completedOnce_of_result rfl rfl, nofun⟩
      | error e =>
        refine ⟨heartbeatOver_ended _, fun _ => completedOnce_of_result rfl rfl, fun e' he' => ?_⟩
        obtain rfl := List.mem_singleton.mp he'
        exact ⟨rfl, heartbeatOver_ended _⟩
    | _ => exact ⟨rfl, rfl, rfl, rfl⟩
  | closing e => exact hgood.elim
  | finished outcome =>
    rw [fire_finished rfl hgood.1]
    exact hgood

/-- A call raises while the heartbeat is not over, or over by itself: nobody completes the lease. -/
theorem bad_raise {s : State} (hworking : Working s) (hlost : ¬LeaseLost s) (e : Raised) : Bad (raise s e) := by
  obtain ⟨h, hh, -⟩ := hworking.sound
  cases h with
  | ended how =>
    rw [raise_of_ended hh]
    refine ⟨hworking.completions, hlost, ?_⟩
    show HeartbeatOver s.heartbeat
    rw [hh]
    exact heartbeatOver_ended how
  | _ =>
    refine ⟨?_, ?_, ?_⟩
    all_goals simp only [raise, fail, hh, LeaseLost]
    · exact hworking.completions
    · rintro ⟨reason, hreason⟩
      cases hreason

/-- A heartbeat that raises: its task is over, and the lease is not lost. -/
theorem map_step_of_raise {s : State} {e : Raised} (hcalling : s.heartbeat = some .calling) :
    s.heartbeat.map (·.step s.stop (.heartbeatAnswered (.error e))) = some (.ended (.raised e)) := by
  rw [hcalling]
  rfl

/-- **The first step that does harm** makes a run bad. -/
theorem bad_fire_of_good {s : State} (hgood : Good s) {action : Action} (hharm : ¬Harmless s action) :
    Bad (fire s action) := by
  obtain ⟨phase, heartbeat, stop, completions, result, raised⟩ := s
  have hraises : ∀ {e : Raised} {phase : Phase}, heartbeat = some .calling → completions = [] →
      (phase = .announcing ∨ phase = .reporting ∨ phase = .executing ∨ ∃ r, phase = .joining r) →
      Bad ⟨phase, heartbeat.map (·.step stop (.heartbeatAnswered (.error e))), stop, completions, result,
        raised⟩ := by
    rintro e phase rfl rfl hphase
    refine ⟨rfl, fun ⟨reason, hreason⟩ => (nomatch hreason), ?_⟩
    rcases hphase with rfl | rfl | rfl | ⟨r, rfl⟩ <;> exact ⟨e, rfl⟩
  cases phase with
  | rejecting =>
    obtain ⟨rfl, -⟩ := hgood
    cases action with
    | heartbeatAnswered answer =>
      cases answer with
      | error e => exact absurd nofun hharm
      | ok _ => exact absurd trivial hharm
    | _ => exact absurd trivial hharm
  | announcing =>
    obtain ⟨hworking, -⟩ := hgood
    cases action with
    | heartbeatAnswered answer =>
      cases answer with
      | error e => exact hraises (not_not.mp hharm) hworking.completions (Or.inl rfl)
      | ok _ => exact absurd trivial hharm
    | _ => exact absurd trivial hharm
  | reporting =>
    obtain ⟨hworking, -⟩ := hgood
    cases action with
    | heartbeatAnswered answer =>
      cases answer with
      | error e => exact hraises (not_not.mp hharm) hworking.completions (Or.inr (Or.inl rfl))
      | ok _ => exact absurd trivial hharm
    | reported answer =>
      cases answer with
      | error e => exact bad_raise hworking hharm e
      | ok _ => exact absurd trivial hharm
    | _ => exact absurd trivial hharm
  | executing =>
    obtain ⟨hworking, -⟩ := hgood
    cases action with
    | heartbeatAnswered answer =>
      cases answer with
      | error e => exact hraises (not_not.mp hharm) hworking.completions (Or.inr (Or.inr (Or.inl rfl)))
      | ok _ => exact absurd trivial hharm
    | executed answer =>
      cases answer with
      | error e => exact bad_raise hworking hharm e
      | ok _ => exact absurd trivial hharm
    | _ => exact absurd trivial hharm
  | joining r =>
    obtain ⟨hworking, -⟩ := hgood
    cases action with
    | heartbeatAnswered answer =>
      cases answer with
      | error e => exact hraises (not_not.mp hharm) hworking.completions (Or.inr (Or.inr (Or.inr ⟨r, rfl⟩)))
      | ok _ => exact absurd trivial hharm
    | _ => exact absurd trivial hharm
  | completing r =>
    obtain ⟨rfl, -⟩ := hgood
    cases action with
    | heartbeatAnswered answer =>
      cases answer with
      | error e => exact absurd nofun hharm
      | ok _ => exact absurd trivial hharm
    | _ => exact absurd trivial hharm
  | closing e => exact hgood.elim
  | finished outcome =>
    have hcalling : heartbeat ≠ some .calling := by
      rintro rfl
      obtain ⟨how, hhow⟩ := hgood.1 _ rfl
      cases hhow
    cases action with
    | heartbeatAnswered answer =>
      cases answer with
      | error e => exact absurd hcalling hharm
      | ok _ => exact absurd trivial hharm
    | _ => exact absurd trivial hharm

/-- The cancelled task does not come back with a lost lease. -/
theorem not_lost_cancel {heartbeat : Option Heartbeat} (h : ∀ reason, heartbeat ≠ some (.ended (.lost reason)))
    (handedOn : Bool) (reason : String) : heartbeat.map (·.cancel handedOn) ≠ some (.ended (.lost reason)) := by
  rcases heartbeat with _ | h'
  · exact nofun
  · intro heq
    cases h' with
    | waiting => cases handedOn <;> cases heq
    | ended how => exact h reason heq
    | _ => cases heq

/-- **A bad run** stays bad. -/
theorem bad_fire {s : State} (hbad : Bad s) (action : Action) : Bad (fire s action) := by
  obtain ⟨phase, heartbeat, stop, completions, result, raised⟩ := s
  obtain ⟨rfl, hlost, hphase⟩ := hbad
  cases phase with
  | rejecting | completing _ => exact hphase.elim
  | announcing =>
    obtain ⟨e, rfl⟩ := hphase
    cases action <;> exact ⟨rfl, hlost, e, rfl⟩
  | reporting =>
    obtain ⟨e, rfl⟩ := hphase
    cases action with
    | reported answer =>
      cases answer with
      | ok _ => exact ⟨rfl, hlost, e, rfl⟩
      | error e' => exact ⟨rfl, hlost, heartbeatOver_ended _⟩
    | _ => exact ⟨rfl, hlost, e, rfl⟩
  | executing =>
    obtain ⟨e, rfl⟩ := hphase
    cases action with
    | executed answer =>
      cases answer with
      | ok _ => exact ⟨rfl, hlost, e, rfl⟩
      | error e' => exact ⟨rfl, hlost, heartbeatOver_ended _⟩
    | _ => exact ⟨rfl, hlost, e, rfl⟩
  | joining r =>
    obtain ⟨e, rfl⟩ := hphase
    cases action with
    | joined => exact ⟨rfl, hlost, heartbeatOver_ended _⟩
    | _ => exact ⟨rfl, hlost, e, rfl⟩
  | closing e =>
    have hnever : ∀ reason, heartbeat ≠ some (.ended (.lost reason)) := fun reason heq => hlost ⟨reason, heq⟩
    cases action with
    | joined =>
      rcases heartbeat with _ | _ | _ | _ | how
      case some.ended => cases how <;> exact ⟨rfl, hlost, heartbeatOver_ended _⟩
      all_goals exact ⟨rfl, hlost, trivial⟩
    | cancellationSeen handedOn =>
      exact ⟨rfl, fun ⟨reason, hreason⟩ => not_lost_cancel hnever handedOn reason hreason, trivial⟩
    | _ => exact ⟨rfl, hlost, trivial⟩
  | finished outcome =>
    rw [fire_finished rfl hphase]
    exact ⟨rfl, hlost, hphase⟩

/-- A run starts good. -/
theorem good_initial {begin : Start} {s : State} (h : initial begin = some s) : Good s := by
  cases begin with
  | notGranted retryable => cases h
  | invalidJob leaseId =>
    obtain rfl := Option.some.inj h
    exact ⟨rfl, rfl, rfl, rfl⟩
  | granted leaseId request =>
    obtain rfl := Option.some.inj h
    exact ⟨⟨rfl, rfl, .fresh, rfl, nofun⟩, rfl, rfl⟩

/-- **Lease completion**: the lease of a run that has ended is completed once, and the exception of a call is the
one that `run_once` ends with, exactly if no heartbeat raises and if the report of progress and the execution
raise only when the lease is lost. -/
theorem run_kept_iff (validate : Dict → Except Exc TaskExecutionRequest) (lease : LeaseResult) (s : State)
    (hgranted : initial (start validate lease) = some s) (actions : List Action) (outcome : Outcome)
    (hended : (Run.after fire s actions).phase = .finished outcome) :
    RunKept (Run.after fire s actions) ↔ Run.Along fire Harmless s actions := by
  rcases Run.along_or_bad actions (good_initial hgranted) (fun _ _ hgood hharmless => good_fire hgood hharmless)
    (fun _ _ hgood hharm => bad_fire_of_good hgood hharm) fun _ action hbad => bad_fire hbad action with
    ⟨halong, hgood⟩ | ⟨halong, hbad⟩
  · refine iff_of_true ?_ halong
    unfold Good at hgood
    rw [hended] at hgood
    exact hgood.2
  · refine iff_of_false (fun hkept => ?_) halong
    obtain ⟨status, hstatus, -⟩ := hkept.completed hbad.2.1
    rw [hbad.1] at hstatus
    cases hstatus

/-! ## Two runs -/

/-- The fields of a request that the tests of the runner give. -/
def sampleValidate (payload : Dict) : Except Exc TaskExecutionRequest :=
  match payload.get "task_id", payload.get "task_family", payload.get "requested_by", payload.get "trace_id" with
  | .str taskId, .str taskFamily, .str requestedBy, .str traceId =>
    .ok { taskId := taskId, taskFamily := taskFamily, requestedBy := requestedBy, traceId := traceId }
  | _, _, _, _ => .error ⟨.validationError, "Field required"⟩

/-- A lease that is granted. -/
def sampleLease : LeaseResult where
  status := "ok"
  payload := .dict [("lease", .dict [("lease_id", .str "lease-001")]), ("job", .dict [("payload", .dict
    [("task_request", .dict [("task_id", .str "task-001"), ("task_family", .str "task.classification"),
      ("requested_by", .str "scheduler.core"), ("trace_id", .str "trace-001")])])])]
  retryable := false

/-- The state in which the work on it begins. -/
def sampleState : State where
  phase := .announcing
  heartbeat := some .fresh

/-- A completed execution. -/
def sampleResult : TaskExecutionResult := { taskId := "task-001", status := .completed }

theorem initial_sampleLease : initial (start sampleValidate sampleLease) = some sampleState := rfl

/-- The execution is completed, and so is the lease. -/
theorem run_kept_of_success :
    RunKept (Run.after fire sampleState [.published (.ok ()), .reported (.ok ()), .heartbeatStarts,
      .executed (.ok sampleResult), .stopSeen, .joined, .completed (.ok ())]) :=
  (run_kept_iff sampleValidate sampleLease sampleState initial_sampleLease _ (.done sampleResult) rfl).mpr
    ⟨trivial, trivial, trivial, trivial, trivial, trivial, trivial, trivial⟩

/-- The execution raises while the heartbeat waits: the lease is not completed, and the caller sees the
cancellation of the heartbeat. -/
theorem lease_not_completed :
    ¬∀ (validate : Dict → Except Exc TaskExecutionRequest) (lease : LeaseResult) (s : State),
      initial (start validate lease) = some s → ∀ (actions : List Action) (outcome : Outcome),
        (Run.after fire s actions).phase = .finished outcome → RunKept (Run.after fire s actions) := by
  intro h
  have hkept := h sampleValidate sampleLease sampleState initial_sampleLease
    [.published (.ok ()), .reported (.ok ()), .heartbeatStarts,
      .executed (.error ⟨⟨.runtimeError, "queue unavailable"⟩, rfl⟩), .cancellationSeen false, .joined]
    (.raised cancelledError) rfl
  obtain ⟨status, hstatus, -⟩ := hkept.completed fun ⟨_, hlost⟩ => nomatch hlost
  cases hstatus

end LeaseExecution
end Runtime
end HexeAiNode
