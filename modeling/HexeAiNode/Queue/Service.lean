import Mathlib.Data.List.Sort
import Mathlib.Logic.Function.Basic
import HexeAiNode.Library.Heapq
import HexeAiNode.Library.StoreAction
import HexeAiNode.Python.Coercion
import HexeAiNode.Python.OrderedDict
import HexeAiNode.Queue.Jobs

/-!
# The execution queue

The state of `ExecutionQueueService` and the bodies of its `async with self._lock` blocks.  Each block
runs without an interruption and reads the clock once; it may end with an exception, which keeps the
changes made before it.

The tasks of the event loop are part of the state: at most one dispatcher and one retry timer for each
queue, and the runner tasks in the order of their creation, each with the point it is suspended at.
-/

namespace HexeAiNode
namespace Queue

open Py Execution StoreAction

/-! ## State -/

/-- Where a dispatcher is suspended: before the first block of an attempt, while the admission of the job
it saw at the head is checked, or before the block that registers the runner it created. -/
inductive Dispatcher where
  | attempt
  | admission (jobId : JobId)
  | registration (jobId : JobId) (task : ℕ)
  deriving DecidableEq

/-- Where a runner task is suspended.  A task that is cancelled while it is `created` is `doomed`: its
coroutine is never entered. -/
inductive RunnerState where
  | created
  | doomed
  | awaiting
  | completing (result : Option Payload)
  | failing (code : String)
  | cancelling
  | finishing
  | finished

/-- A `_run_job` task. -/
structure Runner where
  queue : QueueKey
  jobId : JobId
  callable : Bool
  state : RunnerState

/-- The service.  A dispatcher that is `none` has never been started or is done; a timer is present from
its creation until it removes itself.  `stateFile` is what the state file holds. -/
structure Service where
  jobs : OrderedDict JobId Job := .empty
  queues : QueueKey → List Entry := fun _ => []
  activeCounts : QueueKey → ℕ := fun _ => 0
  dispatchers : QueueKey → Option Dispatcher := fun _ => none
  runners : List Runner := []
  runningTasks : OrderedDict JobId ℕ := .empty
  retries : QueueKey → Option FloatVal := fun _ => none
  nextSequence : ℕ := 1
  stateFile : Option (List Job) := none

/-- A block of the service. -/
abbrev Block := StoreAction Service Exc

namespace Service

/-- `_jobs[id] = job`. -/
def setJob (id : JobId) (job : Job) (s : Service) : Service := { s with jobs := s.jobs.set id job }

/-- `_queues[q] = entries`. -/
def setQueue (q : QueueKey) (entries : List Entry) (s : Service) : Service :=
  { s with queues := Function.update s.queues q entries }

/-- `_remove_from_queue_locked`. -/
def removeFromQueue (q : QueueKey) (id : JobId) (s : Service) : Service :=
  s.setQueue q (Heapq.heapify ((s.queues q).filter fun e => e.jobId ≠ id))

/-- `heapq.heappush(_queues[q], e)`. -/
def pushEntry (q : QueueKey) (e : Entry) (s : Service) : Service :=
  s.setQueue q (Heapq.push (s.queues q) e)

/-- `heapq.heappop(_queues[q])`. -/
def popEntry (q : QueueKey) (s : Service) : Service :=
  s.setQueue q ((Heapq.pop (s.queues q)).elim [] Prod.snd)

/-- The dispatcher of a queue goes on at a point, or is done. -/
def setDispatcher (q : QueueKey) (d : Option Dispatcher) (s : Service) : Service :=
  { s with dispatchers := Function.update s.dispatchers q d }

/-- `_ensure_dispatcher_locked`. -/
def ensureDispatcher (q : QueueKey) (s : Service) : Service :=
  match s.dispatchers q with
  | some _ => s
  | none => s.setDispatcher q (some .attempt)

/-- `_ensure_dispatcher_locked` for every queue. -/
def ensureDispatchers (s : Service) : Service :=
  { s with dispatchers := fun q => some ((s.dispatchers q).getD .attempt) }

/-- `_ensure_dispatcher_locked` for every queue that has entries. -/
def ensureBusyDispatchers (s : Service) : Service :=
  { s with dispatchers := fun q =>
      if s.queues q = [] then s.dispatchers q else some ((s.dispatchers q).getD .attempt) }

/-- A runner task goes on at a point. -/
def setRunner (task : ℕ) (state : RunnerState) (s : Service) : Service :=
  { s with runners := s.runners.modify task fun r => { r with state := state } }

/-! ## Estimates -/

/-- `_estimated_start_seconds_locked`. -/
def estimatedStartSeconds (cfg : Config) (q : QueueKey) (position : ℕ) (s : Service) : ℕ :=
  let concurrency := cfg.concurrency q
  let jobsAhead := s.activeCounts q + max position 1 - 1
  let wavesAhead := if jobsAhead = 0 then 0 else (jobsAhead + concurrency - 1) / concurrency
  wavesAhead * cfg.checkAfter

/-- The estimate grows with the number of jobs ahead. -/
theorem estimatedStartSeconds_mono {cfg : Config} {q : QueueKey} {s s' : Service} {position position' : ℕ}
    (h : s.activeCounts q + max position 1 ≤ s'.activeCounts q + max position' 1) :
    s.estimatedStartSeconds cfg q position ≤ s'.estimatedStartSeconds cfg q position' := by
  have hwaves : ∀ {m n : ℕ}, m ≤ n → (if m = 0 then 0 else (m + cfg.concurrency q - 1) / cfg.concurrency q) ≤
      if n = 0 then 0 else (n + cfg.concurrency q - 1) / cfg.concurrency q := by
    intro m n hmn
    split
    · exact Nat.zero_le _
    · next hm =>
      rw [if_neg (by omega)]
      exact Nat.div_le_div_right (by omega)
  exact Nat.mul_le_mul_right _ (hwaves (Nat.sub_le_sub_right h 1))

/-- `_queue_position`. -/
def queuePosition (id : JobId) (s : Service) : Option ℕ :=
  match s.jobs.get? id with
  | none => none
  | some job =>
    let queuedIds := ((s.queues job.queue).insertionSort (· ≤ ·)).map Entry.jobId
    if id ∈ queuedIds then some (queuedIds.idxOf id + 1) else none

/-- `_client_pending_count_locked`. -/
def clientPendingCount (client : String) (s : Service) : ℕ :=
  s.jobs.values.countP fun job =>
    job.clientId = some client && (job.status = .queued || job.status = .running)

end Service

/-- The result of `_queue_eta`. -/
structure Eta where
  estimatedStartSeconds : ℕ
  estimatedStartAt : Option ℤ
  source : String
  confidence : String

/-- `_queue_eta`. -/
def queueEta (cfg : Config) (now : ℤ) (s : Service) (id : JobId) : Except Exc (Option Eta) :=
  match s.jobs.get? id with
  | none => pure none
  | some job =>
    match job.status with
    | .running => pure (some ⟨0, job.startedAt, "already_running", "observed"⟩)
    | .queued =>
      match s.queuePosition id with
      | none => pure none
      | some position => do
        let n := s.estimatedStartSeconds cfg job.queue position
        let t ← addSeconds now n
        pure (some ⟨n, some t, "queue_position", "rough"⟩)
    | _ => pure none

/-- The part of a record that is persisted. -/
def Job.persisted (job : Job) : Job := { job with runner := false }

/-- `_public_job_payload`: the record without its runner.  The estimate and the wait boundary are part of
the payload, and computing them may raise. -/
def publicJobPayload (cfg : Config) (now : ℤ) (s : Service) (job : Job) : Except Exc Job := do
  let _ ← queueEta cfg now s job.jobId
  let _ ← job.effectiveDeadline
  pure job.persisted

/-! ## Persistence -/

/-- Records in the order of their sequence numbers. -/
def bySequence (records : List Job) : List Job :=
  records.insertionSort fun a b => a.sequence ≤ b.sequence

/-- `_persist_jobs_locked`.  The payloads are built outside the `try`; what `json.dumps` refuses is not
written. -/
def persistJobs (cfg : Config) (now : ℤ) : Block Unit :=
  if cfg.statePath then do
    let s ← read
    let records ← ofResult (s.jobs.values.mapM (publicJobPayload cfg now s))
    update fun s =>
      if records.all Job.jsonSafe then
        { s with stateFile := some (bySequence records) }
      else s
  else pure ()

/-! ## Deadlines -/

/-- A terminal record whose time is over. -/
def Job.isDue (now : ℤ) (job : Job) : Bool := job.status.terminal && decide (job.expiresAt ≤ now)

/-- The ids of the records to delete. -/
def Service.dueIds (now : ℤ) (s : Service) : List JobId :=
  (s.jobs.entries.filter fun e => e.2.isDue now).map Prod.fst

/-- `_jobs.pop(id)` and `_running_tasks.pop(id)` for each id. -/
def Service.dropJobs (ids : List JobId) (s : Service) : Service :=
  { s with jobs := s.jobs.eraseAll ids, runningTasks := s.runningTasks.eraseAll ids }

/-- `_prune_expired_terminal_jobs_locked`: whether a record was deleted. -/
def pruneExpiredTerminalJobs (now : ℤ) : Block Bool := do
  let s ← read
  update (Service.dropJobs (s.dueIds now))
  pure (!(s.dueIds now).isEmpty)

/-- The routing decision of a job that is moved to the cloud queue. -/
def reroutedDecision (routingDecision : Option Dict) : Dict :=
  let decision := routingDecision.getD []
  let original := (decision.get "original_queue").orElse (.str "local")
  ((((decision.set "original_queue" original).set "selected_queue" (.str "cloud")).set
    "spillover" (.bool true)).set "reason" (.str "rerouted_to_cloud")).set
      "local_unavailable_reason" (.str "expired_wait_budget")

/-- A job on its way to the cloud queue. -/
def movedJob (job : Job) : Job :=
  { job with
    queue := .cloud
    status := .queued
    routingDecision := some (reroutedDecision job.routingDecision) }

/-- The job leaves its heap, and its record is replaced. -/
def Service.takeOut (id : JobId) (job job' : Job) (s : Service) : Service :=
  (s.removeFromQueue job.queue id).setJob id job'

/-- The job enters the cloud queue. -/
def Service.enterCloud (job : Job) (key : WithTop ℚ) (s : Service) : Service :=
  (s.pushEntry .cloud (job.entry key)).ensureDispatcher .cloud

/-- The move of an overdue job from the local to the cloud queue. -/
def rerouteToCloud (cfg : Config) (now : ℤ) (id : JobId) (job : Job) : Block Unit := do
  update (Service.takeOut id job (movedJob job))
  let key ← ofResult (deadlineSortValue cfg now job.queueIntent)
  update (Service.enterCloud (movedJob job) key)

/-- A job that ends now, before its record is complete. -/
def endedJob (now : ℤ) (status : Status) (job : Job) : Job :=
  { job with status := status, completedAt := some now }

/-- The record of a job that ended without a result. -/
def closedJob (expiresAt : ℤ) (error : JobError) (job : Job) : Job :=
  { job with expiresAt := expiresAt, error := some error, runner := false }

/-- The end of a queued job. -/
def endQueued (cfg : Config) (now : ℤ) (id : JobId) (job : Job) (status : Status)
    (error : JobError) : Block Unit := do
  let ended := endedJob now status job
  update (Service.takeOut id job ended)
  let expiresAt ← ofResult (addSeconds now cfg.jobTtl)
  update (Service.setJob id (closedJob expiresAt error ended))

/-- The end of an overdue job. -/
def expireJob (cfg : Config) (now : ℤ) (id : JobId) (job : Job) : Block Unit :=
  endQueued cfg now id job .expiredWaitBudget
    ⟨"expired_wait_budget", "queue wait budget expired before execution"⟩

/-- The pass of `_monitor_deadlines_locked` over one job: whether it was moved or ended. -/
def monitorJob (cfg : Config) (now : ℤ) (id : JobId) : Block Bool := do
  let s ← read
  match s.jobs.get? id with
  | none => pure false
  | some job =>
    if job.status = .queued then do
      let deadline ← ofResult job.effectiveDeadline
      if deadline.all fun d => decide (now ≤ d) then pure false
      else if job.queue = .localNode ∧ job.allowsCloudSpillover then do
        rerouteToCloud cfg now id job
        pure true
      else do
        expireJob cfg now id job
        pure true
    else pure false

/-- The pass over a list of jobs. -/
def monitorJobs (cfg : Config) (now : ℤ) : List JobId → Block Bool
  | [] => pure false
  | id :: ids => do
    let changed ← monitorJob cfg now id
    let changed' ← monitorJobs cfg now ids
    pure (changed || changed')

/-- `_monitor_deadlines_locked`. -/
def monitorDeadlines (cfg : Config) (now : ℤ) : Block Unit := do
  let deleted ← pruneExpiredTerminalJobs now
  let s ← read
  let changed ← monitorJobs cfg now s.jobs.keys
  if deleted || changed then persistJobs cfg now else pure ()

/-! ## `enqueue` -/

/-- The arguments of `enqueue`. -/
structure EnqueueRequest where
  queue : String
  importance : String
  jobName : String := ""
  requestPayload : Payload := {}
  runner : Bool := true
  routingDecision : Option Dict := none
  queueIntent : QueueIntent := {}
  clientId : Option String := none
  runningCancellationSupported : Bool := false

/-- The answers of `enqueue`. -/
inductive EnqueueResponse where
  | clientLimitExceeded (pendingCount : ℕ)
  | deadlineUnreachable (estimatedStartSeconds maxWaitSeconds : ℕ)
  | queued (jobId : JobId)

/-- The text of a job id. -/
def jobIdText (id : JobId) : String := "job-" ++ String.ofList (hexDigits 16 id)

/-- The record `enqueue` makes. -/
def newJob (now expiresAt : ℤ) (jobId : JobId) (sequence : ℕ) (request : EnqueueRequest) : Job :=
  let q := normalizeQueueKey (.str request.queue)
  let name := strip request.jobName
  let client := strip (request.clientId.getD "")
  { jobId := jobId
    jobName := if name = "" then jobIdText jobId else name
    clientId := if client = "" then none else some client
    runtimeLane := runtimeLaneForJob q request.requestPayload request.queueIntent
    importance := importanceOf request.importance
    queueIntent := request.queueIntent
    request := request.requestPayload
    runningCancellationSupported := request.runningCancellationSupported
    queuedAt := now
    sequence := sequence
    queue := q
    routingDecision := request.routingDecision
    status := .queued
    expiresAt := expiresAt
    runner := request.runner }

/-- What `enqueue` computes before it takes the lock: the new record and its deadline key. -/
def prepareJob (cfg : Config) (now : ℤ) (jobId : JobId) (request : EnqueueRequest) :
    Block (Job × WithTop ℚ) := do
  let s ← read
  update fun s => { s with nextSequence := s.nextSequence + 1 }
  let key ← ofResult (deadlineSortValue cfg now request.queueIntent)
  let expiresAt ← ofResult (addSeconds now cfg.jobTtl)
  pure (newJob now expiresAt jobId s.nextSequence request, key)

/-- The refusal of a new job, if there is one. -/
def Service.refusal (cfg : Config) (job : Job) (s : Service) : Option EnqueueResponse :=
  let pending := job.clientId.elim 0 s.clientPendingCount
  if job.clientId.isSome ∧ 0 < cfg.maxPending ∧ cfg.maxPending ≤ pending then
    some (.clientLimitExceeded pending)
  else
    let estimated := s.estimatedStartSeconds cfg job.queue ((s.queues job.queue).length + 1)
    match job.queueIntent.maxWaitSeconds with
    | some maxWait =>
      if maxWait < estimated then some (.deadlineUnreachable estimated maxWait) else none
    | none => none

/-- The admission of a new job. -/
def insertJob (cfg : Config) (now : ℤ) (job : Job) (key : WithTop ℚ) : Block Unit := do
  update fun s => (s.setJob job.jobId job).pushEntry job.queue (job.entry key)
  persistJobs cfg now
  update (Service.ensureDispatcher job.queue)

/-- `queued_response`: what it computes may raise. -/
def queuedResponse (cfg : Config) (now : ℤ) (s : Service) (job : Job) :
    Except Exc EnqueueResponse := do
  let _ ← queueEta cfg now s job.jobId
  let _ ← job.effectiveDeadline
  pure (.queued job.jobId)

/-- `enqueue`. -/
def enqueue (cfg : Config) (now : ℤ) (jobId : JobId) (request : EnqueueRequest) :
    Block EnqueueResponse := do
  let (job, key) ← prepareJob cfg now jobId request
  monitorDeadlines cfg now
  let s ← read
  match s.refusal cfg job with
  | some response => pure response
  | none => do
    insertJob cfg now job key
    let s ← read
    ofResult (queuedResponse cfg now s job)

/-! ## `cancel_job` -/

/-- The answers of `cancel_job`. -/
inductive CancelResponse where
  | notFound
  | cancelled
  | unsupported
  | unavailable
  | requested
  | alreadyTerminal
  deriving DecidableEq

/-- The reason of a cancellation. -/
def cancelReason (reason : Option String) : String :=
  let stripped := strip (reason.getD "cancelled_by_client")
  if stripped = "" then "cancelled_by_client" else stripped

/-- Where `task.cancel()` sends a task.  A task that awaits its runner stays there: what the runner makes
of the exception is its outcome. -/
def RunnerState.cancel : RunnerState → RunnerState
  | .created => .doomed
  | .doomed => .doomed
  | .awaiting => .awaiting
  | .completing _ => .cancelling
  | .failing _ => .finishing
  | .cancelling => .finishing
  | .finishing => .finished
  | .finished => .finished

/-- `task.done()`. -/
def RunnerState.done : RunnerState → Bool
  | .finished => true
  | _ => false

/-- The registered runner task of a job, unless it is done. -/
def Service.liveTask (id : JobId) (s : Service) : Option ℕ :=
  match s.runningTasks.get? id with
  | none => none
  | some task =>
    match s.runners[task]? with
    | none => none
    | some runner => if runner.state.done then none else some task

/-- The end of a queued job that is cancelled. -/
def cancelQueued (cfg : Config) (now : ℤ) (id : JobId) (job : Job) (reason : Option String) :
    Block Unit := do
  endQueued cfg now id job .cancelled ⟨"cancelled", cancelReason reason⟩
  persistJobs cfg now

/-- `task.cancel()`. -/
def Service.cancelRunner (task : ℕ) (s : Service) : Service :=
  { s with runners := s.runners.modify task fun r => { r with state := r.state.cancel } }

/-- The request to cancel a running job. -/
def cancelRunning (cfg : Config) (now : ℤ) (id : JobId) (job : Job) (task : ℕ)
    (reason : Option String) : Block Unit := do
  update (Service.setJob id { job with
    cancellationRequestedAt := some now
    cancellationReason := some (cancelReason reason) })
  persistJobs cfg now
  update (Service.cancelRunner task)

/-- `cancel_job`, up to the wait for the cancelled task. -/
def cancelJob (cfg : Config) (now : ℤ) (id : JobId) (reason : Option String) :
    Block CancelResponse := do
  monitorDeadlines cfg now
  let s ← read
  match s.jobs.get? id with
  | none => pure .notFound
  | some job =>
    match job.status with
    | .queued => do
      cancelQueued cfg now id job reason
      pure .cancelled
    | .running =>
      if job.runningCancellationSupported then
        match s.liveTask id with
        | none => pure .unavailable
        | some task => do
          cancelRunning cfg now id job task reason
          pure .requested
      else pure .unsupported
    | _ => pure .alreadyTerminal

/-- `acknowledge_artifacts`: an acknowledgement is recorded once, for a completed job. -/
def acknowledgeArtifacts (cfg : Config) (now : ℤ) (id : JobId) (acknowledgement : Payload) :
    Block Unit := do
  let s ← read
  match s.jobs.get? id with
  | none => pure ()
  | some job =>
    if job.status = .completed ∧ job.artifactAcknowledgement.isNone then do
      update (Service.setJob id { job with artifactAcknowledgement := some acknowledgement })
      persistJobs cfg now
    else pure ()

/-! ## Dispatch -/

/-- The first block of `_dispatch_loop`. -/
def dispatchAttempt (cfg : Config) (q : QueueKey) (s : Service) : Service :=
  if cfg.concurrency q ≤ s.activeCounts q then s.setDispatcher q none
  else
    match (s.queues q).head? with
    | none => s.setDispatcher q none
    | some e =>
      match s.jobs.get? e.jobId with
      | none => s.popEntry q
      | some job =>
        if job.status = .queued then s.setDispatcher q (some (.admission e.jobId))
        else s.popEntry q

/-- `max(x, 1.0)`. -/
def atLeastOne : FloatVal → FloatVal
  | .finite x => .finite (max x 1)
  | .posInf => .posInf
  | .negInf => .finite 1
  | .nan => .nan

/-- The delay of a blocked retry: an exception that is neither a `TypeError` nor a `ValueError` goes
through. -/
def retryDelay (cfg : Config) (retryAfterSeconds : Value) : Except Exc FloatVal :=
  if retryAfterSeconds.isNull then pure (.finite cfg.blockedRetry)
  else
    match retryAfterSeconds.toFloat with
    | .ok x => pure (atLeastOne x)
    | .error e =>
      if e.cls = .typeError ∨ e.cls = .valueError then pure (.finite cfg.blockedRetry)
      else .error e

/-- `_schedule_blocked_retry_locked`. -/
def scheduleBlockedRetry (cfg : Config) (q : QueueKey) (retryAfterSeconds : Value) : Block Unit := do
  let s ← read
  match s.retries q with
  | some _ => pure ()
  | none => do
    let delay ← ofResult (retryDelay cfg retryAfterSeconds)
    update fun s => { s with retries := Function.update s.retries q (some delay) }

/-- A job that is kept back. -/
def blockedJob (job : Job) (admission : Payload) : Job :=
  { job with
    blockedReason := some ((admission.content.get "reason").orElse (.str "runtime_lane_not_ready"))
    blockedDetail := some admission }

/-- A job that is taken out of its queue. -/
def startedJob (now : ℤ) (job : Job) : Job :=
  { job with
    blockedReason := none, blockedDetail := none, status := .running, startedAt := some now }

/-- The head of a queue is kept back: the dispatcher ends and a timer takes over. -/
def blockHead (cfg : Config) (now : ℤ) (q : QueueKey) (id : JobId) (job : Job)
    (admission : Payload) : Block Unit := do
  update (Service.setJob id (blockedJob job admission))
  persistJobs cfg now
  scheduleBlockedRetry cfg q (admission.content.get "retry_after_seconds")
  update (Service.setDispatcher q none)

/-- The head of a queue leaves the heap and takes a slot. -/
def Service.takeHead (now : ℤ) (q : QueueKey) (id : JobId) (job : Job) (s : Service) : Service :=
  { (s.popEntry q).setJob id (startedJob now job) with
    activeCounts := Function.update s.activeCounts q (s.activeCounts q + 1) }

/-- The creation of a runner task, which the dispatcher registers next. -/
def Service.createRunner (q : QueueKey) (id : JobId) (job : Job) (s : Service) : Service :=
  { s.setDispatcher q (some (.registration id s.runners.length)) with
    runners := s.runners ++ [⟨q, id, job.runner, .created⟩] }

/-- The head of a queue is started. -/
def startHead (cfg : Config) (now : ℤ) (q : QueueKey) (id : JobId) (job : Job) : Block Unit := do
  update (Service.takeHead now q id job)
  persistJobs cfg now
  update (Service.createRunner q id job)

/-- The second block of `_dispatch_loop` and the creation of the runner task, for the job that was at the
head before the admission check. -/
def dispatchDecision (cfg : Config) (now : ℤ) (q : QueueKey) (id : JobId) (admission : Payload) :
    Block Unit := do
  let s ← read
  match (s.queues q).head? with
  | none => update (Service.setDispatcher q (some .attempt))
  | some e =>
    if e.jobId ≠ id then update (Service.setDispatcher q (some .attempt))
    else
      match s.jobs.get? id with
      | none => update fun s => (s.popEntry q).setDispatcher q (some .attempt)
      | some job =>
        if job.status = .queued then
          if (admission.content.get "allowed").truthy then startHead cfg now q id job
          else blockHead cfg now q id job admission
        else update fun s => (s.popEntry q).setDispatcher q (some .attempt)

/-- The block that registers a runner task. -/
def registerRunner (q : QueueKey) (id : JobId) (task : ℕ) (s : Service) : Service :=
  { s.setDispatcher q (some .attempt) with runningTasks := s.runningTasks.set id task }

/-- The block of `_retry_blocked_queue`. -/
def retryBlockedQueue (cfg : Config) (now : ℤ) (q : QueueKey) : Block Unit := do
  update fun s => { s with retries := Function.update s.retries q none }
  monitorDeadlines cfg now
  update fun s => if s.queues q = [] then s else s.ensureDispatcher q

/-! ## Runner tasks -/

/-- The end of a running job: `ended` is its record before the retention time is known, `close` completes
it. -/
def endRunning (cfg : Config) (now : ℤ) (id : JobId) (ended : Job) (close : ℤ → Job) : Block Unit := do
  update (Service.setJob id ended)
  let expiresAt ← ofResult (addSeconds now cfg.jobTtl)
  update (Service.setJob id (close expiresAt))
  persistJobs cfg now

/-- A job whose runner returned. -/
def completeJob (cfg : Config) (now : ℤ) (id : JobId) (job : Job) (result : Option Payload) :
    Block Unit :=
  let ended := { endedJob now .completed job with result := some (result.getD {}) }
  endRunning cfg now id ended fun expiresAt => { ended with expiresAt := expiresAt, runner := false }

/-- A job whose runner raised. -/
def failJob (cfg : Config) (now : ℤ) (id : JobId) (job : Job) (code : String) : Block Unit :=
  let ended := { endedJob now .failed job with error := some ⟨code, code⟩ }
  endRunning cfg now id ended fun expiresAt => { ended with expiresAt := expiresAt, runner := false }

/-- A job whose runner was cancelled. -/
def cancelledJob (cfg : Config) (now : ℤ) (id : JobId) (job : Job) : Block Unit :=
  let ended := { endedJob now .cancelled job with result := none }
  let reason := job.cancellationReason.getD ""
  endRunning cfg now id ended fun expiresAt =>
    { closedJob expiresAt ⟨"cancelled", if reason = "" then "cancelled_by_client" else reason⟩ ended with
      artifactAcknowledgement := none }

/-- The text an exception leaves in the record of a failed job. -/
def errorCode (e : Exc) : String := strip e.text

/-- A block of `_run_job` on the record of its job, if there is one; the task goes on to the
`finally`. -/
def settle (id : JobId) (task : ℕ) (body : Job → Block Unit) : Block Unit := do
  let s ← read
  match s.jobs.get? id with
  | none => update (Service.setRunner task .finishing)
  | some job => do
    body job
    update (Service.setRunner task .finishing)

/-- The next block of a runner task that has left its runner. -/
def settleRunner (cfg : Config) (now : ℤ) (task : ℕ) (r : Runner) : Block Unit :=
  match r.state with
  | .completing result => settle r.jobId task fun job => completeJob cfg now r.jobId job result
  | .failing code => settle r.jobId task fun job => failJob cfg now r.jobId job code
  | .cancelling => settle r.jobId task fun job => cancelledJob cfg now r.jobId job
  | _ => pure ()

/-- Where an exception raised inside such a block leads: in the block after the runner returned it is
handled like one of the runner, in a handler it goes on to the `finally`. -/
def RunnerState.afterError (e : Exc) : RunnerState → RunnerState
  | .completing _ => .failing (errorCode e)
  | _ => .finishing

/-- The block of the `finally`. -/
def releaseSlot (task : ℕ) (r : Runner) (s : Service) : Service :=
  { s.ensureDispatchers.setRunner task .finished with
    runningTasks := s.runningTasks.erase r.jobId
    activeCounts := Function.update s.activeCounts r.queue (s.activeCounts r.queue - 1) }

/-! ## Recovery -/

/-- A record that `_load_persisted_jobs` ends. -/
def failedAtLoad (now : ℤ) (record : Job) (error : JobError) (recovery : String) : Job :=
  { record with
    status := .failed
    completedAt := some (record.completedAt.getD now)
    error := some error
    recovery := some ⟨recovery, now, record.status⟩
    runner := false }

/-- A queued record that goes back into its heap, under a key of now. -/
def resumeJob (cfg : Config) (now : ℤ) (job : Job) : Block Unit := do
  let key ← ofResult (deadlineSortValue cfg now job.queueIntent)
  update fun s => (s.setJob job.jobId
    { job with runner := true, recovery := some ⟨"queued_for_resume", now, .queued⟩ }).pushEntry
      job.queue (job.entry key)

/-- `_load_persisted_jobs` for one record.  `recovers` says whether the recovery factory makes a runner; a
factory that raises makes none, nor is it called when the payload for it cannot be built. -/
def loadJob (cfg : Config) (now : ℤ) (recovers : JobId → Bool) (record : Job) : Block Unit := do
  let s ← read
  let job := record.persisted
  match record.status with
  | .queued =>
    if recovers job.jobId && (publicJobPayload cfg now s job).isOk then resumeJob cfg now job
    else
      update (Service.setJob job.jobId (failedAtLoad now job
        ⟨"execution_queue_recovery_runner_unavailable",
          "queued job could not be reconstructed safely after restart"⟩ "failed"))
  | .running =>
    update (Service.setJob job.jobId (failedAtLoad now job
      ⟨"execution_queue_restart_while_running",
        "job was already dispatched before restart and was not replayed to avoid duplicate provider work"⟩
      "not_replayed"))
  | _ => update (Service.setJob job.jobId job)

/-- The loop over the records. -/
def loadJobs (cfg : Config) (now : ℤ) (recovers : JobId → Bool) : List Job → Block Unit
  | [] => pure ()
  | record :: records => do
    loadJob cfg now recovers record
    loadJobs cfg now recovers records

/-- `max_sequence`. -/
def maxSequence (records : List Job) : ℕ := records.foldl (fun n job => max n job.sequence) 0

/-- `_load_persisted_jobs`, on a service without jobs. -/
def loadPersistedJobs (cfg : Config) (now : ℤ) (recovers : JobId → Bool) : Block Unit := do
  let s ← read
  match s.stateFile with
  | none => pure ()
  | some records =>
    if cfg.statePath then do
      loadJobs cfg now recovers records
      update fun s => { s with nextSequence := maxSequence records + 1 }
      let deleted ← pruneExpiredTerminalJobs now
      if records.any (fun record => !record.status.terminal) || deleted then persistJobs cfg now
      else pure ()
    else pure ()

/-- `start_recovered_jobs`. -/
def startRecoveredJobs (cfg : Config) (now : ℤ) : Block Unit := do
  monitorDeadlines cfg now
  update Service.ensureBusyDispatchers

end Queue
end HexeAiNode
