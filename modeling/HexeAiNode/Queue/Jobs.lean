import Mathlib.Algebra.Order.Field.Rat
import Mathlib.Data.Prod.Lex
import Mathlib.Order.WithBot
import HexeAiNode.Execution.TaskModels
import HexeAiNode.Python.Datetime

/-!
# Queue keys, jobs and heap entries

The data of `ExecutionQueueService`: the seven queue keys, the job record, and the entry under which a
queued job lies in its heap.

An entry is compared by rank, deadline key, sequence number and job id, in this order.  The deadline key
is a float made by `datetime.timestamp`; the rounding to a double is the parameter `Config.timestamp`,
and nothing below depends on it.

A job id stands for the sixteen hexadecimal digits after `job-`, which are compared like the number they
write.
-/

namespace HexeAiNode
namespace Queue

open Py Execution

/-! ## Queues and lanes -/

/-- The keys of `_queues`; `localNode` is the queue `local`. -/
inductive QueueKey where
  | localNode
  | cloud
  | textLlm
  | visionLlm
  | visualGpu
  | visualCpu
  | trainingRuntime
  deriving DecidableEq, Repr

/-- The text of a key. -/
def QueueKey.text : QueueKey → String
  | .localNode => "local"
  | .cloud => "cloud"
  | .textLlm => "text_llm"
  | .visionLlm => "vision_llm"
  | .visualGpu => "visual_gpu"
  | .visualCpu => "visual_cpu"
  | .trainingRuntime => "training_runtime"

/-- `s.replace("-", "_")`. -/
def underscored (s : String) : String :=
  String.ofList (s.toList.map fun c => if c = '-' then '_' else c)

/-- `_normalize_queue_key`.  The queues named in `extra_queue_concurrency` are normalized before they are
added, so they are among these keys. -/
def normalizeQueueKey (value : Value) : QueueKey :=
  let normalized := underscored value.normalizeLower
  if normalized = "local" then .localNode
  else if normalized = "cloud" then .cloud
  else if normalized = "text_llm" then .textLlm
  else if normalized ∈ ["vision_llm", "vision", "local_vision"] then .visionLlm
  else if normalized ∈ ["visual_gpu", "visual_runtime", "comfyui", "comfyui_gpu", "gpu_comfyui"] then
    .visualGpu
  else if normalized ∈ ["visual_cpu", "comfyui_cpu", "cpu_comfyui"] then .visualCpu
  else if normalized ∈ ["training_runtime", "training", "sd_scripts", "sd_scripts_training"] then
    .trainingRuntime
  else .cloud

/-- A persisted key is read back as itself. -/
theorem normalizeQueueKey_text (q : QueueKey) : normalizeQueueKey (.str q.text) = q := by
  cases q <;> decide +kernel

/-- `IMPORTANCE_RANK`. -/
def importanceRank : Importance → ℕ
  | .critical => 0
  | .high => 1
  | .normal => 2
  | .low => 3
  | .background => 4

/-- The importance a text names, `normal` when it names none. -/
def importanceOf (s : String) : Importance :=
  let key := stripLower s
  if key = "critical" then .critical
  else if key = "high" then .high
  else if key = "low" then .low
  else if key = "background" then .background
  else .normal

/-! ## Settings -/

/-- The arguments of the constructor.  `statePath` says whether a state file is configured, `timestamp` is
`datetime.timestamp`. -/
structure Config where
  localConcurrency : ℤ := 1
  cloudConcurrency : ℤ := 4
  checkAfterSeconds : ℤ := 5
  jobTtlSeconds : ℤ := 3600
  statePath : Bool := true
  maxPendingPerClient : ℤ := 20
  extraQueueConcurrency : List (String × ℤ) := []
  blockedRetrySeconds : ℤ := 30
  timestamp : ℤ → ℚ := fun t => t / 1000000

namespace Config

variable (cfg : Config)

/-- `_check_after_seconds`. -/
def checkAfter : ℕ := (max cfg.checkAfterSeconds 1).toNat

/-- `_job_ttl_seconds`. -/
def jobTtl : ℕ := (max cfg.jobTtlSeconds 60).toNat

/-- `_max_pending_per_client`. -/
def maxPending : ℕ := (max cfg.maxPendingPerClient 0).toNat

/-- `_blocked_retry_seconds`. -/
def blockedRetry : ℕ := (max cfg.blockedRetrySeconds 1).toNat

/-- `_concurrency`. -/
def concurrency (q : QueueKey) : ℕ :=
  match q with
  | .localNode => (max cfg.localConcurrency 1).toNat
  | .cloud => (max cfg.cloudConcurrency 1).toNat
  | q =>
    cfg.extraQueueConcurrency.foldl
      (fun c e => if normalizeQueueKey (.str e.1) = q then (max e.2 1).toNat else c) 1

end Config

/-! ## Jobs -/

/-- The digits of a job id. -/
abbrev JobId := ℕ

/-- The states of a job. -/
inductive Status where
  | queued
  | running
  | completed
  | failed
  | cancelled
  | expiredWaitBudget
  deriving DecidableEq, Repr

/-- `terminal_statuses`. -/
def Status.terminal : Status → Bool
  | .queued | .running => false
  | .completed | .failed | .cancelled | .expiredWaitBudget => true

/-- A dictionary from outside the queue: the entries under text keys, and whether `json.dumps` accepts
everything in it. -/
structure Payload where
  content : Dict := []
  jsonSafe : Bool := true

/-- The `error` of a job. -/
structure JobError where
  code : String
  message : String
  deriving DecidableEq

/-- The `recovery` of a job. -/
structure Recovery where
  status : String
  recoveredAt : ℤ
  originalStatus : Status
  deriving DecidableEq

/-- What `enqueue` settles about a job for good. -/
structure Submission where
  jobId : JobId
  jobName : String
  clientId : Option String
  runtimeLane : RuntimeLane
  importance : Importance
  queueIntent : QueueIntent
  request : Payload
  runningCancellationSupported : Bool
  queuedAt : ℤ
  sequence : ℕ

/-- A job record.  `runner` says whether `_runner` is callable; it is the one field that is not
persisted. -/
structure Job extends Submission where
  queue : QueueKey
  routingDecision : Option Dict
  status : Status
  result : Option Payload := none
  error : Option JobError := none
  startedAt : Option ℤ := none
  completedAt : Option ℤ := none
  expiresAt : ℤ
  blockedReason : Option Value := none
  blockedDetail : Option Payload := none
  cancellationRequestedAt : Option ℤ := none
  cancellationReason : Option String := none
  artifactAcknowledgement : Option Payload := none
  recovery : Option Recovery := none
  runner : Bool

namespace Job

/-- `json.dumps` accepts the record. -/
def jsonSafe (job : Job) : Bool :=
  job.request.jsonSafe && job.result.all Payload.jsonSafe && job.blockedDetail.all Payload.jsonSafe &&
    job.artifactAcknowledgement.all Payload.jsonSafe

/-- `bool(queue_intent.get("allow_cloud_spillover"))`. -/
def allowsCloudSpillover (job : Job) : Bool := job.queueIntent.allowCloudSpillover.getD false

/-- `queued_at + timedelta(seconds=max_wait_seconds)`, for a job with a wait budget. -/
def waitBoundary (job : Job) : Except Exc (Option ℤ) :=
  match job.queueIntent.maxWaitSeconds with
  | none => pure none
  | some n => do
    let boundary ← addSeconds job.queuedAt n
    pure (some boundary)

/-- `effective_deadline`: the earlier of the deadline and the wait boundary. -/
def effectiveDeadline (job : Job) : Except Exc (Option ℤ) := do
  let boundary ← job.waitBoundary
  pure (match job.queueIntent.deadlineAt, boundary with
    | some deadline, some boundary => some (min deadline boundary)
    | some deadline, none => some deadline
    | none, boundary => boundary)

end Job

/-- `_runtime_lane_for_job`: the lane the intent asks for, else the lane of the queue, where vision
analysis on a text queue goes to the vision lane. -/
def runtimeLaneForJob (q : QueueKey) (request : Payload) (intent : QueueIntent) : RuntimeLane :=
  match intent.runtimeLane with
  | some lane => lane
  | none =>
    match q with
    | .localNode | .textLlm =>
      if (request.content.get "task_family").normalizeLower = "task.vision_analysis" then .visionLlm
      else .textLlm
    | .cloud => .cloud
    | .visionLlm => .visionLlm
    | .visualGpu => .visualGpu
    | .visualCpu => .visualCpu
    | .trainingRuntime => .trainingRuntime

/-! ## Heap entries -/

/-- `_queue_entry`. -/
@[ext]
structure Entry where
  rank : ℕ
  deadlineSort : WithTop ℚ
  sequence : ℕ
  jobId : JobId
  deriving DecidableEq

/-- The tuple of an entry, under the lexicographic order. -/
def Entry.key (e : Entry) : ℕ ×ₗ WithTop ℚ ×ₗ ℕ ×ₗ ℕ :=
  toLex (e.rank, toLex (e.deadlineSort, toLex (e.sequence, e.jobId)))

theorem Entry.key_injective : Function.Injective Entry.key := by
  intro a b h
  have hrank := congrArg (fun k => (ofLex k).1) h
  have hdeadline := congrArg (fun k => (ofLex (ofLex k).2).1) h
  have hsequence := congrArg (fun k => (ofLex (ofLex (ofLex k).2).2).1) h
  have hid := congrArg (fun k => (ofLex (ofLex (ofLex k).2).2).2) h
  exact Entry.ext hrank hdeadline hsequence hid

/-- Entries are compared like their tuples. -/
instance : LinearOrder Entry := LinearOrder.lift' Entry.key Entry.key_injective

/-- `_deadline_sort_value`. -/
def deadlineSortValue (cfg : Config) (now : ℤ) (intent : QueueIntent) : Except Exc (WithTop ℚ) :=
  match intent.deadlineAt, intent.maxWaitSeconds with
  | some deadline, _ => pure (cfg.timestamp deadline)
  | none, some n => do
    let boundary ← addSeconds now n
    pure (cfg.timestamp boundary)
  | none, none => pure ⊤

/-- The entry of a job under a deadline key. -/
def Submission.entry (job : Submission) (deadlineSort : WithTop ℚ) : Entry where
  rank := importanceRank job.importance
  deadlineSort := deadlineSort
  sequence := job.sequence
  jobId := job.jobId

end Queue
end HexeAiNode
