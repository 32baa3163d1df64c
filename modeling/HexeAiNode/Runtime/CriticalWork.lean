import HexeAiNode.Runtime.QueueContext

/-!
# Critical images and the guard of the GPU

Before the residency job gives the GPU to a runtime in the background it asks `_gpu_comfyui_critical_work_pending`,
which looks for a critical image among the jobs of the queue `local`.  The producers of jobs put no image there: the
choice of a queue sends the images of the node to the queues of the visual runtime.

The system is the queue with its two producers, a direct execution and an assistant; everything else may happen to
the queue at any time.  `Node.critical` keeps, besides the queue, the critical images that direct executions have
put on the side of the node.

`guard_is_blind` says that the guard sees nothing in any state, and `critical_guard_iff` what that means: it is right
exactly in the states in which no such image is pending.
-/

namespace HexeAiNode
namespace Runtime

open Py Governance Execution Queue StoreAction TaskExecutionRequest

/-! ## The guard -/

/-- The text of a status. -/
def statusText : Status → String
  | .queued => "queued"
  | .running => "running"
  | .completed => "completed"
  | .failed => "failed"
  | .cancelled => "cancelled"
  | .expiredWaitBudget => "expired_wait_budget"

/-- The keys of some texts, the blank ones dropped. -/
def keysOf (texts : List String) : List String := (texts.map stripLower).filter (· ≠ "")

/-- The family of the request of a job. -/
def familyKey (job : Job) : String := (job.request.content.get "task_family").normalizeLower

/-- `has_matching_work`. -/
def hasMatchingWork (queue importance : String) (taskFamilies statuses : List String) (s : Service) : Bool :=
  let queueKey := normalizeQueueKey (.str queue)
  let importanceKey := stripLower importance
  let statusKeys := keysOf (if statuses = [] then ["queued", "running"] else statuses)
  s.jobs.values.any fun job =>
    job.queue = queueKey && job.importance.text = importanceKey && statusKeys.contains (statusText job.status) &&
      (keysOf taskFamilies).contains (familyKey job)

/-- `_gpu_comfyui_critical_work_pending`. -/
def gpuComfyuiCriticalWorkPending (s : Service) : Bool :=
  hasMatchingWork "local" "critical" ["task.image_generation", "task.generation.image"] ["queued", "running"] s

/-! ## The producers -/

/-- What `_enqueue_assistant_reasoning` hands to the queue. -/
def assistantEnqueueRequest (cfg : DirectConfig) (queueContext : QueueContext) (requestId requestedBy : String)
    (executionRequest : TaskExecutionRequest) : Except Exc EnqueueRequest := do
  let queuedRequest ← executionRequestForQueueContext executionRequest queueContext.toQueueContext
  .ok
    { queue := queueContext.queue
      importance := queueContext.importance.text
      jobName := requestId
      requestPayload := { content := cfg.modelDump queuedRequest }
      routingDecision := queueContext.routingDecision
      queueIntent := queueContext.queueIntent
      clientId := some requestedBy
      runningCancellationSupported := true }

/-- What the choice of a queue meets: its surroundings, and the authorization of a request. -/
structure Surroundings where
  env : QueueEnv := {}
  authorization : TaskExecutionRequest → Option ExecutionAuthorizationResult := fun _ => none

/-- The choice of a queue. -/
def Surroundings.queueContext (around : Surroundings) (request : TaskExecutionRequest) : Except Exc QueueContext :=
  directExecutionQueueContext around.env (around.authorization request) request

/-- A direct execution with this choice. -/
def Surroundings.directEnv (around : Surroundings) (env : DirectEnv) : DirectEnv :=
  { env with queueContext := around.queueContext }

/-- The steps: a submission by one of the producers, or anything else that happens to the queue. -/
inductive WorkStep where
  | direct (around : Surroundings) (env : DirectEnv) (request : TaskExecutionRequest)
  | assistant (around : Surroundings) (now : ℤ) (jobId : JobId) (requestId requestedBy : String)
      (executionRequest : TaskExecutionRequest)
  | queue (step : Queue.Step) (submitsNothing : step.drawn = none)

/-- What a step hands to the queue. -/
def WorkStep.submission (cfg : DirectConfig) : WorkStep → Except Exc Queue.Step
  | .direct around env request => do
    let submitted ← enqueueRequest cfg (around.directEnv env) request
    .ok (.enqueue env.now env.jobId submitted)
  | .assistant around now jobId requestId requestedBy executionRequest => do
    let queueContext ← around.queueContext executionRequest
    let submitted ← assistantEnqueueRequest cfg queueContext requestId requestedBy executionRequest
    .ok (.enqueue now jobId submitted)
  | .queue step _ => .ok step

/-- A direct execution puts a critical image on the side of the node. -/
def putsCriticalImage (around : Surroundings) (env : DirectEnv) (request : TaskExecutionRequest) : Bool :=
  match env.resolveTemplate request with
  | .error _ => false
  | .ok requestCopy =>
    match around.queueContext requestCopy with
    | .error _ => false
    | .ok context =>
      isImageGeneration requestCopy && context.importance = .critical && context.queue ≠ "cloud"

/-- The queue, and the critical images that were put on the side of the node. -/
structure WorkNode where
  queue : Queue.Node := {}
  critical : List JobId := []

/-- The image that a step puts on the side of the node.  An id that was drawn before is not drawn again. -/
def WorkStep.criticalImage (n : WorkNode) : WorkStep → Option JobId
  | .direct around env request =>
    if env.jobId ∉ n.queue.drawn ∧ putsCriticalImage around env request = true then some env.jobId else none
  | _ => none

/-- A step of the system; what raises before it reaches the queue changes nothing. -/
def workFire (cfg : DirectConfig) (n : WorkNode) (step : WorkStep) : WorkNode :=
  match step.submission cfg with
  | .error _ => n
  | .ok queueStep =>
    { queue := Queue.fire cfg.queue n.queue queueStep
      critical := (step.criticalImage n).toList ++ n.critical }

/-- The system after a run. -/
def workRun (cfg : DirectConfig) (steps : List WorkStep) : WorkNode := Run.after (workFire cfg) {} steps

/-- A submission changes the queue as `_enqueue_direct_execution` does. -/
theorem store_enqueueDirectExecution (cfg : DirectConfig) (env : DirectEnv) (request : TaskExecutionRequest)
    (s : Service) {submitted : EnqueueRequest} (h : enqueueRequest cfg env request = .ok submitted) :
    ((enqueueDirectExecution cfg env request).exec s).2 =
      s.fire cfg.queue (.enqueue env.now env.jobId submitted) := by
  unfold enqueueDirectExecution Service.fire
  rw [exec_bind, exec_ofResult, h]
  dsimp only
  rw [exec_bind]
  show _ = ((Functor.discard (Queue.enqueue cfg.queue env.now env.jobId submitted)).recover _).store s
  rw [store, exec_recover, exec_discard]
  rcases (Queue.enqueue cfg.queue env.now env.jobId submitted).exec s with ⟨e | answer, s'⟩
  · rfl
  · rfl

/-! ## Where images go -/

/-- Model dumps keep the task family. -/
def DumpsFamily (cfg : DirectConfig) : Prop :=
  ∀ request, (cfg.modelDump request).get "task_family" = .str request.taskFamily

/-- The texts of the families of images. -/
def imageFamilies : List String := ["task.image_generation", "task.generation.image"]

/-- A job of the queue `local` is not for an image. -/
def NoLocalImage (job : Job) : Prop := familyKey job ∈ imageFamilies → job.queue ≠ .localNode

section

variable {cfg : DirectConfig} {around : Surroundings} {request executionRequest : TaskExecutionRequest}
  {context : QueueContext} {n : WorkNode}

theorem mem_imageFamilies_iff : stripLower request.taskFamily ∈ imageFamilies ↔ isImageGeneration request = true := by
  rw [isImageGeneration, List.contains_iff_mem, imageFamilies]

/-- What a producer submits for an image is not for the queue `local`. -/
theorem submission_of_context (hdump : DumpsFamily cfg) (hcontext : around.queueContext request = .ok context)
    (hrewritten : executionRequestForQueueContext request context.toQueueContext = .ok executionRequest)
    (himage : (Dict.get (cfg.modelDump executionRequest) "task_family").normalizeLower ∈ imageFamilies) :
    normalizeQueueKey (.str context.queue) ≠ .localNode := by
  have hfamily : executionRequest.taskFamily = request.taskFamily := by
    obtain ⟨lane, constraints, -, heq⟩ := executionRequestForQueueContext_eq_ok hrewritten
    rw [heq]
  rw [hdump, hfamily, Value.normalizeLower, Value.normalizeString_str] at himage
  have hgeneration : isImageGeneration request = true := mem_imageFamilies_iff.mp himage
  unfold Surroundings.queueContext at hcontext
  obtain ⟨q, hq, hside⟩ := contextQueue_of_image hgeneration hcontext
  rw [hq, normalizeQueueKey_text]
  rcases hside with rfl | rfl | rfl
  · decide
  · decide
  · decide

/-- The queue of a submission, and its request. -/
theorem submission_noLocalImage (hdump : DumpsFamily cfg) {step : WorkStep} {now : ℤ} {id : JobId}
    {submitted : EnqueueRequest} (h : step.submission cfg = .ok (.enqueue now id submitted))
    (himage : (submitted.requestPayload.content.get "task_family").normalizeLower ∈ imageFamilies) :
    normalizeQueueKey (.str submitted.queue) ≠ .localNode := by
  cases step with
  | direct around env request =>
    obtain ⟨submitted', hsubmitted, h⟩ := bind_eq_ok.mp h
    obtain ⟨-, -, rfl⟩ := Queue.Step.enqueue.inj (Except.ok.inj h)
    obtain ⟨requestCopy, -, hsubmitted⟩ := bind_eq_ok.mp hsubmitted
    obtain ⟨context, hcontext, hsubmitted⟩ := bind_eq_ok.mp hsubmitted
    obtain ⟨executionRequest, hrewritten, hsubmitted⟩ := bind_eq_ok.mp hsubmitted
    rw [← Except.ok.inj hsubmitted] at himage ⊢
    exact submission_of_context hdump hcontext hrewritten himage
  | assistant around now' jobId requestId requestedBy executionRequest =>
    obtain ⟨context, hcontext, h⟩ := bind_eq_ok.mp h
    obtain ⟨submitted', hsubmitted, h⟩ := bind_eq_ok.mp h
    obtain ⟨-, -, rfl⟩ := Queue.Step.enqueue.inj (Except.ok.inj h)
    obtain ⟨queuedRequest, hrewritten, hsubmitted⟩ := bind_eq_ok.mp hsubmitted
    rw [← Except.ok.inj hsubmitted] at himage ⊢
    exact submission_of_context hdump hcontext hrewritten himage
  | queue step hnothing =>
    rw [Except.ok.inj h] at hnothing
    cases hnothing

theorem familyKey_newJob (now expiresAt : ℤ) (id : JobId) (sequence : ℕ) (submitted : EnqueueRequest) :
    familyKey (newJob now expiresAt id sequence submitted) =
      (submitted.requestPayload.content.get "task_family").normalizeLower := rfl

theorem queue_newJob (now expiresAt : ℤ) (id : JobId) (sequence : ℕ) (submitted : EnqueueRequest) :
    (newJob now expiresAt id sequence submitted).queue = normalizeQueueKey (.str submitted.queue) := by
  simp only [newJob]

/-- The steps of the queue never move a job to the queue `local`. -/
theorem noLocalImage_edit {queue : Queue.Config} {s₀ : Service} {step : Queue.Step} {job job' : Job}
    (h : JobEdit queue True s₀ step job job') (hjob : NoLocalImage job) : NoLocalImage job' := by
  have hqueue : job'.queue = job.queue ∨ job'.queue = .cloud := by
    cases h with
    | amend hamends => exact Or.inl hamends.queue
    | move => exact Or.inr rfl
    | finish _ _ _ hended => exact Or.inl hended.queue
    | undated _ _ _ _ hended => exact Or.inl hended.queue
    | _ => exact Or.inl rfl
  intro himage
  rw [familyKey, h.submission] at himage
  rcases hqueue with heq | heq
  · rw [heq]
    exact hjob himage
  · rw [heq]
    decide

/-- **No record of an image is in the queue `local`**, and no step changes that. -/
theorem noLocalImage_fire (hdump : DumpsFamily cfg) (hn : NodeSound False n.queue)
    (h : n.queue.service.Records NoLocalImage) (step : WorkStep) :
    (workFire cfg n step).queue.service.Records NoLocalImage := by
  unfold workFire
  rcases hstep : step.submission cfg with e | queueStep
  · exact h
  show (Queue.fire cfg.queue n.queue queueStep).service.Records NoLocalImage
  rcases fire_cases cfg.queue n.queue queueStep with heq | ⟨now, recovers, s', -, hs', heq⟩ | ⟨-, heq⟩
  · rw [heq]
    exact h
  · rw [heq]
    refine h.restart (fun job hjob => hjob) hn.sound.known.fileDistinct ?_ hs'
    intro records _ record _ hrecord himage
    rw [familyKey, Job.toSubmission_recovered] at himage
    rw [Job.queue_recovered]
    exact hrecord himage
  · rw [heq]
    refine h.fire (fun job hjob => hjob) (fun job job' hjob hedit => noLocalImage_edit hedit hjob) ?_
    rintro now id request job key rfl hprepared himage
    obtain ⟨m, expiresAt, -, rfl⟩ := hprepared.job
    rw [familyKey_newJob] at himage
    rw [queue_newJob]
    exact submission_noLocalImage hdump hstep himage

theorem nodeSound_workFire (hn : NodeSound False n.queue) (step : WorkStep) :
    NodeSound False (workFire cfg n step).queue := by
  unfold workFire
  split
  · exact hn
  · exact hn.fire False.elim

/-- Along a run. -/
theorem noLocalImage_run (hdump : DumpsFamily cfg) (steps : List WorkStep) :
    (workRun cfg steps).queue.service.Records NoLocalImage := by
  have hinitial : NodeSound False ({} : WorkNode).queue ∧ ({} : WorkNode).queue.service.Records NoLocalImage :=
    ⟨nodeSound_initial, fun _ _ hget => (nomatch hget), fun _ hnone => (nomatch hnone)⟩
  exact (Run.after_keeps (I := fun n : WorkNode => NodeSound False n.queue ∧
    n.queue.service.Records NoLocalImage) steps hinitial
    fun n step hn => ⟨nodeSound_workFire hn.1 step, noLocalImage_fire hdump hn.1 hn.2 step⟩).2

/-! ## What the guard sees -/

/-- A guard that looks at the queue `local` sees no image. -/
theorem guard_eq_false {s : Service} (h : s.Records NoLocalImage) : gpuComfyuiCriticalWorkPending s = false := by
  have hqueue : normalizeQueueKey (.str "local") = .localNode := normalizeQueueKey_text .localNode
  have hfamilies : keysOf ["task.image_generation", "task.generation.image"] = imageFamilies := by decide
  rw [gpuComfyuiCriticalWorkPending, hasMatchingWork, hqueue, hfamilies, List.any_eq_false]
  intro job hjob hmatches
  obtain ⟨⟨id, job'⟩, hmem, rfl⟩ := List.mem_map.mp hjob
  simp only [Bool.and_eq_true, decide_eq_true_eq, List.contains_iff_mem] at hmatches
  exact h.table id job' (OrderedDict.get?_of_mem_entries hmem) hmatches.2 hmatches.1.1.1

end

/-! ## The law -/

/-- A critical image that a direct execution has put on the side of the node is queued or running. -/
def WorkNode.PendingCritical (n : WorkNode) : Prop :=
  ∃ id ∈ n.critical, ∃ job, n.queue.service.jobs.get? id = some job ∧
    (job.status = .queued ∨ job.status = .running)

/-- **The law of the guard**: it is true exactly while such an image is queued or running. -/
def GuardLaw (n : WorkNode) : Prop :=
  gpuComfyuiCriticalWorkPending n.queue.service = true ↔ n.PendingCritical

/-- **The guard is blind**: it is false in every state. -/
theorem guard_is_blind {cfg : DirectConfig} (hdump : DumpsFamily cfg) (steps : List WorkStep) :
    gpuComfyuiCriticalWorkPending (workRun cfg steps).queue.service = false :=
  guard_eq_false (noLocalImage_run hdump steps)

/-- **The guard is right** exactly in the states in which no critical image is pending on the side of the node. -/
theorem critical_guard_iff (cfg : DirectConfig) (steps : List WorkStep) (hdump : DumpsFamily cfg) :
    GuardLaw (workRun cfg steps) ↔ ¬(workRun cfg steps).PendingCritical := by
  rw [GuardLaw, guard_is_blind hdump steps]
  simp

/-! ## One image -/

/-- A model dump of requests without a deadline. -/
def imageDump (request : TaskExecutionRequest) : Dict :=
  [("task_id", .str request.taskId), ("idempotency_key", optStr request.idempotencyKey),
    ("prompt_id", optStr request.promptId), ("prompt_version", optStr request.promptVersion),
    ("task_family", .str request.taskFamily), ("requested_by", .str request.requestedBy),
    ("service_id", optStr request.serviceId), ("customer_id", optStr request.customerId),
    ("requested_provider", optStr request.requestedProvider), ("requested_model", optStr request.requestedModel),
    ("inputs", .dict request.inputs), ("constraints", .dict request.constraints),
    ("priority", .str request.priority.text),
    ("queue", .dict [("importance", .str request.queue.importance.text), ("deadline_at", .null)]),
    ("response_mode", .str "async_if_queued"), ("job_name", optStr request.jobName),
    ("timeout_s", .int request.timeoutS), ("trace_id", .str request.traceId), ("lease_id", optStr request.leaseId)]

/-- The settings of a node. -/
def imageConfig : DirectConfig where
  modelDump := imageDump

theorem dumpsFamily_imageConfig : DumpsFamily imageConfig := by
  intro request
  simp [imageConfig, imageDump, Dict.get, Assoc.get?_cons]

/-- A request for an image by the runtime of the node. -/
def imageRequest (importance : Importance) : TaskExecutionRequest where
  taskId := "task-1"
  taskFamily := "task.image_generation"
  requestedBy := "client-1"
  requestedProvider := some "local"
  queue := { importance := importance }
  responseMode := .asyncIfQueued
  traceId := "trace-1"

/-- What the execution of the request meets. -/
def imageEnv : DirectEnv where
  queueContext := Surroundings.queueContext {}
  now := 1767225600000000
  jobId := 7
  service := budgetedEnv
  adapter _ := .error ⟨.runtimeError, "unreachable"⟩

/-- The request is submitted. -/
def imageSteps (importance : Importance) : List WorkStep := [.direct {} imageEnv (imageRequest importance)]

/-- A critical image is queued, and the guard does not see it. -/
theorem guard_misses_image : (workRun imageConfig (imageSteps .critical)).PendingCritical ∧
    gpuComfyuiCriticalWorkPending (workRun imageConfig (imageSteps .critical)).queue.service = false := by
  have hfacts : (workRun imageConfig (imageSteps .critical)).critical = [7] ∧
      ((workRun imageConfig (imageSteps .critical)).queue.service.jobs.get? 7).map (fun job => job.status) =
        some .queued ∧
      gpuComfyuiCriticalWorkPending (workRun imageConfig (imageSteps .critical)).queue.service = false := by
    decide +kernel
  obtain ⟨hcritical, hstatus, hguard⟩ := hfacts
  obtain ⟨job, hjob, hqueued⟩ := Option.map_eq_some_iff.mp hstatus
  exact ⟨⟨7, hcritical ▸ List.mem_singleton_self 7, job, hjob, Or.inl hqueued⟩, hguard⟩

/-- An image that is not critical leaves the guard right. -/
theorem guard_right_without_critical : GuardLaw (workRun imageConfig (imageSteps .normal)) := by
  refine (critical_guard_iff imageConfig (imageSteps .normal) dumpsFamily_imageConfig).mpr ?_
  rintro ⟨id, hid, -⟩
  have hnone : (workRun imageConfig (imageSteps .normal)).critical = [] := by decide +kernel
  rw [hnone] at hid
  cases hid

end Runtime
end HexeAiNode
