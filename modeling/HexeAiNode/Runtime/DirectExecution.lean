import HexeAiNode.Execution.ProviderSpend
import HexeAiNode.Execution.RequestRecovery
import HexeAiNode.Queue.Wakeup

/-!
# Direct execution

`_execute_direct_once`: the checks of the request, and then either its way into the queue or its execution by
the visual runtime, the vision runtime or the execution service.

`DirectEnv` is what one execution reads and meets: what the checks, the template and the queue context give,
the admission guard, the service with its providers, the runtimes.  Whatever is awaited may end with a
cancellation, so each of them may give one.

An execution ends with an exception or with a `Response`.  `outcome_cases` says with which: it is refused by
the queue (`RefusedByQueue`), it raises, or it has created work (`Response.CreatedWork`).
-/

namespace HexeAiNode
namespace Runtime

open Py Governance Execution Queue StoreAction TaskExecutionRequest

/-! ## Responses -/

/-- What an execution answers with: the answer of the queue and the message added to it, the result of the
execution service, or the payload of a runtime. -/
inductive Response where
  | enqueued (answer : EnqueueResponse) (message : Option String)
  | executed (result : TaskExecutionResult)
  | runtime (payload : Dict)

/-- The job is in the queue. -/
def Enqueued (id : JobId) (s : Service) : Prop := ∃ job, s.jobs.get? id = some job ∧ job.status = .queued

/-- The execution behind a response created work: a job that is queued now, or an execution that ended. -/
def Response.CreatedWork (s : Service) : Response → Prop
  | .enqueued (.queued id) _ => Enqueued id s
  | .enqueued _ _ => False
  | .executed result => result.status ≠ .accepted
  | .runtime _ => True

/-! ## The admission -/

/-- `DirectExecutionAdmissionGuard`, as far as a decision reads it. -/
structure AdmissionGuard where
  enabled : Bool := true
  inFlight : ℕ := 0

/-- What `_rejection_reason` and `_effective_capacity` make of a sample of the resources. -/
structure ResourceSample where
  rejectionReason : Option String := none
  effectiveMaxInFlight : ℕ := 1

/-- `try_acquire`: the reason of a rejection. -/
def AdmissionGuard.rejection (admission : AdmissionGuard) (sample : ResourceSample) : Option String :=
  if admission.enabled then
    sample.rejectionReason <|>
      if sample.effectiveMaxInFlight ≤ admission.inFlight then some "max_in_flight_exceeded" else none
  else none

/-- `_acquire_execution_admission`. -/
def acquireExecutionAdmission (admission : AdmissionGuard) (sample : ResourceSample) : Except Exc Unit :=
  match admission.rejection sample with
  | some reason => .error ⟨.other "DirectExecutionBusyError", reason⟩
  | none => .ok ()

/-! ## The executor -/

/-- `_direct_execution_is_image_generation`. -/
def isImageGeneration (request : TaskExecutionRequest) : Bool :=
  ["task.image_generation", "task.generation.image"].contains (stripLower request.taskFamily)

/-- The provider of the request is `local`, or its routing mode is `local_only`. -/
def asksForLocal (request : TaskExecutionRequest) : Bool :=
  stripLower (request.requestedProvider.getD "") == "local" ||
    routingPolicyMode request.constraints == some .localOnly

/-- `_direct_execution_should_use_visual_runtime`. -/
def usesVisualRuntime (request : TaskExecutionRequest) : Bool :=
  isImageGeneration request && (asksForLocal request ||
    request.queue.runtimeLane == some .visualGpu || request.queue.runtimeLane == some .visualCpu)

/-- `_direct_execution_should_use_vision_runtime`. -/
def usesVisionRuntime (request : TaskExecutionRequest) : Bool :=
  stripLower request.taskFamily == "task.vision_analysis" &&
    (asksForLocal request || request.queue.runtimeLane == some .visionLlm)

/-! ## The execution -/

/-- `_direct_execution_queue_context`. -/
structure QueueContext extends TaskExecutionRequest.QueueContext where
  importance : Importance
  routingDecision : Option Dict := none
  queueIntent : QueueIntent := {}

/-- What one execution reads and meets.  `resolveTemplate` is `_resolve_image_generation_template_request`, which
replaces inputs and constraints. -/
structure DirectEnv where
  validateInputs : Except Exc Unit := .ok ()
  resolveTemplate : TaskExecutionRequest → Except Exc TaskExecutionRequest := .ok
  queueContext : TaskExecutionRequest → Except Exc QueueContext
  now : ℤ := 0
  jobId : JobId := 0
  admission : AdmissionGuard := {}
  sample : ResourceSample := {}
  service : ServiceEnv
  adapter : AdapterOutcomes
  serviceStore : ServiceStore := {}
  visualRuntime : TaskExecutionRequest → Except Exc Dict := fun _ => .ok []
  visionRuntime : TaskExecutionRequest → Except Exc Dict := fun _ => .ok []
  flushSummaries : Except Exc Unit := .ok ()

/-- The settings of the queue, and `model_dump(mode="json")` of a request. -/
structure DirectConfig where
  queue : Queue.Config := {}
  modelDump : TaskExecutionRequest → Dict

variable (cfg : DirectConfig) (env : DirectEnv) (request : TaskExecutionRequest)

/-- The executor of `_execute_direct_now`. -/
def runExecutor : Except Exc Response :=
  if usesVisualRuntime request then .runtime <$> env.visualRuntime request
  else if usesVisionRuntime request then .runtime <$> env.visionRuntime request
  else do
    acquireExecutionAdmission env.admission env.sample
    .executed <$> ((execute env.service env.adapter request).exec env.serviceStore).1

/-- `_execute_direct_now`.  What the flush of the usage summaries raises is swallowed, except a cancellation. -/
def executeDirectNow : Except Exc Response := do
  let payload ← runExecutor env request
  match env.flushSummaries with
  | .ok () => .ok payload
  | .error e => if e.isException then .ok payload else .error e

/-- What `_enqueue_direct_execution` hands to the queue. -/
def enqueueRequest : Except Exc EnqueueRequest := do
  let requestCopy ← env.resolveTemplate request
  let queueContext ← env.queueContext requestCopy
  let executionRequest ← executionRequestForQueueContext requestCopy queueContext.toQueueContext
  let jobName := requestCopy.jobName.getD ""
  .ok
    { queue := queueContext.queue
      importance := queueContext.importance.text
      jobName := if jobName = "" then requestCopy.taskId else jobName
      requestPayload := { content := cfg.modelDump executionRequest }
      routingDecision := queueContext.routingDecision
      queueIntent := queueContext.queueIntent
      clientId := some requestCopy.requestedBy
      runningCancellationSupported :=
        !usesVisualRuntime executionRequest && !usesVisionRuntime executionRequest }

/-- The message of a queued job. -/
def queuedMessage : String := "job queued - check in " ++ toString cfg.queue.checkAfter ++ " secs"

/-- The message goes with the answer that a job was queued. -/
def withMessage (answer : EnqueueResponse) : Response :=
  match answer with
  | .queued id => .enqueued (.queued id) (some (queuedMessage cfg))
  | answer => .enqueued answer none

/-- `_enqueue_direct_execution`. -/
def enqueueDirectExecution : Block Response := do
  let submitted ← ofResult (enqueueRequest cfg env request)
  let answer ← enqueue cfg.queue env.now env.jobId submitted
  pure (withMessage cfg answer)

/-- The checks with which `_execute_direct_once` begins, and the request it goes on with. -/
def checkedRequest : Except Exc TaskExecutionRequest := do
  env.validateInputs
  env.resolveTemplate request

/-- `_execute_direct_once`. -/
def executeDirectOnce : Block Response := do
  let checked ← ofResult (checkedRequest env request)
  match checked.responseMode with
  | .asyncIfQueued => enqueueDirectExecution cfg env checked
  | .sync => ofResult (executeDirectNow env checked)

/-! ## What the queue makes of a job -/

/-- The refusal a job meets in the queue, after the deadline pass with which its `enqueue` begins. -/
def queueRefusal (queue : Queue.Config) (now : ℤ) (jobId : JobId) (submitted : EnqueueRequest) (s : Service) :
    Option EnqueueResponse :=
  match (prepareJob queue now jobId submitted).exec s with
  | (.error _, _) => none
  | (.ok (job, _), prepared) =>
    match (monitorDeadlines queue now).exec prepared with
    | (.error _, _) => none
    | (.ok (), passed) => passed.refusal queue job

section

variable {queue : Queue.Config} {now : ℤ} {jobId : JobId} {submitted : EnqueueRequest} {s : Service} {job : Job}
  {answer : EnqueueResponse}

/-- A refusal is no acknowledgement. -/
theorem ne_queued_of_refusal (h : s.refusal queue job = some answer) (id : JobId) : answer ≠ .queued id := by
  rintro rfl
  unfold Service.refusal at h
  dsimp only at h
  split at h
  · cases h
  · split at h
    · split at h <;> cases h
    · cases h

/-- A job that is admitted is in the table. -/
theorem triple_insertJob_enqueued (hqueued : job.status = .queued) (key : WithTop ℚ) :
    Triple (fun _ => True) (insertJob queue now job key) (fun _ => Enqueued job.jobId) fun _ => True := by
  unfold insertJob
  refine Triple.bind (Triple.update (Q := fun _ => Enqueued job.jobId) fun t _ => ?_) fun _ => Triple.bind
    (triple_persistJobs' (Q := Enqueued job.jobId) (fun _ h => h) (fun _ h => h) fun _ _ => trivial) fun _ => ?_
  · exact ⟨job, OrderedDict.get?_set_self _ _ _, hqueued⟩
  · refine Triple.update fun t ht => ?_
    unfold Enqueued
    rw [Service.ensureDispatcher_jobs]
    exact ht

/-- A job that meets no refusal is queued, or `enqueue` raises. -/
theorem enqueue_of_admitted (h : queueRefusal queue now jobId submitted s = none) :
    (∃ e, ((enqueue queue now jobId submitted).exec s).1 = .error e) ∨
    ((enqueue queue now jobId submitted).exec s).1 = .ok (.queued jobId) ∧
      Enqueued jobId ((enqueue queue now jobId submitted).exec s).2 := by
  unfold queueRefusal at h
  unfold enqueue
  rw [exec_bind]
  have hprepared : Triple (fun _ => True) (prepareJob queue now jobId submitted)
      (fun p _ => Prepared queue now jobId submitted p.1 p.2 ∧ True) fun _ => True :=
    triple_prepareJob (fun _ _ _ => trivial) fun _ _ => trivial
  rcases hprepare : (prepareJob queue now jobId submitted).exec s with ⟨e | ⟨job, key⟩, prepared⟩
  · exact Or.inl ⟨e, rfl⟩
  obtain ⟨⟨⟨n, expiresAt, -, rfl⟩, -⟩, -⟩ := (hprepared s trivial).1 _ _ hprepare
  rw [hprepare] at h
  dsimp only at h ⊢
  rw [exec_bind]
  rcases hpass : (monitorDeadlines queue now).exec prepared with ⟨e | ⟨⟩, passed⟩
  · exact Or.inl ⟨e, rfl⟩
  rw [hpass] at h
  dsimp only at h ⊢
  rw [exec_bind, exec_read]
  dsimp only
  rw [h]
  dsimp only
  rw [exec_bind]
  have hinserted : Triple (fun _ => True) (insertJob queue now (newJob now expiresAt jobId n submitted) key)
      (fun _ => Enqueued jobId) fun _ => True := triple_insertJob_enqueued rfl key
  rcases hinsert : (insertJob queue now (newJob now expiresAt jobId n submitted) key).exec passed with
    ⟨e | ⟨⟩, inserted⟩
  · exact Or.inl ⟨e, rfl⟩
  have hjob := (hinserted passed trivial).1 _ _ hinsert
  dsimp only
  rw [exec_bind, exec_read]
  dsimp only
  rw [exec_ofResult]
  unfold queuedResponse
  rcases queueEta queue now inserted (newJob now expiresAt jobId n submitted).jobId with e | eta
  · exact Or.inl ⟨e, rfl⟩
  rcases (newJob now expiresAt jobId n submitted).effectiveDeadline with e | deadline
  · exact Or.inl ⟨e, rfl⟩
  · exact Or.inr ⟨rfl, hjob⟩

/-- A job that meets a refusal is answered with it. -/
theorem enqueue_of_refused (h : queueRefusal queue now jobId submitted s = some answer) :
    ((enqueue queue now jobId submitted).exec s).1 = .ok answer ∧ ∀ id, answer ≠ .queued id := by
  unfold queueRefusal at h
  unfold enqueue
  rw [exec_bind]
  rcases hprepare : (prepareJob queue now jobId submitted).exec s with ⟨e | ⟨job, key⟩, prepared⟩
  · rw [hprepare] at h
    cases h
  rw [hprepare] at h
  dsimp only at h ⊢
  rw [exec_bind]
  rcases hpass : (monitorDeadlines queue now).exec prepared with ⟨e | ⟨⟩, passed⟩
  · rw [hpass] at h
    cases h
  rw [hpass] at h
  dsimp only at h ⊢
  rw [exec_bind, exec_read]
  dsimp only
  rw [h]
  exact ⟨rfl, ne_queued_of_refusal h⟩

end

/-! ## What the execution service answers -/

/-- A validated result that has an end is no acceptance. -/
theorem terminal_of_modelValidate {r r' : TaskExecutionResult} (h : modelValidate r = .ok r')
    (hdate : r.completedAt.isSome) : r'.status ≠ .accepted := by
  obtain ⟨taskId, -, h⟩ := bind_eq_ok.mp h
  obtain ⟨⟨⟩, -, h⟩ := bind_eq_ok.mp h
  obtain ⟨errorCode, -, h⟩ := bind_eq_ok.mp h
  obtain ⟨errorMessage, -, h⟩ := bind_eq_ok.mp h
  obtain ⟨providerUsed, -, h⟩ := bind_eq_ok.mp h
  obtain ⟨modelUsed, -, h⟩ := bind_eq_ok.mp h
  obtain ⟨⟨⟩, hconsistent, h⟩ := bind_eq_ok.mp h
  obtain rfl := pure_eq_ok.mp h
  intro haccepted
  have haccepted : r.status = .accepted := haccepted
  unfold validateStatusConsistency at hconsistent
  simp [haccepted, hdate] at hconsistent

theorem terminal_of_terminalResult {env : ServiceEnv} {request : TaskExecutionRequest} {status : ExecutionStatus}
    {reason : String} {result : TaskExecutionResult} (h : terminalResult env request status reason = .ok result) :
    result.status ≠ .accepted := by
  obtain ⟨-, -, h⟩ := bind_eq_ok.mp h
  exact terminal_of_modelValidate h rfl

theorem terminal_of_resolvedTerminalResult {env : ServiceEnv} {request : TaskExecutionRequest}
    {resolution : ProviderResolutionResult} {governance : Dict} {status : ExecutionStatus} {code reason : String}
    {result : TaskExecutionResult}
    (h : resolvedTerminalResult env request resolution governance status code reason = .ok result) :
    result.status ≠ .accepted := by
  obtain ⟨-, -, h⟩ := bind_eq_ok.mp h
  exact terminal_of_modelValidate h rfl

/-- What follows an answer of the handler is no acceptance. -/
theorem terminal_of_completeExecution {env : ServiceEnv} {plan : Plan}
    {reservation : Option Budget.BudgetReservationResult} {response : UnifiedExecutionResponse}
    {store store' : ServiceStore} {result : TaskExecutionResult}
    (h : (completeExecution env plan reservation response).exec store = (.ok result, store')) :
    result.status ≠ .accepted := by
  rw [completeExecution, exec_bind, exec_ofResult] at h
  rcases hbuilt : buildResult env plan response with e | built
  · rw [hbuilt] at h
    cases h
  rw [hbuilt] at h
  dsimp only at h
  rw [exec_bind] at h
  split at h
  · obtain rfl := Except.ok.inj (Prod.mk.inj h).1
    obtain ⟨-, -, hbuilt⟩ := bind_eq_ok.mp hbuilt
    obtain ⟨-, -, hbuilt⟩ := bind_eq_ok.mp hbuilt
    exact terminal_of_modelValidate hbuilt rfl
  · cases h

/-- **The execution service answers with a terminal result.** -/
theorem terminal_of_execute {env : ServiceEnv} {adapter : AdapterOutcomes} {request : TaskExecutionRequest}
    {store store' : ServiceStore} {result : TaskExecutionResult}
    (h : (execute env adapter request).exec store = (.ok result, store')) : result.status ≠ .accepted := by
  rw [execute, exec_bind, exec_ofResult] at h
  rcases hplan : planExecution env request with e | done | plan
  · rw [hplan] at h
    cases h
  · rw [hplan] at h
    obtain rfl := Except.ok.inj (Prod.mk.inj h).1
    exact done_cases (P := fun result => result.status ≠ .accepted)
      (fun _ _ _ _ _ h => terminal_of_terminalResult h)
      (fun _ _ _ _ _ _ _ _ h => terminal_of_resolvedTerminalResult h) hplan
  rw [hplan] at h
  dsimp only at h
  rw [runPlan, exec_bind] at h
  split at h
  swap
  · cases h
  split at h
  · rw [exec_ofResult] at h
    obtain ⟨-, -, hdenied⟩ := bind_eq_ok.mp (Prod.mk.inj h).1
    exact terminal_of_resolvedTerminalResult hdenied
  rw [runReserved, exec_bind, exec_ofResult] at h
  rcases hstart : startExecution env plan _ with e | ⟨⟨⟩⟩
  · rw [hstart] at h
    cases h
  rw [hstart] at h
  dsimp only at h
  rw [exec_bind] at h
  split at h
  swap
  · cases h
  split at h
  · obtain ⟨status, code, reason, -, hresult⟩ := resolved_of_failExecution h
    exact terminal_of_resolvedTerminalResult hresult
  · exact terminal_of_completeExecution h

/-! ## How an execution ends -/

section

variable {cfg : DirectConfig} {env : DirectEnv} {request : TaskExecutionRequest} {s : Service}

/-- What `_execute_direct_now` answers with created work. -/
theorem createdWork_of_executeDirectNow {response : Response} (h : executeDirectNow env request = .ok response)
    (t : Service) : response.CreatedWork t := by
  obtain ⟨payload, hpayload, h⟩ := bind_eq_ok.mp h
  have hsame : payload = response := by
    split at h
    · exact Except.ok.inj h
    · split at h
      · exact Except.ok.inj h
      · cases h
  subst hsame
  unfold runExecutor at hpayload
  split at hpayload
  · rcases henv : env.visualRuntime request with e | output
    · rw [henv] at hpayload
      cases hpayload
    · rw [henv] at hpayload
      obtain rfl := Except.ok.inj hpayload
      trivial
  split at hpayload
  · rcases henv : env.visionRuntime request with e | output
    · rw [henv] at hpayload
      cases hpayload
    · rw [henv] at hpayload
      obtain rfl := Except.ok.inj hpayload
      trivial
  obtain ⟨-, -, hpayload⟩ := bind_eq_ok.mp hpayload
  rcases hexec : (execute env.service env.adapter request).exec env.serviceStore with ⟨e | result, store⟩
  · rw [hexec] at hpayload
    cases hpayload
  · rw [hexec] at hpayload
    obtain rfl := Except.ok.inj hpayload
    exact terminal_of_execute hexec

/-- The message does not change what an answer says about the work. -/
theorem createdWork_withMessage {answer : EnqueueResponse} {t : Service} :
    (withMessage cfg answer).CreatedWork t ↔ ∃ id, answer = .queued id ∧ Enqueued id t := by
  cases answer with
  | queued id => simp [withMessage, Response.CreatedWork]
  | _ => simp [withMessage, Response.CreatedWork]

/-- The queue refuses the job of a submission. -/
def RefusedByQueue (cfg : DirectConfig) (env : DirectEnv) (request : TaskExecutionRequest) (s : Service) : Prop :=
  ∃ checked submitted, checkedRequest env request = .ok checked ∧ checked.responseMode = .asyncIfQueued ∧
    enqueueRequest cfg env checked = .ok submitted ∧
    (queueRefusal cfg.queue env.now env.jobId submitted s).isSome

/-- **How an execution ends**: with the refusal of the queue, with an exception, or with work. -/
theorem outcome_cases (cfg : DirectConfig) (env : DirectEnv) (request : TaskExecutionRequest) (s : Service) :
    (RefusedByQueue cfg env request s ∧
      ∃ response, ((executeDirectOnce cfg env request).exec s).1 = .ok response ∧ ∀ t, ¬response.CreatedWork t) ∨
    ¬RefusedByQueue cfg env request s ∧
      ((∃ e, ((executeDirectOnce cfg env request).exec s).1 = .error e) ∨
        ∃ response, ((executeDirectOnce cfg env request).exec s).1 = .ok response ∧
          response.CreatedWork ((executeDirectOnce cfg env request).exec s).2) := by
  unfold executeDirectOnce
  rw [exec_bind, exec_ofResult]
  rcases hchecked : checkedRequest env request with e | checked
  · refine Or.inr ⟨?_, Or.inl ⟨e, rfl⟩⟩
    rintro ⟨_, _, hok, -⟩
    rw [hchecked] at hok
    cases hok
  dsimp only
  rcases hmode : checked.responseMode
  · refine Or.inr ⟨?_, ?_⟩
    · rintro ⟨checked', _, hok, hasync, -⟩
      obtain rfl := Except.ok.inj (hchecked.symm.trans hok)
      rw [hmode] at hasync
      cases hasync
    dsimp only
    rw [exec_ofResult]
    rcases hnow : executeDirectNow env checked with e | response
    · exact Or.inl ⟨e, rfl⟩
    · exact Or.inr ⟨response, rfl, createdWork_of_executeDirectNow hnow s⟩
  dsimp only
  unfold enqueueDirectExecution
  rw [exec_bind, exec_ofResult]
  rcases hsubmitted : enqueueRequest cfg env checked with e | submitted
  · refine Or.inr ⟨?_, Or.inl ⟨e, rfl⟩⟩
    rintro ⟨checked', _, hok, -, hsubmitted', -⟩
    obtain rfl := Except.ok.inj (hchecked.symm.trans hok)
    rw [hsubmitted] at hsubmitted'
    cases hsubmitted'
  dsimp only
  rw [exec_bind]
  rcases hrefusal : queueRefusal cfg.queue env.now env.jobId submitted s with _ | answer
  · refine Or.inr ⟨?_, ?_⟩
    · rintro ⟨checked', submitted', hok, -, hsubmitted', hsome⟩
      obtain rfl := Except.ok.inj (hchecked.symm.trans hok)
      obtain rfl := Except.ok.inj (hsubmitted.symm.trans hsubmitted')
      rw [hrefusal] at hsome
      cases hsome
    have hadmitted := enqueue_of_admitted hrefusal
    rcases hexec : (enqueue cfg.queue env.now env.jobId submitted).exec s with ⟨e | answer, t⟩
    · exact Or.inl ⟨e, rfl⟩
    · rw [hexec] at hadmitted
      rcases hadmitted with ⟨e, he⟩ | ⟨hanswer, hjob⟩
      · cases he
      · exact Or.inr ⟨_, rfl, createdWork_withMessage.mpr ⟨_, Except.ok.inj hanswer, hjob⟩⟩
  · refine Or.inl ⟨⟨checked, submitted, hchecked, hmode, hsubmitted, by rw [hrefusal]; rfl⟩, ?_⟩
    obtain ⟨hanswer, hne⟩ := enqueue_of_refused hrefusal
    rcases hexec : (enqueue cfg.queue env.now env.jobId submitted).exec s with ⟨e | answer', t⟩
    · rw [hexec] at hanswer
      cases hanswer
    · rw [hexec] at hanswer
      obtain rfl := Except.ok.inj hanswer
      refine ⟨_, rfl, fun t' hwork => ?_⟩
      obtain ⟨id, hid, -⟩ := createdWork_withMessage.mp hwork
      exact hne id hid

end

end Runtime
end HexeAiNode
