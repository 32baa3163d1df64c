import HexeAiNode.Budget.Manager
import HexeAiNode.Execution.ProviderExecutionRouter
import HexeAiNode.Execution.TaskExecutionResult
import HexeAiNode.Governance.ExecutionGovernance
import HexeAiNode.Governance.PromptConstraints
import HexeAiNode.Governance.ProviderResolver

/-!
# The task execution service

`TaskExecutionService.execute`, in the order of the source: what is decided before a provider is
chosen (`planExecution`), the reservation of the budget (`reserveBudget`), the way to the handler
(`startExecution`), the handler (`dispatch`), and what follows its answer (`completeExecution`) or its
failure (`failExecution`).

`ServiceEnv` is everything a call reads besides its request and the budget store: providers of
governance data, the provider context and registry, and the oracles for what the call waits for.
The governance bundle is read three times with awaits in between, so there are three of them.

`publish` gives the outcome of the await of each event.  `_emit_execution_event` swallows an
`Exception`; what goes through is a cancellation delivered at that await.  A cancellation delivered
while an adapter is waited for is an adapter outcome.

Telemetry texts, the lifecycle records and the prompt and client usage records are left out: nothing
here reads them, and the source swallows what they raise.  The content of a provider request (prompt,
messages, metadata) is a parameter, `content`; what routes it is not.
-/

namespace HexeAiNode
namespace Execution

open Py Governance Budget
open StoreAction (ofResult)

/-! ## The environment -/

/-- The events `execute` waits for. -/
inductive ExecutionEvent where
  | taskReceived
  | providerSelected
  | providerFallback
  | budgetDenial
  | budgetReservation
  | taskStarted
  | taskCompleted
  | budgetFinalized
  deriving DecidableEq, Repr

/-- The handlers a `TaskRouter` of the service can dispatch to. -/
inductive Handler where
  | classification
  | summarization
  | provider
  deriving DecidableEq, Repr

/-- The parts of a provider request that do not route it. -/
structure UnifiedContent where
  prompt : Option String := none
  systemPrompt : Option String := none
  messages : List Value := []
  temperature : Option FloatVal := none
  maxTokens : Option Int := none
  metadata : Dict := []

/-- The clocks and settings of the three accesses to the budget store. -/
structure BudgetAccess where
  reserve : BudgetEnv
  release : BudgetEnv
  finalize : BudgetEnv

/-- What an execution reads besides its request and the budget store. -/
structure ServiceEnv where
  /-- The reason for which `validate_execution_task_family` refuses, if it does. -/
  familyRefusal : Option String := none
  /-- The result of the execution gateway, for a request that names a prompt. -/
  authorization : Option ExecutionAuthorizationResult := none
  governanceStatus : Dict := []
  bundleBefore : Value := .null
  bundleAfter : Value := .null
  bundleAtReservation : Value := .null
  context : ProviderContext
  registry : ProviderRegistry
  router : RouterConfig := {}
  persistMetrics : Except Exc Unit := .ok ()
  publish : ExecutionEvent → Except Exc Unit := fun _ => .ok ()
  /-- The budget manager, if the service has one. -/
  budget : Option BudgetAccess := none
  routableTaskFamilies : List Value := []
  content : Handler → TaskExecutionRequest → Option ExecutionAuthorizationResult →
    Except Exc UnifiedContent := fun _ _ _ => .ok {}
  jsonLoads : String → Option Value := fun _ => none
  now : String := "now"

/-- The store of an execution: the budget file, and the adapter calls made. -/
structure ServiceStore where
  budget : Option BudgetState := none
  calls : List ProviderCall := []

/-- A computation of the service. -/
abbrev ServiceAction := StoreAction ServiceStore Exc

/-- A budget operation of the service. -/
def onBudget {α : Type} (m : BudgetAction α) : ServiceAction α :=
  m.zoom ServiceStore.budget fun file store => { store with budget := file }

/-- A computation of the service that calls adapters. -/
def onCalls {α : Type} (m : RouterAction α) : ServiceAction α :=
  m.zoom ServiceStore.calls fun calls store => { store with calls := calls }

/-- A step that ends the execution with a result, or goes on. -/
inductive Step (α : Type) where
  | done (result : TaskExecutionResult)
  | next (a : α)

/-- `_emit_execution_event`. -/
def emit (env : ServiceEnv) (event : ExecutionEvent) : Except Exc Unit :=
  match env.publish event with
  | .ok () => .ok ()
  | .error e => if e.isException then .ok () else .error e

/-- `_emit_execution_event` under a condition. -/
def emitWhen (env : ServiceEnv) (condition : Bool) (event : ExecutionEvent) : Except Exc Unit :=
  if condition then emit env event else .ok ()

/-- A cancellation is delivered at the await of the event. -/
def ServiceEnv.cancels (env : ServiceEnv) (event : ExecutionEvent) : Bool :=
  match env.publish event with
  | .ok () => false
  | .error e => !e.isException

/-- `ExecutionLifecycleTracker.update`, as far as it can raise. -/
def updateLifecycle (request : TaskExecutionRequest) : Except Exc Unit :=
  if strip request.taskId = "" then .error ⟨.valueError, "task_id_required"⟩ else .ok ()

/-! ## What the request asks for -/

/-- `_safe_error_message`. -/
def safeErrorMessage (text : String) : String :=
  let stripped := strip text
  let text := if stripped = "" then "internal_execution_error" else stripped
  if text.length ≤ 4000 then text
  else String.ofList ((text.toList.take 3997).rdropWhile isSpace) ++ "..."

/-- `_prompt_importance_level`. -/
def promptImportanceLevel (authorization : ExecutionAuthorizationResult) : Importance :=
  let level := ((authorization.promptConstraints.asDict.get "importance").asDict.get
    "level").normalizeLower
  if level = "background" then .background
  else if level = "high" then .high
  else if level = "critical" then .critical
  else .normal

/-- `_effective_priority`. -/
def effectivePriority (authorization : ExecutionAuthorizationResult) : Importance :=
  match promptImportanceLevel authorization with
  | .critical => .high
  | level => level

/-- `_default_provider_allowed_by_routing`. -/
def defaultProviderAllowedByRouting (defaultProvider : Value) (mode : Option RoutingMode) : Bool :=
  let provider := defaultProvider.normalizeLower
  if provider = "" then false
  else if (mode = some .localOnly ∨ mode = some .localPreferred) ∧ provider ≠ "local" then false
  else if mode = some .cloudOnly ∧ provider = "local" then false
  else true

/-- The mode of a `routing_policy` entry. -/
def routingPolicyMode (constraints : Dict) : Option RoutingMode :=
  normalizeRoutingPolicyMode ((constraints.get "routing_policy").asDict.get "mode")

/-- `_effective_requested_provider`. -/
def effectiveRequestedProvider (request : TaskExecutionRequest)
    (authorization : Option ExecutionAuthorizationResult) : Value :=
  if (optStr request.requestedProvider).truthy then optStr request.requestedProvider
  else
    match authorization with
    | none => .null
    | some authorization =>
      if authorization.providerPreferences.isDict then
        let defaultProvider := authorization.providerPreferences.asDict.get "default_provider"
        let (mode, conflict) := mergeRoutingPolicyModes
          (routingPolicyMode authorization.promptConstraints.asDict)
          (routingPolicyMode request.constraints)
        if conflict || !defaultProviderAllowedByRouting defaultProvider mode then .null
        else defaultProvider
      else .null

/-- `_effective_requested_model`. -/
def effectiveRequestedModel (request : TaskExecutionRequest)
    (authorization : Option ExecutionAuthorizationResult) : Value :=
  if (optStr request.requestedModel).truthy then optStr request.requestedModel
  else
    match authorization with
    | none => .null
    | some authorization =>
      if authorization.providerPreferences.isDict then
        if (effectiveRequestedProvider request (some authorization)).isNull then .null
        else authorization.providerPreferences.asDict.get "default_model"
      else .null

/-- `_effective_timeout_s`. -/
def effectiveTimeoutS (request : TaskExecutionRequest)
    (authorization : Option ExecutionAuthorizationResult) : Except Exc Int :=
  match authorization with
  | none => .ok request.timeoutS
  | some authorization =>
    let maxTimeout := authorization.promptConstraints.asDict.get "max_timeout_s"
    if maxTimeout.isNull then .ok request.timeoutS
    else do
      let limit ← maxTimeout.toInt
      .ok (min request.timeoutS (max limit 1))

/-- `max(int(x), 0)`. -/
def nonNegative (x : Except Exc Int) : Except Exc (Option Int) := (fun i => some (max i 0)) <$> x

/-- `_request_max_cost_cents`. -/
def requestMaxCostCents (request : TaskExecutionRequest) : Except Exc (Option Int) :=
  let budgetCents := (request.constraints.get "budget").asDict.get "max_cost_cents"
  let cents := request.constraints.get "max_cost_cents"
  let usd := request.constraints.get "max_cost_usd"
  if ¬ budgetCents.isNull then nonNegative budgetCents.toInt
  else if ¬ cents.isNull then nonNegative cents.toInt
  else if ¬ usd.isNull then do
    let x ← usd.toFloat
    nonNegative (Value.float (x.scale 100) "").toInt
  else .ok none

/-- The governance constraints of the request, with those of its prompt merged in. -/
def governanceConstraints (request : TaskExecutionRequest)
    (authorization : Option ExecutionAuthorizationResult) : Except Exc Dict :=
  match authorization with
  | none => .ok (safeGovernanceConstraints request)
  | some authorization =>
    mergePromptGovernanceConstraints (safeGovernanceConstraints request) authorization

/-- What the resolver is asked. -/
def resolutionRequest (request : TaskExecutionRequest)
    (authorization : Option ExecutionAuthorizationResult) :
    Except Exc ProviderResolutionRequest := do
  let timeoutS ← effectiveTimeoutS request authorization
  let maxCostCents ← requestMaxCostCents request
  .ok
    { taskFamily := request.taskFamily
      requestedProvider := effectiveRequestedProvider request authorization
      requestedModel := effectiveRequestedModel request authorization
      timeoutS := timeoutS
      maxCostCents := maxCostCents }

/-- The resolution of a request under its governance constraints. -/
def resolveRequest (env : ServiceEnv) (request : TaskExecutionRequest) (governance : Dict) :
    Except Exc ProviderResolutionResult := do
  let asked ← resolutionRequest request env.authorization
  resolve env.context asked governance

/-- The resolution of a request. -/
def resolutionOf (env : ServiceEnv) (request : TaskExecutionRequest) :
    Except Exc ProviderResolutionResult := do
  let governance ← governanceConstraints request env.authorization
  resolveRequest env request governance

/-- `_resolution_used_fallback`. -/
def resolutionUsedFallback (resolution : ProviderResolutionResult) : Bool :=
  let providerId := strip (resolution.providerId.getD "")
  let order := (resolution.providerOrder.map strip).filter (· != "")
  match order with
  | [] => false
  | first :: _ => providerId != "" && providerId != first

/-! ## Results -/

/-- `_resolution_metadata`. -/
def resolutionMetadata (request : TaskExecutionRequest)
    (authorization : Option ExecutionAuthorizationResult) (resolution : ProviderResolutionResult)
    (governance : Dict) (rejectionReason : Option String) : Dict :=
  let routing := routingPolicyOf governance
  let preferences := (authorization.map ExecutionAuthorizationResult.providerPreferences).getD .null
  let promptDefault (key : String) : Bool := (preferences.asDict.get key).truthy
  let mode := routing.get "mode"
  let requested := (optStr request.requestedProvider).truthy
  let providerReason :=
    if requested then "requested_provider"
    else if mode.truthy then "routing_policy_" ++ mode.toStr
    else if promptDefault "default_provider" then "prompt_default_provider"
    else "provider_selection_policy"
  let modelReason :=
    if (optStr request.requestedModel).truthy then "requested_model"
    else if promptDefault "default_model" then "prompt_default_model"
    else "provider_task_default_or_provider_default"
  let selected := stripLower (resolution.providerId.getD "")
  let isLocal := selected = "local" ∨ selected = "local_vision"
  let side : Value := if isLocal then .str "local" else if selected = "" then .null else .str "cloud"
  let payload : Dict :=
    [("selected_provider", optStr resolution.providerId),
      ("selected_model", optStr resolution.modelId),
      ("provider_class", side),
      ("concrete_executor", optStr resolution.providerId),
      ("execution_location", side),
      ("cloud_used", if isLocal then .bool false else if selected = "" then .null else .bool true),
      ("provider_selection_reason", .str providerReason),
      ("model_selection_reason", .str modelReason),
      ("requested_provider", optStr request.requestedProvider),
      ("requested_model", optStr request.requestedModel),
      ("effective_requested_provider", effectiveRequestedProvider request authorization),
      ("effective_requested_model", effectiveRequestedModel request authorization),
      ("routing_policy_mode", mode),
      ("provider_order", .list (resolution.providerOrder.map .str)),
      ("fallback_provider_ids", .list (resolution.fallbackProviderIds.map .str)),
      ("model_allowlist_by_provider",
        .dict (resolution.modelAllowlistByProvider.map fun e => (e.1, .list (e.2.map .str)))),
      ("timeout_s", .int resolution.timeoutS),
      ("retry_count", .int resolution.retryCount),
      ("rejection_reason", optStr rejectionReason)]
  let requirements := governance.get "model_capability_requirements"
  let payload := if requirements.isDict then payload ++ [("capability_requirements", requirements)]
    else payload
  let template := request.constraints.get "image_template_resolved"
  let payload := if template.isDict then
      payload ++ [("image_template", .dict
        (["template_id", "template_version", "template_runtime", "output_scope",
          "output_folder_policy", "api_workflow_path", "ui_workflow_path"].map fun key =>
            (key, template.asDict.get key)))]
    else payload
  match rejectionReason with
  | none => payload
  | some reason =>
    if reason = "" then payload
    else payload ++ [("error_policy", .dict (recoveryPolicyForFailureCode reason))]

/-- `_terminal_result`, for an execution that did not get as far as a resolution. -/
def terminalResult (env : ServiceEnv) (request : TaskExecutionRequest) (status : ExecutionStatus)
    (reason : String) : Except Exc TaskExecutionResult := do
  updateLifecycle request
  modelValidate
    { taskId := request.taskId
      status := status
      output := if status = .degraded then some [("error", .str (safeErrorMessage reason))] else none
      errorCode := some reason
      errorMessage := some (safeErrorMessage reason)
      completedAt := some env.now }

/-- `_terminal_result`, with the data of a resolution. -/
def resolvedTerminalResult (env : ServiceEnv) (request : TaskExecutionRequest)
    (resolution : ProviderResolutionResult) (governance : Dict) (status : ExecutionStatus)
    (code reason : String) : Except Exc TaskExecutionResult := do
  updateLifecycle request
  modelValidate
    { taskId := request.taskId
      status := status
      output := if status = .degraded then some [("error", .str (safeErrorMessage reason))] else none
      metrics :=
        { retries := max resolution.retryCount 0
          fallbackUsed := resolutionUsedFallback resolution }
      errorCode := some code
      errorMessage := some (safeErrorMessage reason)
      providerUsed := resolution.providerId
      modelUsed := resolution.modelId
      resolutionMetadata :=
        some (resolutionMetadata request env.authorization resolution governance (some reason))
      completedAt := some env.now }

/-- A failure that another provider or another time may avoid. -/
def isUnavailable (reason : String) : Bool :=
  classifyFailureCode reason == some "provider_unavailable" ||
    classifyFailureCode reason == some "model_unavailable"

/-! ## Before the reservation -/

/-- What has been decided when the budget is reserved. -/
structure Plan where
  request : TaskExecutionRequest
  governance : Dict
  resolution : ProviderResolutionResult

/-- The call `evaluate_execution_governance` is asked about. -/
def governedCall (request : TaskExecutionRequest) (timeoutS : Int) : GovernedCall where
  taskFamily := request.taskFamily
  timeoutS := timeoutS
  inputs := .dict request.inputs

/-- From the provider resolution to the governance check of the resolved provider. -/
def planResolved (env : ServiceEnv) (request : TaskExecutionRequest) (governance : Dict)
    (timeoutS : Int) : Except Exc (Step Plan) := do
  let resolution ← resolveRequest env request governance
  if resolution.allowed then do
    emit env .providerSelected
    emitWhen env (resolutionUsedFallback resolution) .providerFallback
    let decision ← evaluateExecutionGovernance env.bundleAfter (.dict governance)
      { governedCall request timeoutS with
        providerId := resolution.providerId
        modelId := resolution.modelId }
    if decision.allowed then
      .ok (.next { request := request, governance := governance, resolution := resolution })
    else
      .done <$> resolvedTerminalResult env request resolution governance .rejected decision.reason
        decision.reason
  else
    let reason := (resolution.rejectionReason.filter (· != "")).getD "provider_resolution_failed"
    .done <$> resolvedTerminalResult env request resolution governance
      (if isUnavailable reason then .degraded else .rejected) reason reason

/-- From the governance status to the governance check of the request. -/
def planGoverned (env : ServiceEnv) (request : TaskExecutionRequest) : Except Exc (Step Plan) :=
  if (env.governanceStatus.get "state").normalizeLower = "stale" then
    .done <$> terminalResult env request .degraded "governance_stale"
  else do
    let governance ← governanceConstraints request env.authorization
    let timeoutS ← effectiveTimeoutS request env.authorization
    let decision ← evaluateExecutionGovernance env.bundleBefore (.dict governance)
      (governedCall request timeoutS)
    if decision.allowed then planResolved env request governance timeoutS
    else .done <$> terminalResult env request .rejected decision.reason

/-- The request with the priority its prompt gives it. -/
def withPriority (request : TaskExecutionRequest)
    (authorization : Option ExecutionAuthorizationResult) : TaskExecutionRequest :=
  match authorization with
  | none => request
  | some authorization => { request with priority := effectivePriority authorization }

/-- `execute` up to the reservation. -/
def planExecution (env : ServiceEnv) (request : TaskExecutionRequest) : Except Exc (Step Plan) := do
  emit env .taskReceived
  updateLifecycle request
  match env.familyRefusal with
  | some reason =>
    .done <$> terminalResult env request
      (if reason = "unsupported_task_family" then .unsupported else .rejected) reason
  | none =>
    match env.authorization.filter fun authorization => !authorization.allowed with
    | some authorization => .done <$> terminalResult env request .rejected authorization.reason
    | none => planGoverned env (withPriority request env.authorization)

/-! ## The reservation -/

/-- `reserve_execution`, if there is a budget manager. -/
def reserveBudget (env : ServiceEnv) (plan : Plan) :
    BudgetAction (Option BudgetReservationResult) :=
  match env.budget with
  | none => pure none
  | some access => some <$>
      reserveExecution access.reserve plan.request.taskId plan.request
        (plan.resolution.providerId.getD "") (plan.resolution.modelId.getD "")
        env.bundleAtReservation

/-- What follows a refused reservation. -/
def denyExecution (env : ServiceEnv) (plan : Plan) (reservation : BudgetReservationResult) :
    Except Exc TaskExecutionResult := do
  emit env .budgetDenial
  let reason := (reservation.reason.filter (· != "")).getD "missing_budget_grant"
  resolvedTerminalResult env plan.request plan.resolution plan.governance .rejected reason reason

/-- From the reservation to the handler. -/
def startExecution (env : ServiceEnv) (plan : Plan)
    (reservation : Option BudgetReservationResult) : Except Exc Unit := do
  emitWhen env reservation.isSome .budgetReservation
  updateLifecycle plan.request
  emit env .taskStarted

/-! ## The handler -/

/-- `CLASSIFICATION_TASK_FAMILIES`. -/
def classificationTaskFamilies : List String :=
  ["task.classification", "task.classification", "task.classification.email",
    "task.classification.image"]

/-- `SUMMARIZATION_TASK_FAMILIES`. -/
def summarizationTaskFamilies : List String :=
  ["task.summarization", "task.summarization.text", "task.summarization.email",
    "task.summarization.event"]

/-- `TaskRouter.resolve_handler`. -/
def resolveHandler (env : ServiceEnv) (taskFamily : String) : Except Exc Handler :=
  let family := strip taskFamily
  if family ∈ classificationTaskFamilies then .ok .classification
  else if family ∈ summarizationTaskFamilies then .ok .summarization
  else if env.routableTaskFamilies = [] ∨
      family ∈ env.routableTaskFamilies.map Value.normalizeString then .ok .provider
  else .error ⟨.valueError, "task_family_not_routable"⟩

/-- The provider request a handler builds: its provider and model are the resolved ones. -/
def unifiedRequest (env : ServiceEnv) (plan : Plan) : Except Exc UnifiedExecutionRequest := do
  let handler ← resolveHandler env plan.request.taskFamily
  let content ← env.content handler plan.request env.authorization
  .ok
    { taskFamily := plan.request.taskFamily
      prompt := content.prompt
      systemPrompt := content.systemPrompt
      messages := content.messages
      requestedProvider := plan.resolution.providerId
      requestedModel := plan.resolution.modelId
      temperature := content.temperature
      maxTokens := content.maxTokens
      metadata := content.metadata }

/-- `TaskRouter.dispatch`, down to `ProviderRuntimeManager.execute`. -/
def dispatch (env : ServiceEnv) (adapter : AdapterOutcomes) (plan : Plan) :
    RouterAction UnifiedExecutionResponse := do
  let request ← ofResult (unifiedRequest env plan)
  let response ← routerExecute env.registry env.router adapter request
  ofResult env.persistMetrics
  pure response

/-! ## After the handler -/

/-- What follows an `Exception` of the handler. -/
def failExecution (env : ServiceEnv) (plan : Plan) (reservation : Option BudgetReservationResult)
    (e : Exc) : ServiceAction TaskExecutionResult := do
  let reason := safeErrorMessage e.text
  onBudget <|
    match env.budget, reservation with
    | some access, some _ => discard <| releaseExecution access.release plan.request.taskId reason
    | _, _ => pure ()
  let status : ExecutionStatus :=
    if e.isValueError then if isUnavailable reason then .degraded else .rejected
    else if classifyFailureCode reason = some "provider_unavailable" then .degraded
    else .failed
  let code :=
    if e.isValueError ∨ (classifyFailureCode reason).isSome then reason
    else "internal_execution_error"
  ofResult <| resolvedTerminalResult env plan.request plan.resolution plan.governance status code
    reason

/-- `_completed_output`. -/
def completedOutput (env : ServiceEnv) (plan : Plan) (response : UnifiedExecutionResponse) : Dict :=
  let text : Dict := [("text", .str response.outputText)]
  if stripLower plan.request.taskFamily = "task.structured_extraction" then
    match env.jsonLoads response.outputText with
    | some (.dict parsed) => parsed
    | _ => text
  else text

/-- The result of a completed execution, before its validation. -/
def completedResult (env : ServiceEnv) (plan : Plan) (response : UnifiedExecutionResponse) :
    TaskExecutionResult where
  taskId := plan.request.taskId
  status := .completed
  output := some (completedOutput env plan response)
  metrics :=
    { providerLatencyMs := some response.latencyMs
      retries := plan.resolution.retryCount
      fallbackUsed := resolutionUsedFallback plan.resolution
      promptTokens := response.promptTokens
      cachedInputTokens := response.cachedInputTokens
      completionTokens := response.completionTokens
      totalTokens := response.totalTokens
      estimatedCost := response.estimatedCost }
  providerUsed := some response.providerId
  modelUsed := some response.modelId
  resolutionMetadata :=
    some (resolutionMetadata plan.request env.authorization plan.resolution plan.governance none)
  completedAt := some env.now

/-- What follows an answer, up to the validated result. -/
def buildResult (env : ServiceEnv) (plan : Plan) (response : UnifiedExecutionResponse) :
    Except Exc TaskExecutionResult := do
  updateLifecycle plan.request
  emit env .taskCompleted
  modelValidate (completedResult env plan response)

/-- `finalize_execution`, if there is a reservation. -/
def finalizeBudget (env : ServiceEnv) (plan : Plan) (reservation : Option BudgetReservationResult)
    (result : TaskExecutionResult) : BudgetAction Unit :=
  match env.budget, reservation with
  | some access, some _ => do
    let _ ← finalizeExecution access.finalize plan.request.taskId (some result.metrics) "completed"
    ofResult (emit env .budgetFinalized)
  | _, _ => pure ()

/-- What follows an answer. -/
def completeExecution (env : ServiceEnv) (plan : Plan)
    (reservation : Option BudgetReservationResult) (response : UnifiedExecutionResponse) :
    ServiceAction TaskExecutionResult := do
  let result ← ofResult (buildResult env plan response)
  onBudget (finalizeBudget env plan reservation result)
  pure result

/-! ## The whole execution -/

/-- `execute` from the reservation on, when it was not refused. -/
def runReserved (env : ServiceEnv) (adapter : AdapterOutcomes) (plan : Plan)
    (reservation : Option BudgetReservationResult) : ServiceAction TaskExecutionResult := do
  ofResult (startExecution env plan reservation)
  let outcome ← (onCalls (dispatch env adapter plan)).attempt Exc.isException
  match outcome with
  | .error e => failExecution env plan reservation e
  | .ok response => completeExecution env plan reservation response

/-- `execute` from the reservation on. -/
def runPlan (env : ServiceEnv) (adapter : AdapterOutcomes) (plan : Plan) :
    ServiceAction TaskExecutionResult := do
  let reservation ← onBudget (reserveBudget env plan)
  match reservation.filter fun r => !r.allowed with
  | some refused => ofResult (denyExecution env plan refused)
  | none => runReserved env adapter plan reservation

/-- `TaskExecutionService.execute`. -/
def execute (env : ServiceEnv) (adapter : AdapterOutcomes) (request : TaskExecutionRequest) :
    ServiceAction TaskExecutionResult := do
  let step ← ofResult (planExecution env request)
  match step with
  | .done result => pure result
  | .next plan => runPlan env adapter plan

/-! ## What a plan is -/

/-- A plan is made for a request: the request is tracked, its resolution is allowed, and governance
allows the resolved provider. -/
structure Plan.MadeFor (env : ServiceEnv) (request : TaskExecutionRequest) (plan : Plan) : Prop where
  request_eq : plan.request = withPriority request env.authorization
  tracked : updateLifecycle request = .ok ()
  governed : governanceConstraints request env.authorization = .ok plan.governance
  resolved : resolveRequest env request plan.governance = .ok plan.resolution
  allowed : plan.resolution.allowed = true
  compliant : ∃ call decision,
    evaluateExecutionGovernance env.bundleAfter (.dict plan.governance) call = .ok decision ∧
      decision.allowed = true

/-- A step that ends the execution does not go on. -/
theorem done_ne_next {x : Except Exc TaskExecutionResult} {plan : Plan} :
    (Step.done <$> x : Except Exc (Step Plan)) ≠ .ok (.next plan) := by
  intro h
  rcases x with e | result
  · cases h
  · cases h

section

variable (request : TaskExecutionRequest) (authorization : Option ExecutionAuthorizationResult)

@[simp] theorem withPriority_taskId : (withPriority request authorization).taskId = request.taskId := by
  cases authorization <;> simp only [withPriority]

@[simp] theorem withPriority_taskFamily :
    (withPriority request authorization).taskFamily = request.taskFamily := by
  cases authorization <;> simp only [withPriority]

@[simp] theorem withPriority_requestedProvider :
    (withPriority request authorization).requestedProvider = request.requestedProvider := by
  cases authorization <;> simp only [withPriority]

@[simp] theorem withPriority_requestedModel :
    (withPriority request authorization).requestedModel = request.requestedModel := by
  cases authorization <;> simp only [withPriority]

@[simp] theorem withPriority_timeoutS :
    (withPriority request authorization).timeoutS = request.timeoutS := by
  cases authorization <;> simp only [withPriority]

@[simp] theorem withPriority_constraints :
    (withPriority request authorization).constraints = request.constraints := by
  cases authorization <;> simp only [withPriority]

end

/-- The priority of a request is not among its governance constraints. -/
theorem governanceConstraints_withPriority (request : TaskExecutionRequest)
    (authorization : Option ExecutionAuthorizationResult) :
    governanceConstraints (withPriority request authorization) authorization =
      governanceConstraints request authorization := by
  unfold governanceConstraints safeGovernanceConstraints
  simp only [withPriority_constraints]

/-- The priority of a request does not route it. -/
theorem resolveRequest_withPriority (env : ServiceEnv) (request : TaskExecutionRequest)
    (governance : Dict) :
    resolveRequest env (withPriority request env.authorization) governance =
      resolveRequest env request governance := by
  unfold resolveRequest resolutionRequest effectiveTimeoutS requestMaxCostCents
    effectiveRequestedModel effectiveRequestedProvider
  simp only [withPriority_taskFamily, withPriority_requestedProvider, withPriority_requestedModel,
    withPriority_timeoutS, withPriority_constraints]

/-- **What planning decides.** -/
theorem madeFor_of_planExecution {env : ServiceEnv} {request : TaskExecutionRequest} {plan : Plan}
    (h : planExecution env request = .ok (.next plan)) : plan.MadeFor env request := by
  unfold planExecution at h
  obtain ⟨-, -, h⟩ := bind_eq_ok.mp h
  obtain ⟨⟨⟩, htracked, h⟩ := bind_eq_ok.mp h
  split at h
  · exact absurd h done_ne_next
  split at h
  · exact absurd h done_ne_next
  unfold planGoverned at h
  split at h
  · exact absurd h done_ne_next
  obtain ⟨governance, hgoverned, h⟩ := bind_eq_ok.mp h
  obtain ⟨timeoutS, -, h⟩ := bind_eq_ok.mp h
  obtain ⟨before, -, h⟩ := bind_eq_ok.mp h
  split at h
  · unfold planResolved at h
    obtain ⟨resolution, hresolved, h⟩ := bind_eq_ok.mp h
    split at h
    · next hallowed =>
      obtain ⟨-, -, h⟩ := bind_eq_ok.mp h
      obtain ⟨-, -, h⟩ := bind_eq_ok.mp h
      obtain ⟨decision, hdecision, h⟩ := bind_eq_ok.mp h
      split at h
      · next hcompliant =>
        obtain rfl := Step.next.inj (Except.ok.inj h)
        rw [governanceConstraints_withPriority] at hgoverned
        rw [resolveRequest_withPriority] at hresolved
        exact
          { request_eq := rfl
            tracked := htracked
            governed := hgoverned
            resolved := hresolved
            allowed := hallowed
            compliant := ⟨_, decision, hdecision, hcompliant⟩ }
      · exact absurd h done_ne_next
    · exact absurd h done_ne_next
  · exact absurd h done_ne_next

/-- The resolution of a plan is the request's. -/
theorem Plan.MadeFor.resolutionOf_eq {env : ServiceEnv} {request : TaskExecutionRequest} {plan : Plan}
    (h : plan.MadeFor env request) : resolutionOf env request = .ok plan.resolution :=
  bind_eq_ok.mpr ⟨plan.governance, h.governed, h.resolved⟩

end Execution
end HexeAiNode
