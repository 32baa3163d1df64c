import HexeAiNode.Execution.ExecutionGateway
import HexeAiNode.Runtime.DirectExecution

/-!
# The queue of a direct execution

`_direct_execution_queue_context` chooses the queue of a request: the queue of the CPU for a small image that can
wait, else the side of the node that the provider, the routing mode or the capabilities ask for, else the cloud when
the local queue is too long.  What it chooses is written into the request before it is queued.

`QueueEnv` is what the choice reads besides the request.  The estimate and the pressure of the local queue are given
as the queue gives them; whether the cloud is available is a question to the providers and their budgets, which is
left open here.

`contextQueue_of_image` says where an image may go, and `spilled_iff` when a request leaves the local queue.
-/

namespace HexeAiNode
namespace Runtime

open Py Governance Execution Queue TaskExecutionRequest

/-! ## What the choice reads -/

/-- The settings and the surroundings of a choice. -/
structure QueueEnv where
  providerCapabilities : Dict := []
  getComfyuiTemplateCatalogEntry : String → Except Exc Dict :=
    fun _ => .error ⟨.valueError, "comfyui_template_not_found"⟩
  maxPixels : ℤ := 786432
  localPreferredSpilloverEnabled : Bool := true
  localPreferredSpilloverCriticalPending : ℤ := 2
  localPreferredSpilloverHighPending : ℤ := 5
  queueStartEstimate : Except Exc Dict := .ok []
  queuePressure : Except Exc Dict := .ok []
  cloudExecutionQueueAvailable : TaskExecutionRequest → Except Exc Bool := fun _ => .ok false

/-- `_direct_execution_authorization_snapshot`: what the gateway raises is no authorization. -/
def directExecutionAuthorizationSnapshot (now : Prompts.Timestamp) (promptServicesState : Value)
    (request : TaskExecutionRequest) : Option ExecutionAuthorizationResult :=
  match request.promptId with
  | none => none
  | some promptId =>
    if promptId = "" then none
    else
      match authorize now promptServicesState
        { promptId := promptId
          taskFamily := request.taskFamily
          promptVersion := request.promptVersion
          requestedBy := some request.requestedBy
          serviceId := request.serviceId
          customerId := request.customerId
          requestedProvider := request.requestedProvider
          requestedModel := request.requestedModel
          inputs := request.inputs } with
      | .ok answer => some answer.toExecutionAuthorizationResult
      | .error _ => none

/-- `_direct_execution_importance`: a validated request has an importance of its own, so that neither that of the
prompt nor the priority is read. -/
def directExecutionImportance (request : TaskExecutionRequest) : Importance := request.queue.importance

/-- The provider of the request. -/
def requestedProviderKey (request : TaskExecutionRequest) : String :=
  (optStr request.requestedProvider).normalizeLower

/-- `_direct_execution_effective_routing_mode`. -/
def directExecutionEffectiveRoutingMode (request : TaskExecutionRequest)
    (authorization : Option ExecutionAuthorizationResult) : Option RoutingMode :=
  let prompt := authorization.elim (none, false) promptRoutingMode
  let merged := mergeRoutingPolicyModes prompt.1 (routingPolicyMode request.constraints)
  if prompt.2 || merged.2 then none else merged.1

/-! ## Capabilities -/

/-- `_provider_capability_has_task`. -/
def providerCapabilityHasTask (providerCapabilities : Dict) (providerId taskFamily : String) : Bool :=
  let providerKey := stripLower providerId
  let taskKey := strip taskFamily
  if providerKey = "" ∨ taskKey = "" then false
  else
    match providerCapabilities.get providerKey with
    | .dict payload =>
      match (Dict.get payload "enabled_task_capabilities").orElse (Dict.get payload "resolved_tasks") with
      | .list resolved => (resolved.map Value.normalizeString).contains taskKey
      | _ => false
    | _ => false

/-- `_direct_execution_task_capability_queue`. -/
def directExecutionTaskCapabilityQueue (env : QueueEnv) (request : TaskExecutionRequest) : Option QueueKey :=
  let taskFamily := strip request.taskFamily
  if taskFamily = "" then none
  else
    let localHasTask := providerCapabilityHasTask env.providerCapabilities "local" taskFamily
    let cloudHasTask := (env.providerCapabilities.filter fun entry => stripLower entry.1 ≠ "local").any fun entry =>
      providerCapabilityHasTask env.providerCapabilities entry.1 taskFamily
    if localHasTask && !cloudHasTask then some .localNode
    else if cloudHasTask && !localHasTask then some .cloud
    else none

/-- The side that a routing mode asks for; the modes that prefer a side give way to a capability of the other. -/
def queueOfMode (capabilityQueue : Option QueueKey) : Option RoutingMode → Option QueueKey
  | some .localOnly => some .localNode
  | some .localPreferred => some (if capabilityQueue = some .cloud then .cloud else .localNode)
  | some .cloudOnly => some .cloud
  | some .cloudFallback => some (if capabilityQueue = some .localNode then .localNode else .cloud)
  | none => none

/-- The queue that the routing modes ask for, first the merged one, or else the capabilities. -/
def askedQueue (capabilityQueue : Option QueueKey) (modes : List (Option RoutingMode)) : Option QueueKey :=
  match modes with
  | [] => capabilityQueue
  | mode :: modes => (queueOfMode capabilityQueue mode).or (askedQueue capabilityQueue modes)

/-- `_direct_execution_queue_kind`. -/
def directExecutionQueueKind (env : QueueEnv) (request : TaskExecutionRequest)
    (authorization : Option ExecutionAuthorizationResult) (routingMode : Option RoutingMode) : QueueKey :=
  let requestedProvider := requestedProviderKey request
  if requestedProvider = "local" then .localNode
  else if requestedProvider ≠ "" then .cloud
  else
    let promptConstraints := authorization.elim [] fun authorization => authorization.promptConstraints.asDict
    let providerPreferences := authorization.elim [] fun authorization => authorization.providerPreferences.asDict
    let defaultProvider := (Dict.get providerPreferences "default_provider").normalizeLower
    (askedQueue (directExecutionTaskCapabilityQueue env request)
      [routingMode, routingPolicyMode request.constraints, routingPolicyMode promptConstraints]).getD
      (if defaultProvider = "local" then .localNode else .cloud)

/-- `_direct_execution_execution_routing_mode`. -/
def directExecutionExecutionRoutingMode (env : QueueEnv) (request : TaskExecutionRequest)
    (routingMode : Option RoutingMode) (queueKey : QueueKey) (spillover : Bool) : Option RoutingMode :=
  let capabilityQueue := directExecutionTaskCapabilityQueue env request
  if spillover then some .cloudOnly
  else if queueKey = .visualCpu ∨ queueKey = .visualGpu then some .localOnly
  else if capabilityQueue = some .localNode ∧ queueKey = .localNode ∧
      (routingMode = none ∨ routingMode = some .cloudFallback) then some .localOnly
  else if capabilityQueue = some .cloud ∧ queueKey = .cloud ∧
      (routingMode = none ∨ routingMode = some .localPreferred) then some .cloudOnly
  else routingMode

/-- `_direct_execution_queue_reason`. -/
def directExecutionQueueReason (env : QueueEnv) (request : TaskExecutionRequest)
    (routingMode : Option RoutingMode) (queueKey : QueueKey) : String :=
  let effectiveQueue := if queueKey = .visualGpu ∨ queueKey = .visualCpu then QueueKey.localNode else queueKey
  if requestedProviderKey request ≠ "" then "explicit_provider"
  else if directExecutionTaskCapabilityQueue env request = some effectiveQueue ∧
      routingMode ∈ [none, some .localPreferred, some .cloudFallback] then
    "task_capability_" ++ queueKey.text
  else
    match routingMode with
    | some mode => "routing_policy_" ++ mode.text
    | none => if queueKey = .localNode then "provider_default_local" else "provider_default_cloud"

/-! ## Small images -/

/-- `round(n / 8.0)`: halves go to the even neighbour. -/
def roundEighth (n : ℤ) : ℤ := if n % 8 < 4 ∨ n % 8 = 4 ∧ n / 8 % 2 = 0 then n / 8 else n / 8 + 1

/-- `_direct_visual_runtime_dimension`. -/
def directVisualRuntimeDimension (value : Value) (fieldName : String) : Except Exc (Option ℤ) :=
  if value.isNull then .ok none
  else
    match value.toInt with
    | .error e =>
      if e.cls = .typeError ∨ e.isValueError then
        .error ⟨.valueError, "image_generation_" ++ fieldName ++ "_invalid"⟩
      else .error e
    | .ok parsed =>
      if parsed < 256 ∨ 4096 < parsed then
        .error ⟨.valueError, "image_generation_" ++ fieldName ++ "_out_of_range"⟩
      else .ok (some (max 256 (min 4096 (roundEighth parsed * 8))))

/-- `size.partition("x")`, when there is an `x`. -/
def sizeParts (size : String) : Option (String × String) :=
  match size.toList.span (· != 'x') with
  | (_, []) => none
  | (width, _ :: height) => some (String.ofList width, String.ofList height)

/-- A dimension that is missing is read from its part of the size. -/
def sizeSide (given : Value) (part : String) : Except Exc Value :=
  if given.isNull then
    match parseInt part with
    | some i => .ok (.int i)
    | none => .error ⟨.valueError, "image_generation_size_invalid"⟩
  else .ok given

/-- `_direct_visual_runtime_dimensions`. -/
def directVisualRuntimeDimensions (inputs : Dict) : Except Exc (Option ℤ × Option ℤ) := do
  let width := inputs.get "width"
  let height := inputs.get "height"
  let (width, height) ←
    if width.isNull || height.isNull then
      match sizeParts (inputs.get "size").normalizeLower with
      | none => .ok (width, height)
      | some (widthPart, heightPart) => do
        let width ← sizeSide width widthPart
        let height ← sizeSide height heightPart
        .ok (width, height)
    else .ok (width, height)
  let width ← directVisualRuntimeDimension (if width.isNull then inputs.get "target_width" else width) "width"
  let height ← directVisualRuntimeDimension (if height.isNull then inputs.get "target_height" else height) "height"
  .ok (width, height)

/-- The result of `_cpu_comfyui_queue_policy`. -/
structure CpuComfyuiPolicy where
  selected : Bool
  taskFamily : String
  importance : Importance
  maxPixels : ℤ
  requestedPixels : Option ℤ
  withinPixelBudget : Bool
  templateRuntime : String
  explicitTemplateId : String
  fixedTemplateRuntime : Bool
  builtinTemplate : Bool
  reason : String

/-- The policy as it is reported. -/
def CpuComfyuiPolicy.toValue (policy : CpuComfyuiPolicy) : Value :=
  .dict [("selected", .bool policy.selected), ("runtime_id", .str "comfyui_cpu"), ("queue", .str "visual_cpu"),
    ("task_family", if policy.taskFamily = "" then .null else .str policy.taskFamily),
    ("importance", .str policy.importance.text),
    ("allowed_importance", .list [.str "background", .str "low"]), ("max_pixels", .int policy.maxPixels),
    ("requested_pixels", policy.requestedPixels.elim .null .int),
    ("within_pixel_budget", .bool policy.withinPixelBudget), ("template_runtime", .str policy.templateRuntime),
    ("explicit_template_id", if policy.explicitTemplateId = "" then .null else .str policy.explicitTemplateId),
    ("fixed_template_runtime", .bool policy.fixedTemplateRuntime),
    ("builtin_template", .bool policy.builtinTemplate), ("reason", .str policy.reason)]

/-- The runtime of the template that the inputs name. -/
def explicitTemplateRuntime (env : QueueEnv) (templateId : String) : Except Exc String :=
  if templateId = "" then .ok ""
  else
    match env.getComfyuiTemplateCatalogEntry templateId with
    | .ok entry => .ok ((entry.get "template").asDict.get "runtime_id").normalizeLower
    | .error e => if e.isValueError then .ok "" else .error e

/-- `_cpu_comfyui_queue_policy`. -/
def cpuComfyuiQueuePolicy (env : QueueEnv) (request : TaskExecutionRequest) (importance : Importance) :
    Except Exc CpuComfyuiPolicy := do
  let priorityAllowed := importance = .background ∨ importance = .low
  let providerAllowed := requestedProviderKey request ∈ ["", "local", "comfyui", "comfyui_cpu"]
  let resolvedTemplate := (request.constraints.get "image_template_resolved").asDict
  let explicitTemplateId := (request.inputs.get "template_id").normalizeString
  let explicitRuntime ← explicitTemplateRuntime env explicitTemplateId
  let templateRuntime :=
    if explicitRuntime = "" then (resolvedTemplate.get "template_runtime").normalizeLower else explicitRuntime
  let fixedTemplateRuntime := templateRuntime = "comfyui_cpu" ∨ templateRuntime = "comfyui_gpu"
  let (width, height) ← directVisualRuntimeDimensions request.inputs
  let requestedPixels := width.bind fun width => height.map fun height => width * height
  let withinCpuPixelBudget := requestedPixels.all fun pixels => decide (pixels ≤ env.maxPixels)
  .ok
    { selected := isImageGeneration request ∧ providerAllowed ∧ (templateRuntime = "comfyui_cpu" ∨
        (¬fixedTemplateRuntime ∧ priorityAllowed ∧ withinCpuPixelBudget = true))
      taskFamily := stripLower request.taskFamily
      importance := importance
      maxPixels := env.maxPixels
      requestedPixels := requestedPixels
      withinPixelBudget := withinCpuPixelBudget
      templateRuntime := templateRuntime
      explicitTemplateId := explicitTemplateId
      fixedTemplateRuntime := fixedTemplateRuntime
      builtinTemplate := ¬fixedTemplateRuntime
      reason :=
        if ¬isImageGeneration request then "not_image_generation"
        else if ¬providerAllowed then "explicit_nonlocal_provider"
        else if templateRuntime = "comfyui_gpu" then "template_requires_gpu"
        else if ¬fixedTemplateRuntime ∧ ¬priorityAllowed then "priority_not_low_or_background"
        else if ¬fixedTemplateRuntime ∧ withinCpuPixelBudget = false then "image_dimensions_exceed_cpu_budget"
        else "eligible" }

/-! ## Leaving the local queue -/

/-- What a spillover decision returns; a missing entry is `None`. -/
structure SpilloverDecision where
  spillover : Bool := false
  spilloverAllowed : Bool := false
  reason : Option String := none
  localUnavailableReason : Option String := none
  cloudSelectedReason : Option String := none
  localWaitEstimate : Value := .null
  localPressure : Value := .null

/-- `_should_spill_local_wait_budget_to_cloud`. -/
def shouldSpillLocalWaitBudgetToCloud (env : QueueEnv) (request : TaskExecutionRequest) (queueIntent : QueueIntent)
    (queueKey : QueueKey) : Except Exc SpilloverDecision :=
  if queueKey ≠ .localNode then .ok { reason := some "not_local_queue" }
  else if queueIntent.allowCloudSpillover.getD false = false then .ok { reason := some "cloud_spillover_not_allowed" }
  else
    match queueIntent.maxWaitSeconds with
    | none => .ok { reason := some "no_wait_budget" }
    | some maxWaitSeconds => do
      let estimate ← env.queueStartEstimate
      let estimatedStart ← ((estimate.get "estimated_start_seconds").orElse (.int 0)).toInt
      if estimatedStart ≤ maxWaitSeconds then
        .ok { reason := some "local_wait_budget_feasible", localWaitEstimate := .dict estimate }
      else
        let available ← env.cloudExecutionQueueAvailable request
        if available then
          .ok
            { spillover := true
              localUnavailableReason := some "busy_until_after_deadline"
              cloudSelectedReason := some "cloud_can_meet_wait_budget"
              localWaitEstimate := .dict estimate }
        else
          .ok
            { reason := some "cloud_unavailable"
              localUnavailableReason := some "busy_until_after_deadline"
              localWaitEstimate := .dict estimate }

/-- `_local_preferred_spillover_decision`. -/
def localPreferredSpilloverDecision (env : QueueEnv) (request : TaskExecutionRequest) (importance : Importance)
    (routingMode : Option RoutingMode) (queueKey : QueueKey) : Except Exc SpilloverDecision :=
  if env.localPreferredSpilloverEnabled = false then .ok { reason := some "local_preferred_spillover_disabled" }
  else if queueKey ≠ .localNode ∨ routingMode ≠ some .localPreferred then
    .ok { reason := some "not_local_preferred_local_queue" }
  else if (optStr request.requestedProvider).normalizeString ≠ "" then .ok { reason := some "explicit_provider" }
  else if importance ≠ .critical ∧ importance ≠ .high then .ok { reason := some "importance_not_high_enough" }
  else do
    let pressure ← env.queuePressure
    let threshold := if importance = .critical then env.localPreferredSpilloverCriticalPending
      else env.localPreferredSpilloverHighPending
    let localPressure := Value.dict (pressure.set "threshold" (.int threshold))
    let pendingCount ← ((pressure.get "pending_count").orElse (.int 0)).toInt
    if pendingCount < threshold then
      .ok
        { spilloverAllowed := true
          reason := some "local_pressure_below_threshold"
          localPressure := localPressure }
    else
      let available ← env.cloudExecutionQueueAvailable request
      if available then
        .ok
          { spillover := true
            spilloverAllowed := true
            reason := some "local_preferred_spillover"
            localUnavailableReason := some "local_queue_pressure"
            cloudSelectedReason := some "high_importance_local_queue_pressure"
            localPressure := localPressure }
      else
        .ok
          { spilloverAllowed := true
            reason := some "cloud_unavailable"
            localUnavailableReason := some "local_queue_pressure"
            localPressure := localPressure }

/-! ## The context -/

/-- A mode as it is reported. -/
def modeValue (mode : Option RoutingMode) : Value := optStr (mode.map RoutingMode.text)

/-- The queue intent of a job in a lane of the visual runtime. -/
def intentFor (queueKey : QueueKey) (queueIntent : QueueIntent) : QueueIntent :=
  match queueKey with
  | .visualGpu => { queueIntent with runtimeLane := some .visualGpu }
  | .visualCpu => { queueIntent with runtimeLane := some .visualCpu }
  | _ => queueIntent

/-- The context of a request for the queue of the CPU. -/
def cpuContext (request : TaskExecutionRequest) (routingMode : Option RoutingMode) (policy : CpuComfyuiPolicy) :
    Runtime.QueueContext where
  queue := QueueKey.visualCpu.text
  routingMode := routingMode
  executionRoutingMode := some .localOnly
  importance := directExecutionImportance request
  queueIntent := intentFor .visualCpu request.queue
  routingDecision := some
    [("original_routing_mode", modeValue routingMode), ("execution_routing_mode", .str "local_only"),
      ("selected_queue", .str "visual_cpu"), ("original_queue", .str "local"), ("spillover", .bool false),
      ("reason", .str "visual_cpu_background_image_policy"), ("cpu_comfyui_policy", policy.toValue)]

/-- The context of a request for any other queue. -/
def queueContextFor (env : QueueEnv) (request : TaskExecutionRequest) (routingMode : Option RoutingMode)
    (policy : CpuComfyuiPolicy) (originalQueue queueKey : QueueKey) (reason : String) (decision : SpilloverDecision) :
    Runtime.QueueContext :=
  let executionRoutingMode :=
    directExecutionExecutionRoutingMode env request routingMode queueKey decision.spillover
  { queue := queueKey.text
    routingMode := routingMode
    executionRoutingMode := executionRoutingMode
    importance := directExecutionImportance request
    queueIntent := intentFor queueKey request.queue
    routingDecision := some
      [("original_routing_mode", modeValue routingMode), ("execution_routing_mode", modeValue executionRoutingMode),
        ("selected_queue", .str queueKey.text), ("original_queue", .str originalQueue.text),
        ("spillover", .bool decision.spillover), ("reason", .str reason),
        ("local_unavailable_reason", optStr decision.localUnavailableReason),
        ("cloud_selected_reason", optStr decision.cloudSelectedReason),
        ("local_wait_estimate", decision.localWaitEstimate), ("local_pressure", decision.localPressure),
        ("spillover_allowed", .bool decision.spilloverAllowed), ("cpu_comfyui_policy", policy.toValue)] }

/-- The queue of a request before any spillover: an image goes to the queue of the GPU. -/
def localQueueFor (request : TaskExecutionRequest) (originalQueue : QueueKey) : QueueKey :=
  if originalQueue = .localNode ∧ isImageGeneration request = true then .visualGpu else originalQueue

/-- `_direct_execution_queue_context`, with the authorization it begins with. -/
def directExecutionQueueContext (env : QueueEnv) (authorization : Option ExecutionAuthorizationResult)
    (request : TaskExecutionRequest) : Except Exc Runtime.QueueContext := do
  let importance := directExecutionImportance request
  let routingMode := directExecutionEffectiveRoutingMode request authorization
  let policy ← cpuComfyuiQueuePolicy env request importance
  if policy.selected then .ok (cpuContext request routingMode policy)
  else
    let originalQueue := directExecutionQueueKind env request authorization routingMode
    let queueKey := localQueueFor request originalQueue
    let waitBudgetSpillover ← shouldSpillLocalWaitBudgetToCloud env request request.queue queueKey
    let prioritySpillover ← localPreferredSpilloverDecision env request importance routingMode queueKey
    if waitBudgetSpillover.spillover then
      .ok (queueContextFor env request routingMode policy originalQueue .cloud "local_wait_budget_spillover"
        waitBudgetSpillover)
    else if prioritySpillover.spillover then
      .ok (queueContextFor env request routingMode policy originalQueue .cloud "local_preferred_spillover"
        prioritySpillover)
    else
      .ok (queueContextFor env request routingMode policy originalQueue queueKey
        (directExecutionQueueReason env request routingMode queueKey) waitBudgetSpillover)

/-! ## What the choice comes to -/

@[simp] theorem queue_cpuContext (request : TaskExecutionRequest) (mode : Option RoutingMode)
    (policy : CpuComfyuiPolicy) : (cpuContext request mode policy).queue = QueueKey.visualCpu.text := rfl

@[simp] theorem queue_queueContextFor (env : QueueEnv) (request : TaskExecutionRequest) (mode : Option RoutingMode)
    (policy : CpuComfyuiPolicy) (originalQueue queueKey : QueueKey) (reason : String) (decision : SpilloverDecision) :
    (queueContextFor env request mode policy originalQueue queueKey reason decision).queue = queueKey.text := rfl

section

variable {env : QueueEnv} {authorization : Option ExecutionAuthorizationResult} {request : TaskExecutionRequest}
  {context : Runtime.QueueContext} {queueKey : QueueKey} {mode : Option RoutingMode} {policy : CpuComfyuiPolicy}

/-- The wait budget only takes a request out of the local queue. -/
theorem waitBudget_of_ne_local (h : queueKey ≠ .localNode) :
    shouldSpillLocalWaitBudgetToCloud env request request.queue queueKey =
      .ok { reason := some "not_local_queue" } := if_pos h

/-- The importance only takes a request out of the local queue, and only one that prefers it. -/
theorem prioritySpillover_of_not (h : queueKey ≠ .localNode ∨ mode ≠ some .localPreferred) {importance : Importance} :
    ∃ decision, localPreferredSpilloverDecision env request importance mode queueKey = .ok decision ∧
      decision.spillover = false := by
  unfold localPreferredSpilloverDecision
  by_cases henabled : env.localPreferredSpilloverEnabled = false
  · rw [if_pos henabled]
    exact ⟨_, rfl, rfl⟩
  · rw [if_neg henabled, if_pos h]
    exact ⟨_, rfl, rfl⟩

/-- **The choice**, where it does not raise: the queue of the CPU, the cloud after a spillover, or the queue that the
request asks for. -/
theorem queueContext_cases (h : directExecutionQueueContext env authorization request = .ok context) :
    ∃ policy, cpuComfyuiQueuePolicy env request (directExecutionImportance request) = .ok policy ∧
    ((policy.selected = true ∧
        context = cpuContext request (directExecutionEffectiveRoutingMode request authorization) policy) ∨
      policy.selected = false ∧ ∃ originalQueue queueKey reason decision,
        context = queueContextFor env request (directExecutionEffectiveRoutingMode request authorization) policy
          originalQueue queueKey reason decision ∧
        originalQueue = directExecutionQueueKind env request authorization
          (directExecutionEffectiveRoutingMode request authorization) ∧
        (queueKey = .cloud ∧ decision.spillover = true ∨
          queueKey = localQueueFor request originalQueue ∧ decision.spillover = false)) := by
  obtain ⟨policy, hpolicy, h⟩ := bind_eq_ok.mp h
  refine ⟨policy, hpolicy, ?_⟩
  cases hselected : policy.selected with
  | true =>
    rw [if_pos hselected] at h
    exact Or.inl ⟨rfl, (Except.ok.inj h).symm⟩
  | false =>
    rw [if_neg (by rw [hselected]; exact Bool.false_ne_true)] at h
    obtain ⟨waitBudget, -, h⟩ := bind_eq_ok.mp h
    obtain ⟨priority, -, h⟩ := bind_eq_ok.mp h
    refine Or.inr ⟨rfl, ?_⟩
    split at h
    · next hspill => exact ⟨_, _, _, _, (Except.ok.inj h).symm, rfl, Or.inl ⟨rfl, hspill⟩⟩
    · next hspill =>
      split at h
      · next hprefer => exact ⟨_, _, _, _, (Except.ok.inj h).symm, rfl, Or.inl ⟨rfl, hprefer⟩⟩
      · exact ⟨_, _, _, _, (Except.ok.inj h).symm, rfl, Or.inr ⟨rfl, Bool.eq_false_of_not_eq_true hspill⟩⟩

/-- One of the two queues that a request can ask for. -/
def IsSide (q : QueueKey) : Prop := q = .localNode ∨ q = .cloud

theorem isSide_of_capability {q : QueueKey} (h : directExecutionTaskCapabilityQueue env request = some q) :
    IsSide q := by
  unfold directExecutionTaskCapabilityQueue at h
  dsimp only at h
  split at h
  · cases h
  · split at h
    · exact Or.inl (Option.some.inj h).symm
    · split at h
      · exact Or.inr (Option.some.inj h).symm
      · cases h

theorem isSide_of_mode {capabilityQueue : Option QueueKey} {q : QueueKey}
    (h : queueOfMode capabilityQueue mode = some q) : IsSide q := by
  rcases mode with _ | _ | _ | _ | _
  · cases h
  · exact Or.inl (Option.some.inj h).symm
  · rw [← Option.some.inj h]
    split
    · exact Or.inr rfl
    · exact Or.inl rfl
  · exact Or.inr (Option.some.inj h).symm
  · rw [← Option.some.inj h]
    split
    · exact Or.inl rfl
    · exact Or.inr rfl

theorem isSide_of_asked {capabilityQueue : Option QueueKey} {modes : List (Option RoutingMode)}
    (hcapability : ∀ q, capabilityQueue = some q → IsSide q) :
    ∀ q, askedQueue capabilityQueue modes = some q → IsSide q := by
  induction modes with
  | nil => exact hcapability
  | cons mode modes ih =>
    intro q hq
    rw [askedQueue] at hq
    rcases hmode : queueOfMode capabilityQueue mode with _ | q'
    · rw [hmode, Option.none_or] at hq
      exact ih q hq
    · rw [hmode, Option.some_or] at hq
      exact isSide_of_mode (hmode.trans hq)

/-- The queue that a request asks for is on one side. -/
theorem isSide_queueKind : IsSide (directExecutionQueueKind env request authorization mode) := by
  unfold directExecutionQueueKind
  dsimp only
  split
  · exact Or.inl rfl
  · split
    · exact Or.inr rfl
    · generalize hmodes : ([mode, routingPolicyMode request.constraints, _] : List (Option RoutingMode)) = modes
      rcases hasked : askedQueue (directExecutionTaskCapabilityQueue env request) modes with _ | q
      · rw [Option.getD_none]
        split
        · exact Or.inl rfl
        · exact Or.inr rfl
      · exact isSide_of_asked (fun _ => isSide_of_capability) q hasked

/-- **An image never goes to the queue `local`.** -/
theorem contextQueue_of_image (himage : isImageGeneration request = true)
    (h : directExecutionQueueContext env authorization request = .ok context) :
    ∃ q, context.queue = QueueKey.text q ∧ (q = .visualCpu ∨ q = .visualGpu ∨ q = .cloud) := by
  obtain ⟨policy, -, ⟨-, hcontext⟩ | ⟨-, originalQueue, queueKey, reason, decision, hcontext, horiginal, hqueue⟩⟩ :=
    queueContext_cases h
  · exact ⟨.visualCpu, by rw [hcontext, queue_cpuContext], Or.inl rfl⟩
  · refine ⟨queueKey, by rw [hcontext, queue_queueContextFor], Or.inr ?_⟩
    rcases hqueue with ⟨rfl, -⟩ | ⟨rfl, -⟩
    · exact Or.inr rfl
    · rw [localQueueFor]
      rcases (horiginal ▸ isSide_queueKind : IsSide originalQueue) with rfl | rfl
      · exact Or.inl (if_pos ⟨rfl, himage⟩)
      · exact Or.inr (if_neg fun hlocal => (nomatch hlocal.1))

end

end Runtime
end HexeAiNode
