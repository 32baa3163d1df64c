import HexeAiNode.Execution.AssistantReasoning

/-!
# Requests of queued jobs, written and read again

The request of a queued job is written to the state file with the job and validated again when a start
rebuilds the runner of the job.  `TaskExecutionRequest.reloadedFields` is what is read back, `recoveryRunner`
what `_execution_queue_recovery_runner` makes of it.

`modelValidate_reloadedFields` says that a well-formed request that `StaysValid` is validated as what was
written, and `recovers_unchanged_iff` for which requests the runner is rebuilt for an equal request:
`Recoverable`.
-/

namespace HexeAiNode
namespace Execution

open Py Governance

namespace TaskExecutionRequest

variable {now : ℤ} {request : TaskExecutionRequest}

/-! ## The rewriting before a request is queued -/

/-- The parts of `queue_context` that the rewriting reads. -/
structure QueueContext where
  queue : String
  routingMode : Option RoutingMode
  executionRoutingMode : Option RoutingMode

/-- The lane of a queue of the visual runtime. -/
def visualLane (queueKey : String) : Option RuntimeLane :=
  if queueKey = "visual_gpu" then some .visualGpu
  else if queueKey = "visual_cpu" then some .visualCpu
  else none

/-- The copy of the request in a lane. -/
def inLane (lane : Option RuntimeLane) (request : TaskExecutionRequest) : TaskExecutionRequest :=
  match lane with
  | some lane => { request with queue := { request.queue with runtimeLane := some lane } }
  | none => request

/-- The copy of the request with a routing mode among its constraints. -/
def withRoutingMode (mode : RoutingMode) (request : TaskExecutionRequest) : Except Exc TaskExecutionRequest := do
  let routingPolicy ← (request.constraints.get "routing_policy").toDict
  pure { request with
    constraints := request.constraints.set "routing_policy"
      (.dict (routingPolicy.set "mode" (.str mode.text))) }

/-- `_execution_request_for_queue_context`. -/
def executionRequestForQueueContext (request : TaskExecutionRequest) (queueContext : QueueContext) :
    Except Exc TaskExecutionRequest :=
  let requestCopy := request.inLane (visualLane (stripLower queueContext.queue))
  match queueContext.executionRoutingMode with
  | none => pure requestCopy
  | some mode =>
    if queueContext.routingMode = some mode then pure requestCopy else requestCopy.withRoutingMode mode

theorem inLane_eq (lane : Option RuntimeLane) (request : TaskExecutionRequest) :
    ∃ lane', (request.queue.runtimeLane.isSome → lane'.isSome) ∧
      request.inLane lane = { request with queue := { request.queue with runtimeLane := lane' } } := by
  rcases lane with _ | lane
  · exact ⟨request.queue.runtimeLane, id, rfl⟩
  · exact ⟨some lane, fun _ => rfl, rfl⟩

/-- The rewriting changes the lane and the constraints at most. -/
theorem executionRequestForQueueContext_eq_ok {queueContext : QueueContext} {rewritten : TaskExecutionRequest}
    (h : executionRequestForQueueContext request queueContext = .ok rewritten) :
    ∃ lane constraints, (request.queue.runtimeLane.isSome → lane.isSome) ∧ rewritten =
      { request with constraints := constraints, queue := { request.queue with runtimeLane := lane } } := by
  unfold executionRequestForQueueContext at h
  dsimp only at h
  obtain ⟨lane, hlane, hcopy⟩ := inLane_eq (visualLane (stripLower queueContext.queue)) request
  rw [hcopy] at h
  split at h
  · exact ⟨lane, request.constraints, hlane, (pure_eq_ok.mp h).symm⟩
  · split at h
    · exact ⟨lane, request.constraints, hlane, (pure_eq_ok.mp h).symm⟩
    · obtain ⟨routingPolicy, -, h⟩ := bind_eq_ok.mp h
      exact ⟨lane, _, hlane, (pure_eq_ok.mp h).symm⟩

/-- A well-formed request stays well-formed under other inputs, other constraints and another lane. -/
theorem WellFormed.rewrite (h : request.WellFormed) (inputs constraints : Dict) {lane : Option RuntimeLane}
    (hlane : lane.isSome) :
    WellFormed { request with
      inputs := inputs, constraints := constraints, queue := { request.queue with runtimeLane := lane } } where
  taskId := h.taskId
  idempotencyKey := h.idempotencyKey
  promptId := h.promptId
  promptVersion := h.promptVersion
  taskFamily := h.taskFamily
  requestedBy := h.requestedBy
  serviceId := h.serviceId
  customerId := h.customerId
  requestedProvider := h.requestedProvider
  requestedModel := h.requestedModel
  queue := ⟨h.queue.importance, h.queue.priority, h.queue.queueClass, h.queue.maxWaitSeconds,
    h.queue.routingPolicy, h.queue.localPreferred, hlane, h.queue.reason⟩
  jobName := h.jobName
  timeoutS := h.timeoutS
  traceId := h.traceId
  leaseId := h.leaseId

/-- A request that is queued: validated, its inputs and constraints possibly replaced by those of an image
template, and rewritten for its queue.  Its inputs and constraints are dictionaries. -/
structure Queued (request : TaskExecutionRequest) : Prop where
  rewritten : ∃ now fields accepted inputs constraints queueContext,
    modelValidate now fields = .ok accepted ∧
      executionRequestForQueueContext { accepted with inputs := inputs, constraints := constraints }
        queueContext = .ok request
  inputs : (Value.dict request.inputs).Keyed
  constraints : (Value.dict request.constraints).Keyed

theorem Queued.wellFormed (h : request.Queued) : request.WellFormed := by
  obtain ⟨now, fields, accepted, inputs, constraints, queueContext, hvalid, hrewrite⟩ := h.rewritten
  have hwf := modelValidate_wellFormed hvalid
  obtain ⟨lane, constraints', hlane, rfl⟩ := executionRequestForQueueContext_eq_ok hrewrite
  exact hwf.rewrite inputs constraints' (hlane hwf.queue.runtimeLane)

/-! ## Reading the request back -/

/-- The fields of the dump of the request, read from the state file. -/
def reloadedFields (request : TaskExecutionRequest) : TaskExecutionFields where
  taskId := request.taskId
  idempotencyKey := request.idempotencyKey
  promptId := request.promptId
  promptVersion := request.promptVersion
  taskFamily := request.taskFamily
  requestedBy := request.requestedBy
  serviceId := request.serviceId
  customerId := request.customerId
  requestedProvider := request.requestedProvider
  requestedModel := request.requestedModel
  inputs := request.inputs.reloaded
  constraints := request.constraints.reloaded
  priority := request.priority
  queue := request.queue.modelDump
  responseMode := request.responseMode
  jobName := request.jobName
  timeoutS := request.timeoutS
  traceId := request.traceId
  leaseId := request.leaseId

/-- The request with the dictionaries that are read back. -/
def reloaded (request : TaskExecutionRequest) : TaskExecutionRequest :=
  { request with inputs := request.inputs.reloaded, constraints := request.constraints.reloaded }

/-- What validation may find wrong with a request that it has given: its deadline is over, or a text that it
has filled in or completed is longer than it accepts. -/
structure StaysValid (now : ℤ) (request : TaskExecutionRequest) : Prop where
  deadline : ∀ d ∈ request.queue.deadlineAt, now < d
  serviceId : ∀ s ∈ request.serviceId, s.length ≤ 128
  promptVersion : ∀ v ∈ request.promptVersion, v.length ≤ 128

/-- **A well-formed request is validated as what was written.** -/
theorem modelValidate_reloadedFields (h : request.WellFormed) (hvalid : request.StaysValid now) :
    modelValidate now request.reloadedFields = .ok request.reloaded := by
  obtain ⟨s, hservice, hname⟩ := h.serviceId
  refine modelValidate_eq_ok_iff.mpr ⟨request.reloaded, ?_, ?_⟩
  · exact {
      taskId := normalizedName_self_iff.mpr h.taskId
      idempotencyKey := optional_self fun s hs => normalizedName_self_iff.mpr (h.idempotencyKey s hs)
      promptId := optional_self fun s hs => normalizedName_self_iff.mpr (h.promptId s hs)
      promptVersion := optional_self fun v hv =>
        (validatePromptVersion_self_iff (h.promptVersion v hv)).mpr (hvalid.promptVersion v hv)
      taskFamily := validateTaskFamily_self h.taskFamily
      requestedBy := normalizedName_self_iff.mpr h.requestedBy
      serviceId := optional_self fun s' hs' => by
        have hshort := hvalid.serviceId s' hs'
        obtain rfl := Option.some.inj (hservice.symm.trans hs')
        exact normalizedName_self_iff.mpr ⟨hname.stripped, hname.nonempty, hshort⟩
      customerId := optional_self fun s hs => normalizedName_self_iff.mpr (h.customerId s hs)
      requestedProvider := optional_self fun s hs =>
        normalizedName_self_iff.mpr (h.requestedProvider s hs)
      requestedModel := optional_self fun s hs => normalizedName_self_iff.mpr (h.requestedModel s hs)
      queue := (QueueIntent.modelValidate_modelDump_iff h.queue.reason).mpr hvalid.deadline
      jobName := optional_self fun s hs => normalizedName_self_iff.mpr (h.jobName s hs)
      timeoutS := validateTimeoutS_self h.timeoutS
      traceId := normalizedName_self_iff.mpr h.traceId
      leaseId := optional_self fun s hs => normalizedName_self_iff.mpr (h.leaseId s hs)
      inputs := rfl
      constraints := rfl
      priority := rfl
      responseMode := rfl }
  · symm
    refine normalizeIdentityFields_of_settled ?_ (Option.isSome_iff_exists.mpr ⟨s, hservice⟩)
    exact ⟨h.queue.importance, h.queue.priority, h.queue.queueClass, h.queue.maxWaitSeconds,
      h.queue.routingPolicy, h.queue.localPreferred, h.queue.runtimeLane, h.queue.reason⟩

/-- A request that is validated again stays valid. -/
theorem staysValid_of_modelValidate {recovered : TaskExecutionRequest} (h : request.WellFormed)
    (hok : modelValidate now request.reloadedFields = .ok recovered) : request.StaysValid now := by
  obtain ⟨validated, hv, -⟩ := modelValidate_eq_ok_iff.mp hok
  refine ⟨fun d hd => ?_, fun s hs => ?_, fun v hversion => ?_⟩
  · obtain ⟨maxWait, -, hqueue⟩ := bind_eq_ok.mp hv.queue
    obtain ⟨deadline, hdeadline, -⟩ := bind_eq_ok.mp hqueue
    have hd : request.queue.modelDump.deadlineAt = some d := hd
    rw [show request.reloadedFields.queue = request.queue.modelDump from rfl, hd] at hdeadline
    have hdeadline : (validateDeadlineAt now d).map some = .ok deadline := hdeadline
    rcases hvalue : validateDeadlineAt now d with e | d'
    · rw [hvalue] at hdeadline
      cases hdeadline
    · obtain ⟨rfl, hlt⟩ := validateDeadlineAt_eq_ok hvalue
      exact hlt
  · have hname := hv.serviceId
    rw [show request.reloadedFields.serviceId = some s from hs] at hname
    have hname : (normalizedName "service_id" 128 s).map some = _ := hname
    obtain ⟨s', hservice, hstripped⟩ := h.serviceId
    obtain rfl := Option.some.inj (hs.symm.trans hservice)
    rcases hvalue : normalizedName "service_id" 128 s with e | t
    · rw [hvalue] at hname
      cases hname
    · obtain ⟨ht, hshort⟩ := normalizedName_eq_ok hvalue
      rw [hstripped.stripped] at ht
      exact ht ▸ hshort.short
  · have hvalidated := hv.promptVersion
    rw [show request.reloadedFields.promptVersion = some v from hversion] at hvalidated
    have hvalidated : (validatePromptVersion v).map some = _ := hvalidated
    have hversion := h.promptVersion v hversion
    rcases hvalue : validatePromptVersion v with e | w
    · rw [hvalue] at hvalidated
      cases hvalidated
    · obtain ⟨t, ht, hnormalized⟩ := bind_eq_ok.mp hvalue
      obtain ⟨htv, hshort⟩ := normalizedName_eq_ok ht
      rw [hversion.stripped] at htv
      exact htv ▸ hshort.short

/-! ## The runner -/

/-- A runner that a start rebuilds: the request it executes, and the contract it answers to, if there is
one. -/
structure RecoveryRunner where
  request : TaskExecutionRequest
  assistantRequest : Option AssistantReasoningRequest := none

/-- `_execution_queue_recovery_runner`, of the fields that are read from the `request` of a job. -/
def recoveryRunner (contracts : Contracts) (now : ℤ) (jobRequest : Option TaskExecutionFields) :
    Except Exc (Option RecoveryRunner) :=
  match jobRequest with
  | none => pure none
  | some fields => do
    let request ← modelValidate now fields
    match request.constraints.get "assistant_reasoning_contract" with
    | .dict contract => do
      let assistantRequest ← AssistantReasoningRequest.modelValidate contracts now contract
      pure (some { request := request, assistantRequest := some assistantRequest })
    | _ => pure (some { request := request })

/-- `a == b`: dictionaries are compared without regard to order. -/
structure Same (a b : TaskExecutionRequest) : Prop where
  fields : a = { b with inputs := a.inputs, constraints := a.constraints }
  inputs : (Value.dict a.inputs).same (.dict b.inputs) = true
  constraints : (Value.dict a.constraints).same (.dict b.constraints) = true

/-- The factory makes a runner for the request of a job. -/
def MakesRunner (contracts : Contracts) (now : ℤ) (request : TaskExecutionRequest) : Prop :=
  ∃ runner, recoveryRunner contracts now (some request.reloadedFields) = .ok (some runner)

/-- The factory makes a runner for an equal request. -/
def RebuildsRunner (contracts : Contracts) (now : ℤ) (request : TaskExecutionRequest) : Prop :=
  ∃ runner, recoveryRunner contracts now (some request.reloadedFields) = .ok (some runner) ∧
    runner.request.Same request

/-- The requests whose runner is rebuilt at a time: they stay valid, their numbers are finite, and a contract
among their constraints is one. -/
structure Recoverable (contracts : Contracts) (now : ℤ) (request : TaskExecutionRequest) : Prop where
  staysValid : request.StaysValid now
  inputs : (Value.dict request.inputs).IsFinite
  constraints : (Value.dict request.constraints).IsFinite
  contract : ∀ contract, request.constraints.reloaded.get "assistant_reasoning_contract" = .dict contract →
    ∃ assistantRequest, AssistantReasoningRequest.modelValidate contracts now contract = .ok assistantRequest

theorem same_reloaded_iff (h : request.Queued) : request.reloaded.Same request ↔
    (Value.dict request.inputs).IsFinite ∧ (Value.dict request.constraints).IsFinite := by
  rw [← Value.same_reloaded_iff h.inputs, ← Value.same_reloaded_iff h.constraints, Value.reloaded_dict,
    Value.reloaded_dict]
  exact ⟨fun hsame => ⟨hsame.inputs, hsame.constraints⟩, fun hsame => ⟨rfl, hsame.1, hsame.2⟩⟩

/-- The runner of a request that is validated again is one for that request. -/
theorem recoveryRunner_eq_ok {contracts : Contracts} {fields : TaskExecutionFields} {runner : RecoveryRunner}
    (h : recoveryRunner contracts now (some fields) = .ok (some runner)) :
    modelValidate now fields = .ok runner.request ∧
      ∀ contract, runner.request.constraints.get "assistant_reasoning_contract" = .dict contract →
        ∃ assistantRequest,
          AssistantReasoningRequest.modelValidate contracts now contract = .ok assistantRequest := by
  obtain ⟨recovered, hvalid, h⟩ := bind_eq_ok.mp h
  split at h
  · next contract hcontract =>
    obtain ⟨assistantRequest, hassistant, h⟩ := bind_eq_ok.mp h
    obtain rfl := Option.some.inj (pure_eq_ok.mp h)
    refine ⟨hvalid, fun contract' hcontract' => ⟨assistantRequest, ?_⟩⟩
    obtain rfl := Value.dict.inj (hcontract.symm.trans hcontract')
    exact hassistant
  · next hnone =>
    obtain rfl := Option.some.inj (pure_eq_ok.mp h)
    exact ⟨hvalid, fun contract hcontract => absurd hcontract (hnone contract)⟩

/-- **The runner is rebuilt for an equal request exactly when the request is recoverable.** -/
theorem rebuildsRunner_iff {contracts : Contracts} (h : request.Queued) :
    request.RebuildsRunner contracts now ↔ request.Recoverable contracts now := by
  constructor
  · rintro ⟨runner, hrunner, hsame⟩
    obtain ⟨hvalid, hcontract⟩ := recoveryRunner_eq_ok hrunner
    have hstays := staysValid_of_modelValidate h.wellFormed hvalid
    rw [modelValidate_reloadedFields h.wellFormed hstays] at hvalid
    rw [← Except.ok.inj hvalid] at hsame hcontract
    obtain ⟨hinputs, hconstraints⟩ := (same_reloaded_iff h).mp hsame
    exact ⟨hstays, hinputs, hconstraints, hcontract⟩
  · rintro ⟨hstays, hinputs, hconstraints, hcontract⟩
    have hsame := (same_reloaded_iff h).mpr ⟨hinputs, hconstraints⟩
    have hvalid := modelValidate_reloadedFields h.wellFormed hstays
    unfold RebuildsRunner recoveryRunner
    dsimp only
    rw [hvalid]
    show ∃ runner, (match request.constraints.reloaded.get "assistant_reasoning_contract" with
      | .dict contract => _
      | _ => _) = Except.ok (some runner) ∧ _
    split
    · next contract hdict =>
      obtain ⟨assistantRequest, hassistant⟩ := hcontract contract hdict
      rw [hassistant]
      exact ⟨_, rfl, hsame⟩
    · exact ⟨_, rfl, hsame⟩

end TaskExecutionRequest

end Execution
end HexeAiNode
