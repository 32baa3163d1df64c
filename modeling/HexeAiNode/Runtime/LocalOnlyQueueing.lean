import HexeAiNode.Runtime.QueueContext

/-!
# Queueing a request that may not leave the node

The routing mode of a request is merged from its own, that of its prompt and that of its privacy class.  Of the two
ways out of the local queue only one looks at it: a request that allows a spillover leaves for the cloud when the
local queue is too long for its wait budget, whatever its routing mode.  And a request that names a provider goes to
the side of that provider.

`StaysLocal` says that the choice of a queue leaves a request on the node, also in what it writes into the request;
`local_only_kept_iff` says when it does, for a request with the mode `local_only`.
-/

namespace HexeAiNode
namespace Runtime

open Py Governance Execution Queue TaskExecutionRequest

variable {env : QueueEnv} {authorization : Option ExecutionAuthorizationResult} {request : TaskExecutionRequest}

/-! ## The law -/

/-- Whatever queue is chosen, the request stays on the node: neither the queue nor the routing mode of the execution
is that of the cloud, and the request that is queued still resolves to `local_only`. -/
def StaysLocal (env : QueueEnv) (authorization : Option ExecutionAuthorizationResult)
    (request : TaskExecutionRequest) : Prop :=
  ∀ context, directExecutionQueueContext env authorization request = .ok context →
    context.queue ≠ "cloud" ∧ context.executionRoutingMode ≠ some .cloudOnly ∧
      ∀ rewritten, executionRequestForQueueContext request context.toQueueContext = .ok rewritten →
        directExecutionEffectiveRoutingMode rewritten authorization = some .localOnly

/-- The request allows a spillover, its wait budget is shorter than the estimate, and the cloud is available. -/
def BudgetSpills (env : QueueEnv) (request : TaskExecutionRequest) : Prop :=
  request.queue.allowCloudSpillover = some true ∧
    ∃ maxWaitSeconds estimate estimatedStart, request.queue.maxWaitSeconds = some maxWaitSeconds ∧
      env.queueStartEstimate = .ok estimate ∧
      ((Dict.get estimate "estimated_start_seconds").orElse (.int 0)).toInt = .ok estimatedStart ∧
      (maxWaitSeconds : ℤ) < estimatedStart ∧ env.cloudExecutionQueueAvailable request = .ok true

/-- The request is not one for the queue of the CPU, and it names a provider of the cloud, or it is no image and its
wait budget spills. -/
def LeavesNode (env : QueueEnv) (request : TaskExecutionRequest) : Prop :=
  (∃ policy, cpuComfyuiQueuePolicy env request (directExecutionImportance request) = .ok policy ∧
    policy.selected = false) ∧
  (requestedProviderKey request ∉ ["", "local"] ∨ isImageGeneration request = false ∧ BudgetSpills env request)

/-! ## The ways out -/

/-- **The wait budget** takes a request out of the local queue exactly if it spills. -/
theorem waitBudget_spills_iff : (∃ decision, shouldSpillLocalWaitBudgetToCloud env request request.queue .localNode =
    .ok decision ∧ decision.spillover = true) ↔ BudgetSpills env request := by
  unfold shouldSpillLocalWaitBudgetToCloud BudgetSpills
  rw [if_neg (not_not.mpr rfl)]
  rcases hallow : request.queue.allowCloudSpillover with _ | _ | _
  · simp
  · simp
  rcases hwait : request.queue.maxWaitSeconds with _ | maxWaitSeconds
  · simp
  rcases hestimate : env.queueStartEstimate with e | estimate
  · simp [bind, Except.bind]
  rcases hstart : ((Dict.get estimate "estimated_start_seconds").orElse (.int 0)).toInt with e | estimatedStart
  · simp [bind, Except.bind, hstart]
  by_cases hfeasible : estimatedStart ≤ maxWaitSeconds
  · simp [bind, Except.bind, hstart, hfeasible]
  · rcases havailable : env.cloudExecutionQueueAvailable request with e | _ | _
    · simp [bind, Except.bind, hstart, hfeasible]
    · simp [bind, Except.bind, hstart, hfeasible]
    · simp [bind, Except.bind, hstart, hfeasible]
      omega

/-- A request with the mode `local_only` asks for the local queue unless it names a provider of the cloud. -/
theorem queueKind_of_localOnly : directExecutionQueueKind env request authorization (some .localOnly) =
    if requestedProviderKey request ∈ ["", "local"] then .localNode else .cloud := by
  unfold directExecutionQueueKind
  dsimp only
  by_cases hlocal : requestedProviderKey request = "local"
  · simp [hlocal]
  · by_cases hblank : requestedProviderKey request = ""
    · simp [hblank, askedQueue, queueOfMode]
    · simp [hlocal, hblank]

/-- What a request in the local queue keeps of its mode. -/
theorem executionRoutingMode_of_localOnly {queueKey : QueueKey} :
    directExecutionExecutionRoutingMode env request (some .localOnly) queueKey false = some .localOnly := by
  unfold directExecutionExecutionRoutingMode
  by_cases hvisual : queueKey = .visualCpu ∨ queueKey = .visualGpu <;> simp [hvisual]

/-- A request that is queued with its own mode resolves to it. -/
theorem effectiveRoutingMode_of_rewritten {context : QueueContext} {rewritten : TaskExecutionRequest}
    (hmode : context.executionRoutingMode = context.routingMode)
    (h : executionRequestForQueueContext request context.toQueueContext = .ok rewritten) :
    directExecutionEffectiveRoutingMode rewritten authorization =
      directExecutionEffectiveRoutingMode request authorization := by
  obtain ⟨lane, -, hcopy⟩ := inLane_eq (visualLane (stripLower context.queue)) request
  have hrewritten : rewritten = request.inLane (visualLane (stripLower context.queue)) := by
    unfold executionRequestForQueueContext at h
    dsimp only at h
    rw [hmode] at h
    split at h
    · exact (pure_eq_ok.mp h).symm
    · next mode heq =>
      rw [if_pos heq] at h
      exact (pure_eq_ok.mp h).symm
  rw [hrewritten, hcopy]
  rfl

/-! ## When a request stays -/

section

variable (hlocal : directExecutionEffectiveRoutingMode request authorization = some .localOnly)
include hlocal

/-- A request for the queue of the CPU stays. -/
theorem staysLocal_of_selected {policy : CpuComfyuiPolicy}
    (hpolicy : cpuComfyuiQueuePolicy env request (directExecutionImportance request) = .ok policy)
    (hselected : policy.selected = true) : StaysLocal env authorization request := by
  intro context h
  obtain ⟨policy', hpolicy', ⟨-, hcontext⟩ | ⟨hnot, -⟩⟩ := queueContext_cases h
  · have hmode : context.executionRoutingMode = context.routingMode := by
      rw [hcontext, hlocal]
      rfl
    have hqueue : context.queue = "visual_cpu" := by rw [hcontext, queue_cpuContext]; rfl
    have hexecution : context.executionRoutingMode = some .localOnly := by rw [hcontext]; rfl
    refine ⟨by rw [hqueue]; decide, by rw [hexecution]; decide, fun rewritten hrewritten => ?_⟩
    rw [effectiveRoutingMode_of_rewritten hmode hrewritten, hlocal]
  · rw [hpolicy] at hpolicy'
    rw [← Except.ok.inj hpolicy', hselected] at hnot
    cases hnot

/-- Any other request is sent where its provider is, unless its wait budget spills. -/
theorem queueContext_of_localOnly {policy : CpuComfyuiPolicy} {queueKey : QueueKey}
    (hpolicy : cpuComfyuiQueuePolicy env request (directExecutionImportance request) = .ok policy)
    (hselected : policy.selected = false) (hqueue : queueKey = localQueueFor request
      (directExecutionQueueKind env request authorization (some .localOnly))) :
    ∃ reason, directExecutionQueueContext env authorization request =
      (fun decision => queueContextFor env request (some .localOnly) policy
        (directExecutionQueueKind env request authorization (some .localOnly))
        (if decision.spillover then .cloud else queueKey)
        (if decision.spillover then "local_wait_budget_spillover" else reason) decision) <$>
        shouldSpillLocalWaitBudgetToCloud env request request.queue queueKey := by
  have hpriority : ∃ decision, localPreferredSpilloverDecision env request (directExecutionImportance request)
      (some .localOnly) queueKey = .ok decision ∧ decision.spillover = false :=
    prioritySpillover_of_not (Or.inr (by decide))
  obtain ⟨priority, hpriority, hstays⟩ := hpriority
  refine ⟨directExecutionQueueReason env request (some .localOnly) queueKey, ?_⟩
  unfold directExecutionQueueContext
  dsimp only
  rw [hlocal, hpolicy, ← hqueue]
  simp only [bind, Except.bind, Functor.map, Except.map, hselected, Bool.false_eq_true, if_false]
  rcases shouldSpillLocalWaitBudgetToCloud env request request.queue queueKey with e | decision
  · rfl
  · rw [hpriority]
    dsimp only
    rw [hstays]
    cases hspill : decision.spillover with
    | true => simp only [if_true]
    | false => simp only [Bool.false_eq_true, if_false]

end

/-- A request that is left in a queue of the node stays. -/
theorem staysLocal_queueContextFor {policy : CpuComfyuiPolicy} {originalQueue queueKey : QueueKey} {reason : String}
    {decision : SpilloverDecision} {context : QueueContext}
    (hlocal : directExecutionEffectiveRoutingMode request authorization = some .localOnly)
    (hqueue : queueKey = .localNode ∨ queueKey = .visualGpu) (hstays : decision.spillover = false)
    (hcontext : context =
      queueContextFor env request (some .localOnly) policy originalQueue queueKey reason decision) :
    context.queue ≠ "cloud" ∧ context.executionRoutingMode ≠ some .cloudOnly ∧
      ∀ rewritten, executionRequestForQueueContext request context.toQueueContext = .ok rewritten →
        directExecutionEffectiveRoutingMode rewritten authorization = some .localOnly := by
  have htext : context.queue = queueKey.text := by rw [hcontext, queue_queueContextFor]
  have hexecution : context.executionRoutingMode = some .localOnly := by
    rw [hcontext]
    show directExecutionExecutionRoutingMode env request (some .localOnly) queueKey decision.spillover = _
    rw [hstays, executionRoutingMode_of_localOnly]
  have hmode : context.executionRoutingMode = context.routingMode := by
    rw [hexecution, hcontext]
    rfl
  refine ⟨?_, by rw [hexecution]; decide, fun rewritten hrewritten => ?_⟩
  · rw [htext]
    rcases hqueue with rfl | rfl <;> decide
  · rw [effectiveRoutingMode_of_rewritten hmode hrewritten, hlocal]

section

variable (hlocal : directExecutionEffectiveRoutingMode request authorization = some .localOnly)
  {policy : CpuComfyuiPolicy}
  (hpolicy : cpuComfyuiQueuePolicy env request (directExecutionImportance request) = .ok policy)
  (hselected : policy.selected = false)
include hlocal hpolicy hselected

/-- A request that names a provider of the cloud leaves. -/
theorem not_staysLocal_of_named (hprovider : requestedProviderKey request ∉ ["", "local"]) :
    ¬StaysLocal env authorization request := by
  obtain ⟨reason, hcontext⟩ := queueContext_of_localOnly hlocal hpolicy hselected rfl
  rw [queueKind_of_localOnly, if_neg hprovider, localQueueFor, if_neg (by simp),
    waitBudget_of_ne_local (by decide)] at hcontext
  intro hall
  exact (hall _ hcontext).1 rfl

variable (hprovider : requestedProviderKey request ∈ ["", "local"])
include hprovider

/-- An image stays in the queue of the GPU. -/
theorem staysLocal_of_image (himage : isImageGeneration request = true) : StaysLocal env authorization request := by
  obtain ⟨reason, hcontext⟩ := queueContext_of_localOnly hlocal hpolicy hselected rfl
  rw [queueKind_of_localOnly, if_pos hprovider, localQueueFor, if_pos ⟨rfl, himage⟩,
    waitBudget_of_ne_local (by decide)] at hcontext
  intro context h
  rw [hcontext] at h
  exact staysLocal_queueContextFor hlocal (Or.inr rfl) rfl (Except.ok.inj h).symm

/-- Any other request stays exactly if its wait budget does not spill. -/
theorem staysLocal_iff_of_not_image (himage : isImageGeneration request = false) :
    StaysLocal env authorization request ↔ ¬BudgetSpills env request := by
  obtain ⟨reason, hcontext⟩ := queueContext_of_localOnly hlocal hpolicy hselected rfl
  rw [queueKind_of_localOnly, if_pos hprovider, localQueueFor, if_neg (by simp [himage])] at hcontext
  rw [← waitBudget_spills_iff, StaysLocal, hcontext]
  rcases shouldSpillLocalWaitBudgetToCloud env request request.queue .localNode with e | decision
  · refine iff_of_true (fun _ h => ?_) ?_
    · cases h
    · rintro ⟨_, hok, -⟩
      cases hok
  · cases hspill : decision.spillover with
    | true =>
      refine iff_of_false (fun hall => (hall _ rfl).1 ?_) (not_not.mpr ⟨decision, rfl, hspill⟩)
      rw [queue_queueContextFor, hspill]
      rfl
    | false =>
      refine iff_of_true (fun context h => ?_) ?_
      · have heq := (Except.ok.inj h).symm
        simp only [hspill, Bool.false_eq_true, if_false] at heq
        exact staysLocal_queueContextFor hlocal (Or.inl rfl) hspill heq
      · rintro ⟨_, hok, hyes⟩
        rw [← Except.ok.inj hok, hspill] at hyes
        cases hyes

end

/-- **A request that may not leave the node stays there** unless it is sent away: by the provider that it names, or
by its wait budget. -/
theorem local_only_kept_iff (env : QueueEnv) (authorization : Option ExecutionAuthorizationResult)
    (request : TaskExecutionRequest)
    (hlocal : directExecutionEffectiveRoutingMode request authorization = some .localOnly) :
    StaysLocal env authorization request ↔ ¬LeavesNode env request := by
  rcases hpolicy : cpuComfyuiQueuePolicy env request (directExecutionImportance request) with e | policy
  · -- without a policy there is no context
    refine iff_of_true (fun context h => ?_) fun ⟨⟨policy, hok, _⟩, _⟩ => ?_
    · obtain ⟨policy, hok, -⟩ := queueContext_cases h
      rw [hpolicy] at hok
      cases hok
    · rw [hpolicy] at hok
      cases hok
  cases hselected : policy.selected with
  | true =>
    refine iff_of_true (staysLocal_of_selected hlocal hpolicy hselected) fun ⟨⟨policy', hok, hnot⟩, _⟩ => ?_
    rw [hpolicy] at hok
    rw [← Except.ok.inj hok, hselected] at hnot
    cases hnot
  | false =>
    have hleaves : LeavesNode env request ↔ requestedProviderKey request ∉ ["", "local"] ∨
        isImageGeneration request = false ∧ BudgetSpills env request :=
      ⟨And.right, fun hways => ⟨⟨policy, hpolicy, hselected⟩, hways⟩⟩
    rw [hleaves]
    by_cases hprovider : requestedProviderKey request ∈ ["", "local"]
    · cases himage : isImageGeneration request with
      | true =>
        exact iff_of_true (staysLocal_of_image hlocal hpolicy hselected hprovider himage) (by simp [hprovider])
      | false =>
        rw [staysLocal_iff_of_not_image hlocal hpolicy hselected hprovider himage]
        simp [hprovider]
    · exact iff_of_false (not_staysLocal_of_named hlocal hpolicy hselected hprovider)
        (not_not.mpr (Or.inl hprovider))

/-! ## A long local queue -/

/-- A node with a local queue of five minutes and an available cloud. -/
def busyEnv : QueueEnv where
  queueStartEstimate := .ok [("estimated_start_seconds", .int 300)]
  cloudExecutionQueueAvailable := fun _ => .ok true

/-- A request that may not leave the node, and that may wait for a minute. -/
def privateRequest (allowCloudSpillover : Bool) : TaskExecutionRequest where
  taskId := "task-1"
  taskFamily := "task.classification"
  requestedBy := "client-1"
  constraints := [("routing_policy", .dict [("mode", .str "local_only")])]
  queue := { maxWaitSeconds := some 60, allowCloudSpillover := some allowCloudSpillover }
  traceId := "trace-1"

/-- The request is sent to the cloud, and what is queued resolves to `cloud_only`. -/
theorem spillover_ignores_local_only :
    directExecutionEffectiveRoutingMode (privateRequest true) none = some .localOnly ∧
      ¬StaysLocal busyEnv none (privateRequest true) := by
  refine ⟨by decide, fun hall => ?_⟩
  have hqueue : (directExecutionQueueContext busyEnv none (privateRequest true)).map (fun context => context.queue) =
      .ok "cloud" := rfl
  rcases hcontext : directExecutionQueueContext busyEnv none (privateRequest true) with e | context
  · rw [hcontext] at hqueue
    cases hqueue
  · rw [hcontext] at hqueue
    exact (hall context hcontext).1 (Except.ok.inj hqueue)

/-- A request that allows no spillover stays. -/
theorem private_request_kept : StaysLocal busyEnv none (privateRequest false) ↔
    ¬LeavesNode busyEnv (privateRequest false) :=
  local_only_kept_iff busyEnv none (privateRequest false) (by decide)

end Runtime
end HexeAiNode
