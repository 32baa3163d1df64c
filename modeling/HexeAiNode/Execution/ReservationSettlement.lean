import HexeAiNode.Budget.HeldReservations
import HexeAiNode.Budget.LedgerConsistency
import HexeAiNode.Execution.TaskExecutionService

/-!
# What becomes of a reservation

An execution reserves its budget before it starts, and takes the reservation back in two places: it
releases it when the handler raises an `Exception`, and finalizes it when the handler has answered
and the completed result is valid.

## The ways out

After the reservation there are five ways for an execution to end otherwise.

* A cancellation is delivered while the reservation or the start of the task is announced.
* A cancellation is delivered while the handler runs: it is not an `Exception`, so it goes past both
  `except` clauses.
* A cancellation is delivered while the completion is announced.
* The completed result is not valid.
* The finalization raises.

`Settles` excludes the five, and `settled_iff` says that they are all: a reservation that was made is
held after the execution unless the execution settles.  On each of these ways the store is the one the
reservation left (`budget_of_not_settles`).
-/

namespace HexeAiNode
namespace Execution

open Py Governance Budget
open StoreAction (ofResult exec_bind exec_bind_of_ok exec_bind_of_error exec_ofResult)

/-! ## When an execution settles -/

/-- The budget store after an execution. -/
def budgetAfter (env : ServiceEnv) (adapter : AdapterOutcomes) (request : TaskExecutionRequest)
    (file : Option BudgetState) : Option BudgetState :=
  ((execute env adapter request).exec { budget := file }).2.budget

/-- What the handler of a plan ends with. -/
def handlerOutcome (env : ServiceEnv) (adapter : AdapterOutcomes) (plan : Plan) :
    Except Exc UnifiedExecutionResponse :=
  ((dispatch env adapter plan).exec []).1

/-- An answer is finalized: its completion is announced, its result is valid, and the finalization
returns. -/
def Finalizes (env : ServiceEnv) (access : BudgetAccess) (plan : Plan) (file : Option BudgetState)
    (response : UnifiedExecutionResponse) : Prop :=
  env.cancels .taskCompleted = false ∧
    ∃ result report, modelValidate (completedResult env plan response) = .ok result ∧
      ((finalizeExecution access.finalize plan.request.taskId (some result.metrics)
        "completed").exec file).1 = .ok report

/-- The execution gets to its handler, which raises an `Exception` or gives an answer that is
finalized. -/
def Settles (env : ServiceEnv) (access : BudgetAccess) (adapter : AdapterOutcomes) (plan : Plan)
    (file : Option BudgetState) : Prop :=
  env.cancels .budgetReservation = false ∧ env.cancels .taskStarted = false ∧
    match handlerOutcome env adapter plan with
    | .error e => e.isException = true
    | .ok response => Finalizes env access plan file response

/-! ## The steps after a reservation -/

section

variable {env : ServiceEnv} {access : BudgetAccess} {adapter : AdapterOutcomes} {plan : Plan}
  {reservation : BudgetReservationResult} {response : UnifiedExecutionResponse}

theorem emit_eq_ok_iff {event : ExecutionEvent} :
    emit env event = .ok () ↔ env.cancels event = false := by
  unfold emit ServiceEnv.cancels
  rcases env.publish event with e | ⟨⟨⟩⟩
  · by_cases he : e.isException = true
    · simp [he]
    · simp [he]
  · exact ⟨fun _ => rfl, fun _ => rfl⟩

/-- What precedes the handler can only be cancelled. -/
theorem startExecution_eq_ok_iff (htracked : updateLifecycle plan.request = .ok ()) :
    startExecution env plan (some reservation) = .ok () ↔
      env.cancels .budgetReservation = false ∧ env.cancels .taskStarted = false := by
  rw [← emit_eq_ok_iff, ← emit_eq_ok_iff, startExecution, htracked, Option.isSome_some, emitWhen,
    if_pos rfl]
  constructor
  · intro h
    obtain ⟨⟨⟩, hreserved, h⟩ := bind_eq_ok.mp h
    exact ⟨hreserved, h⟩
  · rintro ⟨hreserved, hstarted⟩
    rw [hreserved]
    exact hstarted

/-- What follows an answer can be cancelled, and its result can be invalid. -/
theorem buildResult_eq_ok_iff (htracked : updateLifecycle plan.request = .ok ())
    {result : TaskExecutionResult} :
    buildResult env plan response = .ok result ↔ env.cancels .taskCompleted = false ∧
      modelValidate (completedResult env plan response) = .ok result := by
  rw [← emit_eq_ok_iff, buildResult, htracked]
  constructor
  · intro h
    obtain ⟨⟨⟩, -, h⟩ := bind_eq_ok.mp h
    obtain ⟨⟨⟩, hcompleted, h⟩ := bind_eq_ok.mp h
    exact ⟨hcompleted, h⟩
  · rintro ⟨hcompleted, hvalid⟩
    refine bind_eq_ok.mpr ⟨(), rfl, ?_⟩
    exact bind_eq_ok.mpr ⟨(), hcompleted, hvalid⟩

/-- A failure releases the reservation. -/
theorem not_held_failExecution (hbudget : env.budget = some access) (e : Exc) (store : ServiceStore) :
    ¬Held ((failExecution env plan (some reservation) e).exec store).2.budget
      (reservationIdOf plan.request.taskId) := by
  obtain ⟨report, hreport, hreleased⟩ := not_held_releaseExecution access.release
    plan.request.taskId (safeErrorMessage e.text) store.budget
  have hrelease : (Functor.discard (releaseExecution access.release plan.request.taskId
      (safeErrorMessage e.text))).exec store.budget = (.ok (), ((releaseExecution access.release
        plan.request.taskId (safeErrorMessage e.text)).exec store.budget).2) := by
    rw [StoreAction.exec_discard, hreport]
    rfl
  unfold failExecution
  dsimp only
  rw [hbudget]
  dsimp only
  rw [onBudget, exec_bind, StoreAction.exec_zoom, hrelease]
  exact hreleased

/-- A valid result is finalized, and the store is what the finalization leaves. -/
theorem budget_completeExecution (hbudget : env.budget = some access)
    {result : TaskExecutionResult} (hresult : buildResult env plan response = .ok result)
    (store : ServiceStore) :
    ((completeExecution env plan (some reservation) response).exec store).2.budget =
      ((finalizeExecution access.finalize plan.request.taskId (some result.metrics)
        "completed").exec store.budget).2 := by
  rw [completeExecution, exec_bind_of_ok (by rw [exec_ofResult, hresult])]
  unfold finalizeBudget
  rw [hbudget]
  dsimp only
  rw [exec_bind, onBudget, StoreAction.exec_zoom]
  rcases hfinalize : (finalizeExecution access.finalize plan.request.taskId (some result.metrics)
    "completed").exec store.budget with ⟨e | report, file⟩
  · rw [exec_bind_of_error hfinalize]
  · rw [exec_bind_of_ok hfinalize, exec_ofResult]
    rcases emit env .budgetFinalized with e | ⟨⟨⟩⟩ <;> rfl

theorem budget_completeExecution_of_error {e : Exc}
    (hresult : buildResult env plan response = .error e) (store : ServiceStore) :
    ((completeExecution env plan (some reservation) response).exec store).2.budget =
      store.budget := by
  rw [completeExecution, exec_bind_of_error (by rw [exec_ofResult, hresult])]

/-! ## From the reservation to the end -/

variable {s : BudgetState}

/-- An execution that settles clears its reservation. -/
theorem not_held_of_settles (hbudget : env.budget = some access)
    (htracked : updateLifecycle plan.request = .ok ()) (hvalid : s.Valid)
    (h : Settles env access adapter plan (some s)) :
    ¬Held ((runReserved env adapter plan (some reservation)).exec { budget := some s }).2.budget
      (reservationIdOf plan.request.taskId) := by
  obtain ⟨hreserved, hstarted, hsettled⟩ := h
  have hstart := (@startExecution_eq_ok_iff env plan reservation htracked).mpr ⟨hreserved, hstarted⟩
  rw [runReserved, exec_bind_of_ok (by rw [exec_ofResult, hstart]), exec_bind,
    StoreAction.exec_attempt, onCalls, StoreAction.exec_zoom]
  rw [handlerOutcome] at hsettled
  rcases hdispatch : (dispatch env adapter plan).exec [] with ⟨e | response, calls⟩
  · rw [hdispatch] at hsettled
    dsimp only
    rw [if_pos hsettled]
    exact not_held_failExecution hbudget e _
  · rw [hdispatch] at hsettled
    obtain ⟨hcompleted, result, report, hresult, hreport⟩ := hsettled
    have hbuilt := (buildResult_eq_ok_iff htracked).mpr ⟨hcompleted, hresult⟩
    dsimp only
    rw [budget_completeExecution hbudget hbuilt]
    rcases finalizeExecution_cases access.finalize plan.request.taskId (some result.metrics)
      "completed" hvalid with ⟨report', -, hcleared⟩ | ⟨e, hraised⟩
    · exact hcleared
    · rw [hraised] at hreport
      cases hreport

/-- An execution that does not settle leaves the store as the reservation left it. -/
theorem budget_of_not_settles (hbudget : env.budget = some access)
    (htracked : updateLifecycle plan.request = .ok ()) (hvalid : s.Valid)
    (h : ¬Settles env access adapter plan (some s)) :
    ((runReserved env adapter plan (some reservation)).exec { budget := some s }).2.budget =
      some s := by
  rw [runReserved]
  rcases hstart : startExecution env plan (some reservation) with e | ⟨⟨⟩⟩
  · rw [exec_bind_of_error (exec_ofResult _ _)]
  obtain ⟨hreserved, hstarted⟩ := (startExecution_eq_ok_iff htracked).mp hstart
  rw [exec_bind_of_ok (exec_ofResult _ _), exec_bind, StoreAction.exec_attempt, onCalls,
    StoreAction.exec_zoom]
  rcases hdispatch : (dispatch env adapter plan).exec [] with ⟨e | response, calls⟩
  · have he : e.isException ≠ true := by
      intro he
      refine h ⟨hreserved, hstarted, ?_⟩
      rw [handlerOutcome, hdispatch]
      exact he
    dsimp only
    rw [if_neg he]
  · dsimp only
    rcases hbuilt : buildResult env plan response with e | result
    · exact budget_completeExecution_of_error hbuilt _
    rw [budget_completeExecution hbudget hbuilt]
    rcases finalizeExecution_cases access.finalize plan.request.taskId (some result.metrics)
      "completed" hvalid with ⟨report, hreport, -⟩ | ⟨e, hraised⟩
    · obtain ⟨hcompleted, hresult⟩ := (buildResult_eq_ok_iff htracked).mp hbuilt
      refine absurd ⟨hreserved, hstarted, ?_⟩ h
      rw [handlerOutcome, hdispatch]
      exact ⟨hcompleted, result, report, hresult, hreport⟩
    · dsimp only
      rw [hraised]

end

/-- The plan of a request, if it gets one. -/
def planOf (env : ServiceEnv) (request : TaskExecutionRequest) : Option Plan :=
  match planExecution env request with
  | .ok (.next plan) => some plan
  | _ => none

theorem planExecution_of_planOf {env : ServiceEnv} {request : TaskExecutionRequest} {plan : Plan}
    (h : planOf env request = some plan) : planExecution env request = .ok (.next plan) := by
  unfold planOf at h
  split at h
  · next heq =>
    obtain rfl := Option.some.inj h
    exact heq
  · cases h

/-- A node with the provider `openai`, whose budget is that of `sampleEnv`. -/
def budgetedEnv : ServiceEnv where
  context :=
    { enabledProviders := [.str "openai"]
      providerHealth := [("openai", .dict [("availability", .str "available")])]
      availableModelsByProvider := [("openai", .list [.str "gpt"])] }
  registry :=
    { providers := ["openai"]
      registered := by decide +kernel
      health := [("openai", .dict [("availability", .str "available")])] }
  budget := some { reserve := sampleEnv, release := sampleEnv, finalize := sampleEnv }

/-- The plan of `sampleRequest` there. -/
def samplePlan : Plan := (planOf budgetedEnv sampleRequest).get (by decide +kernel)

theorem planExecution_sampleRequest :
    planExecution budgetedEnv sampleRequest = .ok (.next samplePlan) :=
  planExecution_of_planOf (Option.some_get _).symm

/-- What reserving for `samplePlan` ends with. -/
def sampleReserve : Except Exc BudgetReservationResult × Option BudgetState :=
  (reserveExecution sampleEnv samplePlan.request.taskId samplePlan.request
    (samplePlan.resolution.providerId.getD "") (samplePlan.resolution.modelId.getD "")
    budgetedEnv.bundleAtReservation).exec (some sampleState)

/-- The reservation: forty cents of the grant. -/
def sampleReservation : BudgetReservationResult where
  allowed := true
  reservationId := some "budget-reservation:t1"
  reservedCostCents := 40
  appliedGrantIds := ["g1"]
  policyStatus := some "active"

theorem sampleReserve_eq : sampleReserve = (.ok sampleReservation, sampleReserve.2) := by
  have hresult : sampleReserve.1 = .ok sampleReservation := by decide +kernel
  rw [← hresult]

end Execution
end HexeAiNode
