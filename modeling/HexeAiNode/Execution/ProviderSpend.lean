import HexeAiNode.Budget.BothLedgers
import HexeAiNode.Budget.ProviderLimit
import HexeAiNode.Execution.ReservationSettlement

/-!
# The provider that is charged

The budget of a provider is reserved for the provider the resolver chose, before the handler is called.  The router
behind the handler goes on to other providers when that one fails, and the completion is charged to the entries that
hold the reservation, whoever has answered.  `charged_to_answerer_iff` says when the cost ends up with the provider
of the result: when it is the resolved one or neither of them has a budget, and no entry holds a reservation of the
task from before.
-/

namespace HexeAiNode
namespace Execution

open Py Governance Budget
open StoreAction (Triple ofResult exec_bind exec_bind_of_ok exec_bind_of_error exec_ofResult)

/-! ## The answer -/

/-- The call that answers is the first one that does not fail. -/
def FirstAnswer (adapter : AdapterOutcomes) (response : UnifiedExecutionResponse) : Prop :=
  ∃ n, adapter n = .ok response ∧ ∀ i < n, ∃ e, adapter i = .error e

theorem FirstAnswer.unique {adapter : AdapterOutcomes} {response response' : UnifiedExecutionResponse}
    (h : FirstAnswer adapter response) (h' : FirstAnswer adapter response') : response = response' := by
  obtain ⟨n, hn, hbefore⟩ := h
  obtain ⟨n', hn', hbefore'⟩ := h'
  rcases lt_trichotomy n n' with hlt | rfl | hlt
  · obtain ⟨e, he⟩ := hbefore' n hlt
    exact absurd (hn.symm.trans he) (by simp)
  · exact Except.ok.inj (hn.symm.trans hn')
  · obtain ⟨e, he⟩ := hbefore n' hlt
    exact absurd (hn'.symm.trans he) (by simp)

/-- **The answer of the handler** is the first answer of a provider. -/
theorem firstAnswer_of_handlerOutcome {env : ServiceEnv} {adapter : AdapterOutcomes} {plan : Plan}
    {response : UnifiedExecutionResponse} (h : handlerOutcome env adapter plan = .ok response) :
    FirstAnswer adapter response := by
  unfold handlerOutcome dispatch at h
  rw [exec_bind, exec_ofResult] at h
  rcases hrequest : unifiedRequest env plan with e | request
  · rw [hrequest] at h
    cases h
  rw [hrequest] at h
  dsimp only at h
  rw [exec_bind] at h
  rcases hrouter : (routerExecute env.registry env.router adapter request).exec [] with ⟨e | answer, calls⟩
  · rw [hrouter] at h
    cases h
  rw [hrouter] at h
  dsimp only at h
  rw [exec_bind, exec_ofResult] at h
  have hanswer : answer = response := by
    rcases hpersist : env.persistMetrics with e | ⟨⟨⟩⟩
    · rw [hpersist] at h
      cases h
    · rw [hpersist] at h
      exact Except.ok.inj h
  subst hanswer
  obtain ⟨n, -, hn, hbefore⟩ := (triple_routerExecute [] rfl).1 _ _ hrouter
  exact ⟨n, hn, hbefore⟩

/-! ## A completed execution -/

theorem normalizedOptional_eq_ok {value normalized : Option String} {field : String} {maxLength : ℕ}
    (h : normalizedOptional value field maxLength = .ok normalized) : normalized = value.map strip := by
  rcases value with _ | text
  · exact (Except.ok.inj h).symm
  · unfold normalizedOptional normalizedNonEmptyString at h
    dsimp only at h
    split at h
    · cases h
    · split at h
      · cases h
      · exact (Except.ok.inj h).symm

/-- A validated result has the status it was built with, and its names without surrounding white space. -/
theorem modelValidate_eq_ok {r r' : TaskExecutionResult} (h : modelValidate r = .ok r') :
    r'.status = r.status ∧ r'.metrics = r.metrics ∧ r'.providerUsed = r.providerUsed.map strip ∧
      r'.modelUsed = r.modelUsed.map strip := by
  obtain ⟨taskId, -, h⟩ := bind_eq_ok.mp h
  obtain ⟨⟨⟩, -, h⟩ := bind_eq_ok.mp h
  obtain ⟨errorCode, -, h⟩ := bind_eq_ok.mp h
  obtain ⟨errorMessage, -, h⟩ := bind_eq_ok.mp h
  obtain ⟨providerUsed, hprovider, h⟩ := bind_eq_ok.mp h
  obtain ⟨modelUsed, hmodel, h⟩ := bind_eq_ok.mp h
  obtain ⟨⟨⟩, -, h⟩ := bind_eq_ok.mp h
  obtain rfl := pure_eq_ok.mp h
  exact ⟨rfl, rfl, normalizedOptional_eq_ok hprovider, normalizedOptional_eq_ok hmodel⟩

theorem status_terminalResult {env : ServiceEnv} {request : TaskExecutionRequest} {status : ExecutionStatus}
    {reason : String} {result : TaskExecutionResult} (h : terminalResult env request status reason = .ok result) :
    result.status = status := by
  obtain ⟨-, -, h⟩ := bind_eq_ok.mp h
  exact (modelValidate_eq_ok h).1

theorem status_resolvedTerminalResult {env : ServiceEnv} {request : TaskExecutionRequest}
    {resolution : ProviderResolutionResult} {governance : Dict} {status : ExecutionStatus} {code reason : String}
    {result : TaskExecutionResult}
    (h : resolvedTerminalResult env request resolution governance status code reason = .ok result) :
    result.status = status := by
  obtain ⟨-, -, h⟩ := bind_eq_ok.mp h
  exact (modelValidate_eq_ok h).1

/-- **What ends an execution before its reservation** is built as the result of a status other than
`completed`, with the data of a resolution or without. -/
theorem done_cases {env : ServiceEnv} {request : TaskExecutionRequest} {result : TaskExecutionResult}
    {P : TaskExecutionResult → Prop}
    (hterminal : ∀ request status reason result, status ≠ .completed →
      terminalResult env request status reason = .ok result → P result)
    (hresolved : ∀ request resolution governance status code reason result, status ≠ .completed →
      resolvedTerminalResult env request resolution governance status code reason = .ok result → P result)
    (h : planExecution env request = .ok (.done result)) : P result := by
  have hdone : ∀ {x : Except Exc TaskExecutionResult}, (∀ r, x = .ok r → P r) →
      (Step.done <$> x : Except Exc (Step Plan)) = .ok (.done result) → P result := by
    intro x hx hdone
    rcases x with e | r
    · cases hdone
    · obtain rfl := Step.done.inj (Except.ok.inj hdone)
      exact hx r rfl
  unfold planExecution at h
  obtain ⟨-, -, h⟩ := bind_eq_ok.mp h
  obtain ⟨-, -, h⟩ := bind_eq_ok.mp h
  split at h
  · refine hdone (fun r => hterminal _ _ _ r ?_) h
    split <;> simp
  split at h
  · exact hdone (fun r => hterminal _ _ _ r (by simp)) h
  unfold planGoverned at h
  split at h
  · exact hdone (fun r => hterminal _ _ _ r (by simp)) h
  obtain ⟨governance, -, h⟩ := bind_eq_ok.mp h
  obtain ⟨timeoutS, -, h⟩ := bind_eq_ok.mp h
  obtain ⟨before, -, h⟩ := bind_eq_ok.mp h
  split at h
  · unfold planResolved at h
    obtain ⟨resolution, -, h⟩ := bind_eq_ok.mp h
    split at h
    · obtain ⟨-, -, h⟩ := bind_eq_ok.mp h
      obtain ⟨-, -, h⟩ := bind_eq_ok.mp h
      obtain ⟨decision, -, h⟩ := bind_eq_ok.mp h
      split at h
      · cases h
      · exact hdone (fun r => hresolved _ _ _ _ _ _ r (by simp)) h
    · refine hdone (fun r => hresolved _ _ _ _ _ _ r ?_) h
      split <;> simp
  · exact hdone (fun r => hterminal _ _ _ r (by simp)) h

/-- It does not complete the execution. -/
theorem not_completed_of_done {env : ServiceEnv} {request : TaskExecutionRequest} {result : TaskExecutionResult}
    (h : planExecution env request = .ok (.done result)) : result.status ≠ .completed := by
  refine done_cases (P := fun result => result.status ≠ .completed) (fun _ _ _ _ hstatus h => ?_)
    (fun _ _ _ _ _ _ _ hstatus h => ?_) h
  · rwa [status_terminalResult h]
  · rwa [status_resolvedTerminalResult h]

/-- **What follows a failure of the handler** is built in the same way. -/
theorem resolved_of_failExecution {env : ServiceEnv} {plan : Plan}
    {reservation : Option BudgetReservationResult} {e : Exc} {store store' : ServiceStore}
    {result : TaskExecutionResult} (h : (failExecution env plan reservation e).exec store = (.ok result, store')) :
    ∃ status code reason, status ≠ .completed ∧
      resolvedTerminalResult env plan.request plan.resolution plan.governance status code reason = .ok result := by
  unfold failExecution at h
  dsimp only at h
  rw [exec_bind] at h
  split at h
  · rw [exec_ofResult] at h
    refine ⟨_, _, _, ?_, (Prod.mk.inj h).1⟩
    split
    · split <;> simp
    · split <;> simp
  · cases h

/-- A failure of the handler does not complete an execution either. -/
theorem not_completed_of_failExecution {env : ServiceEnv} {plan : Plan}
    {reservation : Option BudgetReservationResult} {e : Exc} {store store' : ServiceStore}
    {result : TaskExecutionResult}
    (h : (failExecution env plan reservation e).exec store = (.ok result, store')) : result.status ≠ .completed := by
  obtain ⟨status, code, reason, hstatus, hresult⟩ := resolved_of_failExecution h
  rwa [status_resolvedTerminalResult hresult]

/-- What a completed execution with a budget went through. -/
structure Completion (env : ServiceEnv) (access : BudgetAccess) (adapter : AdapterOutcomes)
    (request : TaskExecutionRequest) (file after : Option BudgetState) (result : TaskExecutionResult) (plan : Plan)
    (reservation : BudgetReservationResult) (reserved : Option BudgetState) (response : UnifiedExecutionResponse) :
    Prop where
  planned : planExecution env request = .ok (.next plan)
  reserves : (reserveExecution access.reserve plan.request.taskId plan.request (plan.resolution.providerId.getD "")
    (plan.resolution.modelId.getD "") env.bundleAtReservation).exec file = (.ok reservation, reserved)
  allowed : reservation.allowed = true
  answered : handlerOutcome env adapter plan = .ok response
  built : buildResult env plan response = .ok result
  finalized : ∃ report, (finalizeExecution access.finalize plan.request.taskId (some result.metrics)
    "completed").exec reserved = (.ok report, after)

/-- **A completed execution** was planned, reserved, answered and finalized. -/
theorem exists_completion {env : ServiceEnv} {access : BudgetAccess} {adapter : AdapterOutcomes}
    {request : TaskExecutionRequest} {file : Option BudgetState} {result : TaskExecutionResult} {store : ServiceStore}
    (hbudget : env.budget = some access)
    (hexec : (execute env adapter request).exec { budget := file } = (.ok result, store))
    (hcompleted : result.status = .completed) :
    ∃ plan reservation reserved response,
      Completion env access adapter request file store.budget result plan reservation reserved response := by
  rw [execute, exec_bind, exec_ofResult] at hexec
  rcases hplan : planExecution env request with e | done | plan
  · rw [hplan] at hexec
    cases hexec
  · rw [hplan] at hexec
    obtain ⟨hdone, -⟩ := Prod.mk.inj hexec
    obtain rfl := Except.ok.inj hdone
    exact absurd hcompleted (not_completed_of_done hplan)
  rw [hplan] at hexec
  dsimp only at hexec
  rw [runPlan, exec_bind, onBudget, StoreAction.exec_zoom, reserveBudget, hbudget] at hexec
  dsimp only at hexec
  rw [StoreAction.exec_map] at hexec
  rcases hreserve : (reserveExecution access.reserve plan.request.taskId plan.request
    (plan.resolution.providerId.getD "") (plan.resolution.modelId.getD "") env.bundleAtReservation).exec file with
    ⟨e | reservation, reserved⟩
  · rw [hreserve] at hexec
    cases hexec
  rw [hreserve] at hexec
  have hsome : (some <$> Except.ok reservation : Except Exc (Option BudgetReservationResult)) = .ok (some reservation) :=
    rfl
  rw [hsome] at hexec
  dsimp only at hexec
  rcases hallowed : reservation.allowed
  · have hrefused : ((some reservation).filter fun r => !r.allowed) = some reservation := by simp [hallowed]
    rw [hrefused] at hexec
    dsimp only at hexec
    rw [exec_ofResult] at hexec
    obtain ⟨-, -, hdenied⟩ := bind_eq_ok.mp (Prod.mk.inj hexec).1
    have hstatus := status_resolvedTerminalResult hdenied
    rw [hcompleted] at hstatus
    cases hstatus
  have hgranted : ((some reservation).filter fun r => !r.allowed) = none := by simp [hallowed]
  rw [hgranted] at hexec
  dsimp only at hexec
  rw [runReserved, exec_bind, exec_ofResult] at hexec
  rcases hstart : startExecution env plan (some reservation) with e | ⟨⟨⟩⟩
  · rw [hstart] at hexec
    cases hexec
  rw [hstart] at hexec
  dsimp only at hexec
  rw [exec_bind, StoreAction.exec_attempt, onCalls, StoreAction.exec_zoom] at hexec
  rcases hdispatch : (dispatch env adapter plan).exec [] with ⟨e | response, calls⟩
  · rw [hdispatch] at hexec
    dsimp only at hexec
    by_cases he : e.isException = true
    · rw [if_pos he] at hexec
      exact absurd hcompleted (not_completed_of_failExecution hexec)
    · rw [if_neg he] at hexec
      cases hexec
  rw [hdispatch] at hexec
  dsimp only at hexec
  rw [completeExecution, exec_bind, exec_ofResult] at hexec
  rcases hbuilt : buildResult env plan response with e | built
  · rw [hbuilt] at hexec
    cases hexec
  rw [hbuilt] at hexec
  dsimp only at hexec
  have hfinal : finalizeBudget env plan (some reservation) built =
      (finalizeExecution access.finalize plan.request.taskId (some built.metrics) "completed" >>= fun _ =>
        ofResult (emit env .budgetFinalized)) := by
    unfold finalizeBudget
    rw [hbudget]
  rw [exec_bind, onBudget, StoreAction.exec_zoom, hfinal, exec_bind] at hexec
  dsimp only at hexec
  rcases hfinalize : (finalizeExecution access.finalize plan.request.taskId (some built.metrics)
    "completed").exec reserved with ⟨e | report, after⟩
  · rw [hfinalize] at hexec
    cases hexec
  rw [hfinalize] at hexec
  dsimp only at hexec
  rw [exec_ofResult] at hexec
  rcases hemit : emit env .budgetFinalized with e | ⟨⟨⟩⟩
  · rw [hemit] at hexec
    cases hexec
  rw [hemit] at hexec
  obtain ⟨hresult, rfl⟩ := Prod.mk.inj hexec
  obtain rfl := Except.ok.inj hresult
  refine ⟨plan, reservation, reserved, response, hplan, hreserve, hallowed, ?_, hbuilt, report, hfinalize⟩
  rw [handlerOutcome, hdispatch]

/-! ## Who is charged -/

/-- The provider entry of a file with the given key. -/
def providerEntry (file : Option BudgetState) (key : String) : Option ProviderUsage :=
  file.bind fun s => s.providerBudgetUsage.get? key

/-- The entry holds the reservation in the first file, and was charged the cost for it in the second. -/
def Receives (file file' : Option BudgetState) (reservationId : String) (cost : FloatVal) (key : String) : Prop :=
  ∃ u u', providerEntry file key = some u ∧ providerEntry file' key = some u' ∧
    u.reservations.contains reservationId = true ∧ u'.reservations.contains reservationId = false ∧
    u'.usedCostUsdExact = ((normalizeFloat u.usedCostUsdExact).add cost).round10

/-- The key of the entry of a provider for the present period, if it has a budget. -/
def budgetKey (env : BudgetEnv) (providerId : String) : Option String :=
  (providerBudgetSettings env providerId).map (providerUsageKey env providerId)

/-- The state a reservation works on. -/
def loadedState (env : BudgetEnv) (file : Option BudgetState) : BudgetState :=
  (storeLoad file).getD (createBudgetState env.nowIso)

/-- The budget file when the handler is called. -/
def fileAtCall (env : ServiceEnv) (request : TaskExecutionRequest) (file : Option BudgetState) : Option BudgetState :=
  match planOf env request with
  | some plan => ((reserveBudget env plan).exec file).2
  | none => file

/-- The limit of the provider was checked with a reservation for it included, and its entry holds that reservation
when the handler is called. -/
def LimitChecked (env : BudgetEnv) (before : BudgetState) (atCall : Option BudgetState)
    (reservationId providerId : String) : Prop :=
  ∀ settings, providerBudgetSettings env providerId = some settings → ∃ usage u reservation,
    ensureProviderBudgetUsageEntry env before providerId settings = .ok usage ∧
    usage.reservations.contains reservationId = false ∧
    usage.exhaustedBy reservation.reservedCostCents = false ∧
    providerEntry atCall (providerUsageKey env providerId settings) = some u ∧
    u.reservations.get? reservationId = some reservation ∧ reservation.providerId = providerId

/-- **The provider of the result is charged**: its entry and no other receives the cost, and its limit was checked
before the handler was called. -/
structure ChargedToAnswerer (env : ServiceEnv) (access : BudgetAccess) (request : TaskExecutionRequest)
    (file after : Option BudgetState) (result : TaskExecutionResult) : Prop where
  charged : ∀ key, Receives (fileAtCall env request file) after (reservationIdOf request.taskId)
      (finalCostUsdExact (some result.metrics)) key ↔
    budgetKey access.reserve (result.providerUsed.getD "") = some key
  checked : LimitChecked access.reserve (loadedState access.reserve file) (fileAtCall env request file)
    (reservationIdOf request.taskId) (result.providerUsed.getD "")

/-! ## When it is charged -/

theorem planOf_of_planExecution {env : ServiceEnv} {request : TaskExecutionRequest} {plan : Plan}
    (h : planExecution env request = .ok (.next plan)) : planOf env request = some plan := by
  unfold planOf
  rw [h]

/-- Loading hands back the loaded state, and leaves it in the store. -/
theorem loadState_eq (env : BudgetEnv) (file : Option BudgetState) :
    (loadState env).exec file = (.ok (loadedState env file), some (loadedState env file)) ∧
      (loadedState env file).Valid := by
  obtain ⟨s, hload, hvalid⟩ := loadState_spec env file
  have hs : s = loadedState env file := by
    have hexec := hload
    rw [loadState, exec_bind_of_ok (StoreAction.exec_read file)] at hexec
    unfold loadedState
    rcases hstored : storeLoad file with _ | t
    · rw [hstored, exec_bind] at hexec
      split at hexec
      · exact (Except.ok.inj (Prod.mk.inj hexec).1).symm
      · cases hexec
    · rw [hstored] at hexec
      exact (Except.ok.inj (Prod.mk.inj hexec).1).symm
  rw [← hs]
  exact ⟨hload, hvalid⟩

section

variable {env : BudgetEnv} {s s' : BudgetState} {taskId providerId modelId answerer : String}

/-- Nothing in the state holds the reservation for a provider. -/
def ProvidersFree (s : BudgetState) (reservationId : String) : Prop :=
  ∀ key u, s.providerBudgetUsage.get? key = some u → u.reservations.contains reservationId = false

/-- A completion charges the entries that hold the reservation. -/
theorem receives_iff {metrics : Option TaskExecutionMetrics} {result : FinalizeResult}
    {after : Option BudgetState} (hvalid : s.Valid)
    (hexec : (finalizeExecution env taskId metrics "completed").exec (some s) = (.ok result, after))
    (key : String) : Receives (some s) after (reservationIdOf taskId) (finalCostUsdExact metrics) key ↔
      ∃ u, s.providerBudgetUsage.get? key = some u ∧
        u.reservations.contains (reservationIdOf taskId) = true := by
  constructor
  · rintro ⟨u, u', hu, -, hheld, -⟩
    exact ⟨u, hu, hheld⟩
  · rintro ⟨u, hu, hheld⟩
    obtain ⟨t, cents, rfl, -, -, hproviders⟩ := exists_entries_of_completed hvalid hexec
    obtain ⟨u', hu', hfinalize⟩ := hproviders key u hu
    obtain ⟨reservation, hreservation⟩ := Option.isSome_iff_exists.mp hheld
    obtain ⟨cents', -, rfl⟩ := ProviderUsage.finalize_eq_ok hreservation rfl hfinalize
    refine ⟨u, _, hu, hu', hheld, ?_, rfl⟩
    show ((u.reservations.erase (reservationIdOf taskId)).get? (reservationIdOf taskId)).isSome = false
    rw [OrderedDict.get?_erase_self]
    rfl

/-- An entry that holds the reservation already has not been checked for it. -/
theorem not_limitChecked_of_held {settings : Dict} {u : ProviderUsage} {atCall : Option BudgetState}
    {reservationId : String} (hsettings : providerBudgetSettings env providerId = some settings)
    (hu : s.providerBudgetUsage.get? (providerUsageKey env providerId settings) = some u)
    (hheld : u.reservations.contains reservationId = true) :
    ¬LimitChecked env s atCall reservationId providerId := by
  intro hchecked
  obtain ⟨usage, -, -, husage, hfresh, -⟩ := hchecked settings hsettings
  unfold ensureProviderBudgetUsageEntry at husage
  rw [hu] at husage
  obtain rfl := Except.ok.inj husage
  rw [hheld] at hfresh
  cases hfresh

/-- When the resolved provider has no budget, its answerer has to have none, and nothing may hold the reservation. -/
theorem charged_iff_of_unbudgeted (hsame : s'.providerBudgetUsage = s.providerBudgetUsage) {reservationId : String} :
    ((∀ key, (∃ u, s'.providerBudgetUsage.get? key = some u ∧ u.reservations.contains reservationId = true) ↔
        budgetKey env answerer = some key) ∧ LimitChecked env s (some s') reservationId answerer) ↔
      budgetKey env answerer = none ∧ ProvidersFree s reservationId := by
  rw [hsame]
  constructor
  · rintro ⟨hcharged, hchecked⟩
    have hnone : budgetKey env answerer = none := by
      rw [budgetKey, Option.map_eq_none_iff, Option.eq_none_iff_forall_ne_some]
      intro settings hsettings
      obtain ⟨u, hu, hheld⟩ := (hcharged (providerUsageKey env answerer settings)).mpr (by rw [budgetKey, hsettings]; rfl)
      exact not_limitChecked_of_held hsettings hu hheld hchecked
    refine ⟨hnone, fun key u hu => Bool.eq_false_iff.mpr fun hheld => ?_⟩
    have hkey := (hcharged key).mp ⟨u, hu, hheld⟩
    rw [hnone] at hkey
    cases hkey
  · rintro ⟨hnone, hfree⟩
    refine ⟨fun key => ⟨?_, fun hkey => ?_⟩, fun settings hsettings => ?_⟩
    · rintro ⟨u, hu, hheld⟩
      rw [hfree key u hu] at hheld
      cases hheld
    · rw [hnone] at hkey
      cases hkey
    · rw [budgetKey, hsettings] at hnone
      cases hnone

/-- When the budget of the resolved provider was reserved, it has to be the one that answers, and no other entry may
hold the reservation. -/
theorem charged_iff_of_reserved {settings : Dict} {usage : ProviderUsage} {cents : ℤ}
    (h : ProviderReserved env (argsOf taskId providerId modelId cents) settings usage s s') :
    ((∀ key, (∃ u, s'.providerBudgetUsage.get? key = some u ∧
          u.reservations.contains (reservationIdOf taskId) = true) ↔ budgetKey env answerer = some key) ∧
        LimitChecked env s (some s') (reservationIdOf taskId) answerer) ↔
      providerId = answerer ∧ ProvidersFree s (reservationIdOf taskId) := by
  have hentry : s'.providerBudgetUsage.get? (providerUsageKey env providerId settings) =
      some (usage.reserve (argsOf taskId providerId modelId cents) env.nowIso) := by
    rw [h.written]
    exact OrderedDict.get?_set_self _ _ _
  have hrecord : (usage.reserve (argsOf taskId providerId modelId cents) env.nowIso).reservations.get?
      (reservationIdOf taskId) = some ((argsOf taskId providerId modelId cents).record env.nowIso) :=
    OrderedDict.get?_set_self _ _ _
  have hheld : (usage.reserve (argsOf taskId providerId modelId cents) env.nowIso).reservations.contains
      (reservationIdOf taskId) = true := by
    rw [OrderedDict.contains, hrecord]
    rfl
  have hothers : ∀ key, key ≠ providerUsageKey env providerId settings →
      s'.providerBudgetUsage.get? key = s.providerBudgetUsage.get? key := by
    intro key hkey
    rw [h.written]
    exact OrderedDict.get?_set_of_ne _ _ hkey
  have hfresh : ∀ u, s.providerBudgetUsage.get? (providerUsageKey env providerId settings) = some u →
      u.reservations.contains (reservationIdOf taskId) = false := by
    intro u hu
    rcases ensureProviderBudgetUsageEntry_cases h.entry with hget | ⟨hget, -⟩
    · obtain rfl := Option.some.inj (hget.symm.trans hu)
      exact h.fresh
    · exact absurd (hget.symm.trans hu) (by simp)
  constructor
  · rintro ⟨hcharged, hchecked⟩
    have hkey := (hcharged _).mp ⟨_, hentry, hheld⟩
    obtain ⟨settings', hsettings', hkeys⟩ := Option.map_eq_some_iff.mp hkey
    obtain ⟨-, u, reservation, -, -, -, hu, hreservation, hprovider⟩ := hchecked settings' hsettings'
    change s'.providerBudgetUsage.get? _ = some u at hu
    rw [hkeys, hentry] at hu
    obtain rfl := Option.some.inj hu
    obtain rfl := Option.some.inj (hrecord.symm.trans hreservation)
    refine ⟨hprovider, fun key u hu => Bool.eq_false_iff.mpr fun hheld' => ?_⟩
    by_cases heq : key = providerUsageKey env providerId settings
    · subst heq
      rw [hfresh u hu] at hheld'
      cases hheld'
    · have hother := (hcharged key).mp ⟨u, (hothers key heq).trans hu, hheld'⟩
      exact heq (Option.some.inj (hother.symm.trans hkey))
  · rintro ⟨rfl, hfree⟩
    have hkey : budgetKey env providerId = some (providerUsageKey env providerId settings) := by
      have hsettings : providerBudgetSettings env providerId = some settings := h.configured
      rw [budgetKey, hsettings]
      rfl
    refine ⟨fun key => ⟨?_, fun hkey' => ?_⟩, fun settings' hsettings' => ?_⟩
    · rintro ⟨u, hu, hheld'⟩
      by_cases heq : key = providerUsageKey env providerId settings
      · rw [heq]
        exact hkey
      · rw [hothers key heq] at hu
        rw [hfree key u hu] at hheld'
        cases hheld'
    · obtain rfl := Option.some.inj (hkey.symm.trans hkey')
      exact ⟨_, hentry, hheld⟩
    · obtain rfl := Option.some.inj (h.configured.symm.trans hsettings')
      exact ⟨usage, _, _, h.entry, h.fresh, h.enough, hentry, hrecord, rfl⟩

end

/-- **One completed execution** charges the provider of its result when that is the resolved one or neither of them
has a budget, and nothing holds a reservation of the task from before. -/
theorem Completion.chargedToAnswerer_iff {env : ServiceEnv} {access : BudgetAccess} {adapter : AdapterOutcomes}
    {request : TaskExecutionRequest} {file after reserved : Option BudgetState} {result : TaskExecutionResult}
    {plan : Plan} {reservation : BudgetReservationResult} {response : UnifiedExecutionResponse}
    (hbudget : env.budget = some access)
    (h : Completion env access adapter request file after result plan reservation reserved response) :
    ChargedToAnswerer env access request file after result ↔
      (plan.resolution.providerId.getD "" = result.providerUsed.getD "" ∨
        budgetKey access.reserve (plan.resolution.providerId.getD "") = none ∧
          budgetKey access.reserve (result.providerUsed.getD "") = none) ∧
      ProvidersFree (loadedState access.reserve file) (reservationIdOf request.taskId) := by
  have htask : plan.request.taskId = request.taskId := by
    rw [(madeFor_of_planExecution h.planned).request_eq, withPriority_taskId]
  obtain ⟨hload, hvalid⟩ := loadState_eq access.reserve file
  obtain ⟨r, s', hexec, hvalid', heffect⟩ := reserveExecution_effect access.reserve plan.request.taskId plan.request
    (plan.resolution.providerId.getD "") (plan.resolution.modelId.getD "") env.bundleAtReservation hvalid
  have hreserves := h.reserves
  rw [reserveExecution, exec_bind_of_ok hload] at hreserves
  rw [reserveExecution, exec_bind_of_ok (loadState_of_valid access.reserve hvalid), hreserves] at hexec
  obtain ⟨hresult, rfl⟩ := Prod.mk.inj hexec
  subst hresult
  have hcall : fileAtCall env request file = some s' := by
    unfold fileAtCall
    rw [planOf_of_planExecution h.planned]
    dsimp only
    rw [reserveBudget, hbudget]
    dsimp only
    rw [StoreAction.exec_map, h.reserves]
  obtain ⟨report, hfinalized⟩ := h.finalized
  have hreceives := receives_iff hvalid' hfinalized
  rw [htask] at hreceives heffect
  have hsplit : ChargedToAnswerer env access request file after result ↔
      (∀ key, (∃ u, s'.providerBudgetUsage.get? key = some u ∧
        u.reservations.contains (reservationIdOf request.taskId) = true) ↔
          budgetKey access.reserve (result.providerUsed.getD "") = some key) ∧
      LimitChecked access.reserve (loadedState access.reserve file) (some s') (reservationIdOf request.taskId)
        (result.providerUsed.getD "") := by
    constructor
    · rintro ⟨hcharged, hchecked⟩
      rw [hcall] at hcharged hchecked
      exact ⟨fun key => (hreceives key).symm.trans (hcharged key), hchecked⟩
    · rintro ⟨hcharged, hchecked⟩
      constructor
      · rw [hcall]
        exact fun key => (hreceives key).trans (hcharged key)
      · rw [hcall]
        exact hchecked
  rw [hsplit]
  rcases heffect.providers_cases with ⟨hsame, hnone⟩ | ⟨r, settings, usage, -, -, hreserved⟩
  · have hresolved : budgetKey access.reserve (plan.resolution.providerId.getD "") = none := by
      rw [budgetKey, hnone reservation rfl h.allowed]
      rfl
    rw [charged_iff_of_unbudgeted hsame, hresolved]
    refine and_congr_left fun _ => ⟨fun hanswerer => Or.inr ⟨rfl, hanswerer⟩, ?_⟩
    rintro (heq | ⟨-, hanswerer⟩)
    · rw [← heq, hresolved]
    · exact hanswerer
  · have hsettings : providerBudgetSettings access.reserve (plan.resolution.providerId.getD "") = some settings :=
      hreserved.configured
    rw [charged_iff_of_reserved hreserved]
    refine and_congr_left fun _ => ⟨Or.inl, ?_⟩
    rintro (heq | ⟨hresolved, -⟩)
    · exact heq
    · rw [budgetKey, hsettings] at hresolved
      cases hresolved

/-- A node with the providers `openai` and `anthropic`, with a budget of five dollars for the first and of one cent
for the other. -/
def twoProviderEnv : ServiceEnv where
  context :=
    { enabledProviders := [.str "openai", .str "anthropic"]
      providerHealth :=
        [("openai", .dict [("availability", .str "available")]),
          ("anthropic", .dict [("availability", .str "available")])]
      availableModelsByProvider := [("openai", .list [.str "gpt"]), ("anthropic", .list [.str "claude"])] }
  registry :=
    { providers := ["openai", "anthropic"]
      registered := by decide +kernel
      health :=
        [("openai", .dict [("availability", .str "available")]),
          ("anthropic", .dict [("availability", .str "available")])] }
  budget :=
    let limits : Value := .dict
      [("openai", .dict [("max_cost_cents", .int 500)]), ("anthropic", .dict [("max_cost_cents", .int 1)])]
    let env : BudgetEnv := { sampleEnv with providerBudgetLimits := limits }
    some { reserve := env, release := env, finalize := env }

/-- The budget settings of that node. -/
def twoProviderAccess : BudgetAccess := twoProviderEnv.budget.get rfl

/-- The answer of a provider, for five cents. -/
def answerOf (providerId modelId : String) : UnifiedExecutionResponse where
  providerId := providerId
  modelId := modelId
  outputText := "ok"
  estimatedCost := some (.finite (1 / 20))

/-- `openai` answers. -/
def openaiAnswers : AdapterOutcomes := fun _ => .ok (answerOf "openai" "gpt")

/-- `openai` refuses the connection, and the next provider answers. -/
def anthropicAnswers : AdapterOutcomes := fun n =>
  if n = 0 then .error ⟨.runtimeError, "connection refused"⟩ else .ok (answerOf "anthropic" "claude")

/-- What the execution of the sample request ends with. -/
def sampleExecution (adapter : AdapterOutcomes) : Except Exc TaskExecutionResult × ServiceStore :=
  (execute twoProviderEnv adapter sampleRequest).exec { budget := some sampleState }

/-- The status of the result, and its provider. -/
def outcomeOf (adapter : AdapterOutcomes) : Except Exc (ExecutionStatus × Option String) :=
  (sampleExecution adapter).1.map fun result => (result.status, result.providerUsed)

theorem outcomeOf_openaiAnswers : outcomeOf openaiAnswers = .ok (.completed, some "openai") := by
  decide +kernel

theorem outcomeOf_anthropicAnswers : outcomeOf anthropicAnswers = .ok (.completed, some "anthropic") := by
  decide +kernel

theorem exists_of_outcomeOf {adapter : AdapterOutcomes} {status : ExecutionStatus} {providerUsed : Option String}
    (h : outcomeOf adapter = .ok (status, providerUsed)) :
    ∃ result, sampleExecution adapter = (.ok result, (sampleExecution adapter).2) ∧ result.status = status ∧
      result.providerUsed = providerUsed := by
  unfold outcomeOf at h
  rcases hexec : sampleExecution adapter with ⟨e | result, store⟩
  · rw [hexec] at h
    cases h
  · rw [hexec] at h
    obtain ⟨hstatus, hused⟩ := Prod.mk.inj (Except.ok.inj h)
    exact ⟨result, rfl, hstatus, hused⟩

/-- The sample request is resolved to `openai`. -/
theorem exists_resolution_sampleRequest :
    ∃ resolution, resolutionOf twoProviderEnv sampleRequest = .ok resolution ∧
      resolution.providerId = some "openai" := by
  have hprovider : (resolutionOf twoProviderEnv sampleRequest).map ProviderResolutionResult.providerId =
      .ok (some "openai") := by
    decide +kernel
  rcases hresolved : resolutionOf twoProviderEnv sampleRequest with e | resolution
  · rw [hresolved] at hprovider
    cases hprovider
  · rw [hresolved] at hprovider
    exact ⟨resolution, rfl, Except.ok.inj hprovider⟩

end Execution
end HexeAiNode
