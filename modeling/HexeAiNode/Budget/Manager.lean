import HexeAiNode.Budget.State
import HexeAiNode.Execution.TaskModels
import HexeAiNode.Library.StoreAction

/-!
# The budget manager

Reserving, finalizing and releasing the budget of an execution, and refreshing the policy.  Each
operation loads the state from the store, works on that copy, and saves it at the end: an operation
that raises or refuses leaves the ledgers of the store as they were, and the partial work on its copy
is dropped with it.

The store is `Option BudgetState`, `none` while there is no readable file.  `BudgetEnv` collects what
an operation reads besides the store: the clock and the calendar, the model registry, and the
provider budgets of the selection context; the clock never gives a blank text.  Floats are exact, up
to overflow.  Notifications are left
out: they are sent from a task of their own, and nothing here reads their record.
-/

namespace HexeAiNode
namespace Budget

open Py Execution

/-! ## The environment -/

/-- What `datetime.fromisoformat` gives: a time in microseconds, with or without an offset. -/
structure Timestamp where
  instant : ℤ
  aware : Bool

/-- The prices of a registered model, per million tokens. -/
structure ModelPricing where
  pricingInput : Option ℚ := none
  cachedPricingInput : Option ℚ := none
  pricingOutput : Option ℚ := none

/-- What an operation reads besides the store. -/
structure BudgetEnv where
  nowIso : String
  nowIso_nonEmpty : isNonEmptyString (.str nowIso) = true := by decide
  now : ℤ
  fromIsoFormat : String → Option Timestamp
  /-- `_provider_budget_period_window`: the bounds of the period that contains the present. -/
  periodWindow : String → String × String
  /-- `registry.get_model`, by provider and model. -/
  getModel : String → String → Option ModelPricing := fun _ _ => none
  /-- `provider_budget_limits` of the provider selection context. -/
  providerBudgetLimits : Value := .null

/-- An operation on the stored budget state. -/
abbrev BudgetAction := StoreAction (Option BudgetState) Exc

open StoreAction (read write ofResult)

/-! ## The store -/

/-- `BudgetStateStore.save`. -/
def storeSave (state : BudgetState) : BudgetAction Unit :=
  match state.error with
  | some e => throw ⟨.valueError, "cannot save invalid budget state: " ++ e⟩
  | none => write (some state)

/-- `BudgetStateStore.load`: an invalid state counts as none. -/
def storeLoad (file : Option BudgetState) : Option BudgetState :=
  file.filter fun state => state.error.isNone

/-- `BudgetStateStore.load_or_create`, the manager's `_load_state`. -/
def loadState (env : BudgetEnv) : BudgetAction BudgetState := do
  let file ← read
  match storeLoad file with
  | some state => pure state
  | none => do
    storeSave (createBudgetState env.nowIso)
    pure (createBudgetState env.nowIso)

/-- `_save_state`. -/
def saveState (env : BudgetEnv) (state : BudgetState) : BudgetAction Unit :=
  storeSave { state with updatedAt := env.nowIso }

/-! ## The policy -/

/-- `cache_policy_from_governance`: the policy of the bundle, or `None`. -/
def cachePolicyFromGovernance (env : BudgetEnv) (bundle : Value) : BudgetAction Value :=
  let policy := Dict.get bundle.asDict "budget_policy"
  if policy.isDict then do
    let state ← loadState env
    if state.budgetPolicy.same policy then pure policy
    else do
      saveState env { state with budgetPolicy := policy }
      pure policy
  else pure .null

/-- The part of `refresh_policy_from_core` after its request to the core. -/
def storeFetchedPolicy (env : BudgetEnv) (payload : Value) : BudgetAction Unit :=
  let policy := Dict.get payload.asDict "budget_policy"
  if policy.isDict then do
    let state ← loadState env
    saveState env { state with budgetPolicy := policy }
  else pure ()

/-- `_parse_iso`. -/
def parseIso (env : BudgetEnv) (v : Value) : Option Timestamp :=
  let text := v.normalizeString
  if text = "" then none
  else
    env.fromIsoFormat <|
      String.ofList (text.toList.flatMap fun c => if c = 'Z' then "+00:00".toList else [c])

/-- A comparison of the present with a time that may be missing. -/
def compareNow (time : Option Timestamp) (test : ℤ → Bool) : Except Exc Bool :=
  match time with
  | none => .ok false
  | some t =>
    if t.aware then .ok (test t.instant)
    else .error ⟨.typeError, "can't compare offset-naive and offset-aware datetimes"⟩

/-- `(d.get(key) or {}).get(field)`, for a `d[key]` that validation has found to be a dictionary. -/
def getNested (d : Dict) (key field : String) : Value :=
  Dict.get (Dict.get d key).asDict field

/-- The conditions `_applicable_grants` puts on one grant. -/
def grantApplies (env : BudgetEnv) (request : TaskExecutionRequest) (providerId : String)
    (grant : Dict) : Except Exc Bool :=
  if (Dict.get grant "status").normalizeLower ≠ "active" then .ok false
  else do
    let early ← compareNow (parseIso env (Dict.get grant "period_start")) fun t =>
      decide (env.now < t)
    if early then .ok false
    else do
      let late ← compareNow (parseIso env (Dict.get grant "period_end")) fun t =>
        decide (t < env.now)
      let serviceId :=
        ((optStr request.serviceId).orElse (.str request.requestedBy)).normalizeString
      let customerId := (optStr request.customerId).normalizeString
      let providerKey := strip providerId
      let modelKey := (optStr request.requestedModel).normalizeString
      let grantService := (Dict.get grant "service").normalizeString
      let grantProvider := (getNested grant "metadata" "provider_id").normalizeString
      let grantModel := (getNested grant "metadata" "model_id").normalizeString
      let scopeKind := (Dict.get grant "scope_kind").normalizeLower
      let subjectId := (Dict.get grant "subject_id").normalizeString
      .ok <| decide <| ¬ late ∧
        ¬ (serviceId ≠ "" ∧ grantService ≠ "" ∧ grantService ≠ serviceId) ∧
        ¬ (grantProvider ≠ "" ∧ providerKey ≠ "" ∧ grantProvider ≠ providerKey) ∧
        ¬ (grantModel ≠ "" ∧ modelKey ≠ "" ∧ grantModel ≠ modelKey) ∧
        (scopeKind = "node" ∨
          (scopeKind = "customer" ∧ customerId ≠ "" ∧ subjectId = customerId) ∨
          (scopeKind = "provider" ∧ providerKey ≠ "" ∧ subjectId = providerKey))

/-- The applicable ones of a list of grants. -/
def filterGrants (env : BudgetEnv) (request : TaskExecutionRequest) (providerId : String) :
    List Value → Except Exc (List Dict)
  | [] => .ok []
  | .dict grant :: grants => do
    let applies ← grantApplies env request providerId grant
    let rest ← filterGrants env request providerId grants
    .ok (if applies then grant :: rest else rest)
  | _ :: grants => filterGrants env request providerId grants

/-- `_applicable_grants`. -/
def applicableGrants (env : BudgetEnv) (policy : Dict) (request : TaskExecutionRequest)
    (providerId : String) : Except Exc (List Dict) := do
  let grants ← (Dict.get policy "grants").toItems
  filterGrants env request providerId grants

/-! ## Provider budgets -/

/-- `_provider_budget_settings_map`. -/
def providerBudgetSettingsMap (env : BudgetEnv) : List (String × Dict) :=
  env.providerBudgetLimits.asDict.foldl
    (fun settingsMap entry =>
      let providerId := strip entry.1
      match entry.2 with
      | .dict settings =>
        if providerId = "" ∨ (Dict.get settings "max_cost_cents").isNull then settingsMap
        else Assoc.set settingsMap providerId settings
      | _ => settingsMap) []

/-- `_provider_budget_settings`. -/
def providerBudgetSettings (env : BudgetEnv) (providerId : String) : Option Dict :=
  (Assoc.get? (providerBudgetSettingsMap env) (strip providerId)).filter fun settings =>
    !(Dict.get settings "max_cost_cents").isNull

/-- The period of the settings of a provider budget. -/
def budgetPeriod (settings : Dict) : String :=
  let period := (Dict.get settings "period").normalizeLower
  if period = "" then "monthly" else period

/-- The key of the provider entry for the present period. -/
def providerUsageKey (env : BudgetEnv) (providerId : String) (settings : Dict) : String :=
  let period := budgetPeriod settings
  providerId ++ ":" ++ period ++ ":" ++ (env.periodWindow period).1

/-- `_ensure_provider_budget_usage_entry`: the entry for the present period, new if need be. -/
def ensureProviderBudgetUsageEntry (env : BudgetEnv) (state : BudgetState) (providerId : String)
    (settings : Dict) : Except Exc ProviderUsage :=
  match state.providerBudgetUsage.get? (providerUsageKey env providerId settings) with
  | some usage => .ok usage
  | none => do
    let limit ← (Dict.get settings "max_cost_cents").toIntOr 0
    let period := budgetPeriod settings
    .ok
      { providerId := providerId
        period := period
        periodStart := (env.periodWindow period).1
        periodEnd := (env.periodWindow period).2
        budgetLimitCents := limit
        reservations := .empty
        updatedAt := env.nowIso }

/-- `_provider_budget_used_cost_usd_exact`. -/
def ProviderUsage.usedUsdExact (u : ProviderUsage) : FloatVal :=
  if u.usedCostUsdExact.isPos then u.usedCostUsdExact.round10
  else .finite (round10 (u.usedCostCents / 100))

/-- `remaining_exact_cents < reserved_cost_cents`. -/
def ProviderUsage.exhaustedBy (u : ProviderUsage) (cents : ℤ) : Bool :=
  match u.usedUsdExact.scale 100 with
  | .finite used => decide ((u.budgetLimitCents : ℚ) - used - u.reservedCostCents < cents)
  | .posInf => true
  | _ => false

/-- What a reservation is made for. -/
structure ReservationArgs where
  reservationId : String
  taskId : String
  providerId : String
  modelId : String
  cents : ℤ

/-- The record of a reservation. -/
def ReservationArgs.record (args : ReservationArgs) (nowIso : String) : Reservation where
  reservationId := args.reservationId
  taskId := args.taskId
  reservedCostCents := args.cents
  providerId := args.providerId
  modelId := args.modelId
  createdAt := nowIso

/-- Add a reservation to a provider entry. -/
def ProviderUsage.reserve (u : ProviderUsage) (args : ReservationArgs) (nowIso : String) :
    ProviderUsage :=
  { u with
    reservations := u.reservations.set args.reservationId (args.record nowIso)
    reservedCostCents := u.reservedCostCents + args.cents
    updatedAt := nowIso }

/-- What `_reserve_provider_budget` reports. -/
structure ProviderBudgetResult where
  allowed : Bool
  reason : Option String := none
  deriving DecidableEq, Repr

/-- `_reserve_provider_budget`, with the state it leaves. -/
def reserveProviderBudget (env : BudgetEnv) (state : BudgetState) (args : ReservationArgs) :
    Except Exc (Option ProviderBudgetResult × BudgetState) :=
  match providerBudgetSettings env args.providerId with
  | none => .ok (none, state)
  | some settings => do
    let usage ← ensureProviderBudgetUsageEntry env state args.providerId settings
    let withEntry (u : ProviderUsage) : BudgetState :=
      { state with
        providerBudgetUsage :=
          state.providerBudgetUsage.set (providerUsageKey env args.providerId settings) u }
    if usage.reservations.contains args.reservationId then
      .ok (some ⟨false, some "reservation_conflict"⟩, withEntry usage)
    else if usage.exhaustedBy args.cents then
      .ok (some ⟨false, some "provider_budget_exhausted"⟩, withEntry usage)
    else .ok (some ⟨true, none⟩, withEntry (usage.reserve args env.nowIso))

/-! ## Grants -/

/-- `_ensure_usage_entry`: the entry of a grant, new or restarted when its period has changed. -/
def ensureUsageEntry (env : BudgetEnv) (state : BudgetState) (grant : Dict) : GrantUsage :=
  let grantId := (Dict.get grant "grant_id").normalizeString
  let periodStart := Dict.get grant "period_start"
  let periodEnd := Dict.get grant "period_end"
  let fresh : GrantUsage :=
    { grantId := grantId
      periodStart := periodStart
      periodEnd := periodEnd
      reservations := .empty
      updatedAt := env.nowIso }
  match state.grantUsage.get? grantId with
  | none => fresh
  | some usage =>
    if usage.periodStart.same periodStart && usage.periodEnd.same periodEnd then usage
    else { fresh with grantId := usage.grantId }

/-- Add a reservation to a grant entry. -/
def GrantUsage.reserve (u : GrantUsage) (args : ReservationArgs) (nowIso : String) : GrantUsage :=
  { u with
    reservations := u.reservations.set args.reservationId (args.record nowIso)
    reservedCostCents := u.reservedCostCents + args.cents
    updatedAt := nowIso }

/-- Write a grant entry. -/
def BudgetState.setGrant (state : BudgetState) (grantId : String) (u : GrantUsage) : BudgetState :=
  { state with grantUsage := state.grantUsage.set grantId u }

/-- What one turn of the loop over the grants does. -/
inductive GrantStep where
  | refused (reason : String) (state : BudgetState)
  | reserved (grantId : String) (state : BudgetState)

/-- One turn of the loop over the grants. -/
def reserveGrant (env : BudgetEnv) (state : BudgetState) (args : ReservationArgs) (grant : Dict) :
    Except Exc GrantStep :=
  let grantId := (Dict.get grant "grant_id").normalizeString
  let usage := ensureUsageEntry env state grant
  if usage.reservations.contains args.reservationId then
    .ok (.refused "reservation_conflict" (state.setGrant grantId usage))
  else do
    let maxCostCents ← (getNested grant "limits" "max_cost_cents").toIntOr 0
    if 0 < maxCostCents ∧
        maxCostCents - usage.usedCostCents - usage.reservedCostCents < args.cents then
      .ok (.refused "budget_exhausted" (state.setGrant grantId usage))
    else .ok (.reserved grantId (state.setGrant grantId (usage.reserve args env.nowIso)))

/-- `_rollback_reservations`, on the entries with the given keys. -/
def rollbackReservations (env : BudgetEnv) (args : ReservationArgs) (state : BudgetState)
    (grantIds : List String) : BudgetState :=
  grantIds.foldl
    (fun state grantId =>
      match state.grantUsage.get? grantId with
      | none => state
      | some usage =>
        state.setGrant grantId
          { usage with
            reservations := usage.reservations.erase args.reservationId
            reservedCostCents := max (usage.reservedCostCents - args.cents) 0
            updatedAt := env.nowIso }) state

/-- What the loop over the grants ends with: the copy of the state it has worked on is rolled back
when a grant refuses. -/
inductive GrantsOutcome where
  | denied (reason : String) (state : BudgetState)
  | reserved (appliedGrantIds : List String) (state : BudgetState)

/-- The loop over the applicable grants. -/
def reserveGrants (env : BudgetEnv) (args : ReservationArgs) :
    List Dict → List String → BudgetState → Except Exc GrantsOutcome
  | [], applied, state => .ok (.reserved applied state)
  | grant :: grants, applied, state => do
    let step ← reserveGrant env state args grant
    match step with
    | .refused reason state => .ok (.denied reason (rollbackReservations env args state applied))
    | .reserved grantId state => reserveGrants env args grants (applied ++ [grantId]) state

/-! ## The cost of a reservation -/

/-- `_estimate_input_tokens`. -/
def estimateInputTokens (inputs : Dict) : ℤ :=
  let textLength (v : Value) : Nat :=
    match v with
    | .str s => s.length
    | _ => 0
  let contentLength (v : Value) : Nat :=
    match v with
    | .dict item =>
      let content := Dict.get item "content"
      (if content.truthy then content.toStr else "").length
    | _ => 0
  let messages : List Value :=
    match Dict.get inputs "messages" with
    | .list items => items
    | _ => []
  let totalChars : Nat :=
    ((["prompt", "text", "content", "body", "subject", "system_prompt"].map fun key =>
      textLength (Dict.get inputs key)) ++ messages.map contentLength).sum
  ⌈(totalChars : ℚ) / 4⌉

/-- `x or y` on prices. -/
def orPrice (price : Option ℚ) (other : ℚ) : ℚ :=
  match price with
  | none => other
  | some q => if q = 0 then other else q

/-- `tokens * price`. -/
def tokenCost (tokens : ℤ) (price : ℚ) : Except Exc FloatVal := do
  let count ← (Value.int tokens).toFloat
  .ok (count.scale price)

/-- `_estimate_model_cost_cents`. -/
def estimateModelCostCents (env : BudgetEnv) (request : TaskExecutionRequest)
    (providerId modelId : String) : Except Exc ℤ :=
  match env.getModel providerId modelId with
  | none => .ok 0
  | some model => do
    let outputTokens ← (Dict.get request.inputs "max_tokens").toIntOr 512
    let inputPrice := orPrice model.pricingInput (orPrice model.cachedPricingInput 0)
    let inputCost ← tokenCost (estimateInputTokens request.inputs) inputPrice
    let outputCost ← tokenCost outputTokens (orPrice model.pricingOutput 0)
    let cents ← ((inputCost.add outputCost).scale (1 / 10000)).ceil
    .ok (max cents 0)

/-- Whether a list of grants limits money. -/
def anyMoneyLimit : List Dict → Except Exc Bool
  | [] => .ok false
  | grant :: grants => do
    let maxCostCents ← (getNested grant "limits" "max_cost_cents").toIntOr 0
    if 0 < maxCostCents then .ok true else anyMoneyLimit grants

/-- `_has_any_money_limits`. -/
def hasAnyMoneyLimits (env : BudgetEnv) (request : TaskExecutionRequest) (providerId : String) :
    BudgetAction Bool := do
  let state ← loadState env
  match state.budgetPolicy with
  | .dict policy => do
    let grants ← ofResult (applicableGrants env policy request providerId)
    let limited ← ofResult (anyMoneyLimit grants)
    pure (limited || (providerBudgetSettings env providerId).isSome)
  | _ => pure (providerBudgetSettings env providerId).isSome

/-- `max(_normalize_int(v), 0)`. -/
def nonNegativeInt (v : Value) : Except Exc ℤ := do
  let cents ← v.toIntOr 0
  .ok (max cents 0)

/-- `max(math.ceil(float(v) * 100.0), 0)`. -/
def usdToCents (v : Value) : Except Exc ℤ := do
  let usd ← v.toFloat
  let cents ← (usd.scale 100).ceil
  .ok (max cents 0)

/-- `_reservation_cost_cents`. -/
def reservationCostCents (env : BudgetEnv) (request : TaskExecutionRequest)
    (providerId modelId : String) : BudgetAction ℤ :=
  let constraints := request.constraints
  let budgetCents := getNested constraints "budget" "max_cost_cents"
  if ¬ budgetCents.isNull then ofResult (nonNegativeInt budgetCents)
  else if ¬ (Dict.get constraints "max_cost_cents").isNull then
    ofResult (nonNegativeInt (Dict.get constraints "max_cost_cents"))
  else if ¬ (Dict.get constraints "max_cost_usd").isNull then
    ofResult (usdToCents (Dict.get constraints "max_cost_usd"))
  else do
    let estimated ← ofResult (estimateModelCostCents env request providerId modelId)
    let limited ← hasAnyMoneyLimits env request providerId
    pure (max estimated (if limited then 1 else 0))

/-! ## Reserving -/

/-- `BudgetReservationResult`. -/
structure BudgetReservationResult where
  allowed : Bool
  reason : Option String := none
  reservationId : Option String := none
  reservedCostCents : ℤ := 0
  appliedGrantIds : List String := []
  policyStatus : Option String := none
  deriving DecidableEq, Repr

/-- The identifier of a task's reservation. -/
def reservationIdOf (taskId : String) : String := "budget-reservation:" ++ strip taskId

/-- `_normalize_string(value) or None`. -/
def nonBlank (v : Value) : Option String :=
  if v.normalizeString = "" then none else some v.normalizeString

/-- `_record_denial`. -/
def recordDenial (env : BudgetEnv) (taskId : String) (request : TaskExecutionRequest)
    (reason providerId : String) : BudgetAction Unit := do
  let state ← loadState env
  let denials := state.recentDenials ++
    [{ taskId := strip taskId
       reason := strip reason
       providerId := nonBlank (.str providerId)
       requestedBy := nonBlank (.str request.requestedBy)
       customerId := nonBlank (optStr request.customerId)
       recordedAt := env.nowIso }]
  saveState env { state with recentDenials := denials.drop (denials.length - 50) }

/-- Record a denial and report it. -/
def deny (env : BudgetEnv) (args : ReservationArgs) (request : TaskExecutionRequest)
    (reason policyStatus : String) : BudgetAction BudgetReservationResult := do
  recordDenial env args.taskId request reason args.providerId
  pure { allowed := false, reason := some reason, policyStatus := some policyStatus }

/-- `reserve_execution` without an active policy: only the provider budget is asked. -/
def reserveWithoutGrants (env : BudgetEnv) (state : BudgetState) (args : ReservationArgs)
    (request : TaskExecutionRequest) (policyStatus : String) :
    BudgetAction BudgetReservationResult := do
  let provider ← ofResult (reserveProviderBudget env state args)
  match provider.1 with
  | none => pure { allowed := true, policyStatus := some policyStatus }
  | some result =>
    if result.allowed then do
      saveState env provider.2
      pure
        { allowed := true
          reservationId := some args.reservationId
          reservedCostCents := max args.cents 0
          policyStatus := some policyStatus }
    else deny env args request "provider_budget_exhausted" policyStatus

/-- `reserve_execution` under an active policy. -/
def reserveWithGrants (env : BudgetEnv) (state : BudgetState) (args : ReservationArgs)
    (request : TaskExecutionRequest) (policy : Dict) (policyStatus : String) :
    BudgetAction BudgetReservationResult := do
  let grants ← ofResult (applicableGrants env policy request args.providerId)
  if grants = [] then deny env args request "missing_budget_grant" policyStatus
  else do
    let outcome ← ofResult (reserveGrants env args grants [] state)
    match outcome with
    | .denied reason _ => deny env args request reason policyStatus
    | .reserved applied state => do
      let provider ← ofResult (reserveProviderBudget env state args)
      if provider.1.map ProviderBudgetResult.allowed = some false then
        -- the copy is rolled back here as well, and dropped
        deny env args request "provider_budget_exhausted" policyStatus
      else do
        saveState env provider.2
        pure
          { allowed := true
            reservationId := some args.reservationId
            reservedCostCents := max args.cents 0
            appliedGrantIds := applied
            policyStatus := some policyStatus }

/-- `reserve_execution`. -/
def reserveExecution (env : BudgetEnv) (taskId : String) (request : TaskExecutionRequest)
    (providerId modelId : String) (bundle : Value) : BudgetAction BudgetReservationResult := do
  let state ← loadState env
  let cached ← cachePolicyFromGovernance env bundle
  let cents ← reservationCostCents env request providerId modelId
  let args : ReservationArgs :=
    { reservationId := reservationIdOf taskId
      taskId := taskId
      providerId := providerId
      modelId := modelId
      cents := cents }
  match cached.orElse state.budgetPolicy with
  | .dict policy =>
    let state := { state with budgetPolicy := .dict policy }
    let status := (Dict.get policy "status").normalizeLower
    if status ≠ "active" then
      reserveWithoutGrants env state args request (if status = "" then "unconfigured" else status)
    else reserveWithGrants env state args request policy status
  | _ => reserveWithoutGrants env state args request "unconfigured"

/-! ## Finalizing and releasing -/

/-- Take a reservation out of a grant entry. -/
def GrantUsage.release (reservationId nowIso : String) (u : GrantUsage) : GrantUsage :=
  match u.reservations.get? reservationId with
  | none => u
  | some r =>
    { u with
      reservations := u.reservations.erase reservationId
      reservedCostCents := max (u.reservedCostCents - r.reservedCostCents) 0
      updatedAt := nowIso }

/-- Take a reservation out of a provider entry. -/
def ProviderUsage.release (reservationId nowIso : String) (u : ProviderUsage) : ProviderUsage :=
  match u.reservations.get? reservationId with
  | none => u
  | some r =>
    { u with
      reservations := u.reservations.erase reservationId
      reservedCostCents := max (u.reservedCostCents - r.reservedCostCents) 0
      updatedAt := nowIso }

/-- What is known about the cost of a finished execution. -/
structure FinalCost where
  completed : Bool
  finalCostCents : Option ℤ
  metrics : Option TaskExecutionMetrics

/-- `_final_cost_cents`. -/
def finalCostCents (metrics : Option TaskExecutionMetrics) : Except Exc (Option ℤ) :=
  match metrics.bind TaskExecutionMetrics.estimatedCost with
  | none => .ok none
  | some cost => do
    let cents ← (cost.scale 100).ceil
    .ok (some (max cents 0))

/-- The total tokens of the metrics. -/
def totalTokensOf (metrics : Option TaskExecutionMetrics) : ℤ :=
  (metrics.map TaskExecutionMetrics.totalTokens).getD 0

/-- The cost `finalize_execution` applies to a reservation of a grant. -/
def FinalCost.applied (cost : FinalCost) (r : Reservation) : ℤ :=
  cost.finalCostCents.getD r.reservedCostCents

/-- Finalize the reservation of a grant entry. -/
def GrantUsage.finalize (reservationId nowIso : String) (cost : FinalCost) (u : GrantUsage) :
    GrantUsage :=
  match u.reservations.get? reservationId with
  | none => u
  | some r =>
    let released := u.release reservationId nowIso
    if cost.completed then
      { released with
        usedCostCents := released.usedCostCents + max (cost.applied r) 0
        usedRequests := released.usedRequests + 1
        usedTokens := released.usedTokens + totalTokensOf cost.metrics }
    else released

/-- `_queue_usage_summary`. -/
def GrantUsage.summary (nowIso : String) (u : GrantUsage) : UsageSummary where
  grantId := strip u.grantId
  service := "ai.inference"
  periodStart := u.periodStart
  periodEnd := u.periodEnd
  usedRequests := u.usedRequests
  usedTokens := u.usedTokens
  usedCostCents := u.usedCostCents
  queuedAt := nowIso

/-- `_final_cost_usd_exact`, with the fallback `0`. -/
def finalCostUsdExact (metrics : Option TaskExecutionMetrics) : FloatVal :=
  match metrics.bind TaskExecutionMetrics.estimatedCost with
  | none => .finite 0
  | some cost => if cost.isNonneg then cost else .finite 0

/-- `_normalize_float`: negative values and `nan` count as they do there. -/
def normalizeFloat (x : FloatVal) : FloatVal :=
  match x with
  | .finite q => if q < 0 then .finite 0 else .finite q
  | .negInf => .finite 0
  | x => x

/-- Finalize the reservation of a provider entry. -/
def ProviderUsage.finalize (reservationId nowIso : String) (cost : FinalCost) (u : ProviderUsage) :
    Except Exc ProviderUsage :=
  match u.reservations.get? reservationId with
  | none => .ok u
  | some _ =>
    let released := u.release reservationId nowIso
    if cost.completed then do
      let used := ((normalizeFloat u.usedCostUsdExact).add (finalCostUsdExact cost.metrics)).round10
      let cents ← ((normalizeFloat used).scale 100).ceil
      .ok { released with usedCostUsdExact := used, usedCostCents := max cents 0 }
    else .ok released

/-- What `finalize_execution` returns. -/
structure FinalizeResult where
  finalized : List (String × ℤ)
  providerFinalized : List (String × ℤ)
  deriving DecidableEq, Repr

/-- Save the state if the condition holds. -/
def saveIf (condition : Bool) (env : BudgetEnv) (state : BudgetState) : BudgetAction Unit :=
  if condition then saveState env state else pure ()

/-- `finalize_execution`. -/
def finalizeExecution (env : BudgetEnv) (taskId : String) (metrics : Option TaskExecutionMetrics)
    (status : String) : BudgetAction FinalizeResult := do
  let state ← loadState env
  let reservationId := reservationIdOf taskId
  let cents ← ofResult (finalCostCents metrics)
  let cost : FinalCost :=
    { completed := status == "completed", finalCostCents := cents, metrics := metrics }
  let finalized := state.grantUsage.values.filterMap fun u =>
    (u.reservations.get? reservationId).map fun r => (u.grantId, cost.applied r)
  let providerFinalized := state.providerBudgetUsage.values.filterMap fun u =>
    (u.reservations.get? reservationId).map fun _ => (u.providerId, cents.getD 0)
  let settled := state.grantUsage.values.filter fun u => u.reservations.contains reservationId
  let summaries := if cost.completed then
    settled.map fun u => (u.finalize reservationId env.nowIso cost).summary env.nowIso else []
  let providers ← ofResult
    (state.providerBudgetUsage.updateValues (ProviderUsage.finalize reservationId env.nowIso cost))
  saveIf (!finalized.isEmpty || !providerFinalized.isEmpty) env
    { state with
      grantUsage := state.grantUsage.mapValues (GrantUsage.finalize reservationId env.nowIso cost)
      providerBudgetUsage := providers
      pendingUsageSummaries := state.pendingUsageSummaries ++ summaries }
  pure { finalized := finalized, providerFinalized := providerFinalized }

/-- One entry of the report of `release_execution`. -/
structure Released where
  id : String
  releasedCostCents : ℤ
  reason : String
  deriving DecidableEq, Repr

/-- What `release_execution` returns. -/
structure ReleaseResult where
  released : List Released
  providerReleased : List Released
  deriving DecidableEq, Repr

/-- `release_execution`. -/
def releaseExecution (env : BudgetEnv) (taskId reason : String) : BudgetAction ReleaseResult := do
  let state ← loadState env
  let reservationId := reservationIdOf taskId
  let released := state.grantUsage.values.filterMap fun u =>
    (u.reservations.get? reservationId).map fun r => ⟨u.grantId, r.reservedCostCents, reason⟩
  let providerReleased := state.providerBudgetUsage.values.filterMap fun u =>
    (u.reservations.get? reservationId).map fun r => ⟨u.providerId, r.reservedCostCents, reason⟩
  saveIf (!released.isEmpty || !providerReleased.isEmpty) env
    { state with
      grantUsage := state.grantUsage.mapValues (GrantUsage.release reservationId env.nowIso)
      providerBudgetUsage :=
        state.providerBudgetUsage.mapValues (ProviderUsage.release reservationId env.nowIso) }
  pure { released := released, providerReleased := providerReleased }

end Budget
end HexeAiNode
