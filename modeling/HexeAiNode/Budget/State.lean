import HexeAiNode.Library.ReservationLedger
import HexeAiNode.Python.Coercion

/-!
# The budget state

The persisted state of the budget manager: the active policy, and two families of ledgers, one entry
per grant and one per provider and period.  Every entry keeps a dictionary of reservations and,
beside it, the amount they reserve.

The policy stays a value, as it arrives from governance; the ledgers are typed, because the code
builds them itself and `validate_budget_state` enforces their types when they are read back.  What
remains of that check is `BudgetState.error`, the first field it complains about.

`GrantUsage.account` and `ProviderUsage.account` view an entry as an abstract account of
`ReservationLedger`; that an entry is consistent means that its account is balanced.
-/

namespace HexeAiNode
namespace Budget

open Py

/-! ## The state -/

/-- One reservation of an entry. -/
structure Reservation where
  reservationId : String
  taskId : String
  reservedCostCents : ℤ := 0
  providerId : String := ""
  modelId : String := ""
  createdAt : String
  deriving DecidableEq, Repr

/-- The reservations of an entry. -/
abbrev Reservations := OrderedDict String Reservation

/-- A `grant_usage` entry. -/
structure GrantUsage where
  grantId : String
  periodStart : Value
  periodEnd : Value
  usedCostCents : ℤ := 0
  usedRequests : ℤ := 0
  usedTokens : ℤ := 0
  reservedCostCents : ℤ := 0
  reservations : Reservations
  updatedAt : String

/-- A `provider_budget_usage` entry. -/
structure ProviderUsage where
  providerId : String
  period : String
  periodStart : String
  periodEnd : String
  budgetLimitCents : ℤ
  usedCostCents : ℤ := 0
  usedCostUsdExact : FloatVal := .finite 0
  reservedCostCents : ℤ := 0
  reservations : Reservations
  updatedAt : String

/-- A recorded denial. -/
structure Denial where
  taskId : String
  reason : String
  providerId : Option String
  requestedBy : Option String
  customerId : Option String
  recordedAt : String
  deriving DecidableEq, Repr

/-- A usage summary that waits to be submitted. -/
structure UsageSummary where
  grantId : String
  service : String
  periodStart : Value
  periodEnd : Value
  usedRequests : ℤ
  usedTokens : ℤ
  usedCostCents : ℤ
  queuedAt : String

/-- The budget state. -/
structure BudgetState where
  budgetPolicy : Value
  grantUsage : OrderedDict String GrantUsage
  providerBudgetUsage : OrderedDict String ProviderUsage
  recentDenials : List Denial
  pendingUsageSummaries : List UsageSummary
  updatedAt : String

/-- `create_budget_state`. -/
def createBudgetState (nowIso : String) : BudgetState where
  budgetPolicy := .null
  grantUsage := .empty
  providerBudgetUsage := .empty
  recentDenials := []
  pendingUsageSummaries := []
  updatedAt := nowIso

/-! ## Validation -/

/-- The error of the first check that fails. -/
def firstError (checks : List (Bool × String)) : Option String :=
  (checks.find? fun c => !c.1).map Prod.snd

theorem firstError_eq_none_iff {checks : List (Bool × String)} :
    firstError checks = none ↔ ∀ c ∈ checks, c.1 = true := by
  simp [firstError]

/-- `_is_non_empty_string`. -/
def isNonEmptyString : Value → Bool
  | .str s => strip s != ""
  | _ => false

/-- `field in values`, for a field that holds a text. -/
def isOneOf (values : List String) : Value → Bool
  | .str s => values.contains s
  | _ => false

/-- `value is None or isinstance(value, dict)`. -/
def isOptionalDict (v : Value) : Bool := v.isNull || v.isDict

/-- One check for each field that holds a non-blank text. -/
def requiredStrings (error : String → String) (d : Dict) (fields : List String) :
    List (Bool × String) :=
  fields.map fun field => (isNonEmptyString (Dict.get d field), error field)

/-- The checks of one grant of a policy. -/
def grantError (index : Nat) : Value → Option String
  | .dict grant =>
    let error (field : String) : String :=
      "invalid_budget_policy_grant_" ++ field ++ ":" ++ toString index
    firstError <|
      requiredStrings error grant
        ["grant_id", "consumer_node_id", "service", "period_start", "period_end", "status",
          "scope_kind", "subject_id", "governance_version", "budget_policy_version",
          "issued_at"] ++
      [(isOneOf ["active", "expired"] (Dict.get grant "status"), error "status"),
        (isOneOf ["node", "customer", "service", "provider"] (Dict.get grant "scope_kind"),
          error "scope_kind"),
        (isOptionalDict (Dict.get grant "limits"), error "limits"),
        (isOptionalDict (Dict.get grant "metadata"), error "metadata")]
  | _ => some ("invalid_budget_policy_grant:" ++ toString index)

/-- `_validate_budget_policy`. -/
def validateBudgetPolicy : Value → Option String
  | .null => none
  | .dict policy =>
    let required := ["node_id", "service", "status", "governance_version"] ++
      (if Value.normalizeString (Dict.get policy "status") ≠ "not_configured" then
        ["budget_policy_version", "period_start", "period_end", "issued_at"]
      else [])
    firstError (requiredStrings ("invalid_budget_policy_" ++ ·) policy required) <|>
      match Dict.get policy "grants" with
      | .list grants => grants.zipIdx.findSome? fun g => grantError g.2 g.1
      | _ => some "invalid_budget_policy_grants"
  | _ => some "invalid_budget_policy"

/-- The checks of one reservation; `ledger` starts the error texts. -/
def Reservation.error (ledger key : String) (r : Reservation) : Option String :=
  firstError
    [(isNonEmptyString (.str key), ledger ++ "_reservation_entry"),
      (isNonEmptyString (.str r.reservationId), ledger ++ "_reservation_reservation_id"),
      (isNonEmptyString (.str r.taskId), ledger ++ "_reservation_task_id"),
      (isNonEmptyString (.str r.createdAt), ledger ++ "_reservation_created_at"),
      (decide (0 ≤ r.reservedCostCents), ledger ++ "_reservation_reserved_cost_cents")]

/-- The checks of the reservations of an entry. -/
def reservationsError (ledger : String) (reservations : Reservations) : Option String :=
  reservations.entries.findSome? fun e => e.2.error ledger e.1

/-- The checks of a `grant_usage` entry. -/
def GrantUsage.error (key : String) (u : GrantUsage) : Option String :=
  firstError
    [(isNonEmptyString (.str key), "invalid_grant_usage_entry"),
      (isNonEmptyString (.str u.grantId), "invalid_grant_usage_grant_id"),
      (isNonEmptyString u.periodStart, "invalid_grant_usage_period_start"),
      (isNonEmptyString u.periodEnd, "invalid_grant_usage_period_end"),
      (isNonEmptyString (.str u.updatedAt), "invalid_grant_usage_updated_at"),
      (decide (0 ≤ u.usedCostCents), "invalid_grant_usage_used_cost_cents"),
      (decide (0 ≤ u.usedRequests), "invalid_grant_usage_used_requests"),
      (decide (0 ≤ u.usedTokens), "invalid_grant_usage_used_tokens"),
      (decide (0 ≤ u.reservedCostCents), "invalid_grant_usage_reserved_cost_cents")] <|>
    reservationsError "invalid_grant_usage" u.reservations

/-- The checks of a `provider_budget_usage` entry. -/
def ProviderUsage.error (key : String) (u : ProviderUsage) : Option String :=
  firstError
    [(isNonEmptyString (.str key), "invalid_provider_budget_usage_entry"),
      (isNonEmptyString (.str u.providerId), "invalid_provider_budget_usage_provider_id"),
      (isNonEmptyString (.str u.period), "invalid_provider_budget_usage_period"),
      (isNonEmptyString (.str u.periodStart), "invalid_provider_budget_usage_period_start"),
      (isNonEmptyString (.str u.periodEnd), "invalid_provider_budget_usage_period_end"),
      (isNonEmptyString (.str u.updatedAt), "invalid_provider_budget_usage_updated_at"),
      (decide (0 ≤ u.usedCostCents), "invalid_provider_budget_usage_used_cost_cents"),
      (decide (0 ≤ u.reservedCostCents), "invalid_provider_budget_usage_reserved_cost_cents"),
      (u.usedCostUsdExact.isNonneg, "invalid_provider_budget_usage_used_cost_usd_exact")] <|>
    reservationsError "invalid_provider_budget_usage" u.reservations

/-- The checks of a denial. -/
def Denial.error (d : Denial) : Option String :=
  firstError
    [(isNonEmptyString (.str d.taskId), "invalid_recent_denial_task_id"),
      (isNonEmptyString (.str d.reason), "invalid_recent_denial_reason"),
      (isNonEmptyString (.str d.recordedAt), "invalid_recent_denial_recorded_at")]

/-- The checks of a usage summary. -/
def UsageSummary.error (s : UsageSummary) : Option String :=
  firstError
    [(isNonEmptyString (.str s.grantId), "invalid_pending_usage_summary_grant_id"),
      (isNonEmptyString s.periodStart, "invalid_pending_usage_summary_period_start"),
      (isNonEmptyString s.periodEnd, "invalid_pending_usage_summary_period_end"),
      (isNonEmptyString (.str s.service), "invalid_pending_usage_summary_service"),
      (isNonEmptyString (.str s.queuedAt), "invalid_pending_usage_summary_queued_at")]

/-- `validate_budget_state`: the first error of a state. -/
def BudgetState.error (s : BudgetState) : Option String :=
  validateBudgetPolicy s.budgetPolicy <|>
    s.grantUsage.entries.findSome? (fun e => e.2.error e.1) <|>
    s.providerBudgetUsage.entries.findSome? (fun e => e.2.error e.1) <|>
    s.recentDenials.findSome? Denial.error <|>
    s.pendingUsageSummaries.findSome? UsageSummary.error <|>
    firstError [(isNonEmptyString (.str s.updatedAt), "invalid_updated_at")]

/-- What the checks of a state ask for, part by part. -/
structure BudgetState.Valid (s : BudgetState) : Prop where
  policy : validateBudgetPolicy s.budgetPolicy = none
  grants : ∀ e ∈ s.grantUsage.entries, e.2.error e.1 = none
  providers : ∀ e ∈ s.providerBudgetUsage.entries, e.2.error e.1 = none
  denials : ∀ d ∈ s.recentDenials, d.error = none
  summaries : ∀ d ∈ s.pendingUsageSummaries, d.error = none
  updatedAt : isNonEmptyString (.str s.updatedAt) = true

/-- A state without an error is valid. -/
theorem BudgetState.valid_iff {s : BudgetState} : s.Valid ↔ s.error = none := by
  simp only [BudgetState.error, Option.orElse_eq_orElse, Option.orElse_eq_or, Option.or_eq_none_iff,
    List.findSome?_eq_none_iff, firstError_eq_none_iff, List.mem_singleton, forall_eq]
  constructor
  · rintro ⟨h₁, h₂, h₃, h₄, h₅, h₆⟩
    exact ⟨h₁, h₂, h₃, h₄, h₅, h₆⟩
  · rintro ⟨h₁, h₂, h₃, h₄, h₅, h₆⟩
    exact ⟨h₁, h₂, h₃, h₄, h₅, h₆⟩

instance (s : BudgetState) : Decidable s.Valid := decidable_of_iff _ BudgetState.valid_iff.symm

/-- A created state is valid when the clock gives a text. -/
theorem valid_createBudgetState {nowIso : String} (h : isNonEmptyString (.str nowIso) = true) :
    (createBudgetState nowIso).Valid where
  policy := rfl
  grants := fun _ he => absurd he List.not_mem_nil
  providers := fun _ he => absurd he List.not_mem_nil
  denials := fun _ he => absurd he List.not_mem_nil
  summaries := fun _ he => absurd he List.not_mem_nil
  updatedAt := h

/-! ## Accounts -/

/-- An entry as an account: the reserved amount and the amounts of its reservations. -/
def accountOf (reserved : ℤ) (reservations : Reservations) :
    ReservationLedger.Account String where
  reserved := reserved
  reservations := reservations.mapValues Reservation.reservedCostCents

/-- The account of a grant entry. -/
def GrantUsage.account (u : GrantUsage) : ReservationLedger.Account String :=
  accountOf u.reservedCostCents u.reservations

/-- The account of a provider entry. -/
def ProviderUsage.account (u : ProviderUsage) : ReservationLedger.Account String :=
  accountOf u.reservedCostCents u.reservations

/-- The reserved amount is the sum over the reservations map. -/
def reservedIsSum (reserved : ℤ) (reservations : Reservations) : Prop :=
  reserved = reservations.total Reservation.reservedCostCents

/-- **Ledger consistency**: every entry of both ledgers reserves the sum of its reservations. -/
structure BudgetState.Consistent (s : BudgetState) : Prop where
  grants : ∀ u ∈ s.grantUsage.values, reservedIsSum u.reservedCostCents u.reservations
  providers : ∀ u ∈ s.providerBudgetUsage.values, reservedIsSum u.reservedCostCents u.reservations

instance (reserved : ℤ) (reservations : Reservations) :
    Decidable (reservedIsSum reserved reservations) :=
  inferInstanceAs (Decidable (_ = _))

instance (s : BudgetState) : Decidable s.Consistent :=
  decidable_of_iff
    ((∀ u ∈ s.grantUsage.values, reservedIsSum u.reservedCostCents u.reservations) ∧
      ∀ u ∈ s.providerBudgetUsage.values, reservedIsSum u.reservedCostCents u.reservations)
    ⟨fun h => ⟨h.1, h.2⟩, fun h => ⟨h.grants, h.providers⟩⟩

/-- Every entry of both ledgers is a balanced account. -/
structure BudgetState.Balanced (s : BudgetState) : Prop where
  grants : ∀ u ∈ s.grantUsage.values, u.account.Balanced
  providers : ∀ u ∈ s.providerBudgetUsage.values, u.account.Balanced

/-- Checked reservations are non-negative. -/
theorem nonneg_of_reservationsError {ledger : String} {reservations : Reservations}
    (h : reservationsError ledger reservations = none) :
    ∀ r ∈ reservations.values, 0 ≤ r.reservedCostCents := by
  intro r hr
  obtain ⟨⟨key, r⟩, hmem, rfl⟩ := List.mem_map.mp hr
  have hchecks := firstError_eq_none_iff.mp (List.findSome?_eq_none_iff.mp h (key, r) hmem)
  simp only [List.forall_mem_cons, decide_eq_true_eq] at hchecks
  exact hchecks.2.2.2.2.1

/-- An account is balanced when its amounts are non-negative and the reserved amount is their sum. -/
theorem balanced_accountOf_iff {reserved : ℤ} {reservations : Reservations} :
    (accountOf reserved reservations).Balanced ↔
      (∀ r ∈ reservations.values, 0 ≤ r.reservedCostCents) ∧
        reservedIsSum reserved reservations := by
  have hvalues : (reservations.mapValues Reservation.reservedCostCents).values =
      reservations.values.map Reservation.reservedCostCents := by
    simp [OrderedDict.values, OrderedDict.mapValues, Function.comp_def]
  have htotal : (reservations.mapValues Reservation.reservedCostCents).total id =
      reservations.total Reservation.reservedCostCents := by
    rw [OrderedDict.total_mapValues]
    rfl
  constructor
  · intro h
    refine ⟨fun r hr => h.nonneg _ ?_, h.sum.trans htotal⟩
    show r.reservedCostCents ∈ (reservations.mapValues Reservation.reservedCostCents).values
    rw [hvalues]
    exact List.mem_map_of_mem hr
  · rintro ⟨hnonneg, hsum⟩
    refine ⟨fun a ha => ?_, hsum.trans htotal.symm⟩
    have ha : a ∈ (reservations.mapValues Reservation.reservedCostCents).values := ha
    rw [hvalues] at ha
    obtain ⟨r, hr, rfl⟩ := List.mem_map.mp ha
    exact hnonneg r hr

theorem GrantUsage.reservationsError_eq_none {key : String} {u : GrantUsage}
    (h : u.error key = none) : reservationsError "invalid_grant_usage" u.reservations = none := by
  simp only [GrantUsage.error, Option.orElse_eq_orElse, Option.orElse_eq_or,
    Option.or_eq_none_iff] at h
  exact h.2

theorem ProviderUsage.reservationsError_eq_none {key : String} {u : ProviderUsage}
    (h : u.error key = none) :
    reservationsError "invalid_provider_budget_usage" u.reservations = none := by
  simp only [ProviderUsage.error, Option.orElse_eq_orElse, Option.orElse_eq_or,
    Option.or_eq_none_iff] at h
  exact h.2

/-- In a valid state, consistency is balance. -/
theorem BudgetState.balanced_of_consistent {s : BudgetState} (hvalid : s.Valid)
    (h : s.Consistent) : s.Balanced := by
  constructor
  · intro u hu
    refine balanced_accountOf_iff.mpr ⟨?_, h.grants u hu⟩
    obtain ⟨⟨key, u⟩, hmem, rfl⟩ := List.mem_map.mp hu
    exact nonneg_of_reservationsError (GrantUsage.reservationsError_eq_none (hvalid.grants _ hmem))
  · intro u hu
    refine balanced_accountOf_iff.mpr ⟨?_, h.providers u hu⟩
    obtain ⟨⟨key, u⟩, hmem, rfl⟩ := List.mem_map.mp hu
    exact nonneg_of_reservationsError
      (ProviderUsage.reservationsError_eq_none (hvalid.providers _ hmem))

theorem BudgetState.Balanced.consistent {s : BudgetState} (h : s.Balanced) : s.Consistent :=
  ⟨fun u hu => (balanced_accountOf_iff.mp (h.grants u hu)).2,
    fun u hu => (balanced_accountOf_iff.mp (h.providers u hu)).2⟩

end Budget
end HexeAiNode
