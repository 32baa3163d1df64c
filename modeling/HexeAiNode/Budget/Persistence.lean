import HexeAiNode.Budget.Validity
import HexeAiNode.Python.Json

/-!
# The budget state on disk

`BudgetStateStore` writes the state as JSON and reads it back.  `validateBudgetState` is
`validate_budget_state` on the dictionary itself, with the types it checks; on the dictionary of a typed state
it finds exactly the errors of `BudgetState.error` (`validateBudgetState_toJson`), and what it accepts it
accepts after a round trip (`validateBudgetState_sortKeys`).  So a state that was saved is loaded again, and
equals the one that was saved (`loadFile_of_saveFile`).
-/

namespace HexeAiNode
namespace Budget

open Py Value

/-! ## Validation of a dictionary -/

/-- `isinstance(value, int) and value >= 0`; booleans are integers. -/
def isNonNegativeInt : Value → Bool
  | .int i => decide (0 ≤ i)
  | .bool _ => true
  | _ => false

/-- `_is_non_negative_number`. -/
def isNonNegativeNumber : Value → Bool
  | .int i => decide (0 ≤ i)
  | .bool _ => true
  | .float x _ => x.isNonneg
  | _ => false

/-- `d.get(key, default)`. -/
def getOr (d : Dict) (key : String) (default : Value) : Value := (Assoc.get? d key).getD default

/-- One check for each field that holds an amount, `0` when it is missing. -/
def requiredAmounts (error : String → String) (d : Dict) (fields : List String) : List (Bool × String) :=
  fields.map fun field => (isNonNegativeInt (getOr d field (.int 0)), error field)

/-- A check of every entry of a dictionary. -/
def entriesError (error : String) (check : String × Value → Option String) : Value → Option String
  | .dict entries => entries.findSome? check
  | _ => some error

/-- A check of every element of a list. -/
def elementsError (error : String) (check : Value → Option String) : Value → Option String
  | .list elements => elements.findSome? check
  | _ => some error

/-- The checks of one reservation. -/
def reservationEntryError (ledger : String) : String × Value → Option String
  | (key, .dict reservation) =>
    firstError <|
      [(isNonEmptyString (.str key), ledger ++ "_reservation_entry")] ++
      requiredStrings (fun field => ledger ++ ("_reservation_" ++ field)) reservation
        ["reservation_id", "task_id", "created_at"] ++
      requiredAmounts (fun field => ledger ++ ("_reservation_" ++ field)) reservation ["reserved_cost_cents"]
  | _ => some (ledger ++ "_reservation_entry")

/-- The checks of one entry of a ledger. -/
def usageEntryError (ledger : String) (strings amounts numbers : List String) :
    String × Value → Option String
  | (key, .dict entry) =>
    firstError
      ([(isNonEmptyString (.str key), ledger ++ "_entry")] ++
        requiredStrings (fun field => ledger ++ ("_" ++ field)) entry strings ++
        requiredAmounts (fun field => ledger ++ ("_" ++ field)) entry amounts ++
        numbers.map fun field =>
          (isNonNegativeNumber (getOr entry field (.int 0)), ledger ++ ("_" ++ field))) <|>
      entriesError (ledger ++ "_reservations") (reservationEntryError ledger) (Dict.get entry "reservations")
  | _ => some (ledger ++ "_entry")

/-- The checks of one entry of `grant_usage`. -/
def grantUsageEntryError : String × Value → Option String :=
  usageEntryError "invalid_grant_usage" ["grant_id", "period_start", "period_end", "updated_at"]
    ["used_cost_cents", "used_requests", "used_tokens", "reserved_cost_cents"] []

/-- The checks of one entry of `provider_budget_usage`. -/
def providerUsageEntryError : String × Value → Option String :=
  usageEntryError "invalid_provider_budget_usage"
    ["provider_id", "period", "period_start", "period_end", "updated_at"]
    ["used_cost_cents", "reserved_cost_cents"] ["used_cost_usd_exact"]

/-- The checks of a dictionary in a list. -/
def recordError (name : String) (fields : List String) : Value → Option String
  | .dict entry => firstError (requiredStrings (fun field => name ++ "_" ++ field) entry fields)
  | _ => some name

/-- `validate_budget_state`. -/
def validateBudgetState : Value → Option String
  | .dict data =>
    firstError [((Dict.get data "schema_version").normalizeString == "1.0", "invalid_schema_version")] <|>
      validateBudgetPolicy (Dict.get data "budget_policy") <|>
      entriesError "invalid_grant_usage" grantUsageEntryError (Dict.get data "grant_usage") <|>
      entriesError "invalid_provider_budget_usage" providerUsageEntryError
        (Dict.get data "provider_budget_usage") <|>
      elementsError "invalid_recent_denials"
        (recordError "invalid_recent_denial" ["task_id", "reason", "recorded_at"])
        (Dict.get data "recent_denials") <|>
      elementsError "invalid_pending_usage_summaries"
        (recordError "invalid_pending_usage_summary"
          ["grant_id", "period_start", "period_end", "service", "queued_at"])
        (Dict.get data "pending_usage_summaries") <|>
      firstError [(isNonEmptyString (Dict.get data "updated_at"), "invalid_updated_at")]
  | _ => some "invalid_budget_state_object"

/-! ## A typed state as a dictionary -/

/-- An optional text. -/
def optText : Option String → Value
  | some text => .str text
  | none => .null

def Reservation.toJson (r : Reservation) : Value :=
  .dict
    [("reservation_id", .str r.reservationId), ("task_id", .str r.taskId),
      ("reserved_cost_cents", .int r.reservedCostCents), ("provider_id", .str r.providerId),
      ("model_id", .str r.modelId), ("created_at", .str r.createdAt)]

/-- A dictionary of records. -/
def recordsToJson {α : Type} (toJson : α → Value) (records : OrderedDict String α) : Value :=
  .dict (records.entries.map fun e => (e.1, toJson e.2))

def GrantUsage.toJson (u : GrantUsage) : Value :=
  .dict
    [("grant_id", .str u.grantId), ("period_start", u.periodStart), ("period_end", u.periodEnd),
      ("used_cost_cents", .int u.usedCostCents), ("used_requests", .int u.usedRequests),
      ("used_tokens", .int u.usedTokens), ("reserved_cost_cents", .int u.reservedCostCents),
      ("reservations", recordsToJson Reservation.toJson u.reservations), ("updated_at", .str u.updatedAt)]

/-- `text` writes a float. -/
def ProviderUsage.toJson (text : FloatVal → String) (u : ProviderUsage) : Value :=
  .dict
    [("provider_id", .str u.providerId), ("period", .str u.period), ("period_start", .str u.periodStart),
      ("period_end", .str u.periodEnd), ("budget_limit_cents", .int u.budgetLimitCents),
      ("used_cost_cents", .int u.usedCostCents),
      ("used_cost_usd_exact", .float u.usedCostUsdExact (text u.usedCostUsdExact)),
      ("reserved_cost_cents", .int u.reservedCostCents),
      ("reservations", recordsToJson Reservation.toJson u.reservations), ("updated_at", .str u.updatedAt)]

def Denial.toJson (d : Denial) : Value :=
  .dict
    [("task_id", .str d.taskId), ("reason", .str d.reason), ("provider_id", optText d.providerId),
      ("requested_by", optText d.requestedBy), ("customer_id", optText d.customerId),
      ("recorded_at", .str d.recordedAt)]

def UsageSummary.toJson (s : UsageSummary) : Value :=
  .dict
    [("grant_id", .str s.grantId), ("service", .str s.service), ("period_start", s.periodStart),
      ("period_end", s.periodEnd), ("used_requests", .int s.usedRequests),
      ("used_tokens", .int s.usedTokens), ("used_cost_cents", .int s.usedCostCents),
      ("queued_at", .str s.queuedAt)]

/-- The dictionary the manager hands to `save`. -/
def BudgetState.toJson (text : FloatVal → String) (s : BudgetState) : Value :=
  .dict
    [("schema_version", .str "1.0"), ("budget_policy", s.budgetPolicy),
      ("grant_usage", recordsToJson GrantUsage.toJson s.grantUsage),
      ("provider_budget_usage", recordsToJson (ProviderUsage.toJson text) s.providerBudgetUsage),
      ("recent_denials", .list (s.recentDenials.map Denial.toJson)),
      ("pending_usage_summaries", .list (s.pendingUsageSummaries.map UsageSummary.toJson)),
      ("updated_at", .str s.updatedAt)]

theorem get_cons (k : String) (v : Value) (d : Dict) (key : String) :
    Dict.get ((k, v) :: d) key = if k = key then v else Dict.get d key := by
  unfold Dict.get
  rw [Assoc.get?_cons]
  split <;> rfl

theorem getOr_cons (k : String) (v default : Value) (d : Dict) (key : String) :
    getOr ((k, v) :: d) key default = if k = key then v else getOr d key default := by
  unfold getOr
  rw [Assoc.get?_cons]
  split <;> rfl

section Typed

variable {α : Type} {toJson : α → Value} {error : String}

/-- The checks of the entries of a dictionary of records. -/
theorem entriesError_recordsToJson {check : String × Value → Option String} {check' : String → α → Option String}
    (h : ∀ key a, check (key, toJson a) = check' key a) (records : OrderedDict String α) :
    entriesError error check (recordsToJson toJson records) =
      records.entries.findSome? fun e => check' e.1 e.2 := by
  unfold entriesError recordsToJson
  dsimp only
  rw [List.findSome?_map]
  refine congrArg (fun f => List.findSome? f records.entries) (funext fun e => ?_)
  exact h e.1 e.2

theorem elementsError_map {check : Value → Option String} {check' : α → Option String}
    (h : ∀ a, check (toJson a) = check' a) (elements : List α) :
    elementsError error check (.list (elements.map toJson)) = elements.findSome? check' := by
  unfold elementsError
  dsimp only
  rw [List.findSome?_map]
  exact congrArg (fun f => List.findSome? f elements) (funext fun a => h a)

theorem reservationEntryError_toJson (ledger key : String) (r : Reservation) :
    reservationEntryError ledger (key, r.toJson) = r.error ledger key := by
  unfold reservationEntryError Reservation.toJson Reservation.error
  simp only [requiredStrings, requiredAmounts, List.map_cons, List.map_nil, get_cons, getOr_cons,
    String.reduceEq, if_true, if_false, List.cons_append, List.nil_append, String.reduceAppend, isNonNegativeInt]

theorem reservationsError_toJson (ledger : String) (reservations : Reservations) :
    entriesError error (reservationEntryError ledger) (recordsToJson Reservation.toJson reservations) =
      reservationsError ledger reservations :=
  entriesError_recordsToJson (reservationEntryError_toJson ledger) reservations

theorem grantUsageEntryError_toJson (key : String) (u : GrantUsage) :
    grantUsageEntryError (key, u.toJson) = u.error key := by
  unfold grantUsageEntryError usageEntryError GrantUsage.toJson GrantUsage.error
  simp only [requiredStrings, requiredAmounts, List.map_cons, List.map_nil, get_cons, getOr_cons,
    String.reduceEq, if_true, if_false, List.cons_append, List.nil_append, String.reduceAppend,
    isNonNegativeInt, reservationsError_toJson]

theorem providerUsageEntryError_toJson (text : FloatVal → String) (key : String) (u : ProviderUsage) :
    providerUsageEntryError (key, u.toJson text) = u.error key := by
  unfold providerUsageEntryError usageEntryError ProviderUsage.toJson ProviderUsage.error
  simp only [requiredStrings, requiredAmounts, List.map_cons, List.map_nil, get_cons, getOr_cons,
    String.reduceEq, if_true, if_false, List.cons_append, List.nil_append, String.reduceAppend,
    isNonNegativeInt, isNonNegativeNumber, reservationsError_toJson]

theorem recordError_denial (d : Denial) :
    recordError "invalid_recent_denial" ["task_id", "reason", "recorded_at"] d.toJson = d.error := by
  unfold recordError Denial.toJson Denial.error
  simp only [requiredStrings, List.map_cons, List.map_nil, get_cons, String.reduceEq, if_true, if_false,
    String.reduceAppend]

theorem recordError_usageSummary (s : UsageSummary) :
    recordError "invalid_pending_usage_summary"
      ["grant_id", "period_start", "period_end", "service", "queued_at"] s.toJson = s.error := by
  unfold recordError UsageSummary.toJson UsageSummary.error
  simp only [requiredStrings, List.map_cons, List.map_nil, get_cons, String.reduceEq, if_true, if_false,
    String.reduceAppend]

end Typed

/-- **The typed checks are the checks of the dictionary.** -/
theorem validateBudgetState_toJson (text : FloatVal → String) (s : BudgetState) :
    validateBudgetState (s.toJson text) = s.error := by
  have hversion : firstError [((Value.str "1.0").normalizeString == "1.0", "invalid_schema_version")] = none := by
    decide
  unfold validateBudgetState BudgetState.toJson BudgetState.error
  simp only [get_cons, String.reduceEq, if_true, if_false, hversion,
    entriesError_recordsToJson grantUsageEntryError_toJson,
    entriesError_recordsToJson (providerUsageEntryError_toJson text), elementsError_map recordError_denial,
    elementsError_map recordError_usageSummary]
  rfl

/-! ## What was accepted is accepted again -/

section SortKeys

variable {error : String}

theorem isNonEmptyString_sortKeys (v : Value) : isNonEmptyString v.sortKeys = isNonEmptyString v := by
  cases v <;> rfl

theorem isNonNegativeInt_sortKeys (v : Value) : isNonNegativeInt v.sortKeys = isNonNegativeInt v := by
  cases v <;> rfl

theorem isNonNegativeNumber_sortKeys (v : Value) : isNonNegativeNumber v.sortKeys = isNonNegativeNumber v := by
  cases v <;> rfl

theorem isOneOf_sortKeys (values : List String) (v : Value) :
    isOneOf values v.sortKeys = isOneOf values v := by
  cases v <;> rfl

theorem isOptionalDict_sortKeys (v : Value) : isOptionalDict v.sortKeys = isOptionalDict v := by
  cases v <;> rfl

variable {d : Dict}

theorem requiredStrings_sortKeys (text : String → String) (h : Assoc.Distinct d) (fields : List String) :
    requiredStrings text (inKeyOrder (sortKeysEntries d)) fields = requiredStrings text d fields := by
  unfold requiredStrings
  refine List.map_congr_left fun field _ => ?_
  rw [get_sortKeys h, isNonEmptyString_sortKeys]

theorem getOr_sortKeys (h : Assoc.Distinct d) (key : String) :
    getOr (inKeyOrder (sortKeysEntries d)) key (.int 0) = (getOr d key (.int 0)).sortKeys := by
  unfold getOr
  rw [get?_sortKeys h]
  rcases Assoc.get? d key with _ | v <;> rfl

theorem requiredAmounts_sortKeys (text : String → String) (h : Assoc.Distinct d) (fields : List String) :
    requiredAmounts text (inKeyOrder (sortKeysEntries d)) fields = requiredAmounts text d fields := by
  unfold requiredAmounts
  refine List.map_congr_left fun field _ => ?_
  rw [getOr_sortKeys h, isNonNegativeInt_sortKeys]

/-- A check of the entries that no order of them and no reading back changes. -/
theorem entriesError_sortKeys {check : String × Value → Option String} {v : Value} (hkeyed : v.Keyed)
    (hcheck : ∀ key w, w.Keyed → check (key, w) = none → check (key, w.sortKeys) = none)
    (h : entriesError error check v = none) : entriesError error check v.sortKeys = none := by
  cases v with
  | dict entries =>
    rw [Keyed] at hkeyed
    unfold entriesError at h ⊢
    rw [sortKeys]
    dsimp only at h ⊢
    rw [List.findSome?_eq_none_iff] at h ⊢
    intro e he
    obtain ⟨⟨key, w⟩, hmem, rfl⟩ := List.mem_map.mp ((sortKeys_dict_perm entries).mem_iff.mp he)
    exact hcheck key w (keyedEntries_iff.mp hkeyed.2 _ hmem) (h _ hmem)
  | _ => cases h

theorem elementsError_sortKeys {check : Value → Option String} {v : Value} (hkeyed : v.Keyed)
    (hcheck : ∀ w, w.Keyed → check w = none → check w.sortKeys = none)
    (h : elementsError error check v = none) : elementsError error check v.sortKeys = none := by
  cases v with
  | list elements =>
    rw [Keyed] at hkeyed
    unfold elementsError at h ⊢
    rw [sortKeys, sortKeysList_eq_map]
    dsimp only at h ⊢
    rw [List.findSome?_eq_none_iff] at h ⊢
    intro x hx
    obtain ⟨w, hmem, rfl⟩ := List.mem_map.mp hx
    exact hcheck w (keyedList_iff.mp hkeyed _ hmem) (h _ hmem)
  | _ => cases h

theorem reservationEntryError_sortKeys (ledger key : String) (w : Value) (hkeyed : w.Keyed)
    (h : reservationEntryError ledger (key, w) = none) :
    reservationEntryError ledger (key, w.sortKeys) = none := by
  cases w with
  | dict reservation =>
    rw [Keyed] at hkeyed
    rw [sortKeys]
    unfold reservationEntryError at h ⊢
    dsimp only at h ⊢
    rw [requiredStrings_sortKeys _ hkeyed.1, requiredAmounts_sortKeys _ hkeyed.1]
    exact h
  | _ => cases h

theorem usageEntryError_sortKeys (ledger : String) (strings amounts numbers : List String) (key : String)
    (w : Value) (hkeyed : w.Keyed) (h : usageEntryError ledger strings amounts numbers (key, w) = none) :
    usageEntryError ledger strings amounts numbers (key, w.sortKeys) = none := by
  cases w with
  | dict entry =>
    rw [Keyed] at hkeyed
    rw [sortKeys]
    unfold usageEntryError at h ⊢
    dsimp only at h ⊢
    rw [Option.orElse_eq_orElse, Option.orElse_eq_or, Option.or_eq_none_iff] at h ⊢
    refine ⟨?_, ?_⟩
    · have hnumbers : ∀ field : String,
          isNonNegativeNumber (getOr (inKeyOrder (sortKeysEntries entry)) field (.int 0)) =
            isNonNegativeNumber (getOr entry field (.int 0)) := by
        intro field
        rw [getOr_sortKeys hkeyed.1, isNonNegativeNumber_sortKeys]
      rw [requiredStrings_sortKeys _ hkeyed.1, requiredAmounts_sortKeys _ hkeyed.1]
      simp only [hnumbers]
      exact h.1
    · rw [get_sortKeys hkeyed.1]
      exact entriesError_sortKeys (keyed_get hkeyed.2 _)
        (fun key w hw => reservationEntryError_sortKeys ledger key w hw) h.2
  | _ => cases h

theorem recordError_sortKeys (name : String) (fields : List String) (w : Value) (hkeyed : w.Keyed)
    (h : recordError name fields w = none) : recordError name fields w.sortKeys = none := by
  cases w with
  | dict entry =>
    rw [Keyed] at hkeyed
    rw [sortKeys]
    unfold recordError at h ⊢
    dsimp only at h ⊢
    rw [requiredStrings_sortKeys _ hkeyed.1]
    exact h
  | _ => cases h

theorem grantError_sortKeys (index : Nat) (w : Value) (hkeyed : w.Keyed) :
    grantError index w.sortKeys = grantError index w := by
  cases w with
  | dict grant =>
    rw [Keyed] at hkeyed
    rw [sortKeys]
    unfold grantError
    dsimp only
    rw [requiredStrings_sortKeys _ hkeyed.1, get_sortKeys hkeyed.1, get_sortKeys hkeyed.1,
      get_sortKeys hkeyed.1, get_sortKeys hkeyed.1, isOneOf_sortKeys, isOneOf_sortKeys,
      isOptionalDict_sortKeys, isOptionalDict_sortKeys]
  | _ => rfl

/-- A policy that was accepted is accepted again. -/
theorem validateBudgetPolicy_sortKeys {policy : Value} (hkeyed : policy.Keyed)
    (h : validateBudgetPolicy policy = none) : validateBudgetPolicy policy.sortKeys = none := by
  cases policy with
  | null => exact h
  | dict policy =>
    rw [Keyed] at hkeyed
    rw [sortKeys]
    unfold validateBudgetPolicy at h ⊢
    dsimp only at h ⊢
    rw [Option.orElse_eq_orElse, Option.orElse_eq_or, Option.or_eq_none_iff] at h ⊢
    -- the status passes, so it is a text, which reading back does not change
    have hstatus : (Dict.get policy "status").sortKeys = Dict.get policy "status" := by
      have hfields := firstError_eq_none_iff.mp h.1
      have hnonEmpty : isNonEmptyString (Dict.get policy "status") = true := by
        refine hfields (isNonEmptyString (Dict.get policy "status"), "invalid_budget_policy_" ++ "status") ?_
        exact List.mem_map.mpr ⟨"status", List.mem_append_left _ (by decide), rfl⟩
      rcases hget : Dict.get policy "status" with _ | _ | _ | _ | _ | _ | _ <;> rw [hget] at hnonEmpty
      case str => rfl
      all_goals cases hnonEmpty
    rw [get_sortKeys hkeyed.1, get_sortKeys hkeyed.1, hstatus, requiredStrings_sortKeys _ hkeyed.1]
    refine ⟨h.1, ?_⟩
    have hgrants := h.2
    have hkeyedGrants := keyed_get hkeyed.2 "grants"
    rcases hget : Dict.get policy "grants" with _ | _ | _ | _ | _ | grants | _ <;> rw [hget] at hgrants
    case list =>
      rw [hget, Keyed] at hkeyedGrants
      rw [sortKeys, sortKeysList_eq_map]
      dsimp only at hgrants ⊢
      rw [List.findSome?_eq_none_iff] at hgrants ⊢
      rintro ⟨grant, index⟩ hmem
      rw [List.mem_zipIdx_iff_getElem?, List.getElem?_map, Option.map_eq_some_iff] at hmem
      obtain ⟨w, hw, rfl⟩ := hmem
      rw [grantError_sortKeys index w (keyedList_iff.mp hkeyedGrants w (List.mem_of_getElem? hw))]
      exact hgrants (w, index) (List.mem_zipIdx_iff_getElem?.mpr hw)
    all_goals cases hgrants
  | _ => cases h

/-- **A dictionary that was accepted is accepted when it is read back.** -/
theorem validateBudgetState_sortKeys {data : Dict} (hkeyed : (Value.dict data).Keyed)
    (hversion : Dict.get data "schema_version" = .str "1.0")
    (h : validateBudgetState (.dict data) = none) : validateBudgetState (Value.dict data).sortKeys = none := by
  rw [Keyed] at hkeyed
  rw [sortKeys]
  unfold validateBudgetState at h ⊢
  dsimp only at h ⊢
  simp only [get_sortKeys hkeyed.1]
  simp only [Option.orElse_eq_orElse, Option.orElse_eq_or, Option.or_eq_none_iff] at h ⊢
  obtain ⟨hschema, hpolicy, hgrants, hproviders, hdenials, hsummaries, hupdated⟩ := h
  refine ⟨?_, validateBudgetPolicy_sortKeys (keyed_get hkeyed.2 _) hpolicy, ?_, ?_, ?_, ?_, ?_⟩
  · rw [hversion] at hschema ⊢
    exact hschema
  · exact entriesError_sortKeys (keyed_get hkeyed.2 _) (usageEntryError_sortKeys _ _ _ _) hgrants
  · exact entriesError_sortKeys (keyed_get hkeyed.2 _) (usageEntryError_sortKeys _ _ _ _) hproviders
  · exact elementsError_sortKeys (keyed_get hkeyed.2 _) (recordError_sortKeys _ _) hdenials
  · exact elementsError_sortKeys (keyed_get hkeyed.2 _) (recordError_sortKeys _ _) hsummaries
  · rw [isNonEmptyString_sortKeys]
    exact hupdated

end SortKeys

/-! ## Saving and loading -/

/-- What `BudgetStateStore.save` leaves in the file, as `json.loads` reads it. -/
def saveFile (payload : Value) : Except Exc Value :=
  match validateBudgetState payload with
  | some e => .error ⟨.valueError, "cannot save invalid budget state: " ++ e⟩
  | none => .ok payload.sortKeys

/-- `BudgetStateStore.load`, of a file that holds JSON. -/
def loadFile (content : Value) : Option Value :=
  if validateBudgetState content = none then some content else none

/-- A value that equals itself after a round trip. -/
structure Plain (v : Value) : Prop where
  keyed : v.Keyed
  nanFree : v.NanFree

section Plain

variable {α : Type} {toJson : α → Value} {s : BudgetState}

theorem plain_of_isNonEmptyString {v : Value} (h : isNonEmptyString v = true) : Plain v := by
  cases v with
  | str text => exact ⟨trivial, trivial⟩
  | _ => cases h

theorem plain_optText (text : Option String) : Plain (optText text) := by
  cases text <;> exact ⟨trivial, trivial⟩

theorem plain_recordsToJson (records : OrderedDict String α)
    (h : ∀ e ∈ records.entries, Plain (toJson e.2)) :
    Plain (recordsToJson toJson records) := by
  unfold recordsToJson
  constructor
  · rw [Keyed, keyedEntries_iff]
    refine ⟨?_, fun e he => ?_⟩
    · show (List.map Prod.fst _).Nodup
      rw [List.map_map]
      exact records.distinct
    · obtain ⟨e', he', rfl⟩ := List.mem_map.mp he
      exact (h e' he').keyed
  · rw [NanFree, nanFreeEntries_iff]
    intro e he
    obtain ⟨e', he', rfl⟩ := List.mem_map.mp he
    exact (h e' he').nanFree

theorem plain_map (elements : List α) (h : ∀ a ∈ elements, Plain (toJson a)) :
    Plain (.list (elements.map toJson)) := by
  constructor
  · rw [Keyed, keyedList_iff]
    exact List.forall_mem_map.mpr fun a ha => (h a ha).keyed
  · rw [NanFree, nanFreeList_iff]
    exact List.forall_mem_map.mpr fun a ha => (h a ha).nanFree

theorem Reservation.plain_toJson (r : Reservation) : Plain r.toJson := by
  unfold Reservation.toJson
  constructor
  · simp [Keyed, KeyedEntries, Assoc.Distinct, Assoc.keys]
  · simp [NanFree, NanFreeEntries]

theorem GrantUsage.plain_toJson {key : String} {u : GrantUsage} (h : u.Fields key) : Plain u.toJson := by
  have hreservations := plain_recordsToJson u.reservations fun e _ => e.2.plain_toJson
  have hstart := plain_of_isNonEmptyString h.periodStart
  have hend := plain_of_isNonEmptyString h.periodEnd
  unfold GrantUsage.toJson
  constructor
  · simp [Keyed, KeyedEntries, Assoc.Distinct, Assoc.keys, hstart.keyed, hend.keyed, hreservations.keyed]
  · simp [NanFree, NanFreeEntries, hstart.nanFree, hend.nanFree, hreservations.nanFree]

theorem ProviderUsage.plain_toJson (text : FloatVal → String) {key : String} {u : ProviderUsage}
    (h : u.Fields key) : Plain (u.toJson text) := by
  have hreservations := plain_recordsToJson u.reservations fun e _ => e.2.plain_toJson
  have hused : u.usedCostUsdExact ≠ .nan := by
    have hnonneg := h.usedCostUsdExact
    intro hnan
    rw [hnan] at hnonneg
    cases hnonneg
  unfold ProviderUsage.toJson
  constructor
  · simp [Keyed, KeyedEntries, Assoc.Distinct, Assoc.keys, hreservations.keyed]
  · simp [NanFree, NanFreeEntries, hused, hreservations.nanFree]

theorem Denial.plain_toJson (d : Denial) : Plain d.toJson := by
  have hprovider := plain_optText d.providerId
  have hrequested := plain_optText d.requestedBy
  have hcustomer := plain_optText d.customerId
  unfold Denial.toJson
  constructor
  · simp [Keyed, KeyedEntries, Assoc.Distinct, Assoc.keys, hprovider.keyed, hrequested.keyed, hcustomer.keyed]
  · simp [NanFree, NanFreeEntries, hprovider.nanFree, hrequested.nanFree, hcustomer.nanFree]

theorem UsageSummary.plain_toJson {d : UsageSummary} (h : d.error = none) : Plain d.toJson := by
  have hfields := firstError_eq_none_iff.mp h
  simp only [List.forall_mem_cons] at hfields
  have hstart := plain_of_isNonEmptyString hfields.2.1
  have hend := plain_of_isNonEmptyString hfields.2.2.1
  unfold UsageSummary.toJson
  constructor
  · simp [Keyed, KeyedEntries, Assoc.Distinct, Assoc.keys, hstart.keyed, hend.keyed]
  · simp [NanFree, NanFreeEntries, hstart.nanFree, hend.nanFree]

/-- Only the policy of a valid state could be changed by a round trip. -/
theorem BudgetState.Valid.keyed_toJson (hvalid : s.Valid) (text : FloatVal → String)
    (hpolicy : s.budgetPolicy.Keyed) : (s.toJson text).Keyed := by
  have hgrants := plain_recordsToJson _ fun e he =>
    GrantUsage.plain_toJson (GrantUsage.fields_iff.mpr (hvalid.grants e he))
  have hproviders := plain_recordsToJson _ fun e he =>
    ProviderUsage.plain_toJson text (ProviderUsage.fields_iff.mpr (hvalid.providers e he))
  have hdenials := plain_map s.recentDenials fun d _ => d.plain_toJson
  have hsummaries := plain_map _ fun d hd => UsageSummary.plain_toJson (hvalid.summaries d hd)
  unfold BudgetState.toJson
  simp only [Keyed, KeyedEntries]
  refine ⟨by simp [Assoc.Distinct, Assoc.keys], trivial, hpolicy, hgrants.keyed, hproviders.keyed,
    hdenials.keyed, hsummaries.keyed,    trivial, trivial⟩

theorem BudgetState.Valid.nanFree_toJson (hvalid : s.Valid) (text : FloatVal → String)
    (hpolicy : s.budgetPolicy.NanFree) : (s.toJson text).NanFree := by
  have hgrants := plain_recordsToJson _ fun e he =>
    GrantUsage.plain_toJson (GrantUsage.fields_iff.mpr (hvalid.grants e he))
  have hproviders := plain_recordsToJson _ fun e he =>
    ProviderUsage.plain_toJson text (ProviderUsage.fields_iff.mpr (hvalid.providers e he))
  have hdenials := plain_map s.recentDenials fun d _ => d.plain_toJson
  have hsummaries := plain_map _ fun d hd => UsageSummary.plain_toJson (hvalid.summaries d hd)
  unfold BudgetState.toJson
  simp only [NanFree, NanFreeEntries]
  exact ⟨trivial, hpolicy, hgrants.nanFree, hproviders.nanFree, hdenials.nanFree, hsummaries.nanFree,
    trivial, trivial⟩

/-- **Loading after saving** gives back the state, with the keys of its dictionaries in order. -/
theorem loadFile_of_saveFile (hvalid : s.Valid) (text : FloatVal → String) (hpolicy : s.budgetPolicy.Keyed) :
    saveFile (s.toJson text) = .ok (s.toJson text).sortKeys ∧
      loadFile (s.toJson text).sortKeys = some (s.toJson text).sortKeys := by
  have haccepted : validateBudgetState (s.toJson text) = none := by
    rw [validateBudgetState_toJson]
    exact BudgetState.valid_iff.mp hvalid
  have hkeyed := hvalid.keyed_toJson text hpolicy
  refine ⟨?_, ?_⟩
  · unfold saveFile
    rw [haccepted]
  · unfold loadFile
    exact if_pos (validateBudgetState_sortKeys hkeyed (by simp [get_cons]) haccepted)

end Plain

end Budget
end HexeAiNode
