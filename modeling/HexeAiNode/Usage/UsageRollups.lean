import Mathlib.Data.String.Basic
import Mathlib.Data.List.Induction
import HexeAiNode.Usage.ClientUsageStore

/-!
# The rows of the usage tables

A run of calls records a list of entries, its history.

* `usage_rows`: the row of a key says what the entries of that key add up to, in both tables.
* `months_and_models`: a prompt used in its lifetime what it used in all months, and what its models used, except for
  the entries that only one of the tables has.
-/

namespace HexeAiNode
namespace Usage

open Py Rollup

/-- What is counted. -/
inductive Measure where
  | calls
  | promptTokens
  | cachedInputTokens
  | completionTokens
  | totalTokens
  deriving DecidableEq

variable {C : Type}

/-- What a row says of it. -/
def UsageRow.measure : Measure → UsageRow C → ℕ
  | .calls, row => row.calls
  | .promptTokens, row => row.promptTokens
  | .cachedInputTokens, row => row.cachedInputTokens
  | .completionTokens, row => row.completionTokens
  | .totalTokens, row => row.totalTokens

/-! ## What entries add up to -/

/-- The row says what the rows that were inserted, in this order, add up to. -/
structure UsageRow.SumOf [Add C] (row : UsageRow C) (rows : List (UsageRow C)) : Prop where
  measure : ∀ m, row.measure m = (rows.map (UsageRow.measure m)).sum
  costUsd : ∃ first rest, rows.map UsageRow.costUsd = first :: rest ∧ row.costUsd = rest.foldl (· + ·) first
  customerId : row.customerId = (rows.filterMap UsageRow.customerId).getLast?
  lastUsedAt : ∃ last, row.lastUsedAt = some last ∧ some last ∈ rows.map UsageRow.lastUsedAt ∧
    ∀ used, some used ∈ rows.map UsageRow.lastUsedAt → used ≤ last
  updatedAt : (rows.map UsageRow.updatedAt).getLast? = some row.updatedAt

section Rows

variable [Add C] {row excluded : UsageRow C} {rows : List (UsageRow C)}

theorem measure_update (m : Measure) (row excluded : UsageRow C) :
    (row.update excluded).measure m = row.measure m + excluded.measure m := by
  cases m <;> rfl

theorem measure_insert (m : Measure) (row : Option (UsageRow C)) (excluded : UsageRow C) :
    (UsageRow.insert row excluded).measure m = row.elim 0 (UsageRow.measure m) + excluded.measure m := by
  cases row with
  | none => simp [UsageRow.insert]
  | some row => simp [UsageRow.insert, measure_update]

/-- The first row. -/
theorem sumOf_single (h : excluded.lastUsedAt.isSome) : excluded.SumOf [excluded] := by
  obtain ⟨last, hlast⟩ := Option.isSome_iff_exists.mp h
  refine ⟨fun m => by simp, ⟨_, [], rfl, rfl⟩, ?_, ⟨last, hlast, by simp [hlast], ?_⟩, rfl⟩
  · cases hc : excluded.customerId <;> simp [hc]
  · intro used hused
    simp only [List.map_cons, List.map_nil, List.mem_singleton, hlast, Option.some.injEq] at hused
    exact hused.le

/-- A further row. -/
theorem UsageRow.SumOf.update (h : row.SumOf rows) (hused : excluded.lastUsedAt.isSome) :
    (row.update excluded).SumOf (rows ++ [excluded]) := by
  obtain ⟨used, hused⟩ := Option.isSome_iff_exists.mp hused
  obtain ⟨first, rest, hcosts, hcost⟩ := h.costUsd
  obtain ⟨last, hlast, hmem, hle⟩ := h.lastUsedAt
  refine ⟨fun m => ?_, ⟨first, rest ++ [excluded.costUsd], ?_, ?_⟩, ?_, ?_, by simp [UsageRow.update]⟩
  · simp [measure_update, h.measure m]
  · simp [hcosts]
  · simp [UsageRow.update, hcost]
  · cases hc : excluded.customerId <;> simp [UsageRow.update, h.customerId, hc]
  · refine ⟨if last < used then used else last, ?_, ?_, ?_⟩
    · rw [UsageRow.update, hlast, hused, laterOf]
      split <;> rfl
    · rw [List.map_append, List.mem_append]
      split
      · exact Or.inr (by simp [hused])
      · exact Or.inl hmem
    · intro used' hused'
      rw [List.map_append, List.mem_append, List.map_singleton, List.mem_singleton, hused,
        Option.some.injEq] at hused'
      rcases hused' with hused' | rfl
      · have := hle used' hused'
        split
        · next hlt => exact this.trans hlt.le
        · exact this
      · split
        · exact le_rfl
        · next hlt => exact not_lt.mp hlt

/-- What a key has absorbed. -/
theorem sumOf_absorb (rows : List (UsageRow C)) (hused : ∀ row ∈ rows, row.lastUsedAt.isSome) :
    rows = [] ∧ absorb UsageRow.insert none rows = none ∨
      ∃ row, absorb UsageRow.insert none rows = some row ∧ row.SumOf rows := by
  induction rows using List.reverseRecOn with
  | nil => exact Or.inl ⟨rfl, rfl⟩
  | append_singleton rows excluded ih =>
    have hlast := hused excluded (by simp)
    rw [absorb_concat]
    rcases ih fun row hrow => hused row (List.mem_append_left _ hrow) with ⟨rfl, hnone⟩ | ⟨row, hrow, hsum⟩
    · rw [hnone]
      exact Or.inr ⟨_, rfl, sumOf_single hlast⟩
    · rw [hrow]
      exact Or.inr ⟨_, rfl, hsum.update hlast⟩

end Rows

/-! ## The history of a run -/

/-- The rows of `usage_rollups` that an entry goes to. -/
def UsageEntry.keys (entry : UsageEntry C) : List RollupKey :=
  if entry.includeAggregate then entry.scopes.map entry.key else []

/-- The rows of `model_usage_rollups` that an entry goes to. -/
def UsageEntry.modelKeys (entry : UsageEntry C) : List ModelKey :=
  entry.modelId.elim [] fun modelId => entry.scopes.map fun scope => ⟨entry.key scope, modelId⟩

theorem nodup_keys (entry : UsageEntry C) : entry.keys.Nodup := by
  cases h : entry.includeAggregate <;> simp [UsageEntry.keys, UsageEntry.scopes, UsageEntry.key, h]

theorem nodup_modelKeys (entry : UsageEntry C) : entry.modelKeys.Nodup := by
  cases h : entry.modelId <;> simp [UsageEntry.modelKeys, UsageEntry.scopes, UsageEntry.key, h]

/-- An entry, for each of some keys. -/
def UsageEntry.for {κ : Type} (keys : UsageEntry C → List κ) (entry : UsageEntry C) : List (κ × UsageRow C) :=
  (keys entry).map fun key => (key, entry.row)

/-- A table says what the entries of each key add up to. -/
def RollsUp {κ : Type} [DecidableEq κ] [Add C] (keys : UsageEntry C → List κ) (entries : List (UsageEntry C))
    (table : List (κ × UsageRow C)) : Prop :=
  ∀ key, (∀ entry ∈ entries, key ∉ keys entry) ∧ Assoc.get? table key = none ∨
    ∃ row, Assoc.get? table key = some row ∧
      row.SumOf ((entries.filter fun entry => key ∈ keys entry).map UsageEntry.row)

section Runs

variable [Zero C] [Add C] [LinearOrder C]

/-- The entries that a run of calls records. -/
def history (calls : List (String × UsageCall C)) : List (UsageEntry C) :=
  calls.filterMap fun call => call.2.usageEntry call.1

omit [Add C] in
theorem history_cons (call : String × UsageCall C) (calls : List (String × UsageCall C)) :
    history (call :: calls) = (call.2.usageEntry call.1).toList ++ history calls := by
  rw [history, List.filterMap_cons]
  cases call.2.usageEntry call.1 <;> rfl

omit [Zero C] [LinearOrder C] in
theorem upsertUsage_spec (store : ClientUsageStore C) (entry : UsageEntry C) :
    (store.upsertUsage entry).usageRollups =
        rollup UsageRow.insert store.usageRollups (entry.for UsageEntry.keys) ∧
      (store.upsertUsage entry).modelUsageRollups =
        rollup UsageRow.insert store.modelUsageRollups (entry.for UsageEntry.modelKeys) := by
  constructor
  · cases h : entry.includeAggregate <;>
      simp [ClientUsageStore.upsertUsage, ClientUsageStore.insert, UsageEntry.scopes, UsageEntry.for,
        UsageEntry.keys, h]
  · cases h : entry.modelId <;>
      simp [ClientUsageStore.upsertUsage, ClientUsageStore.insert, UsageEntry.scopes, UsageEntry.for,
        UsageEntry.modelKeys, h]

/-- What a call does to the tables. -/
theorem call_spec (store : ClientUsageStore C) (call : String × UsageCall C) :
    (store.call call).usageRollups = rollup UsageRow.insert store.usageRollups
        ((call.2.usageEntry call.1).toList.flatMap (UsageEntry.for UsageEntry.keys)) ∧
      (store.call call).modelUsageRollups = rollup UsageRow.insert store.modelUsageRollups
        ((call.2.usageEntry call.1).toList.flatMap (UsageEntry.for UsageEntry.modelKeys)) := by
  obtain ⟨now, call⟩ := call
  rcases hentry : call.usageEntry now with _ | entry
  · cases call <;> simp [ClientUsageStore.call, hentry]
  · have hupsert : store.call (now, call) = store.upsertUsage entry := by
      cases call with
      | setMetadata key value => cases hentry
      | recordExecution args => simp [ClientUsageStore.call, hentry]
      | seedHistoricalUsage args => simp [ClientUsageStore.call, hentry]
    rw [hupsert]
    simpa using upsertUsage_spec store entry

/-- **The tables after a run** have rolled its history up. -/
theorem run_tables (calls : List (String × UsageCall C)) (store : ClientUsageStore C) :
    (store.run calls).usageRollups = rollup UsageRow.insert store.usageRollups
        ((history calls).flatMap (UsageEntry.for UsageEntry.keys)) ∧
      (store.run calls).modelUsageRollups = rollup UsageRow.insert store.modelUsageRollups
        ((history calls).flatMap (UsageEntry.for UsageEntry.modelKeys)) := by
  induction calls generalizing store with
  | nil => exact ⟨rfl, rfl⟩
  | cons call calls ih =>
    obtain ⟨hrows, hmodels⟩ := ih (store.call call)
    obtain ⟨hcall, hcallModels⟩ := call_spec store call
    rw [hcall] at hrows
    rw [hcallModels] at hmodels
    rw [history_cons, List.flatMap_append, List.flatMap_append, rollup_append, rollup_append]
    exact ⟨hrows, hmodels⟩

omit [Add C] in
/-- A recorded time is there. -/
theorem isSome_lastUsedAt {calls : List (String × UsageCall C)} {entry : UsageEntry C} (h : entry ∈ history calls) :
    entry.row.lastUsedAt.isSome := by
  obtain ⟨⟨now, call⟩, -, hentry⟩ := List.mem_filterMap.mp h
  cases call with
  | setMetadata key value => cases hentry
  | recordExecution args =>
    obtain rfl := Option.some.inj hentry
    rfl
  | seedHistoricalUsage args =>
    simp only [UsageCall.usageEntry, Option.ite_none_left_eq_some, Option.some.injEq] at hentry
    obtain ⟨-, rfl⟩ := hentry
    rfl

omit [Zero C] [LinearOrder C] in
theorem rollsUp_rollup {κ : Type} [DecidableEq κ] {keys : UsageEntry C → List κ} (hkeys : ∀ entry, (keys entry).Nodup)
    {entries : List (UsageEntry C)} (hused : ∀ entry ∈ entries, entry.row.lastUsedAt.isSome) :
    RollsUp keys entries (rollup UsageRow.insert [] (entries.flatMap (UsageEntry.for keys))) := by
  intro key
  have hentries : entriesOf (entries.flatMap (UsageEntry.for keys)) key =
      (entries.filter fun entry => key ∈ keys entry).map UsageEntry.row :=
    entriesOf_flatMap keys UsageEntry.row hkeys entries key
  have hrows : ∀ row ∈ (entries.filter fun entry => key ∈ keys entry).map UsageEntry.row, row.lastUsedAt.isSome := by
    intro row hrow
    obtain ⟨entry, hentry, rfl⟩ := List.mem_map.mp hrow
    exact hused entry (List.mem_filter.mp hentry).1
  rw [get?_rollup, Assoc.get?_nil, hentries]
  refine (sumOf_absorb _ hrows).imp_left fun ⟨hnil, hnone⟩ => ⟨fun entry hentry hmem => ?_, hnone⟩
  exact List.filter_eq_nil_iff.mp (List.map_eq_nil_iff.mp hnil) entry hentry (decide_eq_true hmem)

/-- **The rows**: after any run of calls, each row of the two tables says what the entries of its key add up to. -/
theorem usage_rows (calls : List (String × UsageCall C)) :
    RollsUp UsageEntry.keys (history calls) (ClientUsageStore.run {} calls).usageRollups ∧
      RollsUp UsageEntry.modelKeys (history calls) (ClientUsageStore.run {} calls).modelUsageRollups := by
  obtain ⟨hrows, hmodels⟩ := run_tables calls {}
  rw [hrows, hmodels]
  exact ⟨rollsUp_rollup nodup_keys fun _ => isSome_lastUsedAt,
    rollsUp_rollup nodup_modelKeys fun _ => isSome_lastUsedAt⟩

/-! ## Totals -/

omit [Zero C] [Add C] [LinearOrder C] in
/-- What some entries count. -/
def spent (m : Measure) (p : UsageEntry C → Prop) [DecidablePred p] (entries : List (UsageEntry C)) : ℕ :=
  (entries.map fun entry => if p entry then entry.row.measure m else 0).sum

omit [Zero C] [LinearOrder C] in
/-- The rows of a table count what the entries do that go to them. -/
theorem total_eq_spent {κ : Type} [DecidableEq κ] {keys : UsageEntry C → List κ} {p : κ → Prop} [DecidablePred p]
    {q : UsageEntry C → Prop} [DecidablePred q]
    (h : ∀ entry, (keys entry).countP (fun key => p key) = if q entry then 1 else 0) (m : Measure)
    (entries : List (UsageEntry C)) :
    total p (UsageRow.measure m) (rollup UsageRow.insert [] (entries.flatMap (UsageEntry.for keys))) =
      spent m q entries := by
  rw [total_rollup (measure_insert m), total_nil, zero_add]
  refine (total_flatMap keys UsageEntry.row entries).trans ?_
  rw [spent]
  congr 1
  refine List.map_congr_left fun entry _ => ?_
  rw [h]
  split <;> simp

theorem total_usageRollups (calls : List (String × UsageCall C)) (m : Measure) {p : RollupKey → Prop}
    [DecidablePred p] {q : UsageEntry C → Prop} [DecidablePred q]
    (h : ∀ entry : UsageEntry C, entry.keys.countP (fun key => p key) = if q entry then 1 else 0) :
    total p (UsageRow.measure m) (ClientUsageStore.run {} calls).usageRollups = spent m q (history calls) := by
  rw [(run_tables calls {}).1]
  exact total_eq_spent h m (history calls)

theorem total_modelUsageRollups (calls : List (String × UsageCall C)) (m : Measure) {p : ModelKey → Prop}
    [DecidablePred p] {q : UsageEntry C → Prop} [DecidablePred q]
    (h : ∀ entry : UsageEntry C, entry.modelKeys.countP (fun key => p key) = if q entry then 1 else 0) :
    total p (UsageRow.measure m) (ClientUsageStore.run {} calls).modelUsageRollups = spent m q (history calls) := by
  rw [(run_tables calls {}).2]
  exact total_eq_spent h m (history calls)

theorem distinct_usageRollups (calls : List (String × UsageCall C)) :
    Assoc.Distinct (ClientUsageStore.run {} calls).usageRollups := by
  rw [(run_tables calls {}).1]
  exact distinct_rollup Assoc.distinct_nil

theorem distinct_modelUsageRollups (calls : List (String × UsageCall C)) :
    Assoc.Distinct (ClientUsageStore.run {} calls).modelUsageRollups := by
  rw [(run_tables calls {}).2]
  exact distinct_rollup Assoc.distinct_nil

/-- What the row of a key says; nothing, if there is none. -/
def countOf {κ : Type} [DecidableEq κ] (table : List (κ × UsageRow C)) (key : κ) (m : Measure) : ℕ :=
  (Assoc.get? table key).elim 0 (UsageRow.measure m)

/-- The row of a lifetime. -/
def lifetimeKey (client prompt : String) : RollupKey := ⟨"lifetime", "all", client, prompt⟩

omit [Zero C] [Add C] [LinearOrder C] in
theorem countP_eq_ite {κ : Type} [DecidableEq κ] {keys : List κ} (hkeys : keys.Nodup) (key : κ) :
    keys.countP (fun k => k = key) = if key ∈ keys then 1 else 0 := hkeys.count

/-- A row counts what the entries of its key do. -/
theorem countOf_usageRollups (calls : List (String × UsageCall C)) (key : RollupKey) (m : Measure) :
    countOf (ClientUsageStore.run {} calls).usageRollups key m =
      spent m (fun entry => key ∈ entry.keys) (history calls) := by
  rw [countOf, ← total_eq_get? (distinct_usageRollups calls)]
  exact total_usageRollups calls m fun entry => countP_eq_ite (nodup_keys entry) key

theorem countOf_modelUsageRollups (calls : List (String × UsageCall C)) (key : ModelKey) (m : Measure) :
    countOf (ClientUsageStore.run {} calls).modelUsageRollups key m =
      spent m (fun entry => key ∈ entry.modelKeys) (history calls) := by
  rw [countOf, ← total_eq_get? (distinct_modelUsageRollups calls)]
  exact total_modelUsageRollups calls m fun entry => countP_eq_ite (nodup_modelKeys entry) key

omit [Zero C] [Add C] [LinearOrder C] in
theorem spent_congr {m : Measure} {p q : UsageEntry C → Prop} [DecidablePred p] [DecidablePred q]
    {entries : List (UsageEntry C)} (h : ∀ entry ∈ entries, p entry ↔ q entry) :
    spent m p entries = spent m q entries := by
  rw [spent, spent, List.map_congr_left fun entry hentry => if_congr (h entry hentry) rfl rfl]

omit [Zero C] [Add C] [LinearOrder C] in
theorem mem_keys {entry : UsageEntry C} {key : RollupKey} :
    key ∈ entry.keys ↔ entry.includeAggregate ∧ key ∈ entry.scopes.map entry.key := by
  cases h : entry.includeAggregate <;> simp [UsageEntry.keys, h]

omit [Zero C] [Add C] [LinearOrder C] in
theorem mem_rollups_modelKeys {entry : UsageEntry C} {key : RollupKey} :
    key ∈ entry.modelKeys.map ModelKey.rollup ↔ entry.modelId ≠ none ∧ key ∈ entry.scopes.map entry.key := by
  cases h : entry.modelId <;> simp [UsageEntry.modelKeys, h]

omit [Zero C] [Add C] [LinearOrder C] in
/-- One entry, in the two tables. -/
theorem count_modelKeys (entry : UsageEntry C) (key : RollupKey) (n : ℕ) :
    ((if key ∈ entry.modelKeys.map ModelKey.rollup then n else 0) +
        if entry.modelId = none ∧ key ∈ entry.keys then n else 0) =
      (if key ∈ entry.keys then n else 0) +
        if entry.includeAggregate = false ∧ key ∈ entry.modelKeys.map ModelKey.rollup then n else 0 := by
  simp only [mem_keys, mem_rollups_modelKeys]
  grind

/-- **Months and models.**  The lifetime of a prompt counts what all its months do.  In every period, what its models
count and what the entries do that name no model is what the prompt counts and what the entries do that are kept out
of the aggregate. -/
theorem months_and_models (calls : List (String × UsageCall C)) (client prompt : String) (m : Measure) :
    countOf (ClientUsageStore.run {} calls).usageRollups (lifetimeKey client prompt) m =
        total (fun key => key.scope = "monthly" ∧ key.prompt = (client, prompt)) (UsageRow.measure m)
          (ClientUsageStore.run {} calls).usageRollups ∧
      ∀ key : RollupKey,
        total (fun modelKey : ModelKey => modelKey.rollup = key) (UsageRow.measure m)
            (ClientUsageStore.run {} calls).modelUsageRollups +
          spent m (fun entry => entry.modelId = none ∧ key ∈ entry.keys) (history calls) =
        countOf (ClientUsageStore.run {} calls).usageRollups key m +
          spent m (fun entry => entry.includeAggregate = false ∧ key ∈ entry.modelKeys.map ModelKey.rollup)
            (history calls) := by
  constructor
  · have hmonths : total (fun key : RollupKey => key.scope = "monthly" ∧ key.prompt = (client, prompt))
        (UsageRow.measure m) (ClientUsageStore.run {} calls).usageRollups =
        spent m (fun entry => entry.includeAggregate ∧ entry.clientId = client ∧ entry.promptId = prompt)
          (history calls) := by
      refine total_usageRollups calls m fun entry => ?_
      cases h : entry.includeAggregate <;>
        simp [UsageEntry.keys, UsageEntry.scopes, UsageEntry.key, RollupKey.prompt, h, List.countP_cons]
    rw [countOf_usageRollups, hmonths]
    refine spent_congr fun entry _ => ?_
    cases h : entry.includeAggregate <;>
      simp [UsageEntry.keys, UsageEntry.scopes, UsageEntry.key, lifetimeKey, h, eq_comm]
  · intro key
    have hmodels : total (fun modelKey : ModelKey => modelKey.rollup = key) (UsageRow.measure m)
        (ClientUsageStore.run {} calls).modelUsageRollups =
        spent m (fun entry => key ∈ entry.modelKeys.map ModelKey.rollup) (history calls) := by
      refine total_modelUsageRollups calls m fun entry => ?_
      have hnodup : (entry.modelKeys.map ModelKey.rollup).Nodup := by
        cases h : entry.modelId <;> simp [UsageEntry.modelKeys, UsageEntry.scopes, UsageEntry.key, h]
      rw [← countP_eq_ite hnodup key, List.countP_map]
      rfl
    rw [hmodels, countOf_usageRollups, spent, spent, spent, spent, ← List.sum_map_add, ← List.sum_map_add]
    congr 1
    exact List.map_congr_left fun entry _ => count_modelKeys entry key (entry.row.measure m)

end Runs

end Usage
end HexeAiNode
