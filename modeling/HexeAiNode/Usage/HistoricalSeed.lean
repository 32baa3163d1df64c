import HexeAiNode.Library.Run
import HexeAiNode.Usage.UsageRollups

/-!
# The historical seed

A node that starts for the first time with the usage store seeds it with what the log of the providers and their
metrics say was used before.  Whatever the metrics have more than the log is seeded as well, so that the larger of the
two counts, and a mark in the metadata keeps a later start from seeding again.

`history_counted_once`: whatever happens after the first start, further starts among it, the calls and the tokens over
all lifetimes are those of the history and those recorded since.
-/

namespace HexeAiNode
namespace Usage

open Py Rollup

variable {C : Type} [Zero C] [Add C] [Sub C] [LinearOrder C]

/-! ## Starting the node -/

/-- What `aggregate_provider_execution_log` and `aggregate_provider_metrics` return. -/
structure Totals (C : Type) where
  calls : ℕ
  promptTokens : ℕ
  completionTokens : ℕ
  totalTokens : ℕ
  costUsd : C
  lastUsedAt : Option String

/-- No usage. -/
def Totals.zero : Totals C := ⟨0, 0, 0, 0, 0, none⟩

/-- What a start finds. -/
structure SeedSources (C : Type) where
  clientId : String
  promptId : String
  customerId : Option String
  logTotals : Totals C
  metricsTotals : Totals C
  logTotalsByModel : List (String × Totals C)
  metricsTotalsByModel : List (String × Totals C)

/-- `max(metrics - log, 0)`, of every total. -/
def Totals.beyond (metrics log : Totals C) : Totals C where
  calls := metrics.calls - log.calls
  promptTokens := metrics.promptTokens - log.promptTokens
  completionTokens := metrics.completionTokens - log.completionTokens
  totalTokens := metrics.totalTokens - log.totalTokens
  costUsd := nonneg (metrics.costUsd - log.costUsd)
  lastUsedAt := none

/-- A call of `seed_historical_usage`. -/
def SeedSources.seed (sources : SeedSources C) (modelId : Option String) (totals : Totals C) (usedAt : String) :
    UsageCall C :=
  .seedHistoricalUsage
    { clientId := sources.clientId
      promptId := sources.promptId
      modelId := modelId
      includeAggregate := modelId.isNone
      customerId := sources.customerId
      calls := totals.calls
      promptTokens := totals.promptTokens
      completionTokens := totals.completionTokens
      totalTokens := totals.totalTokens
      costUsd := nonneg totals.costUsd
      usedAt := some usedAt }

/-- The seeds of some totals: those of the log, and what the metrics have beyond them. -/
def SeedSources.seeds (sources : SeedSources C) (modelId : Option String) (log metrics : Totals C) (usedAt : String) :
    List (UsageCall C) :=
  [sources.seed modelId log usedAt, sources.seed modelId (metrics.beyond log) usedAt]

/-- `sorted(set(log_totals_by_model) | set(metrics_totals_by_model))`. -/
def SeedSources.modelIds (sources : SeedSources C) : List String :=
  (Assoc.keys sources.logTotalsByModel ++ Assoc.keys sources.metricsTotalsByModel).dedup.mergeSort (· ≤ ·)

/-- The calls that seed the models. -/
def SeedSources.modelSeeds (sources : SeedSources C) (now : String) : List (UsageCall C) :=
  let seedUsedAt := stripOrNow now sources.logTotals.lastUsedAt
  sources.modelIds.flatMap fun modelId =>
    let log := (Assoc.get? sources.logTotalsByModel modelId).getD Totals.zero
    let metrics := (Assoc.get? sources.metricsTotalsByModel modelId).getD Totals.zero
    sources.seeds (some modelId) log metrics (stripOrNow seedUsedAt log.lastUsedAt)

/-- The calls that seed the store at a start. -/
def SeedSources.calls (sources : SeedSources C) (now : String) (store : ClientUsageStore C) : List (UsageCall C) :=
  let needsUsageSeed := !store.hasUsageData && Assoc.get? store.metadata "historical_seed_completed" ≠ some "1"
  let needsModelSeed := !store.hasModelUsageData
  let seedUsedAt := stripOrNow now sources.logTotals.lastUsedAt
  (if needsUsageSeed then sources.seeds none sources.logTotals sources.metricsTotals seedUsedAt else []) ++
    (if needsModelSeed then sources.modelSeeds now else []) ++
    if needsUsageSeed then [.setMetadata "historical_seed_completed" "1"] else []

/-- What happens to the store: the node starts, or an execution is recorded. -/
inductive UsageEvent (C : Type) where
  | start (sources : SeedSources C)
  | record (args : UsageArgs C)

/-- The store after an event. -/
def ClientUsageStore.handle (store : ClientUsageStore C) (event : String × UsageEvent C) : ClientUsageStore C :=
  match event.2 with
  | .start sources => store.run ((sources.calls event.1 store).map (Prod.mk event.1))
  | .record args => store.call (event.1, .recordExecution args)

/-! ## What is counted -/

/-- A measure over all lifetimes. -/
def ClientUsageStore.lifetimeTotal (store : ClientUsageStore C) (m : Measure) : ℕ :=
  total (fun key : RollupKey => key.In "lifetime" "all" = true) (UsageRow.measure m) store.usageRollups

/-- What a call counts. -/
def UsageCall.counts (now : String) (m : Measure) (call : UsageCall C) : ℕ :=
  (call.usageEntry now).elim 0 fun entry => if entry.includeAggregate then entry.row.measure m else 0

omit [Sub C] in
theorem lifetimeTotal_call (store : ClientUsageStore C) (call : String × UsageCall C) (m : Measure) :
    (store.call call).lifetimeTotal m = store.lifetimeTotal m + call.2.counts call.1 m := by
  rw [ClientUsageStore.lifetimeTotal, (call_spec store call).1, total_rollup (measure_insert m),
    ← ClientUsageStore.lifetimeTotal, UsageCall.counts]
  rcases call.2.usageEntry call.1 with _ | entry
  · rfl
  · cases h : entry.includeAggregate <;>
      simp [UsageEntry.for, UsageEntry.keys, UsageEntry.scopes, UsageEntry.key, RollupKey.In, total_cons, h]

omit [Sub C] in
theorem lifetimeTotal_run (calls : List (String × UsageCall C)) (store : ClientUsageStore C) (m : Measure) :
    (store.run calls).lifetimeTotal m =
      store.lifetimeTotal m + (calls.map fun call => call.2.counts call.1 m).sum := by
  induction calls generalizing store with
  | nil => rfl
  | cons call calls ih =>
    have h := ih (store.call call)
    rw [lifetimeTotal_call, add_assoc] at h
    exact h

/-- A total. -/
def Totals.measure : Measure → Totals C → ℕ
  | .calls, totals => totals.calls
  | .promptTokens, totals => totals.promptTokens
  | .cachedInputTokens, _ => 0
  | .completionTokens, totals => totals.completionTokens
  | .totalTokens, totals => totals.totalTokens

/-- The measures that no seed is skipped with. -/
def Measure.Seeded (m : Measure) : Prop := m = .calls ∨ m = .totalTokens

variable {m : Measure}

omit [Add C] [Sub C] in
/-- A seed counts its totals, unless it is for a model. -/
theorem counts_seed (hm : m.Seeded) (sources : SeedSources C) (modelId : Option String) (totals : Totals C)
    (now usedAt : String) :
    (sources.seed modelId totals usedAt).counts now m = if modelId = none then totals.measure m else 0 := by
  rw [UsageCall.counts, SeedSources.seed, UsageCall.usageEntry]
  split
  · next hskip =>
    obtain ⟨hcalls, htotal, -⟩ := hskip
    dsimp only at hcalls htotal
    rcases hm with rfl | rfl <;> simp only [Option.elim_none, Totals.measure] <;> split <;> omega
  · rcases hm with rfl | rfl <;> cases modelId <;> simp [UsageArgs.entry, UsageRow.measure, Totals.measure]

omit [Add C] in
/-- What a start counts, if it seeds the usage. -/
theorem sum_counts_seeds (hm : m.Seeded) (sources : SeedSources C) (modelId : Option String) (log metrics : Totals C)
    (now usedAt : String) :
    ((sources.seeds modelId log metrics usedAt).map fun call => call.counts now m).sum =
      if modelId = none then max (log.measure m) (metrics.measure m) else 0 := by
  have hbeyond : (metrics.beyond log).measure m = metrics.measure m - log.measure m := by
    rcases hm with rfl | rfl <;> rfl
  simp only [SeedSources.seeds, List.map_cons, List.map_nil, List.sum_cons, List.sum_nil, counts_seed hm, hbeyond]
  split <;> omega

/-! ## Starts -/

/-- The store has been seeded. -/
def ClientUsageStore.Seeded (store : ClientUsageStore C) : Prop :=
  Assoc.get? store.metadata "historical_seed_completed" = some "1"

omit [Add C] in
theorem sum_counts_modelSeeds (hm : m.Seeded) (sources : SeedSources C) (now : String) :
    ((sources.modelSeeds now).map fun call => call.counts now m).sum = 0 := by
  refine List.sum_eq_zero fun n hn => ?_
  obtain ⟨call, hcall, rfl⟩ := List.mem_map.mp hn
  obtain ⟨modelId, -, hseed⟩ := List.mem_flatMap.mp hcall
  rcases List.mem_pair.mp hseed with rfl | rfl
  · exact counts_seed hm _ _ _ _ _
  · exact counts_seed hm _ _ _ _ _

omit [Sub C] in
theorem metadata_call (store : ClientUsageStore C) (now : String) (args : UsageArgs C) :
    (store.call (now, .seedHistoricalUsage args)).metadata = store.metadata ∧
      (store.call (now, .recordExecution args)).metadata = store.metadata := by
  refine ⟨?_, rfl⟩
  unfold ClientUsageStore.call
  dsimp only
  rcases (UsageCall.seedHistoricalUsage args).usageEntry now with _ | entry <;> rfl

omit [Sub C] in
/-- Seeds leave the metadata as they are. -/
theorem metadata_run {calls : List (UsageCall C)} (h : ∀ call ∈ calls, ∃ args, call = .seedHistoricalUsage args)
    (store : ClientUsageStore C) (now : String) :
    (store.run (calls.map (Prod.mk now))).metadata = store.metadata := by
  induction calls generalizing store with
  | nil => rfl
  | cons call calls ih =>
    obtain ⟨args, rfl⟩ := h call List.mem_cons_self
    have hcalls := fun call hcall => h call (List.mem_cons_of_mem _ hcall)
    have ih := ih hcalls (store.call (now, .seedHistoricalUsage args))
    exact ih.trans (metadata_call store now args).1

omit [Add C] in
theorem exists_seed {sources : SeedSources C} {now : String} {call : UsageCall C}
    (h : call ∈ sources.modelSeeds now) : ∃ args, call = .seedHistoricalUsage args := by
  obtain ⟨modelId, -, hseed⟩ := List.mem_flatMap.mp h
  rcases List.mem_pair.mp hseed with rfl | rfl
  · exact ⟨_, rfl⟩
  · exact ⟨_, rfl⟩

/-- The seeds of the models count nothing, and leave the metadata as they are. -/
theorem run_modelSeeds (hm : m.Seeded) (store : ClientUsageStore C) (now : String) (sources : SeedSources C) :
    (store.run ((sources.modelSeeds now).map (Prod.mk now))).metadata = store.metadata ∧
      (store.run ((sources.modelSeeds now).map (Prod.mk now))).lifetimeTotal m = store.lifetimeTotal m := by
  refine ⟨metadata_run (fun _ => exists_seed) store now, ?_⟩
  have hsum : (((sources.modelSeeds now).map (Prod.mk now)).map fun call => call.2.counts call.1 m).sum = 0 := by
    rw [List.map_map]
    exact sum_counts_modelSeeds hm sources now
  rw [lifetimeTotal_run, hsum, add_zero]

/-- A store that has been seeded keeps its totals at a start. -/
theorem start_of_seeded (hm : m.Seeded) {store : ClientUsageStore C} (h : store.Seeded) (now : String)
    (sources : SeedSources C) : (store.handle (now, .start sources)).Seeded ∧
      (store.handle (now, .start sources)).lifetimeTotal m = store.lifetimeTotal m := by
  have hcalls : sources.calls now store = if !store.hasModelUsageData then sources.modelSeeds now else [] := by
    rw [ClientUsageStore.Seeded] at h
    simp [SeedSources.calls, h]
  rw [ClientUsageStore.handle]
  dsimp only
  rw [hcalls, ClientUsageStore.Seeded]
  split
  · obtain ⟨hmetadata, htotal⟩ := run_modelSeeds hm store now sources
    exact ⟨hmetadata ▸ h, htotal⟩
  · exact ⟨h, rfl⟩

omit [Sub C] in
theorem run_append (store : ClientUsageStore C) (calls calls' : List (String × UsageCall C)) :
    store.run (calls ++ calls') = (store.run calls).run calls' := List.foldl_append

/-- The first start. -/
theorem start_first (hm : m.Seeded) (now : String) (sources : SeedSources C) :
    (ClientUsageStore.handle ({} : ClientUsageStore C) (now, .start sources)).Seeded ∧
      (ClientUsageStore.handle {} (now, .start sources)).lifetimeTotal m =
        max (sources.logTotals.measure m) (sources.metricsTotals.measure m) := by
  have hcalls : sources.calls now {} =
      sources.seeds none sources.logTotals sources.metricsTotals (stripOrNow now sources.logTotals.lastUsedAt) ++
        (sources.modelSeeds now ++ [.setMetadata "historical_seed_completed" "1"]) := by
    simp [SeedSources.calls, ClientUsageStore.hasUsageData, ClientUsageStore.hasModelUsageData]
  rw [ClientUsageStore.handle]
  dsimp only
  rw [hcalls, List.map_append, List.map_append, run_append, run_append]
  constructor
  · exact Assoc.get?_set_self _ _ _
  · have hlast (store : ClientUsageStore C) :
        (store.run ([.setMetadata "historical_seed_completed" "1"].map (Prod.mk now))).lifetimeTotal m =
          store.lifetimeTotal m := rfl
    have hseeds := sum_counts_seeds hm sources none sources.logTotals sources.metricsTotals now
      (stripOrNow now sources.logTotals.lastUsedAt)
    rw [hlast, (run_modelSeeds hm _ now sources).2, lifetimeTotal_run, List.map_map]
    exact (zero_add _).trans (hseeds.trans (if_pos rfl))

/-- What an event records. -/
def UsageEvent.counts (now : String) (m : Measure) : UsageEvent C → ℕ
  | .start _ => 0
  | .record args => (UsageCall.recordExecution args).counts now m

/-- An event after the first start. -/
theorem handle_of_seeded (hm : m.Seeded) {store : ClientUsageStore C} (h : store.Seeded)
    (event : String × UsageEvent C) : (store.handle event).Seeded ∧
      (store.handle event).lifetimeTotal m = store.lifetimeTotal m + event.2.counts event.1 m := by
  obtain ⟨now, event⟩ := event
  cases event with
  | start sources => exact start_of_seeded hm h now sources
  | record args => exact ⟨h, lifetimeTotal_call store (now, .recordExecution args) m⟩

/-- **The history counts once**: after the first start and whatever happens then, the calls and the tokens of all
lifetimes are the larger of what the log and the metrics said, and what has been recorded since. -/
theorem history_counted_once (hm : m.Seeded) (now : String) (sources : SeedSources C)
    (later : List (String × UsageEvent C)) :
    (Run.after ClientUsageStore.handle {} ((now, .start sources) :: later)).lifetimeTotal m =
      max (sources.logTotals.measure m) (sources.metricsTotals.measure m) +
        (later.map fun event => event.2.counts event.1 m).sum := by
  have hrun (store : ClientUsageStore C) (h : store.Seeded) :
      (Run.after ClientUsageStore.handle store later).lifetimeTotal m =
        store.lifetimeTotal m + (later.map fun event => event.2.counts event.1 m).sum := by
    induction later generalizing store with
    | nil => rfl
    | cons event later ih =>
      obtain ⟨hseeded, htotal⟩ := handle_of_seeded hm h event
      rw [Run.after_cons, ih _ hseeded, htotal, List.map_cons, List.sum_cons, add_assoc]
  obtain ⟨hseeded, htotal⟩ := start_first hm now sources
  rw [Run.after_cons, hrun _ hseeded, htotal]

/-- A node without a history. -/
def noSources : SeedSources ℤ where
  clientId := "node-email"
  promptId := "prompt.email.classifier"
  customerId := none
  logTotals := Totals.zero
  metricsTotals := { (Totals.zero : Totals ℤ) with calls := 3, totalTokens := 120 }
  logTotalsByModel := []
  metricsTotalsByModel := []

/-- Two starts. -/
def twoStarts : List (String × UsageEvent ℤ) := [("2026-04-03", .start noSources), ("2026-04-04", .start noSources)]

theorem history_counted_once_twoStarts :
    (Run.after ClientUsageStore.handle {} twoStarts).lifetimeTotal .calls = 3 :=
  history_counted_once (Or.inl rfl) "2026-04-03" noSources [("2026-04-04", .start noSources)]

end Usage
end HexeAiNode
