import HexeAiNode.Library.Rollup
import HexeAiNode.Python.Text

/-!
# The client usage store

The store rolls the usage of every execution up into two tables: by client and prompt, and by client, prompt and
model, each over the whole lifetime and by month.  An `INSERT … ON CONFLICT DO UPDATE` adds to the row that is there.

Counters are natural numbers; SQLite keeps them as integers below `2 ^ 63`.  Costs are of any type that can be added and
compared, so that what is said of a row holds of floats as well: costs are added in the order in which they are
recorded.  The clock is what `local_now_iso()` returns.
-/

namespace HexeAiNode
namespace Usage

open Py Rollup

/-! ## Normalized values -/

/-- `str(value or "").strip() or default`. -/
def stripOr (value default : String) : String := if strip value = "" then default else strip value

/-- `str(value or "").strip() or None`. -/
def stripOrNone (value : Option String) : Option String :=
  if strip (value.getD "") = "" then none else some (strip (value.getD ""))

/-- `str(value or now).strip() or now`. -/
def stripOrNow (now : String) (value : Option String) : String :=
  stripOr (if value.getD "" = "" then now else value.getD "") now

/-- `_month_key`. -/
def monthKey (now value : String) : String :=
  if 7 ≤ (strip value).length then String.ofList ((strip value).toList.take 7) else String.ofList (now.toList.take 7)

/-! ## Tables -/

variable {C : Type}

/-- The columns of a row that are not part of its key. -/
structure UsageRow (C : Type) where
  customerId : Option String
  calls : ℕ
  promptTokens : ℕ
  cachedInputTokens : ℕ
  completionTokens : ℕ
  totalTokens : ℕ
  costUsd : C
  lastUsedAt : Option String
  updatedAt : String

/-- The primary key of `usage_rollups`. -/
structure RollupKey where
  scope : String
  periodKey : String
  clientId : String
  promptId : String
  deriving DecidableEq

/-- The primary key of `model_usage_rollups`. -/
structure ModelKey where
  rollup : RollupKey
  modelId : String
  deriving DecidableEq

/-- The client and the prompt of a row. -/
def RollupKey.prompt (key : RollupKey) : String × String := (key.clientId, key.promptId)

/-- The client and the prompt of a row. -/
def ModelKey.prompt (key : ModelKey) : String × String := key.rollup.prompt

/-- `WHERE scope = … AND period_key = …`. -/
def RollupKey.In (key : RollupKey) (scope periodKey : String) : Bool :=
  key.scope = scope && key.periodKey = periodKey

/-- The tables. -/
structure ClientUsageStore (C : Type) where
  usageRollups : List (RollupKey × UsageRow C) := []
  modelUsageRollups : List (ModelKey × UsageRow C) := []
  metadata : List (String × String) := []

/-- The later of two times; a time that is missing is no later. -/
def laterOf : Option String → Option String → Option String
  | none, excluded => excluded
  | some used, none => some used
  | some used, some excluded => if used < excluded then some excluded else some used

/-- `ON CONFLICT … DO UPDATE SET`. -/
def UsageRow.update [Add C] (row excluded : UsageRow C) : UsageRow C where
  customerId := excluded.customerId <|> row.customerId
  calls := row.calls + excluded.calls
  promptTokens := row.promptTokens + excluded.promptTokens
  cachedInputTokens := row.cachedInputTokens + excluded.cachedInputTokens
  completionTokens := row.completionTokens + excluded.completionTokens
  totalTokens := row.totalTokens + excluded.totalTokens
  costUsd := row.costUsd + excluded.costUsd
  lastUsedAt := laterOf row.lastUsedAt excluded.lastUsedAt
  updatedAt := excluded.updatedAt

/-- The row of a key after an `INSERT`. -/
def UsageRow.insert [Add C] (row : Option (UsageRow C)) (excluded : UsageRow C) : UsageRow C :=
  row.elim excluded fun row => row.update excluded

/-! ## Calls -/

/-- The arguments of `_upsert_usage`. -/
structure UsageArgs (C : Type) where
  clientId : String
  promptId : String
  modelId : Option String := none
  includeAggregate : Bool := true
  customerId : Option String
  calls : ℤ
  promptTokens : ℤ
  cachedInputTokens : ℤ := 0
  completionTokens : ℤ
  totalTokens : ℤ
  costUsd : C
  usedAt : Option String

/-- The values that `_upsert_usage` inserts, and where. -/
structure UsageEntry (C : Type) where
  clientId : String
  promptId : String
  modelId : Option String
  includeAggregate : Bool
  month : String
  row : UsageRow C

/-- `max(x, 0)`. -/
def nonneg [Zero C] [LT C] [DecidableLT C] (x : C) : C := if x < 0 then 0 else x

/-- The normalized values. -/
def UsageArgs.entry [Zero C] [LT C] [DecidableLT C] (now : String) (args : UsageArgs C) : UsageEntry C where
  clientId := stripOr args.clientId "unknown-client"
  promptId := stripOr args.promptId "unattributed-prompt"
  modelId := stripOrNone args.modelId
  includeAggregate := args.includeAggregate
  month := monthKey now (stripOrNow now args.usedAt)
  row :=
    { customerId := stripOrNone args.customerId
      calls := args.calls.toNat
      promptTokens := args.promptTokens.toNat
      cachedInputTokens := args.cachedInputTokens.toNat
      completionTokens := args.completionTokens.toNat
      totalTokens := args.totalTokens.toNat
      costUsd := nonneg args.costUsd
      lastUsedAt := some (stripOrNow now args.usedAt)
      updatedAt := now }

/-- The row of a scope that an entry goes to. -/
def UsageEntry.key (entry : UsageEntry C) (scope : String × String) : RollupKey :=
  ⟨scope.1, scope.2, entry.clientId, entry.promptId⟩

/-- An entry goes to the rows of a scope. -/
def ClientUsageStore.insert [Add C] (entry : UsageEntry C) (store : ClientUsageStore C) (scope : String × String) :
    ClientUsageStore C :=
  { store with
    usageRollups :=
      if entry.includeAggregate then upsert UsageRow.insert store.usageRollups (entry.key scope, entry.row)
      else store.usageRollups
    modelUsageRollups :=
      match entry.modelId with
      | none => store.modelUsageRollups
      | some modelId => upsert UsageRow.insert store.modelUsageRollups (⟨entry.key scope, modelId⟩, entry.row) }

/-- The scopes of an entry. -/
def UsageEntry.scopes (entry : UsageEntry C) : List (String × String) :=
  [("lifetime", "all"), ("monthly", entry.month)]

/-- `_upsert_usage`. -/
def ClientUsageStore.upsertUsage [Add C] (store : ClientUsageStore C) (entry : UsageEntry C) : ClientUsageStore C :=
  entry.scopes.foldl (ClientUsageStore.insert entry) store

/-- A call of the store. -/
inductive UsageCall (C : Type) where
  | recordExecution (args : UsageArgs C)
  | seedHistoricalUsage (args : UsageArgs C)
  | setMetadata (key value : String)

section Calls

variable [Zero C] [Add C] [LinearOrder C]

/-- What a call adds to the tables: an execution counts once, and a seed of nothing is skipped. -/
def UsageCall.usageEntry (now : String) : UsageCall C → Option (UsageEntry C)
  | .recordExecution args => some (UsageArgs.entry now { args with calls := 1, includeAggregate := true })
  | .seedHistoricalUsage args =>
    if args.calls ≤ 0 ∧ args.totalTokens ≤ 0 ∧ args.costUsd ≤ 0 then none else some (args.entry now)
  | .setMetadata _ _ => none

/-- A call, with the time at which it is made. -/
def ClientUsageStore.call (store : ClientUsageStore C) (call : String × UsageCall C) : ClientUsageStore C :=
  match call.2 with
  | .setMetadata key value => { store with metadata := Assoc.set store.metadata key value }
  | _ => ((call.2.usageEntry call.1).elim store store.upsertUsage)

/-- The calls, one after the other. -/
def ClientUsageStore.run (store : ClientUsageStore C) (calls : List (String × UsageCall C)) : ClientUsageStore C :=
  calls.foldl ClientUsageStore.call store

/-- `has_usage_data`. -/
def ClientUsageStore.hasUsageData (store : ClientUsageStore C) : Bool := 0 < store.usageRollups.length

/-- `has_model_usage_data`. -/
def ClientUsageStore.hasModelUsageData (store : ClientUsageStore C) : Bool := 0 < store.modelUsageRollups.length

end Calls

/-! ## The summary -/

/-- What was used in some period. -/
structure Bucket (C : Type) where
  calls : ℕ
  promptTokens : ℕ
  cachedInputTokens : ℕ
  completionTokens : ℕ
  totalTokens : ℕ
  costUsd : C

/-- What was used in some period, and when last. -/
structure DatedBucket (C : Type) extends Bucket C where
  lastUsedAt : Option String

/-- A model in the summary. -/
structure ModelUsage (C : Type) where
  modelId : String
  customerId : Option String
  lifetime : DatedBucket C
  currentMonth : DatedBucket C

/-- A prompt in the summary. -/
structure PromptUsage (C : Type) where
  promptId : String
  customerId : Option String
  lifetime : DatedBucket C
  currentMonth : DatedBucket C
  models : List (ModelUsage C)

/-- A client in the summary. -/
structure ClientUsage (C : Type) where
  clientId : String
  customerId : Option String
  lifetime : Bucket C
  currentMonth : Bucket C
  prompts : List (PromptUsage C)

/-- The summary. -/
structure UsageSummary (C : Type) where
  currentMonth : String
  clients : List (ClientUsage C)

section Summary

variable [Zero C] [Add C] [LinearOrder C]

/-- What a row says was used; a row that is missing says that nothing was. -/
def usageOf (row : Option (UsageRow C)) : Bucket C where
  calls := row.elim 0 UsageRow.calls
  promptTokens := row.elim 0 UsageRow.promptTokens
  cachedInputTokens := row.elim 0 UsageRow.cachedInputTokens
  completionTokens := row.elim 0 UsageRow.completionTokens
  totalTokens := row.elim 0 UsageRow.totalTokens
  costUsd := nonneg (row.elim 0 UsageRow.costUsd)

/-- The buckets of a client accumulate those of its prompts. -/
def Bucket.add (bucket source : Bucket C) : Bucket C where
  calls := bucket.calls + source.calls
  promptTokens := bucket.promptTokens + source.promptTokens
  cachedInputTokens := bucket.cachedInputTokens + source.cachedInputTokens
  completionTokens := bucket.completionTokens + source.completionTokens
  totalTokens := bucket.totalTokens + source.totalTokens
  costUsd := bucket.costUsd + source.costUsd

/-- Nothing. -/
def Bucket.zero : Bucket C := ⟨0, 0, 0, 0, 0, 0⟩

/-- A dictionary of the rows of a query. -/
def dictOf {κ α : Type} [DecidableEq κ] (rows : List (κ × α)) : List (κ × α) := rollup (fun _ row => row) [] rows

/-- The order in which a query returns its rows. -/
structure RowOrder (C : Type) where
  rows : List (RollupKey × UsageRow C) → List (RollupKey × UsageRow C)
  modelRows : List (ModelKey × UsageRow C) → List (ModelKey × UsageRow C)
  rows_perm : ∀ l, (rows l).Perm l
  modelRows_perm : ∀ l, (modelRows l).Perm l

/-- `SELECT … FROM usage_rollups WHERE scope = … AND period_key = …`. -/
def ClientUsageStore.query (store : ClientUsageStore C) (order : RowOrder C) (scope periodKey : String) :
    List (RollupKey × UsageRow C) :=
  order.rows (store.usageRollups.filter fun e => e.1.In scope periodKey)

/-- `SELECT … FROM model_usage_rollups WHERE scope = … AND period_key = …`. -/
def ClientUsageStore.modelQuery (store : ClientUsageStore C) (order : RowOrder C) (scope periodKey : String) :
    List (ModelKey × UsageRow C) :=
  order.modelRows (store.modelUsageRollups.filter fun e => e.1.rollup.In scope periodKey)

/-- `monthly_map`. -/
def ClientUsageStore.monthlyMap (store : ClientUsageStore C) (order : RowOrder C) (month : String) :
    List ((String × String) × UsageRow C) :=
  dictOf ((store.query order "monthly" month).map fun e => (e.1.prompt, e.2))

/-- `model_monthly_map`. -/
def ClientUsageStore.modelMonthlyMap (store : ClientUsageStore C) (order : RowOrder C) (month : String) :
    List (((String × String) × String) × UsageRow C) :=
  dictOf ((store.modelQuery order "monthly" month).map fun e => ((e.1.prompt, e.1.modelId), e.2))

variable (round : C → C)

/-- The cost is rounded. -/
def Bucket.rounded (bucket : Bucket C) : Bucket C := { bucket with costUsd := round bucket.costUsd }

/-- What a row says was used, for a prompt or a model. -/
def datedUsageOf (row : Option (UsageRow C)) : DatedBucket C :=
  { (usageOf row).rounded round with lastUsedAt := row.bind UsageRow.lastUsedAt }

/-- `sorted(items, key=cost, reverse=True)`. -/
def sortByCost {α : Type} (cost : α → C) (items : List α) : List α := items.mergeSort fun a b => cost b ≤ cost a

/-- The model of a row. -/
def modelUsage (monthly : Option (UsageRow C)) (e : ModelKey × UsageRow C) : ModelUsage C where
  modelId := e.1.modelId
  customerId := stripOrNone e.2.customerId
  lifetime := datedUsageOf round (some e.2)
  currentMonth := datedUsageOf round monthly

/-- `models_by_prompt`. -/
def ClientUsageStore.modelsByPrompt (store : ClientUsageStore C) (order : RowOrder C) (month : String) :
    List ((String × String) × List (ModelUsage C)) :=
  rollup (fun models model => models.getD [] ++ [model]) []
    ((store.modelQuery order "lifetime" "all").map fun e =>
      (e.1.prompt, modelUsage round (Assoc.get? (store.modelMonthlyMap order month) (e.1.prompt, e.1.modelId)) e))

/-- The prompt of a row. -/
def promptUsage (models : List ((String × String) × List (ModelUsage C))) (monthly : Option (UsageRow C))
    (e : RollupKey × UsageRow C) : PromptUsage C where
  promptId := e.1.promptId
  customerId := stripOrNone e.2.customerId
  lifetime := datedUsageOf round (some e.2)
  currentMonth := datedUsageOf round monthly
  models := sortByCost (fun model => model.lifetime.costUsd) ((Assoc.get? models e.1.prompt).getD [])

/-- A row is added to its client. -/
def ClientUsage.absorb (models : List ((String × String) × List (ModelUsage C)))
    (monthlyRow : RollupKey → Option (UsageRow C)) (client : Option (ClientUsage C)) (e : RollupKey × UsageRow C) :
    ClientUsage C :=
  let customerId := stripOrNone e.2.customerId
  let client := client.getD ⟨e.1.clientId, customerId, Bucket.zero, Bucket.zero, []⟩
  { client with
    customerId := client.customerId <|> customerId
    lifetime := client.lifetime.add (usageOf (some e.2))
    currentMonth := client.currentMonth.add (usageOf (monthlyRow e.1))
    prompts := client.prompts ++ [promptUsage round models (monthlyRow e.1) e] }

/-- The costs of a client are rounded, and its prompts are sorted. -/
def ClientUsage.finish (client : ClientUsage C) : ClientUsage C :=
  { client with
    lifetime := client.lifetime.rounded round
    currentMonth := client.currentMonth.rounded round
    prompts := sortByCost (fun prompt => prompt.lifetime.costUsd) client.prompts }

/-- The clients, by their ids. -/
def ClientUsageStore.clients (store : ClientUsageStore C) (order : RowOrder C) (month : String) :
    List (String × ClientUsage C) :=
  rollup (ClientUsage.absorb round (store.modelsByPrompt round order month) fun key =>
      Assoc.get? (store.monthlyMap order month) key.prompt) []
    ((store.query order "lifetime" "all").map fun e => (e.1.clientId, e))

/-- `month_key`, or the month of the clock. -/
def selectedMonth (now : String) (monthKey : Option String) : String :=
  let current := String.ofList (now.toList.take 7)
  stripOr (if monthKey.getD "" = "" then current else monthKey.getD "") current

/-- `summary_payload`. -/
def ClientUsageStore.summaryPayload (store : ClientUsageStore C) (order : RowOrder C) (now : String)
    (monthKey : Option String) : UsageSummary C where
  currentMonth := selectedMonth now monthKey
  clients :=
    sortByCost (fun client => client.lifetime.costUsd)
      ((store.clients round order (selectedMonth now monthKey)).map fun e => e.2.finish round)

end Summary

end Usage
end HexeAiNode
