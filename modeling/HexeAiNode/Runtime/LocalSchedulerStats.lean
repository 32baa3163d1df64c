import HexeAiNode.Library.Run
import HexeAiNode.Python.Json

/-!
# Statistics of the local scheduler

The scheduler keeps, for every component, how often it was sampled, the last sample, and a rolling average and a
rolling maximum of each metric; and for every family of tasks the same of three durations.  `update_component_stats`
works on the state that was loaded, `record_execution_timing` on the file; a normaliser rewrites the state whenever one
of them begins, and whenever it is loaded or saved.

How the average is smoothed is a parameter: it may fail, for an integer that is too large for a float, and no result
here depends on its value.
-/

namespace HexeAiNode
namespace Runtime

open Py

/-! ## Metrics -/

/-- `_normalize_metric_map` on one value; `none` for a value that is dropped. -/
def normalizeMetric : Value → Option Value
  | .bool b => some (.int (if b then 1 else 0))
  | .int i => some (.int i)
  | .float x text => some (.float x text)
  | .null => some .null
  | _ => none

/-- An entry of a metric map, if it is not dropped. -/
def setMetric (out : Dict) (entry : String × Value) : Dict :=
  (normalizeMetric entry.2).elim out (out.set entry.1)

/-- `_normalize_metric_map`. -/
def normalizeMetricMap (value : Value) : Dict := value.asDict.foldl setMetric []

/-- `x < y` for two floats. -/
def isLess : FloatVal → FloatVal → Bool
  | .finite x, .finite y => decide (x < y)
  | .negInf, .finite _ | .negInf, .posInf | .finite _, .posInf => true
  | _, _ => false

/-- `x > y` for two numbers. -/
def exceeds (x y : Value) : Bool :=
  match x.number?, y.number? with
  | some x, some y => isLess y x
  | _, _ => false

/-- `isinstance(x, (int, float))`. -/
def isNumber (x : Value) : Bool := x.number?.isSome

/-- The next rolling average. -/
def nextAverage (smooth : Value → Value → Except Exc Value) (previous value : Value) : Except Exc Value :=
  if isNumber previous then smooth previous value else .ok value

/-- The next rolling maximum: `max(previous, value)`, if there is a previous one. -/
def nextMax (previous value : Value) : Value :=
  if isNumber previous then (if exceeds value previous then value else previous) else value

/-! ## The state -/

/-- What is kept of a family of tasks. -/
structure TimingStats where
  sampleCount : ℤ := 0
  rollingAverageMs : Dict := []
  rollingMaxMs : Dict := []
  lastSampleMs : Dict := []
  lastUpdatedAt : String := ""

/-- What is kept of a component. -/
structure ComponentStats where
  componentId : String
  sampleCount : ℤ := 0
  current : Dict := []
  rollingAverage : Dict := []
  rollingMax : Dict := []
  timing : List (String × TimingStats) := []
  lastUpdatedAt : String := ""

/-- The statistics. -/
structure StatsState where
  components : List (String × ComponentStats) := []
  updatedAt : String

/-- A text that is `None` if it is empty. -/
def textOrNone (s : String) : Value := if s = "" then .null else .str s

/-- The fields of a family of tasks. -/
def TimingStats.toValue (entry : TimingStats) : Value :=
  .dict [("sample_count", .int entry.sampleCount), ("rolling_average_ms", .dict entry.rollingAverageMs),
    ("rolling_max_ms", .dict entry.rollingMaxMs), ("last_sample_ms", .dict entry.lastSampleMs),
    ("last_updated_at", textOrNone entry.lastUpdatedAt)]

/-- The families of tasks. -/
def timingToValue (timing : List (String × TimingStats)) : Value :=
  .dict [("task_families", .dict (timing.map fun entry => (entry.1, entry.2.toValue)))]

/-- The fields of a component. -/
def ComponentStats.toValue (entry : ComponentStats) : Value :=
  .dict [("component_id", .str entry.componentId), ("sample_count", .int entry.sampleCount),
    ("current", .dict entry.current), ("rolling_average", .dict entry.rollingAverage),
    ("rolling_max", .dict entry.rollingMax), ("timing", timingToValue entry.timing),
    ("last_updated_at", textOrNone entry.lastUpdatedAt)]

/-- The fields of the state. -/
def StatsState.toValue (stats : StatsState) : Value :=
  .dict [("schema_version", .str "1.0"),
    ("components", .dict (stats.components.map fun entry => (entry.1, entry.2.toValue))),
    ("updated_at", .str stats.updatedAt)]

/-! ## The normaliser -/

/-- `max(int(x or 0), 0)`. -/
def normalizeCount (value : Value) : Except Exc ℤ := do
  let n ← (value.orElse (.int 0)).toInt
  return max n 0

/-- The fields of a family of tasks. -/
def normalizeTimingEntry (entry : Dict) : Except Exc TimingStats := do
  let sampleCount ← normalizeCount (entry.get "sample_count")
  return {
    sampleCount := sampleCount
    rollingAverageMs := normalizeMetricMap (entry.get "rolling_average_ms")
    rollingMaxMs := normalizeMetricMap (entry.get "rolling_max_ms")
    lastSampleMs := normalizeMetricMap (entry.get "last_sample_ms")
    lastUpdatedAt := (entry.get "last_updated_at").normalizeString }

/-- The entries that are dictionaries, normalised. -/
def normalizeEntries {α : Type} (normalize : String → Dict → Except Exc α) (value : Value) :
    Except Exc (List (String × α)) :=
  (value.asDict.filter (·.2.isDict)).mapM fun entry => (entry.1, ·) <$> normalize entry.1 entry.2.asDict

/-- `_normalize_timing_stats`. -/
def normalizeTimingStats (value : Value) : Except Exc (List (String × TimingStats)) :=
  normalizeEntries (fun _ entry => normalizeTimingEntry entry) (value.asDict.get "task_families")

/-- The fields of a component. -/
def normalizeComponentEntry (componentId : String) (entry : Dict) : Except Exc ComponentStats := do
  let sampleCount ← normalizeCount (entry.get "sample_count")
  let timing ← normalizeTimingStats (entry.get "timing")
  return {
    componentId := ((entry.get "component_id").orElse (.str componentId)).toStr
    sampleCount := sampleCount
    current := normalizeMetricMap (entry.get "current")
    rollingAverage := normalizeMetricMap (entry.get "rolling_average")
    rollingMax := normalizeMetricMap (entry.get "rolling_max")
    timing := timing
    lastUpdatedAt := (entry.get "last_updated_at").normalizeString }

/-- `normalize_local_scheduler_stats_state`. -/
def normalizeStatsState (now : String) (data : Value) : Except Exc StatsState :=
  if !data.isDict then .error ⟨.valueError, "invalid_local_scheduler_stats_state"⟩
  else if (data.asDict.get "schema_version").normalizeString ≠ "1.0" then
    .error ⟨.valueError, "invalid_local_scheduler_stats_schema"⟩
  else if !(data.asDict.get "components").isDict then
    .error ⟨.valueError, "invalid_local_scheduler_stats_components"⟩
  else do
    let components ← normalizeEntries normalizeComponentEntry (data.asDict.get "components")
    let updatedAt := strip ((data.asDict.get "updated_at").orElse (.str now)).toStr
    return { components := components, updatedAt := if updatedAt = "" then now else updatedAt }

/-! ## Updates -/

section Updates

variable (smooth : Value → Value → Except Exc Value) (now : String)

/-- `update_component_stats`: the maps are built from the metrics of the sample. -/
def updateComponentStats (stats : StatsState) (componentId : String) (sample : Value) : Except Exc StatsState := do
  let normalized ← normalizeStatsState now stats.toValue
  let existing := (Assoc.get? normalized.components componentId).getD { componentId := componentId }
  let previousAverage := normalizeMetricMap (.dict existing.rollingAverage)
  let previousMax := normalizeMetricMap (.dict existing.rollingMax)
  let current := normalizeMetricMap sample
  let rollingAverage ← current.mapM fun entry => (entry.1, ·) <$>
    if entry.2.isNull then .ok (previousAverage.get entry.1)
    else nextAverage smooth (previousAverage.get entry.1) entry.2
  let rollingMax := current.map fun entry =>
    (entry.1, if entry.2.isNull then previousMax.get entry.1 else nextMax (previousMax.get entry.1) entry.2)
  let updated : ComponentStats :=
    { existing with
      componentId := componentId
      sampleCount := max existing.sampleCount 0 + 1
      current := current
      rollingAverage := rollingAverage
      rollingMax := rollingMax
      lastUpdatedAt := now }
  return { normalized with components := Assoc.set normalized.components componentId updated }

/-- The durations of a task as a sample. -/
def timingSample (queuedDurationMs executionDurationMs totalDurationMs : Value) : Dict :=
  normalizeMetricMap (.dict [("queued_duration_ms", queuedDurationMs),
    ("execution_duration_ms", executionDurationMs), ("total_duration_ms", totalDurationMs)])

/-- `{**previous, **entries}`. -/
def mergeEntries (previous entries : Dict) : Dict := entries.foldl (fun d e => Dict.set d e.1 e.2) previous

/-- The entry of a family after a sample: the maps are merged with the previous ones. -/
def updateTimingEntry (entry : TimingStats) (sample : Dict) : Except Exc TimingStats := do
  let previousAverage := normalizeMetricMap (.dict entry.rollingAverageMs)
  let previousMax := normalizeMetricMap (.dict entry.rollingMaxMs)
  let measured := sample.filter fun e => !e.2.isNull
  let rollingAverage ← measured.mapM fun e => (e.1, ·) <$> nextAverage smooth (previousAverage.get e.1) e.2
  let rollingMax := measured.map fun e => (e.1, nextMax (previousMax.get e.1) e.2)
  return {
    sampleCount := max entry.sampleCount 0 + 1
    rollingAverageMs := mergeEntries previousAverage rollingAverage
    rollingMaxMs := mergeEntries previousMax rollingMax
    lastSampleMs := sample
    lastUpdatedAt := now }

/-- The key of a family of tasks. -/
def taskKey (taskFamily : Value) : String :=
  let key := strip (taskFamily.orElse (.str "unknown")).toStr
  if key = "" then "unknown" else key

/-- What `record_execution_timing` makes of the state. -/
def recordTiming (stats : StatsState) (componentId taskFamily : Value) (sample : Dict) : Except Exc StatsState := do
  let componentKey := componentId.normalizeString
  let component := (Assoc.get? stats.components componentKey).getD { componentId := componentKey }
  let entry := (Assoc.get? component.timing (taskKey taskFamily)).getD {}
  let entry ← updateTimingEntry smooth now entry sample
  let component : ComponentStats :=
    { component with timing := Assoc.set component.timing (taskKey taskFamily) entry, lastUpdatedAt := now }
  return { stats with components := Assoc.set stats.components componentKey component }

end Updates

/-! ## The store -/

/-- The file, and the state that was loaded from it and is not saved yet. -/
structure StatsStore where
  file : Option Value := none
  loaded : Option StatsState := none

/-- `load_stats`; a file that is not valid is logged. -/
def loadStats (now : String) (file : Option Value) : Option StatsState :=
  file.bind fun payload => (normalizeStatsState now payload).toOption

/-- `save_stats`: what is written, with sorted keys. -/
def saveStats (now : String) (stats : StatsState) : Except Exc Value := do
  let normalized ← normalizeStatsState now stats.toValue
  return { normalized with updatedAt := now }.toValue.sortKeys

/-- `load_or_create_stats`, with the file afterwards. -/
def loadOrCreateStats (now : String) (file : Option Value) : Except Exc (StatsState × Option Value) :=
  match loadStats now file with
  | some stats => .ok (stats, file)
  | none => do
    let created : StatsState := { updatedAt := now }
    let written ← saveStats now created
    return (created, some written)

/-- A call. -/
inductive StatsOp where
  | load
  | update (componentId : String) (sample : Value)
  | save
  | timing (componentId taskFamily queuedDurationMs executionDurationMs totalDurationMs : Value)

section Calls

variable (smooth : Value → Value → Except Exc Value)

/-- A call at some moment. -/
def StatsStore.call (store : StatsStore) (now : String) : StatsOp → Except Exc StatsStore
  | .load => do
    let (stats, file) ← loadOrCreateStats now store.file
    return { file := file, loaded := some stats }
  | .update componentId sample =>
    match store.loaded with
    | none => .ok store
    | some stats => do
      let updated ← updateComponentStats smooth now stats componentId sample
      return { store with loaded := some updated }
  | .save =>
    match store.loaded with
    | none => .ok store
    | some stats => do
      let written ← saveStats now stats
      return { file := some written, loaded := none }
  | .timing componentId taskFamily queuedDurationMs executionDurationMs totalDurationMs => do
    let (stats, _) ← loadOrCreateStats now store.file
    let updated ← recordTiming smooth now stats componentId taskFamily
      (timingSample queuedDurationMs executionDurationMs totalDurationMs)
    let written ← saveStats now updated
    return { store with file := some written }

end Calls

end Runtime
end HexeAiNode
