import HexeAiNode.Python.Copying
import HexeAiNode.Runtime.LocalSchedulerStats

/-!
# Rolling maxima

A rolling maximum should be the largest value that was ever recorded for its metric.  `record_execution_timing` merges
its maxima with the previous ones, and there it is (`isMaximum_timingMaxima`).  `update_component_stats` builds the
maxima from the metrics of the current sample alone, so that a metric which a sample does not name loses its maximum.

The law holds in every run in which each sample names the metrics for which there is a maximum already, perhaps with
`None`, and in which the statistics that were loaded are saved before the file is used again
(`rolling_maxima_are_maxima`).  What the normaliser does to the statistics at each step, and the writing and reading of
the file, keeps the counts and the maxima (`normalizeStatsState_copy`, `loadStats_saveStats`).

`nan` is larger than nothing and nothing is larger than `nan`: a maximum is a recorded value that no recorded value
exceeds.
-/

namespace HexeAiNode
namespace Runtime

open Py

/-! ## Maxima -/

theorem isLess_irrefl (x : FloatVal) : isLess x x = false := by
  cases x <;> simp [isLess]

theorem isLess_trans {x y z : FloatVal} (hxy : isLess x y = true) (hyz : isLess y z = true) : isLess x z = true := by
  cases x <;> cases y <;> cases z <;> simp_all [isLess]
  exact hxy.trans hyz

theorem exceeds_self (v : Value) : exceeds v v = false := by
  unfold exceeds
  rcases v.number? with _ | x
  · rfl
  · exact isLess_irrefl x

theorem exceeds_iff {u v : Value} :
    exceeds u v = true ↔ ∃ x y, u.number? = some x ∧ v.number? = some y ∧ isLess y x = true := by
  unfold exceeds
  rcases u.number? with _ | x <;> rcases v.number? with _ | y <;> simp

theorem exceeds_trans {u v w : Value} (huv : exceeds u v = true) (hvw : exceeds v w = true) : exceeds u w = true := by
  obtain ⟨x, y, hx, hy, hxy⟩ := exceeds_iff.mp huv
  obtain ⟨y', z, hy', hz, hyz⟩ := exceeds_iff.mp hvw
  obtain rfl := Option.some.inj (hy.symm.trans hy')
  exact exceeds_iff.mpr ⟨x, z, hx, hz, isLess_trans hyz hxy⟩

/-- The value is a recorded one that no recorded one exceeds; without a recorded value there is none. -/
def IsMaximum (maximum : Value) (values : List Value) : Prop :=
  if values = [] then maximum = .null else maximum ∈ values ∧ ∀ v ∈ values, exceeds v maximum = false

section Maximum

variable {maximum v : Value} {values : List Value}

theorem IsMaximum.eq_nil (h : IsMaximum maximum values) (hnumbers : ∀ v ∈ values, isNumber v = true)
    (hnone : isNumber maximum = false) : values = [] := by
  by_contra hne
  rw [IsMaximum, if_neg hne] at h
  rw [hnumbers maximum h.1] at hnone
  cases hnone

/-- **One more value**: `nextMax` is the maximum again. -/
theorem IsMaximum.next (h : IsMaximum maximum values) (hnumbers : ∀ v ∈ values, isNumber v = true) :
    IsMaximum (nextMax maximum v) (values ++ [v]) := by
  rw [IsMaximum, if_neg (by simp)]
  by_cases hnil : values = []
  · rw [IsMaximum, if_pos hnil] at h
    subst h hnil
    simpa [nextMax, isNumber, Value.number?] using exceeds_self v
  · rw [IsMaximum, if_neg hnil] at h
    rw [nextMax, if_pos (hnumbers maximum h.1)]
    split
    · next hexceeds =>
      refine ⟨by simp, fun w hw => ?_⟩
      rcases List.mem_append.mp hw with hw | hw
      · refine eq_false_of_ne_true fun hlarger => ?_
        have hnone := h.2 w hw
        rw [exceeds_trans hlarger hexceeds] at hnone
        cases hnone
      · rw [List.mem_singleton.mp hw]
        exact exceeds_self v
    · next hexceeds =>
      refine ⟨List.mem_append_left _ h.1, fun w hw => ?_⟩
      rcases List.mem_append.mp hw with hw | hw
      · exact h.2 w hw
      · rw [List.mem_singleton.mp hw]
        exact eq_false_of_ne_true hexceeds

end Maximum

/-! ## Metric maps -/

/-- No metric occurs twice, and the values are numbers or `None`. -/
structure NormalMap (d : Dict) : Prop where
  distinct : Assoc.Distinct d
  normal : ∀ e ∈ d, normalizeMetric e.2 = some e.2

section Maps

variable {d out : Dict} {key : String}

theorem normalizeMetric_normalizeMetric {v w : Value} (h : normalizeMetric v = some w) :
    normalizeMetric w = some w := by
  cases v <;> simp_all [normalizeMetric] <;> subst h <;> rfl

theorem normalMap_nil : NormalMap [] := ⟨Assoc.distinct_nil, by simp⟩

/-- A normalised value that is set. -/
theorem NormalMap.set {v : Value} (h : NormalMap d) (hv : normalizeMetric v = some v) : NormalMap (d.set key v) := by
  refine ⟨h.distinct.set key v, fun e he => ?_⟩
  rcases Assoc.mem_of_mem_set he with rfl | he
  · exact hv
  · exact h.normal e he

theorem NormalMap.setMetric (h : NormalMap out) (entry : String × Value) : NormalMap (setMetric out entry) := by
  unfold Runtime.setMetric
  rcases hmetric : normalizeMetric entry.2 with _ | v
  · exact h
  · exact h.set (normalizeMetric_normalizeMetric hmetric)

/-- **The normaliser of metric maps** gives a normal map. -/
theorem normalMap_normalizeMetricMap (value : Value) : NormalMap (normalizeMetricMap value) :=
  List.foldlRecOn (motive := NormalMap) value.asDict _ normalMap_nil fun _ hout entry _ => hout.setMetric entry

/-- What is read after a merge. -/
theorem get?_mergeEntries {entries : Dict} (h : Assoc.Distinct entries) (previous : Dict) (key : String) :
    Assoc.get? (mergeEntries previous entries) key = (Assoc.get? entries key).or (Assoc.get? previous key) := by
  unfold mergeEntries
  induction entries generalizing previous with
  | nil => rfl
  | cons e entries ih =>
    obtain ⟨k, v⟩ := e
    have hdistinct := List.nodup_cons.mp h
    rw [List.foldl_cons, ih hdistinct.2, Assoc.get?_cons]
    unfold Dict.set
    rw [Assoc.get?_set]
    by_cases hk : k = key
    · subst hk
      have hnone : Assoc.get? entries k = none := Assoc.get?_eq_none_iff.mpr hdistinct.1
      rw [hnone, if_pos rfl, if_pos rfl]
      rfl
    · rw [if_neg hk, if_neg (Ne.symm hk)]

theorem NormalMap.merge {entries : Dict} (h : NormalMap d) (hentries : NormalMap entries) :
    NormalMap (mergeEntries d entries) :=
  List.foldlRecOn (motive := NormalMap) entries _ h fun _ hout entry hentry => hout.set (hentries.normal entry hentry)

/-- A normal map is read as it is. -/
theorem foldl_setMetric (h : NormalMap d) (out : Dict) : d.foldl setMetric out = mergeEntries out d := by
  refine List.foldl_ext _ _ out fun out e he => ?_
  rw [setMetric, h.normal e he]
  rfl

theorem get_normalizeMetricMap (h : NormalMap d) (key : String) :
    (normalizeMetricMap (.dict d)).get key = d.get key := by
  unfold Dict.get normalizeMetricMap
  rw [Value.asDict_dict, foldl_setMetric h, get?_mergeEntries h.distinct, Assoc.get?_nil, Option.or_none]

end Maps

/-! ## Copies of the state -/

section Copies

variable {copy : Value → Value}

/-- A normalised value is a scalar. -/
theorem copy_metric (h : Copying copy) {v w : Value} (hv : normalizeMetric v = some w) : copy v = v := by
  cases v <;> first | exact h.scalar _ rfl rfl | cases hv

/-- The copy of a normal map is read like the map. -/
theorem normalizeMetricMap_copy (h : Copying copy) {d : Dict} (hd : NormalMap d) (key : String) :
    (normalizeMetricMap (copy (.dict d))).get key = d.get key := by
  obtain ⟨d', hcopy, hdistinct, hget⟩ := h.exists_dict hd.distinct
  have hsame : ∀ key, Assoc.get? d' key = Assoc.get? d key := by
    intro key
    rw [hget]
    rcases hv : Assoc.get? d key with _ | v
    · rfl
    · exact congrArg some (copy_metric h (hd.normal (key, v) (Assoc.mem_of_get? hv)))
  have hnormal : NormalMap d' := by
    refine ⟨hdistinct, fun e he => ?_⟩
    have hmem := Assoc.get?_of_mem hdistinct he
    rw [hsame] at hmem
    exact hd.normal e (Assoc.mem_of_get? hmem)
  rw [hcopy, get_normalizeMetricMap hnormal]
  unfold Dict.get
  rw [hsame]

end Copies

theorem get?_map_values {α β : Type} (f : String → α → β) (d : List (String × α)) (key : String) :
    Assoc.get? (d.map fun e => (e.1, f e.1 e.2)) key = (Assoc.get? d key).map (f key) := by
  induction d with
  | nil => rfl
  | cons e d ih =>
    rw [List.map_cons, Assoc.get?_cons, Assoc.get?_cons, ih]
    split
    · next h => rw [h, Option.map_some]
    · rfl

theorem get?_filter_values {α : Type} {p : α → Bool} {d : List (String × α)} (h : Assoc.Distinct d) (key : String) :
    Assoc.get? (d.filter fun e => p e.2) key = (Assoc.get? d key).filter p := by
  induction d with
  | nil => rfl
  | cons e d ih =>
    obtain ⟨k, a⟩ := e
    have hdistinct := List.nodup_cons.mp h
    rw [List.filter_cons, Assoc.get?_cons]
    by_cases hk : k = key
    · subst hk
      have hnone : Assoc.get? d k = none := Assoc.get?_eq_none_iff.mpr hdistinct.1
      rw [if_pos rfl]
      by_cases ha : p a = true
      · rw [if_pos ha, Assoc.get?_cons, if_pos rfl, Option.filter_some, if_pos ha]
      · rw [if_neg ha, ih hdistinct.2, hnone, Option.filter_some, if_neg ha]
        rfl
    · rw [if_neg hk, ← ih hdistinct.2]
      split
      · rw [Assoc.get?_cons, if_neg hk]
      · rfl

theorem distinct_map_values {α β : Type} {f : String → α → β} {d : List (String × α)} (h : Assoc.Distinct d) :
    Assoc.Distinct (d.map fun e => (e.1, f e.1 e.2)) := by
  unfold Assoc.Distinct Assoc.keys at h ⊢
  rw [List.map_map]
  exact h

/-- The entries of a map that goes well. -/
theorem get?_of_mapM {α β : Type} {f : String → α → Except Exc β} {d : List (String × α)} {out : List (String × β)}
    (h : d.mapM (fun e => (e.1, ·) <$> f e.1 e.2) = .ok out) :
    Assoc.keys out = Assoc.keys d ∧ ∀ key, match Assoc.get? d key with
      | some a => ∃ b, f key a = .ok b ∧ Assoc.get? out key = some b
      | none => Assoc.get? out key = none := by
  induction d generalizing out with
  | nil =>
    obtain rfl := pure_eq_ok.mp h
    exact ⟨rfl, fun key => rfl⟩
  | cons e d ih =>
    obtain ⟨k, a⟩ := e
    rw [List.mapM_cons] at h
    obtain ⟨entry, hentry, h⟩ := bind_eq_ok.mp h
    obtain ⟨rest, hrest, h⟩ := bind_eq_ok.mp h
    obtain rfl := pure_eq_ok.mp h
    obtain ⟨hkeys, hget⟩ := ih hrest
    obtain ⟨b, hb, rfl⟩ : ∃ b, f k a = .ok b ∧ (k, b) = entry := by
      dsimp only at hentry
      rcases hf : f k a with e | b
      · rw [hf] at hentry
        cases hentry
      · rw [hf] at hentry
        exact ⟨b, rfl, Except.ok.inj hentry⟩
    refine ⟨congrArg (k :: ·) hkeys, fun key => ?_⟩
    rw [Assoc.get?_cons, Assoc.get?_cons]
    by_cases hk : k = key
    · subst hk
      rw [if_pos rfl, if_pos rfl]
      exact ⟨b, hb, rfl⟩
    · rw [if_neg hk, if_neg hk]
      exact hget key

/-- A map goes well if it does for every element. -/
theorem exists_mapM {α β : Type} {f : α → Except Exc β} {l : List α} (h : ∀ a ∈ l, ∃ b, f a = .ok b) :
    ∃ out, l.mapM f = .ok out := by
  rcases hresult : l.mapM f with e | out
  · obtain ⟨a, ha, herror⟩ := exists_of_mapM_eq_error hresult
    obtain ⟨b, hb⟩ := h a ha
    rw [hb] at herror
    cases herror
  · exact ⟨out, rfl⟩

/-- **Normalising the copy** of a dictionary of entries: every entry is normalised by itself. -/
theorem normalizeEntries_copy {α β : Type} {copy : Value → Value} (hcopy : Copying copy) {toValue : α → Value}
    {normalize : String → Dict → Except Exc β} {Same : α → β → Prop} {d : List (String × α)}
    (hdistinct : Assoc.Distinct d) (hdict : ∀ e ∈ d, (copy (toValue e.2)).isDict = true)
    (hsame : ∀ e ∈ d, ∃ b, normalize e.1 (copy (toValue e.2)).asDict = .ok b ∧ Same e.2 b) :
    ∃ out, normalizeEntries normalize (copy (.dict (d.map fun e => (e.1, toValue e.2)))) = .ok out ∧
      Assoc.Distinct out ∧ ∀ key, match Assoc.get? d key with
        | some a => ∃ b, Assoc.get? out key = some b ∧ Same a b
        | none => Assoc.get? out key = none := by
  obtain ⟨kvs, hkvs, hnodup, hget⟩ := hcopy.exists_dict (distinct_map_values (f := fun _ => toValue) hdistinct)
  have hread : ∀ key, Assoc.get? kvs key = (Assoc.get? d key).map fun a => copy (toValue a) := by
    intro key
    rw [hget, get?_map_values (fun _ => toValue), Option.map_map]
    rfl
  have hmem : ∀ e ∈ kvs, ∃ a, (e.1, a) ∈ d ∧ e.2 = copy (toValue a) := by
    intro e he
    have hentry := Assoc.get?_of_mem hnodup he
    rw [hread] at hentry
    obtain ⟨a, ha, heq⟩ := Option.map_eq_some_iff.mp hentry
    exact ⟨a, Assoc.mem_of_get? ha, heq.symm⟩
  have hfilter : kvs.filter (·.2.isDict) = kvs := by
    refine List.filter_eq_self.mpr fun e he => ?_
    obtain ⟨a, ha, heq⟩ := hmem e he
    rw [heq]
    exact hdict _ ha
  have hok : ∀ e ∈ kvs, ∃ b, ((e.1, ·) <$> normalize e.1 e.2.asDict : Except Exc (String × β)) = .ok b := by
    intro e he
    obtain ⟨a, ha, heq⟩ := hmem e he
    obtain ⟨b, hb, -⟩ := hsame _ ha
    rw [heq, hb]
    exact ⟨_, rfl⟩
  obtain ⟨out, hout⟩ := exists_mapM hok
  obtain ⟨hkeys, hvalues⟩ := get?_of_mapM (f := fun key (v : Value) => normalize key v.asDict) hout
  refine ⟨out, ?_, ?_, fun key => ?_⟩
  · rw [hkvs, normalizeEntries, Value.asDict_dict, hfilter]
    exact hout
  · unfold Assoc.Distinct
    rw [hkeys]
    exact hnodup
  · have hvalue := hvalues key
    rw [hread] at hvalue
    rcases ha : Assoc.get? d key with _ | a
    · rw [ha] at hvalue
      exact hvalue
    · rw [ha] at hvalue
      obtain ⟨b, hb, hgets⟩ := hvalue
      obtain ⟨b', hb', hsame⟩ := hsame _ (Assoc.mem_of_get? ha)
      obtain rfl := Except.ok.inj (hb'.symm.trans hb)
      exact ⟨b', hgets, hsame⟩

/-! ## The normaliser -/

/-- The statistics of a family of tasks are as the normaliser leaves them. -/
structure TimingStats.Normal (entry : TimingStats) : Prop where
  sampleCount : 0 ≤ entry.sampleCount
  rollingMaxMs : NormalMap entry.rollingMaxMs

/-- The statistics of a component are as the normaliser leaves them. -/
structure ComponentStats.Normal (entry : ComponentStats) : Prop where
  sampleCount : 0 ≤ entry.sampleCount
  rollingMax : NormalMap entry.rollingMax
  timing : Assoc.Distinct entry.timing
  families : ∀ e ∈ entry.timing, e.2.Normal

/-- The statistics are as the normaliser leaves them. -/
structure StatsState.Normal (stats : StatsState) : Prop where
  components : Assoc.Distinct stats.components
  entries : ∀ e ∈ stats.components, e.2.Normal

/-- The same count and the same maxima. -/
structure TimingStats.Same (entry entry' : TimingStats) : Prop where
  normal : entry'.Normal
  sampleCount : entry'.sampleCount = entry.sampleCount
  rollingMaxMs : ∀ key, entry'.rollingMaxMs.get key = entry.rollingMaxMs.get key

/-- Entries of the same keys that are related. -/
def SameEntries {α β : Type} (Same : α → β → Prop) (d : List (String × α)) (d' : List (String × β)) : Prop :=
  ∀ key, match Assoc.get? d key with
    | some a => ∃ b, Assoc.get? d' key = some b ∧ Same a b
    | none => Assoc.get? d' key = none

/-- The same count, the same maxima, and the same of every family of tasks. -/
structure ComponentStats.Same (entry entry' : ComponentStats) : Prop where
  normal : entry'.Normal
  sampleCount : entry'.sampleCount = entry.sampleCount
  rollingMax : ∀ key, entry'.rollingMax.get key = entry.rollingMax.get key
  timing : SameEntries TimingStats.Same entry.timing entry'.timing

/-- The same counts and maxima of every component. -/
structure StatsState.Same (stats stats' : StatsState) : Prop where
  normal : stats'.Normal
  components : SameEntries ComponentStats.Same stats.components stats'.components

/-- What is said of the entries of one dictionary holds of those of the other. -/
theorem SameEntries.forall {α β : Type} {Same : α → β → Prop} {d : List (String × α)} {d' : List (String × β)}
    (h : SameEntries Same d d') (hdistinct : Assoc.Distinct d') {P : β → Prop} (hP : ∀ a b, Same a b → P b) :
    ∀ e ∈ d', P e.2 := by
  intro e he
  have hget := Assoc.get?_of_mem hdistinct he
  have hkey := h e.1
  rcases ha : Assoc.get? d e.1 with _ | a
  · rw [ha] at hkey
    rw [hget] at hkey
    cases hkey
  · rw [ha] at hkey
    obtain ⟨b, hb, hsame⟩ := hkey
    obtain rfl := Option.some.inj (hget.symm.trans hb)
    exact hP a _ hsame

section Normaliser

variable {copy : Value → Value}

theorem normalizeCount_int {n : ℤ} (h : 0 ≤ n) : normalizeCount (.int n) = .ok n := by
  have hint : (Value.int n).orElse (.int 0) = .int n := by
    unfold Value.orElse
    split
    · rfl
    · next hzero =>
      have hn : n = 0 := by simpa [Value.truthy] using hzero
      rw [hn]
  rw [normalizeCount, hint, Value.toInt_int]
  exact congrArg Except.ok (max_eq_left h)

/-- A family of tasks. -/
theorem normalizeTimingEntry_copy (hcopy : Copying copy) {entry : TimingStats} (h : entry.Normal) :
    ∃ entry', normalizeTimingEntry (copy entry.toValue).asDict = .ok entry' ∧ entry.Same entry' := by
  have hdistinct : Assoc.Distinct [("sample_count", Value.int entry.sampleCount),
      ("rolling_average_ms", .dict entry.rollingAverageMs), ("rolling_max_ms", .dict entry.rollingMaxMs),
      ("last_sample_ms", .dict entry.lastSampleMs), ("last_updated_at", textOrNone entry.lastUpdatedAt)] := by
    simp [Assoc.Distinct, Assoc.keys]
  have hcount : (copy entry.toValue).asDict.get "sample_count" = .int entry.sampleCount :=
    (hcopy.get hdistinct _).trans (hcopy.scalar _ rfl rfl)
  have hmax : (copy entry.toValue).asDict.get "rolling_max_ms" = copy (.dict entry.rollingMaxMs) :=
    hcopy.get hdistinct _
  unfold normalizeTimingEntry
  rw [hcount, normalizeCount_int h.sampleCount]
  refine ⟨_, rfl, ⟨h.sampleCount, normalMap_normalizeMetricMap _⟩, rfl, fun key => ?_⟩
  dsimp only
  rw [hmax]
  exact normalizeMetricMap_copy hcopy h.rollingMaxMs key

/-- The families of tasks. -/
theorem normalizeTimingStats_copy (hcopy : Copying copy) {timing : List (String × TimingStats)}
    (hdistinct : Assoc.Distinct timing) (h : ∀ e ∈ timing, e.2.Normal) :
    ∃ timing', normalizeTimingStats (copy (timingToValue timing)) = .ok timing' ∧ Assoc.Distinct timing' ∧
      SameEntries TimingStats.Same timing timing' := by
  have hone : Assoc.Distinct [("task_families", Value.dict (timing.map fun e => (e.1, e.2.toValue)))] := by
    simp [Assoc.Distinct, Assoc.keys]
  have hfamilies : (copy (timingToValue timing)).asDict.get "task_families" =
      copy (.dict (timing.map fun e => (e.1, e.2.toValue))) := hcopy.get hone _
  rw [normalizeTimingStats, hfamilies]
  exact normalizeEntries_copy hcopy hdistinct (fun e _ => hcopy.isDict _) fun e he =>
    normalizeTimingEntry_copy hcopy (h e he)

/-- A component. -/
theorem normalizeComponentEntry_copy (hcopy : Copying copy) {entry : ComponentStats} (h : entry.Normal)
    (componentId : String) :
    ∃ entry', normalizeComponentEntry componentId (copy entry.toValue).asDict = .ok entry' ∧ entry.Same entry' := by
  have hdistinct : Assoc.Distinct [("component_id", Value.str entry.componentId),
      ("sample_count", .int entry.sampleCount), ("current", .dict entry.current),
      ("rolling_average", .dict entry.rollingAverage), ("rolling_max", .dict entry.rollingMax),
      ("timing", timingToValue entry.timing), ("last_updated_at", textOrNone entry.lastUpdatedAt)] := by
    simp [Assoc.Distinct, Assoc.keys]
  have hcount : (copy entry.toValue).asDict.get "sample_count" = .int entry.sampleCount :=
    (hcopy.get hdistinct _).trans (hcopy.scalar _ rfl rfl)
  have hmax : (copy entry.toValue).asDict.get "rolling_max" = copy (.dict entry.rollingMax) :=
    hcopy.get hdistinct _
  have htiming : (copy entry.toValue).asDict.get "timing" = copy (timingToValue entry.timing) :=
    hcopy.get hdistinct _
  obtain ⟨timing, hok, hnodup, hsame⟩ := normalizeTimingStats_copy hcopy h.timing h.families
  unfold normalizeComponentEntry
  rw [hcount, normalizeCount_int h.sampleCount, htiming, hok]
  refine ⟨_, rfl, ⟨h.sampleCount, normalMap_normalizeMetricMap _, hnodup, ?_⟩, rfl, fun key => ?_, hsame⟩
  · exact hsame.forall hnodup fun _ _ hentry => hentry.normal
  · dsimp only
    rw [hmax]
    exact normalizeMetricMap_copy hcopy h.rollingMax key

/-- **The normaliser** keeps the counts and the maxima, also of a state that was written and read. -/
theorem normalizeStatsState_copy (hcopy : Copying copy) (now : String) {stats : StatsState} (h : stats.Normal) :
    ∃ stats', normalizeStatsState now (copy stats.toValue) = .ok stats' ∧ stats.Same stats' := by
  have hdistinct : Assoc.Distinct [("schema_version", Value.str "1.0"),
      ("components", .dict (stats.components.map fun e => (e.1, e.2.toValue))),
      ("updated_at", .str stats.updatedAt)] := by
    simp [Assoc.Distinct, Assoc.keys]
  have hschema : (copy stats.toValue).asDict.get "schema_version" = .str "1.0" :=
    (hcopy.get hdistinct _).trans (hcopy.scalar _ rfl rfl)
  have hcomponents : (copy stats.toValue).asDict.get "components" =
      copy (.dict (stats.components.map fun e => (e.1, e.2.toValue))) := hcopy.get hdistinct _
  have hisDict : (copy stats.toValue).isDict = true := hcopy.isDict _
  have hinner : (copy (.dict (stats.components.map fun e => (e.1, e.2.toValue)))).isDict = true :=
    hcopy.isDict _
  obtain ⟨components, hok, hnodup, hsame⟩ := normalizeEntries_copy hcopy h.components
    (fun e _ => hcopy.isDict _)
    fun e he => normalizeComponentEntry_copy hcopy (h.entries e he) e.1
  have hversion : (Value.str "1.0").normalizeString = "1.0" := by decide
  unfold normalizeStatsState
  rw [hisDict, hschema, hcomponents, hinner, hok, hversion]
  refine ⟨_, rfl, ⟨hnodup, ?_⟩, hsame⟩
  exact SameEntries.forall hsame hnodup fun _ _ hentry => hentry.normal

end Normaliser

/-! ## Records

What was recorded: the normalised samples, each with its component, or its component and family of tasks. -/

/-- The records of one owner. -/
def recordsOf {κ : Type} [DecidableEq κ] (log : List (κ × Dict)) (owner : κ) : List Dict :=
  (log.filter fun record => record.1 = owner).map Prod.snd

/-- The numbers that were recorded for a metric. -/
def numbersOf (records : List Dict) (key : String) : List Value := (records.map (·.get key)).filter isNumber

theorem recordsOf_append {κ : Type} [DecidableEq κ] (log : List (κ × Dict)) (owner owner' : κ) (record : Dict) :
    recordsOf (log ++ [(owner, record)]) owner' =
      if owner = owner' then recordsOf log owner' ++ [record] else recordsOf log owner' := by
  unfold recordsOf
  rw [List.filter_append]
  split
  · next h => simp [h]
  · next h => simp [h]

theorem numbersOf_append (records : List Dict) (record : Dict) (key : String) :
    numbersOf (records ++ [record]) key =
      if isNumber (record.get key) = true then numbersOf records key ++ [record.get key]
      else numbersOf records key := by
  unfold numbersOf
  rw [List.map_append, List.filter_append]
  split
  · next h => simp [h]
  · next h => simp [h]

theorem isNumber_of_mem_numbersOf {records : List Dict} {key : String} {v : Value} (h : v ∈ numbersOf records key) :
    isNumber v = true := (List.mem_filter.mp h).2

/-- The component of an identifier, or a new one. -/
def StatsState.componentOf (stats : StatsState) (componentId : String) : ComponentStats :=
  (Assoc.get? stats.components componentId).getD { componentId := componentId }

/-- The family of tasks of a name, or a new one. -/
def ComponentStats.familyOf (entry : ComponentStats) (taskFamily : String) : TimingStats :=
  (Assoc.get? entry.timing taskFamily).getD {}

/-- The number of records, and the maximum of the numbers recorded for each duration. -/
structure TimingStats.Matches (entry : TimingStats) (records : List Dict) : Prop where
  sampleCount : entry.sampleCount = records.length
  rollingMaxMs : ∀ key, IsMaximum (entry.rollingMaxMs.get key) (numbersOf records key)

/-- The number of records, the maximum of the numbers recorded for each metric, and the same of the families. -/
structure ComponentStats.Matches (entry : ComponentStats) (records : List Dict) (timings : String → List Dict) :
    Prop where
  sampleCount : entry.sampleCount = records.length
  rollingMax : ∀ key, IsMaximum (entry.rollingMax.get key) (numbersOf records key)
  families : ∀ taskFamily, (entry.familyOf taskFamily).Matches (timings taskFamily)

/-- The statistics are those of the recorded samples and timings. -/
def StatsState.Matches (stats : StatsState) (samples : List (String × Dict))
    (timings : List ((String × String) × Dict)) : Prop :=
  ∀ componentId, (stats.componentOf componentId).Matches (recordsOf samples componentId)
    fun taskFamily => recordsOf timings (componentId, taskFamily)

section Lookups

variable {stats stats' : StatsState} {entry entry' : ComponentStats} {family family' : TimingStats}
  {componentId taskFamily : String}

theorem TimingStats.Normal.default : ({} : TimingStats).Normal := ⟨le_refl _, normalMap_nil⟩

theorem ComponentStats.Normal.default : ({ componentId := componentId } : ComponentStats).Normal :=
  ⟨le_refl _, normalMap_nil, Assoc.distinct_nil, by simp⟩

theorem ComponentStats.Normal.familyOf (h : entry.Normal) (taskFamily : String) :
    (entry.familyOf taskFamily).Normal := by
  unfold ComponentStats.familyOf
  rcases hget : Assoc.get? entry.timing taskFamily with _ | family
  · exact .default
  · exact h.families _ (Assoc.mem_of_get? hget)

theorem StatsState.Normal.componentOf (h : stats.Normal) (componentId : String) :
    (stats.componentOf componentId).Normal := by
  unfold StatsState.componentOf
  rcases hget : Assoc.get? stats.components componentId with _ | entry
  · exact .default
  · exact h.entries _ (Assoc.mem_of_get? hget)

theorem ComponentStats.Same.familyOf (h : entry.Same entry') (taskFamily : String) :
    (entry.familyOf taskFamily).Same (entry'.familyOf taskFamily) := by
  have hkey := h.timing taskFamily
  unfold ComponentStats.familyOf
  rcases hget : Assoc.get? entry.timing taskFamily with _ | family
  · rw [hget] at hkey
    rw [show Assoc.get? entry'.timing taskFamily = none from hkey]
    exact ⟨.default, rfl, fun _ => rfl⟩
  · rw [hget] at hkey
    obtain ⟨family', hget', hsame⟩ := hkey
    rw [hget']
    exact hsame

theorem StatsState.Same.componentOf (h : stats.Same stats') (componentId : String) :
    (stats.componentOf componentId).Same (stats'.componentOf componentId) := by
  have hkey := h.components componentId
  unfold StatsState.componentOf
  rcases hget : Assoc.get? stats.components componentId with _ | entry
  · rw [hget] at hkey
    rw [show Assoc.get? stats'.components componentId = none from hkey]
    exact ⟨.default, rfl, fun _ => rfl, fun _ => rfl⟩
  · rw [hget] at hkey
    obtain ⟨entry', hget', hsame⟩ := hkey
    rw [hget']
    exact hsame

/-- A family that was set. -/
theorem ComponentStats.familyOf_set (entry : ComponentStats) (taskFamily key lastUpdatedAt : String)
    (family : TimingStats) :
    ({ entry with timing := Assoc.set entry.timing key family, lastUpdatedAt := lastUpdatedAt } :
      ComponentStats).familyOf taskFamily = if taskFamily = key then family else entry.familyOf taskFamily := by
  unfold ComponentStats.familyOf
  rw [Assoc.get?_set]
  split <;> rfl

/-- A component that was set. -/
theorem StatsState.componentOf_set (stats : StatsState) (componentId key : String) (entry : ComponentStats) :
    ({ stats with components := Assoc.set stats.components key entry } : StatsState).componentOf componentId =
      if componentId = key then entry else stats.componentOf componentId := by
  unfold StatsState.componentOf
  rw [Assoc.get?_set]
  split <;> rfl

theorem StatsState.Normal.set (h : stats.Normal) (hentry : entry.Normal) (key : String) :
    ({ stats with components := Assoc.set stats.components key entry } : StatsState).Normal := by
  refine ⟨h.components.set key entry, fun e he => ?_⟩
  rcases Assoc.mem_of_mem_set he with rfl | he
  · exact hentry
  · exact h.entries e he

end Lookups

section Matching

variable {stats stats' : StatsState} {samples : List (String × Dict)} {timings : List ((String × String) × Dict)}

theorem TimingStats.Matches.same {family family' : TimingStats} {records : List Dict} (h : family.Matches records)
    (hsame : family.Same family') : family'.Matches records :=
  ⟨hsame.sampleCount.trans h.sampleCount, fun key => (hsame.rollingMaxMs key).symm ▸ h.rollingMaxMs key⟩

/-- **A copy of the statistics** is that of the same records. -/
theorem StatsState.Matches.same (h : stats.Matches samples timings) (hsame : stats.Same stats') :
    stats'.Matches samples timings := by
  intro componentId
  have hentry := hsame.componentOf componentId
  have hmatches := h componentId
  refine ⟨hentry.sampleCount.trans hmatches.sampleCount, fun key => ?_, fun taskFamily => ?_⟩
  · rw [hentry.rollingMax]
    exact hmatches.rollingMax key
  · exact (hmatches.families taskFamily).same (hentry.familyOf taskFamily)

/-- The statistics that are created. -/
theorem matches_created (now : String) : ({ updatedAt := now } : StatsState).Matches [] [] := by
  have hnone : ∀ key, IsMaximum (Dict.get [] key) (numbersOf [] key) := fun key => by
    rw [IsMaximum, if_pos (show numbersOf [] key = [] from rfl)]
    rfl
  exact fun componentId => ⟨rfl, hnone, fun taskFamily => ⟨rfl, hnone⟩⟩

theorem normal_created (now : String) : ({ updatedAt := now } : StatsState).Normal := ⟨Assoc.distinct_nil, by simp⟩

end Matching

/-! ## The two updates -/

section Metrics

variable {previous current : Dict} {records : List Dict}

theorem normalizeMetric_get (h : NormalMap current) (key : String) :
    normalizeMetric (current.get key) = some (current.get key) := by
  unfold Dict.get
  rcases hget : Assoc.get? current key with _ | v
  · rfl
  · exact h.normal _ (Assoc.mem_of_get? hget)

theorem normalizeMetric_nextMax {p v : Value} (hp : normalizeMetric p = some p) (hv : normalizeMetric v = some v) :
    normalizeMetric (nextMax p v) = some (nextMax p v) := by
  unfold nextMax
  split
  · split
    · exact hv
    · exact hp
  · exact hv

/-- A normalised value is a number, or it is `None`. -/
theorem isNumber_eq_not_isNull {v : Value} (h : normalizeMetric v = some v) : isNumber v = !v.isNull := by
  cases v <;> first | rfl | cases h

/-- The maximum after a value that may be `None`. -/
def advanceMax (previous value : Value) : Value := if value.isNull then previous else nextMax previous value

theorem normalizeMetric_advanceMax {p v : Value} (hp : normalizeMetric p = some p) (hv : normalizeMetric v = some v) :
    normalizeMetric (advanceMax p v) = some (advanceMax p v) := by
  unfold advanceMax
  split
  · exact hp
  · exact normalizeMetric_nextMax hp hv

/-- The maxima that `update_component_stats` makes of a sample. -/
def sampleMaxima (previous current : Dict) : Dict :=
  current.map fun e => (e.1, advanceMax (previous.get e.1) e.2)

theorem NormalMap.sampleMaxima (hprevious : NormalMap previous) (h : NormalMap current) :
    NormalMap (sampleMaxima previous current) := by
  unfold Runtime.sampleMaxima
  refine ⟨distinct_map_values (f := fun key => advanceMax (previous.get key)) h.distinct, fun e he => ?_⟩
  obtain ⟨entry, hentry, rfl⟩ := List.mem_map.mp he
  exact normalizeMetric_advanceMax (normalizeMetric_get hprevious _) (h.normal _ hentry)

/-- **A sample that names the metrics which have a maximum**: the maxima are those of one more record. -/
theorem isMaximum_sampleMaxima (h : NormalMap current)
    (hmaxima : ∀ key, IsMaximum (previous.get key) (numbersOf records key))
    (hnamed : ∀ key, isNumber (previous.get key) = true → key ∈ Assoc.keys current) (key : String) :
    IsMaximum ((sampleMaxima previous current).get key) (numbersOf (records ++ [current]) key) := by
  have hread : Assoc.get? (sampleMaxima previous current) key =
      (Assoc.get? current key).map (advanceMax (previous.get key)) :=
    get?_map_values (fun key => advanceMax (previous.get key)) current key
  have hnumber : isNumber (current.get key) = !(current.get key).isNull :=
    isNumber_eq_not_isNull (normalizeMetric_get h key)
  rw [numbersOf_append, hnumber]
  rcases hget : Assoc.get? current key with _ | v
  · -- the metric is not in the sample: there is no maximum, so nothing was recorded
    have hnone : isNumber (previous.get key) = false :=
      eq_false_of_ne_true fun hvalue => Assoc.get?_eq_none_iff.mp hget (hnamed key hvalue)
    have hempty := (hmaxima key).eq_nil (fun _ => isNumber_of_mem_numbersOf) hnone
    have hnull : current.get key = .null := by simp [Dict.get, hget]
    have hresult : (sampleMaxima previous current).get key = .null := by simp [Dict.get, hread, hget]
    rw [hnull, hresult, if_neg (by decide), hempty, IsMaximum, if_pos rfl]
  · have hv : current.get key = v := by simp [Dict.get, hget]
    have hresult : (sampleMaxima previous current).get key = advanceMax (previous.get key) v := by
      simp [Dict.get, hread, hget]
    rw [hv, hresult, advanceMax]
    cases v.isNull with
    | true => exact hmaxima key
    | false => exact (hmaxima key).next fun _ => isNumber_of_mem_numbersOf

/-- The maxima that `record_execution_timing` makes of a sample. -/
def timingMaxima (previous sample : Dict) : Dict :=
  mergeEntries previous ((sample.filter fun e => !e.2.isNull).map fun e => (e.1, nextMax (previous.get e.1) e.2))

theorem NormalMap.measured (hprevious : NormalMap previous) (h : NormalMap current) :
    NormalMap ((current.filter fun e => !e.2.isNull).map fun e => (e.1, nextMax (previous.get e.1) e.2)) := by
  have hdistinct : Assoc.Distinct (current.filter fun e => !e.2.isNull) :=
    h.distinct.sublist (List.filter_sublist.map _)
  refine ⟨distinct_map_values (f := fun key v => nextMax (previous.get key) v) hdistinct, fun e he => ?_⟩
  obtain ⟨entry, hentry, rfl⟩ := List.mem_map.mp he
  exact normalizeMetric_nextMax (normalizeMetric_get hprevious _) (h.normal _ (List.mem_filter.mp hentry).1)

/-- **A timing**: the maxima are those of one more record, whatever it names. -/
theorem isMaximum_timingMaxima (hprevious : NormalMap previous) (h : NormalMap current)
    (hmaxima : ∀ key, IsMaximum (previous.get key) (numbersOf records key)) (key : String) :
    IsMaximum ((timingMaxima previous current).get key) (numbersOf (records ++ [current]) key) := by
  have hread : Assoc.get? (timingMaxima previous current) key =
      (((Assoc.get? current key).filter fun v => !v.isNull).map fun v => nextMax (previous.get key) v).or
        (Assoc.get? previous key) := by
    rw [timingMaxima, get?_mergeEntries (hprevious.measured h).distinct,
      get?_map_values (fun key v => nextMax (previous.get key) v),
      get?_filter_values (p := fun v => !v.isNull) h.distinct]
  have hnumber : isNumber (current.get key) = !(current.get key).isNull :=
    isNumber_eq_not_isNull (normalizeMetric_get h key)
  rw [numbersOf_append, hnumber]
  rcases hget : Assoc.get? current key with _ | v
  · have hnull : current.get key = .null := by simp [Dict.get, hget]
    have hresult : (timingMaxima previous current).get key = previous.get key := by simp [Dict.get, hread, hget]
    rw [hnull, hresult, if_neg (by decide)]
    exact hmaxima key
  · have hv : current.get key = v := by simp [Dict.get, hget]
    rw [hget, Option.filter_some] at hread
    rw [hv]
    unfold Dict.get at hread ⊢
    rw [hread]
    cases v.isNull with
    | true => exact hmaxima key
    | false => exact (hmaxima key).next fun _ => isNumber_of_mem_numbersOf

end Metrics

/-- The sample has a value, or `None`, for every metric of the component that has a maximum. -/
def NamesItsMaxima (stats : StatsState) (componentId : String) (sample : Value) : Prop :=
  ∀ key, isNumber ((stats.componentOf componentId).rollingMax.get key) = true →
    key ∈ Assoc.keys (normalizeMetricMap sample)

section Updates

variable {smooth : Value → Value → Except Exc Value} {now : String} {stats updated : StatsState}
  {samples : List (String × Dict)} {timings : List ((String × String) × Dict)}

/-- **`update_component_stats`** adds a record, if the sample names what has a maximum. -/
theorem updateComponentStats_spec {componentId : String} {sample : Value} (hnormal : stats.Normal)
    (hmatches : stats.Matches samples timings) (hnamed : NamesItsMaxima stats componentId sample)
    (h : updateComponentStats smooth now stats componentId sample = .ok updated) :
    updated.Normal ∧ updated.Matches (samples ++ [(componentId, normalizeMetricMap sample)]) timings := by
  obtain ⟨normalized, hok, hsame⟩ := normalizeStatsState_copy copying_id now hnormal
  obtain ⟨normalized', hok', h⟩ := bind_eq_ok.mp h
  obtain rfl : normalized = normalized' := Except.ok.inj (hok.symm.trans hok')
  obtain ⟨average, -, h⟩ := bind_eq_ok.mp h
  obtain rfl := pure_eq_ok.mp h
  have hcomponent := hsame.componentOf componentId
  have hexisting := hsame.normal.componentOf componentId
  have hkept := hmatches.same hsame
  have hprevious : ∀ key, (normalizeMetricMap (.dict (normalized.componentOf componentId).rollingMax)).get key =
      (normalized.componentOf componentId).rollingMax.get key := get_normalizeMetricMap hexisting.rollingMax
  refine ⟨hsame.normal.set ?_ _, fun owner => ?_⟩
  · refine ⟨?_, ?_, hexisting.timing, hexisting.families⟩
    · exact add_nonneg (le_max_right _ _) zero_le_one
    · exact (normalMap_normalizeMetricMap _).sampleMaxima (normalMap_normalizeMetricMap _)
  · rw [StatsState.componentOf_set, recordsOf_append]
    by_cases howner : owner = componentId
    · subst howner
      rw [if_pos rfl, if_pos rfl]
      refine ⟨?_, ?_, (hkept owner).families⟩
      · rw [List.length_append, Nat.cast_add, ← (hkept owner).sampleCount]
        exact congrArg (· + 1) (max_eq_left hexisting.sampleCount)
      · refine isMaximum_sampleMaxima (normalMap_normalizeMetricMap _) (fun key => ?_) fun key hnumber => ?_
        · exact (hprevious key).symm ▸ (hkept owner).rollingMax key
        · have hvalue := (congrArg isNumber (hprevious key)).symm.trans hnumber
          exact hnamed key (hcomponent.rollingMax key ▸ hvalue)
    · rw [if_neg howner, if_neg (Ne.symm howner)]
      exact hkept owner

/-- **`record_execution_timing`** adds a record. -/
theorem recordTiming_spec {componentId taskFamily : Value} {sample : Dict} (hnormal : stats.Normal)
    (hmatches : stats.Matches samples timings) (hsample : NormalMap sample)
    (h : recordTiming smooth now stats componentId taskFamily sample = .ok updated) :
    updated.Normal ∧
      updated.Matches samples (timings ++ [((componentId.normalizeString, taskKey taskFamily), sample)]) := by
  obtain ⟨family, hfamily, h⟩ := bind_eq_ok.mp h
  obtain ⟨average, -, hfamily⟩ := bind_eq_ok.mp hfamily
  obtain rfl := pure_eq_ok.mp hfamily
  obtain rfl := pure_eq_ok.mp h
  have hcomponent := hnormal.componentOf componentId.normalizeString
  have hentry := hcomponent.familyOf (taskKey taskFamily)
  have hprevious := get_normalizeMetricMap hentry.rollingMaxMs
  have hmaxima := ((hmatches componentId.normalizeString).families (taskKey taskFamily)).rollingMaxMs
  refine ⟨hnormal.set ?_ _, fun owner => ?_⟩
  · refine ⟨hcomponent.sampleCount, hcomponent.rollingMax, hcomponent.timing.set _ _, fun e he => ?_⟩
    rcases Assoc.mem_of_mem_set he with rfl | he
    · refine ⟨add_nonneg (le_max_right _ _) zero_le_one, ?_⟩
      exact (normalMap_normalizeMetricMap _).merge ((normalMap_normalizeMetricMap _).measured hsample)
    · exact hcomponent.families e he
  · rw [StatsState.componentOf_set]
    by_cases howner : owner = componentId.normalizeString
    · subst howner
      rw [if_pos rfl]
      refine ⟨(hmatches _).sampleCount, (hmatches _).rollingMax, fun name => ?_⟩
      rw [ComponentStats.familyOf_set, recordsOf_append]
      by_cases hname : name = taskKey taskFamily
      · subst hname
        rw [if_pos rfl, if_pos rfl]
        refine ⟨?_, isMaximum_timingMaxima (normalMap_normalizeMetricMap _) hsample fun key => ?_⟩
        · rw [List.length_append, Nat.cast_add,
            ← ((hmatches componentId.normalizeString).families (taskKey taskFamily)).sampleCount]
          exact congrArg (· + 1) (max_eq_left hentry.sampleCount)
        · exact (hprevious key).symm ▸ hmaxima key
      · rw [if_neg hname, if_neg fun heq => hname (Prod.mk.inj heq).2.symm]
        exact (hmatches _).families name
    · rw [if_neg howner]
      have hother : ∀ name, (componentId.normalizeString, taskKey taskFamily) ≠ (owner, name) := fun name heq =>
        howner (Prod.mk.inj heq).1.symm
      refine ⟨(hmatches owner).sampleCount, (hmatches owner).rollingMax, fun name => ?_⟩
      rw [recordsOf_append, if_neg (hother name)]
      exact (hmatches owner).families name

/-- **Saving and loading** keeps the records. -/
theorem loadStats_saveStats {written : Value} (hnormal : stats.Normal) (hmatches : stats.Matches samples timings)
    (h : saveStats now stats = .ok written) (later : String) :
    ∃ stats', loadStats later (some written) = some stats' ∧ stats'.Normal ∧ stats'.Matches samples timings := by
  obtain ⟨normalized, hok, hsame⟩ := normalizeStatsState_copy copying_id now hnormal
  obtain ⟨normalized', hok', h⟩ := bind_eq_ok.mp h
  obtain rfl : normalized = normalized' := Except.ok.inj (hok.symm.trans hok')
  obtain rfl := pure_eq_ok.mp h
  have hsaved : ({ normalized with updatedAt := now } : StatsState).Normal :=
    ⟨hsame.normal.components, hsame.normal.entries⟩
  have hkept : ({ normalized with updatedAt := now } : StatsState).Matches samples timings :=
    fun componentId => hmatches.same hsame componentId
  obtain ⟨stats', hread, hsame'⟩ := normalizeStatsState_copy copying_sortKeys later hsaved
  refine ⟨stats', ?_, hsame'.normal, hkept.same hsame'⟩
  rw [loadStats, Option.bind_some, hread]
  rfl

end Updates

/-! ## Runs -/

/-- The store, with what was recorded. -/
structure StatsJournal where
  store : StatsStore := {}
  samples : List (String × Dict) := []
  timings : List ((String × String) × Dict) := []

/-- The statistics: those that were loaded, or those that would be. -/
def StatsJournal.stats (journal : StatsJournal) (now : String) : StatsState :=
  journal.store.loaded.getD ((loadStats now journal.store.file).getD { updatedAt := now })

/-- What a call that went well records; a sample needs statistics that it can be added to. -/
def StatsJournal.record (journal : StatsJournal) (store : StatsStore) : StatsOp → StatsJournal
  | .load | .save => { journal with store := store }
  | .update componentId sample =>
    if journal.store.loaded.isSome then
      { journal with store := store, samples := journal.samples ++ [(componentId, normalizeMetricMap sample)] }
    else { journal with store := store }
  | .timing componentId taskFamily queuedDurationMs executionDurationMs totalDurationMs =>
    { journal with
      store := store
      timings := journal.timings ++ [((componentId.normalizeString, taskKey taskFamily),
        timingSample queuedDurationMs executionDurationMs totalDurationMs)] }

/-- A call at some moment; one that fails leaves the statistics as they are. -/
def StatsJournal.fire (smooth : Value → Value → Except Exc Value) (journal : StatsJournal) (call : String × StatsOp) :
    StatsJournal :=
  match journal.store.call smooth call.1 call.2 with
  | .ok store => journal.record store call.2
  | .error _ => journal

/-- The calls for which the law holds: samples name what has a maximum, and the statistics that are loaded are saved
before the file is used again. -/
def StatsJournal.Allows (journal : StatsJournal) (call : String × StatsOp) : Prop :=
  match call.2 with
  | .load | .timing .. => journal.store.loaded = none
  | .update componentId sample => ∀ stats, journal.store.loaded = some stats → NamesItsMaxima stats componentId sample
  | .save => True

/-- The statistics are those of the records, at every moment. -/
def StatsJournal.Sound (journal : StatsJournal) : Prop :=
  ∀ now, (journal.stats now).Normal ∧ (journal.stats now).Matches journal.samples journal.timings

section Steps

variable {smooth : Value → Value → Except Exc Value} {journal : StatsJournal} {now : String} {store : StatsStore}

theorem sound_empty : StatsJournal.Sound {} := fun now => ⟨normal_created now, matches_created now⟩

/-- Statistics that are in memory. -/
theorem StatsJournal.sound_of_loaded {stats : StatsState} (hloaded : journal.store.loaded = some stats)
    (hnormal : stats.Normal) (hmatches : stats.Matches journal.samples journal.timings) : journal.Sound := by
  intro now
  rw [StatsJournal.stats, hloaded]
  exact ⟨hnormal, hmatches⟩

/-- Statistics that were just saved. -/
theorem StatsJournal.sound_of_saved {stats : StatsState} {written : Value} (hloaded : journal.store.loaded = none)
    (hfile : journal.store.file = some written) (hnormal : stats.Normal)
    (hmatches : stats.Matches journal.samples journal.timings) (hsave : saveStats now stats = .ok written) :
    journal.Sound := by
  intro later
  obtain ⟨stats', hread, hnormal', hmatches'⟩ := loadStats_saveStats hnormal hmatches hsave later
  rw [StatsJournal.stats, hloaded, hfile, hread]
  exact ⟨hnormal', hmatches'⟩

/-- `load_or_create_stats` gives the statistics of the file. -/
theorem loadOrCreateStats_fst {result : StatsState × Option Value} (hloaded : journal.store.loaded = none)
    (h : loadOrCreateStats now journal.store.file = .ok result) : result.1 = journal.stats now := by
  rw [StatsJournal.stats, hloaded]
  unfold loadOrCreateStats at h
  split at h
  · next stats hstats =>
    obtain rfl := Except.ok.inj h
    rw [hstats]
    rfl
  · next hstats =>
    obtain ⟨written, -, h⟩ := bind_eq_ok.mp h
    obtain rfl := pure_eq_ok.mp h
    rw [hstats]
    rfl

/-- **One call.** -/
theorem StatsJournal.Sound.fire (h : journal.Sound) {call : String × StatsOp} (hallows : journal.Allows call) :
    (journal.fire smooth call).Sound := by
  obtain ⟨now, op⟩ := call
  rw [StatsJournal.fire]
  rcases hcall : journal.store.call smooth now op with e | store
  · exact h
  · cases op with
    | load =>
      obtain ⟨⟨stats, file⟩, hload, hcall⟩ := bind_eq_ok.mp hcall
      obtain rfl := pure_eq_ok.mp hcall
      have hstats : stats = journal.stats now := loadOrCreateStats_fst hallows hload
      exact StatsJournal.sound_of_loaded rfl (hstats ▸ (h now).1) (hstats ▸ (h now).2)
    | update componentId sample =>
      simp only [StatsStore.call] at hcall
      rcases hloaded : journal.store.loaded with _ | stats
      · rw [hloaded] at hcall
        obtain rfl := Except.ok.inj hcall
        simp only [StatsJournal.record, hloaded, Option.isSome_none, Bool.false_eq_true, if_false]
        exact h
      · rw [hloaded] at hcall
        obtain ⟨updated, hupdate, hcall⟩ := bind_eq_ok.mp hcall
        obtain rfl := pure_eq_ok.mp hcall
        have hstats : journal.stats now = stats := by rw [StatsJournal.stats, hloaded, Option.getD_some]
        obtain ⟨hnormal, hmatches⟩ := updateComponentStats_spec (hstats ▸ (h now).1) (hstats ▸ (h now).2)
          (hallows stats hloaded) hupdate
        simp only [StatsJournal.record, hloaded, Option.isSome_some, if_true]
        exact StatsJournal.sound_of_loaded rfl hnormal hmatches
    | save =>
      simp only [StatsStore.call] at hcall
      rcases hloaded : journal.store.loaded with _ | stats
      · rw [hloaded] at hcall
        obtain rfl := Except.ok.inj hcall
        exact h
      · rw [hloaded] at hcall
        obtain ⟨written, hsave, hcall⟩ := bind_eq_ok.mp hcall
        obtain rfl := pure_eq_ok.mp hcall
        have hstats : journal.stats now = stats := by rw [StatsJournal.stats, hloaded, Option.getD_some]
        exact StatsJournal.sound_of_saved rfl rfl (hstats ▸ (h now).1) (hstats ▸ (h now).2) hsave
    | timing componentId taskFamily queuedDurationMs executionDurationMs totalDurationMs =>
      obtain ⟨⟨stats, file⟩, hload, hcall⟩ := bind_eq_ok.mp hcall
      obtain ⟨updated, hupdate, hcall⟩ := bind_eq_ok.mp hcall
      obtain ⟨written, hsave, hcall⟩ := bind_eq_ok.mp hcall
      obtain rfl := pure_eq_ok.mp hcall
      have hstats : stats = journal.stats now := loadOrCreateStats_fst hallows hload
      obtain ⟨hnormal, hmatches⟩ := recordTiming_spec (hstats ▸ (h now).1) (hstats ▸ (h now).2)
        (normalMap_normalizeMetricMap _) hupdate
      exact StatsJournal.sound_of_saved hallows rfl hnormal hmatches hsave

end Steps

/-- **Rolling maxima are maxima**, and counts are counts, after every call of a run in which samples name the metrics
that have a maximum. -/
theorem rolling_maxima_are_maxima (smooth : Value → Value → Except Exc Value) {calls : List (String × StatsOp)}
    (h : Run.Along (StatsJournal.fire smooth) StatsJournal.Allows {} calls) (n : ℕ) (now : String) :
    let journal := Run.after (StatsJournal.fire smooth) {} (calls.take n)
    (journal.stats now).Matches journal.samples journal.timings := by
  have halong : Run.Along (StatsJournal.fire smooth) StatsJournal.Allows {} (calls.take n) := by
    rw [← List.take_append_drop n calls] at h
    exact h.prefix
  exact (halong.keeps sound_empty (fun _ _ hsound hallows => hsound.fire hallows) now).2

/-- A sample that names every metric of the component is allowed. -/
theorem allows_update {journal : StatsJournal} {now componentId : String} {sample : Value}
    (h : (journal.store.loaded.all fun stats : StatsState => decide (∀ key ∈
      Assoc.keys (stats.componentOf componentId).rollingMax, key ∈ Assoc.keys (normalizeMetricMap sample))) = true) :
    journal.Allows (now, .update componentId sample) := by
  intro stats hloaded key hnumber
  by_contra hmissing
  rw [hloaded] at h
  have hnone : Assoc.get? (stats.componentOf componentId).rollingMax key = none :=
    Assoc.get?_eq_none_iff.mpr fun hkey => hmissing (of_decide_eq_true h key hkey)
  rw [Dict.get, hnone] at hnumber
  cases hnumber

/-- An average of two integers. -/
def smoothIntegers (previous value : Value) : Except Exc Value := do
  let previous ← previous.toInt
  let value ← value.toInt
  return .int ((4 * previous + value) / 5)

/-- A component that is sampled once, and a timing. -/
def sampledOnce : List (String × StatsOp) :=
  [("t0", .load), ("t1", .update "text_llm" (.dict [("vram_mib", .int 5000), ("queued", .null)])), ("t2", .save),
    ("t3", .timing (.str "text_llm") (.str "chat") .null (.int 1200) .null), ("t4", .load)]

/-- The statistics of a component that was sampled once. -/
theorem rolling_maxima_are_maxima_sampledOnce :
    let journal := Run.after (StatsJournal.fire smoothIntegers) {} (sampledOnce.take 5)
    (journal.stats "t5").Matches journal.samples journal.timings := by
  have hrun : Run.Along (StatsJournal.fire smoothIntegers) StatsJournal.Allows {} sampledOnce := by
    refine ⟨rfl, allows_update (by decide +kernel), trivial, ?_, ?_, trivial⟩
    · exact Option.isNone_iff_eq_none.mp (by decide +kernel)
    · exact Option.isNone_iff_eq_none.mp (by decide +kernel)
  exact rolling_maxima_are_maxima smoothIntegers hrun 5 "t5"

/-- A component whose second sample does not name a metric of the first. -/
def sampledWithout : List (String × StatsOp) :=
  [("t0", .load), ("t1", .update "text_llm" (.dict [("vram_mib", .int 5000), ("queued", .int 0)])),
    ("t2", .update "text_llm" (.dict [("queued", .int 0)]))]

/-- **Failure**: the maximum of the metric is forgotten. -/
theorem rolling_maxima_are_forgotten :
    let journal := Run.after (StatsJournal.fire smoothIntegers) {} sampledWithout
    ¬(journal.stats "t3").Matches journal.samples journal.timings := by
  intro journal h
  have hempty := ((h "text_llm").rollingMax "vram_mib").eq_nil (fun _ => isNumber_of_mem_numbersOf)
    (by decide +kernel)
  have hlength : (numbersOf (recordsOf journal.samples "text_llm") "vram_mib").length = 1 := by decide +kernel
  rw [hempty] at hlength
  cases hlength

end Runtime
end HexeAiNode
