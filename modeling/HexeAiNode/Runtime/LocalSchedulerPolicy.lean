import Mathlib.Algebra.BigOperators.Group.Finset.Basic
import Mathlib.Algebra.Order.BigOperators.Group.Finset
import Mathlib.Algebra.Order.Monoid.WithTop
import HexeAiNode.Python.Coercion

/-!
# Plans of the local scheduler

Five components share one GPU.  `plan_local_scheduler_request` plans what must happen before one of them may run: which
components are unloaded, which ones are waited for, and whether the memory suffices.  A plan is drafted in steps: each
adds to the affected components, to the actions and to the reasons (`PlanDraft`).  A component is touched at most once,
and `Consistent` says what the three lists then have to do with each other.

`plan_fits` is about the plans for the two components that reserve memory: if such a plan does not wait for anything,
then what it unloads makes enough room, nothing busy is unloaded, nothing that may not run beside the component is
left, and after the unloads the component is allowed.

Memory is counted in MiB.  A float is its exact value here, so that sums are exact; it may be infinite.
-/

namespace HexeAiNode
namespace Runtime

open Py

/-! ## Components -/

/-- An amount of memory. -/
abbrev Mib := WithTop ℚ

/-- A float that is not negative as an amount. -/
def toMib : FloatVal → Mib
  | .finite q => (q : Mib)
  | .posInf => ⊤
  | _ => 0

/-- `LOCAL_SCHEDULER_PRIORITY_ORDER`. -/
def localSchedulerPriorityOrder : List String :=
  ["text_llm", "vision_llm", "visual_gpu", "visual_cpu", "training_runtime"]

/-- `LOCAL_SCHEDULER_RESERVED_VRAM_MIB`. -/
def localSchedulerReservedVramMib : List (String × ℕ) :=
  [("visual_gpu", 5 * 1024), ("training_runtime", 9 * 1024)]

/-- `normalize_scheduler_importance`. -/
def normalizeSchedulerImportance (value : Value) : String :=
  if value.normalizeLower ∈ ["low", "normal", "high", "critical"] then value.normalizeLower else "normal"

/-- `_components_by_id`: the last component of an id counts. -/
def componentsById (schedulerStatus : Value) : List (String × Dict) :=
  match schedulerStatus.asDict.get "components" with
  | .list components =>
    components.foldl (fun out component =>
      let componentId := (component.asDict.get "component_id").normalizeString
      if component.isDict && componentId != "" then Assoc.set out componentId component.asDict else out) []
  | _ => []

/-- `_observed_state`. -/
def observedState (component : Option Dict) : String :=
  stripLower (((component.getD []).get "observed_state").orElse (.str "unknown")).toStr

/-- `_model_state`. -/
def modelState (component : Option Dict) : String := ((component.getD []).get "model_state").normalizeLower

/-- `_is_resident`: the state of the model counts, if it is known. -/
def isResident (component : Option Dict) : Bool :=
  if modelState component ≠ "" then modelState component ∈ ["loaded", "loading", "unloading"]
  else observedState component ∈ ["running", "starting", "idle", "paused", "pausing"]

/-- `int(x or 0)`, or zero if it is no number. -/
def countOf (v : Value) : ℤ := (v.orElse (.int 0)).toInt.toOption.getD 0

/-- `_is_busy`. -/
def isBusy (component : Option Dict) : Bool :=
  let idle := ((component.getD []).get "idle").asDict
  0 < countOf (idle.get "in_flight") || 0 < countOf (idle.get "queued") ||
    observedState component ∈ ["starting", "pausing", "unloading"] || modelState component ∈ ["loading", "unloading"]

/-- The field of a component that counts its memory. -/
def vramField (component : Option Dict) : Value :=
  (((component.getD []).get "usage_statistics").asDict.get "current").asDict.get "vram_mib"

/-- `_component_vram_mib`; an integer may be too large for a float. -/
def componentVramMib (component : Option Dict) : Except Exc Mib :=
  if (vramField component).number?.any FloatVal.isPos then toMib <$> (vramField component).toFloat else .ok 0

/-- The memory of a component as a number. -/
def currentVram (component : Option Dict) : Mib :=
  (((vramField component).number?.filter FloatVal.isPos).map toMib).getD 0

/-- `_gpu_free_mib`. -/
def gpuFreeMib (schedulerStatus : Value) : Except Exc (Option Mib) :=
  let value := (schedulerStatus.asDict.get "gpu_resources").asDict.get "memory_free_mib"
  if value.number?.any FloatVal.isNonneg then some <$> toMib <$> value.toFloat else .ok none

/-! ## Drafts -/

/-- What an action does. -/
inductive ActionKind where
  | waitForIdle
  | waitForResources
  | queueBackground
  | unload
  deriving DecidableEq

/-- An action; one that waits for resources says how much memory is required and how much would be free. -/
structure PlannedAction where
  kind : ActionKind
  componentId : String
  reason : String
  resources : Option (ℕ × ℤ) := none
  deriving DecidableEq

/-- The lists that the steps of a plan append to. -/
structure PlanDraft where
  affected : List String := []
  actions : List PlannedAction := []
  reasons : List String := []
  deriving DecidableEq

section Steps

variable (components : List (String × Dict))

/-- `_require_unload`. -/
def requireUnload (otherId reason : String) (draft : PlanDraft) : PlanDraft :=
  let other := Assoc.get? components otherId
  if !isResident other ∨ otherId ∈ draft.affected then draft
  else if isBusy other then
    { affected := draft.affected ++ [otherId]
      actions := draft.actions ++ [{ kind := .waitForIdle, componentId := otherId, reason := reason }]
      reasons := draft.reasons ++ [otherId ++ "_busy"] }
  else
    { affected := draft.affected ++ [otherId]
      actions := draft.actions ++ [{ kind := .unload, componentId := otherId, reason := reason }]
      reasons := draft.reasons ++ [reason] }

/-- A reason more. -/
def PlanDraft.note (draft : PlanDraft) (reason : String) : PlanDraft :=
  { draft with reasons := draft.reasons ++ [reason] }

/-- The loop of `_ensure_vram_for_runtime`. -/
def unloadInOrder (runtimeId : String) (required : ℕ) :
    List String → Mib → PlanDraft → Except Exc (Mib × PlanDraft)
  | [], plannedFree, draft => .ok (plannedFree, draft)
  | otherId :: order, plannedFree, draft =>
    if (required : Mib) ≤ plannedFree then .ok (plannedFree, draft)
    else
      let other := Assoc.get? components otherId
      if !isResident other then unloadInOrder runtimeId required order plannedFree draft
      else if otherId ∈ draft.affected then do
        let vram ← componentVramMib other
        unloadInOrder runtimeId required order (plannedFree + vram) draft
      else
        let next := requireUnload components otherId (runtimeId ++ "_requires_" ++ otherId ++ "_vram") draft
        if draft.actions.length < next.actions.length then do
          let vram ← componentVramMib other
          unloadInOrder runtimeId required order (plannedFree + vram) next
        else unloadInOrder runtimeId required order plannedFree next

/-- `int(x)` of an amount that is less than some number. -/
def wholeMib (amount : Mib) : ℤ := (amount.untopD 0).num.tdiv (amount.untopD 0).den

/-- `_ensure_vram_for_runtime`. -/
def ensureVramForRuntime (gpuFreeMib : Option Mib) (runtimeId : String) (unloadOrder : List String)
    (draft : PlanDraft) : Except Exc PlanDraft :=
  match Assoc.get? localSchedulerReservedVramMib runtimeId with
  | none => .ok draft
  | some required =>
    match gpuFreeMib with
    | none => .ok (draft.note "gpu_free_vram_unknown")
    | some free =>
      if (required : Mib) ≤ free then .ok (draft.note (runtimeId ++ "_vram_budget_available"))
      else do
        let (plannedFree, draft) ← unloadInOrder components runtimeId required unloadOrder free draft
        if plannedFree < (required : Mib) then
          return {
            affected := draft.affected
            actions := draft.actions ++ [{
              kind := .waitForResources
              componentId := runtimeId
              reason := runtimeId ++ "_vram_budget_unavailable"
              resources := some (required, wholeMib plannedFree) }]
            reasons := draft.reasons ++ [runtimeId ++ "_vram_budget_unavailable"] }
        else return draft

/-- What a request for the text model waits for. -/
def planTextLlm : PlanDraft :=
  let waitFor (draft : PlanDraft) (visualId : String) : PlanDraft :=
    if isResident (Assoc.get? components visualId) then
      { affected := draft.affected ++ [visualId]
        actions := draft.actions ++
          [{ kind := .waitForIdle, componentId := visualId, reason := "text_llm_waits_for_" ++ visualId }]
        reasons := draft.reasons ++ [visualId ++ "_resident"] }
    else draft
  let draft := ["visual_gpu", "visual_cpu"].foldl waitFor {}
  let training := Assoc.get? components "training_runtime"
  if isResident training && isBusy training then
    { affected := draft.affected ++ ["training_runtime"]
      actions := draft.actions ++
        [{ kind := .waitForIdle, componentId := "training_runtime", reason := "text_llm_priority" }]
      reasons := draft.reasons ++ ["training_runtime_busy"] }
  else draft

/-- What a request for the vision model requires. -/
def planVisionLlm : PlanDraft :=
  requireUnload components "training_runtime" "vision_requires_training_runtime_unloaded"
    (requireUnload components "visual_cpu" "vision_requires_visual_cpu_unloaded"
      (requireUnload components "visual_gpu" "vision_requires_visual_gpu_unloaded" {}))

/-- The training runtime makes way for a visual runtime. -/
def withoutTraining (reason : String) : PlanDraft :=
  if isResident (Assoc.get? components "training_runtime") then
    requireUnload components "training_runtime" reason {}
  else {}

/-- What a request for the visual runtime on the GPU requires. -/
def planVisualGpu (gpuFreeMib : Option Mib) : Except Exc PlanDraft :=
  ensureVramForRuntime components gpuFreeMib "visual_gpu" ["vision_llm", "text_llm"]
    (withoutTraining components "visual_gpu_requires_training_runtime_unloaded")

/-- What must be unloaded for a training. -/
def withoutOthers : PlanDraft :=
  requireUnload components "text_llm" "training_runtime_requires_text_llm_unloaded"
    (requireUnload components "vision_llm" "training_runtime_requires_vision_llm_unloaded"
      (requireUnload components "visual_cpu" "training_runtime_requires_visual_cpu_unloaded"
        (requireUnload components "visual_gpu" "training_runtime_requires_visual_gpu_unloaded" {})))

/-- What a request for the training runtime requires. -/
def planTrainingRuntime (gpuFreeMib : Option Mib) : Except Exc PlanDraft :=
  ensureVramForRuntime components gpuFreeMib "training_runtime" ["vision_llm", "visual_gpu", "text_llm"]
    (withoutOthers components)

/-- The draft of a request. -/
def draftFor (gpuFreeMib : Option Mib) (requested : String) : Except Exc PlanDraft :=
  if requested = "text_llm" then .ok (planTextLlm components)
  else if requested = "vision_llm" then .ok (planVisionLlm components)
  else if requested = "visual_gpu" then planVisualGpu components gpuFreeMib
  else if requested = "visual_cpu" then
    .ok (withoutTraining components "visual_cpu_requires_training_runtime_unloaded")
  else if requested = "training_runtime" then planTrainingRuntime components gpuFreeMib
  else .ok {}

end Steps

/-! ## Plans -/

/-- What is decided. -/
inductive Decision where
  | allowed
  | blocked
  | needsUnload
  | waitingForIdle
  | insufficientResources
  deriving DecidableEq

/-- The result of `plan_local_scheduler_request`. -/
structure LocalSchedulerPlan where
  decision : Decision
  componentId : String
  importance : String
  reason : String
  reasons : List String := []
  affectedComponents : List String
  actions : List PlannedAction

/-- There is an action of the kind. -/
def hasAction (actions : List PlannedAction) (kind : ActionKind) : Bool := actions.any (·.kind = kind)

/-- The decision that follows from the actions. -/
def decisionOf (actions : List PlannedAction) : Decision :=
  if hasAction actions .waitForIdle then .waitingForIdle
  else if hasAction actions .waitForResources then .insufficientResources
  else if hasAction actions .queueBackground then .blocked
  else if hasAction actions .unload then .needsUnload
  else .allowed

/-- `sorted(set(affected), key=LOCAL_SCHEDULER_PRIORITY.get)`. -/
def byPriority (affected : List String) : List String := localSchedulerPriorityOrder.filter (· ∈ affected)

/-- `plan_local_scheduler_request`. -/
def planLocalSchedulerRequest (schedulerStatus : Value) (componentId : String) (importance : Value) :
    Except Exc LocalSchedulerPlan :=
  let requested := strip componentId
  if requested ∉ localSchedulerPriorityOrder then
    .ok {
      decision := .blocked
      componentId := requested
      importance := normalizeSchedulerImportance importance
      reason := "unknown_component"
      affectedComponents := []
      actions := [] }
  else do
    let free ← gpuFreeMib schedulerStatus
    let draft ← draftFor (componentsById schedulerStatus) free requested
    let reasons :=
      if decisionOf draft.actions = .allowed then draft.reasons ++ ["compatible"] else draft.reasons
    return {
      decision := decisionOf draft.actions
      componentId := requested
      importance := normalizeSchedulerImportance importance
      reason := reasons.head?.getD "compatible"
      reasons := reasons
      affectedComponents := byPriority draft.affected
      actions := draft.actions }

/-! ## What a draft keeps -/

/-- The components that are unloaded. -/
def unloadTargets (actions : List PlannedAction) : List String :=
  (actions.filter (·.kind = .unload)).map PlannedAction.componentId

/-- The components that are unloaded or waited for. -/
def touchedBy (actions : List PlannedAction) : List String :=
  (actions.filter fun action => action.kind = .unload ∨ action.kind = .waitForIdle).map PlannedAction.componentId

/-- The affected components are those that the actions touch; without a wait they are the ones unloaded.  A component
is waited for exactly when it is busy. -/
structure Consistent (components : List (String × Dict)) (draft : PlanDraft) : Prop where
  touched : touchedBy draft.actions = draft.affected
  unloads : hasAction draft.actions .waitForIdle = false → unloadTargets draft.actions = draft.affected
  mem_unloads : ∀ id, id ∈ unloadTargets draft.actions ↔
    id ∈ draft.affected ∧ isBusy (Assoc.get? components id) = false

section Drafts

variable {components : List (String × Dict)} {draft draft' : PlanDraft} {otherId reason : String}

theorem consistent_empty : Consistent components {} where
  touched := rfl
  unloads := fun _ => rfl
  mem_unloads := by simp [unloadTargets]

theorem Consistent.note (h : Consistent components draft) (reason : String) :
    Consistent components (draft.note reason) where
  touched := h.touched
  unloads := h.unloads
  mem_unloads := h.mem_unloads

/-- **A step** leaves the draft as it is, or touches a resident component that was not affected: it waits for a busy
one and unloads another. -/
theorem requireUnload_cases (components : List (String × Dict)) (draft : PlanDraft) (otherId reason : String) :
    ((isResident (Assoc.get? components otherId) = false ∨ otherId ∈ draft.affected) ∧
        requireUnload components otherId reason draft = draft) ∨
      otherId ∉ draft.affected ∧ ∃ kind note,
        (kind = .waitForIdle ∧ isBusy (Assoc.get? components otherId) = true ∨
          kind = .unload ∧ isBusy (Assoc.get? components otherId) = false) ∧
        requireUnload components otherId reason draft =
          { affected := draft.affected ++ [otherId]
            actions := draft.actions ++ [{ kind := kind, componentId := otherId, reason := reason }]
            reasons := draft.reasons ++ [note] } := by
  unfold requireUnload
  dsimp only
  split
  · next hskip =>
    rw [Bool.not_eq_true'] at hskip
    exact .inl ⟨hskip, rfl⟩
  · next hskip =>
    rw [not_or] at hskip
    split
    · next hbusy => exact .inr ⟨hskip.2, .waitForIdle, _, .inl ⟨rfl, hbusy⟩, rfl⟩
    · next hidle => exact .inr ⟨hskip.2, .unload, _, .inr ⟨rfl, eq_false_of_ne_true hidle⟩, rfl⟩

theorem hasAction_append (actions : List PlannedAction) (action : PlannedAction) (kind : ActionKind) :
    hasAction (actions ++ [action]) kind = (hasAction actions kind || decide (action.kind = kind)) := by
  simp [hasAction]

theorem touchedBy_append (actions : List PlannedAction) (action : PlannedAction) :
    touchedBy (actions ++ [action]) = touchedBy actions ++ touchedBy [action] := by
  simp [touchedBy]

theorem unloadTargets_append (actions : List PlannedAction) (action : PlannedAction) :
    unloadTargets (actions ++ [action]) = unloadTargets actions ++ unloadTargets [action] := by
  simp [unloadTargets]

/-- A step keeps a draft consistent. -/
theorem Consistent.requireUnload (h : Consistent components draft) (otherId reason : String) :
    Consistent components (requireUnload components otherId reason draft) := by
  rcases requireUnload_cases components draft otherId reason with ⟨-, heq⟩ | ⟨hnew, kind, note, hkind, heq⟩
  · rw [heq]
    exact h
  · rw [heq]
    rcases hkind with ⟨rfl, hbusy⟩ | ⟨rfl, hidle⟩
    · refine ⟨?_, fun hwait => ?_, fun id => ?_⟩
      · dsimp only
        rw [touchedBy_append, h.touched]
        rfl
      · dsimp only at hwait
        rw [hasAction_append, Bool.or_eq_false_iff] at hwait
        exact absurd hwait.2 (by simp)
      · have hnone : unloadTargets [{ kind := .waitForIdle, componentId := otherId, reason := reason }] = [] := rfl
        dsimp only
        rw [unloadTargets_append, hnone, List.append_nil, h.mem_unloads, List.mem_append, List.mem_singleton]
        grind
    · have hone : unloadTargets [{ kind := .unload, componentId := otherId, reason := reason }] = [otherId] := rfl
      refine ⟨?_, fun hwait => ?_, fun id => ?_⟩
      · dsimp only
        rw [touchedBy_append, h.touched]
        rfl
      · dsimp only at hwait ⊢
        rw [hasAction_append, Bool.or_eq_false_iff] at hwait
        rw [unloadTargets_append, hone, h.unloads hwait.1]
      · dsimp only
        rw [unloadTargets_append, hone, List.mem_append, h.mem_unloads, List.mem_append, List.mem_singleton]
        grind

/-- So does a wait for resources. -/
theorem Consistent.waitForResources (h : Consistent components draft) (action : PlannedAction) (note : String)
    (hkind : action.kind = .waitForResources) : Consistent components
      { affected := draft.affected, actions := draft.actions ++ [action], reasons := draft.reasons ++ [note] } := by
  have htargets : unloadTargets (draft.actions ++ [action]) = unloadTargets draft.actions := by
    simp [unloadTargets, hkind]
  have htouched : touchedBy (draft.actions ++ [action]) = touchedBy draft.actions := by
    simp [touchedBy, hkind]
  refine ⟨htouched.trans h.touched, fun hwait => ?_, fun id => ?_⟩
  · dsimp only at hwait ⊢
    rw [hasAction_append, Bool.or_eq_false_iff] at hwait
    rw [htargets, h.unloads hwait.1]
  · dsimp only
    rw [htargets, h.mem_unloads]

/-- A step affects more components. -/
theorem subset_requireUnload (components : List (String × Dict)) (draft : PlanDraft) (otherId reason : String) :
    draft.affected ⊆ (requireUnload components otherId reason draft).affected := by
  rcases requireUnload_cases components draft otherId reason with ⟨-, heq⟩ | ⟨-, kind, note, -, heq⟩
  · rw [heq]
    exact List.Subset.refl _
  · rw [heq]
    exact List.subset_append_left _ _

/-- A component that has to go is affected, if it is resident. -/
theorem mem_requireUnload (draft : PlanDraft) (reason : String)
    (hresident : isResident (Assoc.get? components otherId) = true) :
    otherId ∈ (requireUnload components otherId reason draft).affected := by
  rcases requireUnload_cases components draft otherId reason with ⟨hskip, heq⟩ | ⟨-, kind, note, -, heq⟩
  · rw [heq]
    rcases hskip with hskip | hskip
    · rw [hresident] at hskip
      cases hskip
    · exact hskip
  · rw [heq]
    simp

theorem hasAction_requireUnload (components : List (String × Dict)) (draft : PlanDraft) (otherId reason : String) :
    hasAction (requireUnload components otherId reason draft).actions .waitForResources =
      hasAction draft.actions .waitForResources := by
  rcases requireUnload_cases components draft otherId reason with ⟨-, heq⟩ | ⟨-, kind, note, hkind, heq⟩
  · rw [heq]
  · rw [heq, hasAction_append]
    rcases hkind with ⟨rfl, -⟩ | ⟨rfl, -⟩ <;> simp

/-- A component that is not resident does not have to go. -/
theorem requireUnload_of_not_resident (draft : PlanDraft) (reason : String)
    (h : isResident (Assoc.get? components otherId) = false) :
    requireUnload components otherId reason draft = draft := by
  rw [requireUnload]
  simp [h]

end Drafts

/-! ## Memory -/

/-- The memory of the component of an id. -/
def vramOf (components : List (String × Dict)) (componentId : String) : Mib :=
  currentVram (Assoc.get? components componentId)

/-- An amount of memory is not negative. -/
theorem currentVram_nonneg (component : Option Dict) : 0 ≤ currentVram component := by
  unfold currentVram
  rcases (vramField component).number? with _ | x
  · exact le_rfl
  · cases x with
    | finite q =>
      by_cases hq : 0 < q
      · have hle : (0 : Mib) ≤ (q : Mib) := WithTop.coe_nonneg.mpr hq.le
        simpa [Option.filter_some, FloatVal.isPos, hq, toMib] using hle
      · simp [Option.filter_some, FloatVal.isPos, hq]
    | posInf => exact le_top
    | negInf => exact le_rfl
    | nan => exact le_rfl

/-- A number as a float. -/
theorem toFloat_eq_of_number? {v : Value} {x y : FloatVal} (hnumber : v.number? = some x) (h : v.toFloat = .ok y) :
    y = x := by
  cases v with
  | bool b =>
    obtain rfl := Option.some.inj hnumber
    exact (Except.ok.inj h).symm
  | int i =>
    obtain rfl := Option.some.inj hnumber
    unfold Value.toFloat Value.floatOfRat at h
    grind
  | float z text =>
    obtain rfl := Option.some.inj hnumber
    exact (Except.ok.inj h).symm
  | _ => cases hnumber

/-- What the code takes for the memory of a component is the memory of the component. -/
theorem componentVramMib_eq {component : Option Dict} {vram : Mib} (h : componentVramMib component = .ok vram) :
    vram = currentVram component := by
  unfold componentVramMib at h
  unfold currentVram
  rcases hnumber : (vramField component).number? with _ | x
  · rw [hnumber] at h
    exact (Except.ok.inj h).symm
  · rw [hnumber, Option.any_some] at h
    by_cases hpos : x.isPos = true
    · rw [if_pos hpos] at h
      rcases hfloat : (vramField component).toFloat with e | y
      · rw [hfloat] at h
        cases h
      · rw [hfloat] at h
        obtain rfl := Except.ok.inj h
        rw [toFloat_eq_of_number? hnumber hfloat, Option.filter_some, if_pos hpos]
        rfl
    · rw [if_neg hpos] at h
      rw [Option.filter_some, if_neg hpos]
      exact (Except.ok.inj h).symm

section Room

variable {components : List (String × Dict)} {draft draft' : PlanDraft} {runtimeId : String} {required : ℕ}
  {order : List String} {free planned planned' : Mib}

/-- **The loop** counts the memory of affected components, of each once. -/
theorem Consistent.unloadInOrder (h : Consistent components draft) (counted : Finset String)
    (hcounted : ∀ id ∈ counted, id ∈ draft.affected) (hnew : ∀ id ∈ order, id ∉ counted) (hnodup : order.Nodup)
    (hplanned : planned = free + ∑ id ∈ counted, vramOf components id)
    (hok : unloadInOrder components runtimeId required order planned draft = .ok (planned', draft')) :
    Consistent components draft' ∧ draft.affected ⊆ draft'.affected ∧
      hasAction draft'.actions .waitForResources = hasAction draft.actions .waitForResources ∧
      ∃ counted' : Finset String, (∀ id ∈ counted', id ∈ draft'.affected) ∧
        planned' = free + ∑ id ∈ counted', vramOf components id := by
  induction order generalizing draft counted planned with
  | nil =>
    obtain ⟨rfl, rfl⟩ := Prod.mk.inj (Except.ok.inj hok)
    exact ⟨h, List.Subset.refl _, rfl, counted, hcounted, hplanned⟩
  | cons otherId order ih =>
    rw [List.nodup_cons] at hnodup
    have hrest : ∀ id ∈ order, id ∉ counted := fun id hid => hnew id (List.mem_cons_of_mem _ hid)
    -- a component whose memory is counted now was not counted before
    have hcount : planned + vramOf components otherId = free + ∑ id ∈ insert otherId counted, vramOf components id := by
      rw [Finset.sum_insert (hnew otherId List.mem_cons_self), hplanned, add_assoc, add_comm (vramOf _ _)]
    have hinsert : ∀ id ∈ order, id ∉ insert otherId counted := by
      intro id hid hmem
      rcases Finset.mem_insert.mp hmem with rfl | hmem
      · exact hnodup.1 hid
      · exact hrest id hid hmem
    unfold Runtime.unloadInOrder at hok
    dsimp only at hok
    split at hok
    · obtain ⟨rfl, rfl⟩ := Prod.mk.inj (Except.ok.inj hok)
      exact ⟨h, List.Subset.refl _, rfl, counted, hcounted, hplanned⟩
    split at hok
    · exact ih h counted hcounted hrest hnodup.2 hplanned hok
    · next hresident =>
      rw [Bool.not_eq_true', Bool.not_eq_false] at hresident
      split at hok
      · next haffected =>
        obtain ⟨vram, hvram, hok⟩ := bind_eq_ok.mp hok
        obtain rfl := componentVramMib_eq hvram
        refine ih h (insert otherId counted) ?_ hinsert hnodup.2 hcount hok
        intro id hid
        rcases Finset.mem_insert.mp hid with rfl | hid
        · exact haffected
        · exact hcounted id hid
      · set next := Runtime.requireUnload components otherId (runtimeId ++ "_requires_" ++ otherId ++ "_vram") draft
        have hnext : Consistent components next := h.requireUnload otherId _
        have hsubset : draft.affected ⊆ next.affected := subset_requireUnload components draft otherId _
        have hwaits : hasAction next.actions .waitForResources = hasAction draft.actions .waitForResources :=
          hasAction_requireUnload components draft otherId _
        have hmore : ∀ id ∈ counted, id ∈ next.affected := fun id hid => hsubset (hcounted id hid)
        split at hok
        · obtain ⟨vram, hvram, hok⟩ := bind_eq_ok.mp hok
          obtain rfl := componentVramMib_eq hvram
          have hmem : ∀ id ∈ insert otherId counted, id ∈ next.affected := by
            intro id hid
            rcases Finset.mem_insert.mp hid with rfl | hid
            · exact mem_requireUnload draft _ hresident
            · exact hmore id hid
          obtain ⟨hcons, hsub, hsame, hcounted'⟩ := ih hnext (insert otherId counted) hmem hinsert hnodup.2 hcount hok
          exact ⟨hcons, fun _ hid => hsub (hsubset hid), hsame.trans hwaits, hcounted'⟩
        · obtain ⟨hcons, hsub, hsame, hcounted'⟩ := ih hnext counted hmore hrest hnodup.2 hplanned hok
          exact ⟨hcons, fun _ hid => hsub (hsubset hid), hsame.trans hwaits, hcounted'⟩

/-- The affected components have at least the memory of some of them. -/
theorem le_room {affected : List String} {counted : Finset String} (h : ∀ id ∈ counted, id ∈ affected) :
    free + ∑ id ∈ counted, vramOf components id ≤ free + ∑ id ∈ affected.toFinset, vramOf components id := by
  have hsubset : counted ⊆ affected.toFinset := fun id hid => List.mem_toFinset.mpr (h id hid)
  have hsum := Finset.sum_le_sum_of_subset_of_nonneg (f := vramOf components) hsubset
    fun id _ _ => currentVram_nonneg (Assoc.get? components id)
  gcongr

/-- **Making room**: without a wait for resources the affected components make enough room. -/
theorem Consistent.ensureVram (h : Consistent components draft)
    (hreserve : Assoc.get? localSchedulerReservedVramMib runtimeId = some required) (hnodup : order.Nodup)
    (hok : ensureVramForRuntime components (some free) runtimeId order draft = .ok draft') :
    Consistent components draft' ∧ draft.affected ⊆ draft'.affected ∧
      (hasAction draft'.actions .waitForResources = false →
        (required : Mib) ≤ free + ∑ id ∈ draft'.affected.toFinset, vramOf components id) := by
  unfold ensureVramForRuntime at hok
  rw [hreserve] at hok
  dsimp only at hok
  split at hok
  · next henough =>
    obtain rfl := Except.ok.inj hok
    refine ⟨h.note _, List.Subset.refl _, fun _ => henough.trans ?_⟩
    exact le_add_of_nonneg_right (Finset.sum_nonneg fun id _ => currentVram_nonneg _)
  · obtain ⟨⟨planned, after⟩, hloop, hok⟩ := bind_eq_ok.mp hok
    have hzero : free = free + ∑ id ∈ (∅ : Finset String), vramOf components id := by simp
    obtain ⟨hafter, hsubset, -, counted, hcounted, hplanned⟩ :=
      h.unloadInOrder ∅ (by simp) (by simp) hnodup hzero hloop
    dsimp only at hok
    split at hok
    · obtain rfl := pure_eq_ok.mp hok
      refine ⟨hafter.waitForResources _ _ rfl, hsubset, fun hwait => ?_⟩
      dsimp only at hwait
      rw [hasAction_append, Bool.or_eq_false_iff] at hwait
      exact absurd hwait.2 (by simp)
    · next henough =>
      obtain rfl := pure_eq_ok.mp hok
      rw [hplanned] at henough
      exact ⟨hafter, hsubset, fun _ => (not_lt.mp henough).trans (le_room hcounted)⟩

/-- With enough free memory nothing has to go. -/
theorem ensureVram_of_le (hreserve : Assoc.get? localSchedulerReservedVramMib runtimeId = some required)
    (h : (required : Mib) ≤ free) :
    ensureVramForRuntime components (some free) runtimeId order draft =
      .ok (draft.note (runtimeId ++ "_vram_budget_available")) := by
  unfold ensureVramForRuntime
  rw [hreserve]
  exact if_pos h

end Room

/-! ## Sound plans -/

/-- The components that the rules do not let run beside a component: visual runtimes and the training runtime. -/
def forbiddenBeside (requested : String) : List String :=
  if requested = "visual_gpu" ∨ requested = "visual_cpu" then ["training_runtime"]
  else if requested = "training_runtime" then ["visual_gpu", "visual_cpu"]
  else []

/-- The components that have to go for a component in any case. -/
def requiredToGo (requested : String) : List String :=
  if requested = "visual_gpu" then ["training_runtime"]
  else if requested = "training_runtime" then ["visual_gpu", "visual_cpu", "vision_llm", "text_llm"]
  else []

section Plans

variable {components : List (String × Dict)} {draft : PlanDraft} {requested : String} {required : ℕ} {free : Mib}

/-- The components that reserve memory. -/
theorem requested_cases (h : Assoc.get? localSchedulerReservedVramMib requested = some required) :
    requested = "visual_gpu" ∨ requested = "training_runtime" := by
  unfold localSchedulerReservedVramMib at h
  rw [Assoc.get?_cons, Assoc.get?_cons] at h
  split at h
  · next heq => exact .inl heq.symm
  · split at h
    · next heq => exact .inr heq.symm
    · cases h

theorem subset_requiredToGo (h : Assoc.get? localSchedulerReservedVramMib requested = some required) :
    forbiddenBeside requested ⊆ requiredToGo requested := by
  rcases requested_cases h with rfl | rfl <;> decide

theorem consistent_withoutTraining (components : List (String × Dict)) (reason : String) :
    Consistent components (withoutTraining components reason) := by
  unfold withoutTraining
  split
  · exact consistent_empty.requireUnload _ _
  · exact consistent_empty

theorem consistent_withoutOthers (components : List (String × Dict)) : Consistent components (withoutOthers components) :=
  (((consistent_empty.requireUnload _ _).requireUnload _ _).requireUnload _ _).requireUnload _ _

/-- What has to go is affected. -/
theorem mem_withoutTraining (reason : String) (h : isResident (Assoc.get? components "training_runtime") = true) :
    "training_runtime" ∈ (withoutTraining components reason).affected := by
  rw [withoutTraining, if_pos h]
  exact mem_requireUnload _ _ h

theorem mem_withoutOthers {id : String} (hid : id ∈ requiredToGo "training_runtime")
    (h : isResident (Assoc.get? components id) = true) : id ∈ (withoutOthers components).affected := by
  have hcases : id = "visual_gpu" ∨ id = "visual_cpu" ∨ id = "vision_llm" ∨ id = "text_llm" := by
    simpa [requiredToGo] using hid
  unfold withoutOthers
  rcases hcases with rfl | rfl | rfl | rfl
  · exact subset_requireUnload _ _ _ _ (subset_requireUnload _ _ _ _ (subset_requireUnload _ _ _ _
      (mem_requireUnload _ _ h)))
  · exact subset_requireUnload _ _ _ _ (subset_requireUnload _ _ _ _ (mem_requireUnload _ _ h))
  · exact subset_requireUnload _ _ _ _ (mem_requireUnload _ _ h)
  · exact mem_requireUnload _ _ h

/-- **The draft** of a component that reserves memory. -/
theorem draftFor_spec (hreserve : Assoc.get? localSchedulerReservedVramMib requested = some required)
    (hok : draftFor components (some free) requested = .ok draft) :
    Consistent components draft ∧
      (∀ id ∈ requiredToGo requested, isResident (Assoc.get? components id) = true → id ∈ draft.affected) ∧
      (hasAction draft.actions .waitForResources = false →
        (required : Mib) ≤ free + ∑ id ∈ draft.affected.toFinset, vramOf components id) := by
  rcases requested_cases hreserve with rfl | rfl
  · have hplan : planVisualGpu components (some free) = .ok draft := hok
    obtain ⟨hdraft, hsubset, hroom⟩ :=
      (consistent_withoutTraining components _).ensureVram hreserve (by decide) hplan
    refine ⟨hdraft, fun id hid hresident => hsubset ?_, hroom⟩
    obtain rfl : id = "training_runtime" := by simpa [requiredToGo] using hid
    exact mem_withoutTraining _ hresident
  · have hplan : planTrainingRuntime components (some free) = .ok draft := hok
    obtain ⟨hdraft, hsubset, hroom⟩ := (consistent_withoutOthers components).ensureVram hreserve (by decide) hplan
    exact ⟨hdraft, fun id hid hresident => hsubset (mem_withoutOthers hid hresident), hroom⟩

/-- Nothing is planned where nothing has to go and enough memory is free. -/
theorem draftFor_of_room (hreserve : Assoc.get? localSchedulerReservedVramMib requested = some required)
    (hgone : ∀ id ∈ requiredToGo requested, isResident (Assoc.get? components id) = false)
    (hroom : (required : Mib) ≤ free) :
    ∃ reason, draftFor components (some free) requested = .ok (({} : PlanDraft).note reason) := by
  rcases requested_cases hreserve with rfl | rfl
  · have htraining : isResident (Assoc.get? components "training_runtime") = false := hgone _ (by decide)
    have hempty : withoutTraining components "visual_gpu_requires_training_runtime_unloaded" = {} := by
      rw [withoutTraining, htraining]
      rfl
    refine ⟨"visual_gpu" ++ "_vram_budget_available", ?_⟩
    change planVisualGpu components (some free) = _
    rw [planVisualGpu, hempty]
    exact ensureVram_of_le hreserve hroom
  · have hempty : withoutOthers components = {} := by
      unfold withoutOthers
      rw [requireUnload_of_not_resident _ _ (hgone "visual_gpu" (by decide)),
        requireUnload_of_not_resident _ _ (hgone "visual_cpu" (by decide)),
        requireUnload_of_not_resident _ _ (hgone "vision_llm" (by decide)),
        requireUnload_of_not_resident _ _ (hgone "text_llm" (by decide))]
    refine ⟨"training_runtime" ++ "_vram_budget_available", ?_⟩
    change planTrainingRuntime components (some free) = _
    rw [planTrainingRuntime, hempty]
    exact ensureVram_of_le hreserve hroom

/-- A plan that lets the component run, at once or after its unloads, does not wait. -/
theorem no_wait_of_decision {actions : List PlannedAction}
    (h : decisionOf actions = .allowed ∨ decisionOf actions = .needsUnload) :
    hasAction actions .waitForIdle = false ∧ hasAction actions .waitForResources = false := by
  unfold decisionOf at h
  split at h
  · rcases h with h | h <;> cases h
  · next hidle =>
    split at h
    · rcases h with h | h <;> cases h
    · next hresources => exact ⟨eq_false_of_ne_true hidle, eq_false_of_ne_true hresources⟩

end Plans

/-- The components that a plan unloads. -/
def LocalSchedulerPlan.unloaded (plan : LocalSchedulerPlan) : List String := unloadTargets plan.actions

/-- The component of an id in a status. -/
def componentOf (schedulerStatus : Value) (componentId : String) : Option Dict :=
  Assoc.get? (componentsById schedulerStatus) componentId

/-- The status after the unloads of a plan: none of the components is resident any more, their memory is free, and
the other components are as before. -/
structure AfterUnloads (plan : LocalSchedulerPlan) (free : Mib) (schedulerStatus after : Value) : Prop where
  free : gpuFreeMib after =
    .ok (some (free + ∑ id ∈ plan.unloaded.toFinset, currentVram (componentOf schedulerStatus id)))
  unloaded : ∀ id ∈ plan.unloaded, isResident (componentOf after id) = false
  others : ∀ id, id ∉ plan.unloaded → componentOf after id = componentOf schedulerStatus id

section Requests

variable {schedulerStatus importance : Value} {componentId : String} {plan : LocalSchedulerPlan} {required : ℕ}
  {free : Mib}

/-- The plan of a component that reserves memory has a draft. -/
theorem exists_draft (hreserve : Assoc.get? localSchedulerReservedVramMib (strip componentId) = some required)
    (hfree : gpuFreeMib schedulerStatus = .ok (some free))
    (hplan : planLocalSchedulerRequest schedulerStatus componentId importance = .ok plan) :
    ∃ draft, draftFor (componentsById schedulerStatus) (some free) (strip componentId) = .ok draft ∧
      plan.actions = draft.actions ∧ plan.decision = decisionOf draft.actions := by
  unfold planLocalSchedulerRequest at hplan
  have hknown : strip componentId ∈ localSchedulerPriorityOrder := by
    rcases requested_cases hreserve with h | h <;> rw [h] <;> decide
  dsimp only at hplan
  rw [if_neg (not_not.mpr hknown), hfree] at hplan
  obtain ⟨_, hknownFree, hplan⟩ := bind_eq_ok.mp hplan
  obtain rfl := Except.ok.inj hknownFree
  obtain ⟨draft, hdraft, hplan⟩ := bind_eq_ok.mp hplan
  obtain rfl := pure_eq_ok.mp hplan
  exact ⟨draft, hdraft, rfl, rfl⟩

/-- A request whose draft is empty is allowed. -/
theorem plan_of_draft {reason : String}
    (hreserve : Assoc.get? localSchedulerReservedVramMib (strip componentId) = some required)
    (hfree : gpuFreeMib schedulerStatus = .ok (some free))
    (hdraft : draftFor (componentsById schedulerStatus) (some free) (strip componentId) =
      .ok (({} : PlanDraft).note reason)) :
    ∃ plan, planLocalSchedulerRequest schedulerStatus componentId importance = .ok plan ∧ plan.decision = .allowed := by
  unfold planLocalSchedulerRequest
  have hknown : strip componentId ∈ localSchedulerPriorityOrder := by
    rcases requested_cases hreserve with h | h <;> rw [h] <;> decide
  dsimp only
  rw [if_neg (not_not.mpr hknown), hfree]
  dsimp only [bind, Except.bind]
  rw [hdraft]
  exact ⟨_, rfl, rfl⟩

/-- **The plans of the local scheduler are sound**: for a component that reserves memory, a plan that lets it run, at
once or after unloads, makes enough room, unloads nothing that is busy and leaves nothing resident that may not run
beside the component; and after its unloads the component is allowed. -/
theorem local_scheduler_plan_is_sound
    (hreserve : Assoc.get? localSchedulerReservedVramMib (strip componentId) = some required)
    (hfree : gpuFreeMib schedulerStatus = .ok (some free))
    (hplan : planLocalSchedulerRequest schedulerStatus componentId importance = .ok plan)
    (hdecision : plan.decision = .allowed ∨ plan.decision = .needsUnload) :
    (required : Mib) ≤ free + ∑ id ∈ plan.unloaded.toFinset, currentVram (componentOf schedulerStatus id) ∧
      (∀ id ∈ plan.unloaded, isBusy (componentOf schedulerStatus id) = false) ∧
      (∀ id ∈ forbiddenBeside (strip componentId), isResident (componentOf schedulerStatus id) = true →
        id ∈ plan.unloaded) ∧
      (plan.decision = .needsUnload → ∀ after, AfterUnloads plan free schedulerStatus after →
        ∃ next, planLocalSchedulerRequest after componentId importance = .ok next ∧ next.decision = .allowed) := by
  obtain ⟨draft, hdraft, hactions, hdecided⟩ := exists_draft hreserve hfree hplan
  obtain ⟨hconsistent, hgo, hroom⟩ := draftFor_spec hreserve hdraft
  rw [hdecided] at hdecision
  obtain ⟨hidle, hresources⟩ := no_wait_of_decision hdecision
  have hunloaded : plan.unloaded = draft.affected := by
    rw [LocalSchedulerPlan.unloaded, hactions]
    exact hconsistent.unloads hidle
  have henough : (required : Mib) ≤
      free + ∑ id ∈ plan.unloaded.toFinset, currentVram (componentOf schedulerStatus id) := by
    rw [hunloaded]
    exact hroom hresources
  refine ⟨henough, ?_, ?_, ?_⟩
  · intro id hid
    rw [LocalSchedulerPlan.unloaded, hactions] at hid
    exact ((hconsistent.mem_unloads id).mp hid).2
  · intro id hid hresident
    rw [hunloaded]
    exact hgo id (subset_requiredToGo hreserve hid) hresident
  · intro _ after hafter
    -- what had to go is gone, or was not resident
    have hgone : ∀ id ∈ requiredToGo (strip componentId), isResident (componentOf after id) = false := by
      intro id hid
      by_cases hmem : id ∈ plan.unloaded
      · exact hafter.unloaded id hmem
      · rw [hafter.others id hmem]
        refine eq_false_of_ne_true fun hresident => hmem ?_
        rw [hunloaded]
        exact hgo id hid hresident
    obtain ⟨reason, hnext⟩ := draftFor_of_room hreserve hgone henough
    exact plan_of_draft hreserve hafter.free hnext

end Requests

/-- A component whose model is in some state and takes some memory. -/
def componentIn (state componentId : String) (vram : ℤ) : Value :=
  .dict [("component_id", .str componentId), ("model_state", .str state),
    ("usage_statistics", .dict [("current", .dict [("vram_mib", .int vram)])])]

/-- Three components share the GPU; `free` MiB are left. -/
def sharedStatus (state : String) (free : ℤ) : Value :=
  .dict [("components", .list [componentIn state "text_llm" 4000, componentIn state "vision_llm" 3000,
      componentIn state "training_runtime" 2000]),
    ("gpu_resources", .dict [("memory_free_mib", .int free)])]

/-- The visual runtime is let in after three unloads. -/
theorem local_scheduler_plan_is_sound_shared :
    ∃ plan, planLocalSchedulerRequest (sharedStatus "loaded" 1000) "visual_gpu" .null = .ok plan ∧
      ((5120 : ℕ) : Mib) ≤ (1000 : ℚ) +
        ∑ id ∈ plan.unloaded.toFinset, currentVram (componentOf (sharedStatus "loaded" 1000) id) ∧
      ∃ next, planLocalSchedulerRequest (sharedStatus "unloaded" 10000) "visual_gpu" .null = .ok next ∧
        next.decision = .allowed := by
  have hrun : ((planLocalSchedulerRequest (sharedStatus "loaded" 1000) "visual_gpu" .null).toOption.map
      fun plan => (plan.decision, plan.unloaded)) =
        some (.needsUnload, ["training_runtime", "vision_llm", "text_llm"]) := by decide +kernel
  obtain ⟨plan, hplan, hfields⟩ := Option.map_eq_some_iff.mp hrun
  obtain ⟨hdecision, hunloaded⟩ := Prod.mk.inj hfields
  have hok : planLocalSchedulerRequest (sharedStatus "loaded" 1000) "visual_gpu" .null = .ok plan := by
    rcases hresult : planLocalSchedulerRequest (sharedStatus "loaded" 1000) "visual_gpu" .null with e | plan'
    · rw [hresult] at hplan
      cases hplan
    · rw [hresult] at hplan
      rw [Option.some.inj hplan]
  have hreserve : Assoc.get? localSchedulerReservedVramMib (strip "visual_gpu") = some 5120 := by decide
  have hfree : gpuFreeMib (sharedStatus "loaded" 1000) = .ok (some ((1000 : ℚ) : Mib)) := by decide +kernel
  have hsound := local_scheduler_plan_is_sound hreserve hfree hok (.inr hdecision)
  have hfreed : ∑ id ∈ plan.unloaded.toFinset, currentVram (componentOf (sharedStatus "loaded" 1000) id) =
      ((9000 : ℚ) : Mib) := by
    rw [hunloaded]
    decide +kernel
  refine ⟨plan, hok, hsound.1, hsound.2.2.2 hdecision _ ⟨?_, ?_, ?_⟩⟩
  · rw [hfreed]
    decide +kernel
  · rw [hunloaded]
    decide +kernel
  · intro id hid
    rw [hunloaded] at hid
    have hkeys : Assoc.keys (componentsById (sharedStatus "loaded" 1000)) =
        ["text_llm", "vision_llm", "training_runtime"] := by decide +kernel
    have hafter : Assoc.keys (componentsById (sharedStatus "unloaded" 10000)) =
        ["text_llm", "vision_llm", "training_runtime"] := by decide +kernel
    have hother : id ∉ ["text_llm", "vision_llm", "training_runtime"] := by
      simp only [List.mem_cons, List.not_mem_nil] at hid ⊢
      tauto
    unfold componentOf
    rw [Assoc.get?_eq_none_iff.mpr (hkeys ▸ hother), Assoc.get?_eq_none_iff.mpr (hafter ▸ hother)]

end Runtime
end HexeAiNode
