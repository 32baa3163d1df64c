import HexeAiNode.Runtime.LocalSchedulerPolicy

/-!
# The text model as a last resort

The rules promise that the text model is unloaded for the visual runtime only as a last resort, when the runtime still
cannot fit.  The plan sends the training runtime away first, whatever its memory, but that memory is not counted:
`_ensure_vram_for_runtime` counts an affected component only if it stands in the unload order, and there the training
runtime is missing.  The branch of the training runtime lists the components it sends away in its own order.

What such a plan touches is said exactly (`VisualGpuDraft`); `text_llm_is_last_resort_iff` says when the promise is
kept.
-/

namespace HexeAiNode
namespace Runtime

open Py

/-- The components that a plan unloads or waits for. -/
def LocalSchedulerPlan.touched (plan : LocalSchedulerPlan) : List String := touchedBy plan.actions

/-- The memory of a component, if it is resident. -/
def residentVram (components : List (String × Dict)) (componentId : String) : Mib :=
  if isResident (Assoc.get? components componentId) then vramOf components componentId else 0

section Draft

variable {components : List (String × Dict)} {draft draft' : PlanDraft} {runtimeId otherId reason : String}
  {required : ℕ} {order : List String} {free planned planned' : Mib}

theorem affected_requireUnload (hresident : isResident (Assoc.get? components otherId) = true)
    (hnew : otherId ∉ draft.affected) :
    (requireUnload components otherId reason draft).affected = draft.affected ++ [otherId] := by
  rcases requireUnload_cases components draft otherId reason with ⟨hskip, -⟩ | ⟨-, kind, note, -, heq⟩
  · rcases hskip with hskip | hskip
    · rw [hresident] at hskip
      cases hskip
    · exact absurd hskip hnew
  · rw [heq]

/-- **One turn** of the loop for a component that is not affected: the loop ends, or the component is not resident, or
it is affected now and its memory counts. -/
theorem unloadInOrder_cases (hnew : otherId ∉ draft.affected)
    (hok : unloadInOrder components runtimeId required (otherId :: order) planned draft = .ok (planned', draft')) :
    (required : Mib) ≤ planned ∧ draft' = draft ∨
      planned < (required : Mib) ∧ isResident (Assoc.get? components otherId) = false ∧
        unloadInOrder components runtimeId required order planned draft = .ok (planned', draft') ∨
      planned < (required : Mib) ∧ isResident (Assoc.get? components otherId) = true ∧
        ∃ next : PlanDraft, next.affected = draft.affected ++ [otherId] ∧
          unloadInOrder components runtimeId required order (planned + vramOf components otherId) next =
            .ok (planned', draft') := by
  unfold unloadInOrder at hok
  dsimp only at hok
  split at hok
  · next henough => exact .inl ⟨henough, ((Prod.mk.inj (Except.ok.inj hok)).2).symm⟩
  · next hshort =>
    split at hok
    · next hgone =>
      rw [Bool.not_eq_true'] at hgone
      exact .inr (.inl ⟨not_le.mp hshort, hgone, hok⟩)
    · next hresident =>
      rw [Bool.not_eq_true', Bool.not_eq_false] at hresident
      rcases requireUnload_cases components draft otherId (runtimeId ++ "_requires_" ++ otherId ++ "_vram") with
        ⟨hskip, -⟩ | ⟨-, kind, note, -, heq⟩
      · rw [hresident] at hskip
        exact absurd hskip (by simp [hnew])
      · rw [heq] at hok
        dsimp only at hok
        rw [if_pos (by simp)] at hok
        obtain ⟨vram, hvram, hok⟩ := bind_eq_ok.mp hok
        obtain rfl := componentVramMib_eq hvram
        exact .inr (.inr ⟨not_le.mp hshort, hresident, _, rfl, hok⟩)

/-- **What a plan for the visual runtime touches**: the training runtime if it is resident, the vision model if the
free memory does not suffice, and the text model if that of the vision model does not suffice either. -/
structure VisualGpuDraft (components : List (String × Dict)) (free : Mib) (affected : List String) : Prop where
  subset : ∀ id ∈ affected, id = "training_runtime" ∨ id = "vision_llm" ∨ id = "text_llm"
  training : "training_runtime" ∈ affected ↔ isResident (Assoc.get? components "training_runtime") = true
  vision : "vision_llm" ∈ affected ↔
    free < ((5120 : ℕ) : Mib) ∧ isResident (Assoc.get? components "vision_llm") = true
  text : "text_llm" ∈ affected ↔ free + residentVram components "vision_llm" < ((5120 : ℕ) : Mib) ∧
    isResident (Assoc.get? components "text_llm") = true

/-- The last turn of the loop. -/
theorem affected_unloadInOrder_singleton (hnew : otherId ∉ draft.affected)
    (hok : unloadInOrder components runtimeId required [otherId] planned draft = .ok (planned', draft')) :
    draft'.affected = if planned < (required : Mib) ∧ isResident (Assoc.get? components otherId) = true then
      draft.affected ++ [otherId] else draft.affected := by
  rcases unloadInOrder_cases hnew hok with ⟨henough, heq⟩ | ⟨hshort, hgone, hend⟩ | ⟨hshort, hresident, next, hnext, hend⟩
  · rw [if_neg fun h => not_lt.mpr henough h.1, heq]
  · rw [if_neg fun h => by simp [hgone] at h, ← (Prod.mk.inj (Except.ok.inj hend)).2]
  · rw [if_pos ⟨hshort, hresident⟩, ← (Prod.mk.inj (Except.ok.inj hend)).2, hnext]

/-- The loop is entered if the free memory does not suffice. -/
theorem ensureVram_cases (hreserve : Assoc.get? localSchedulerReservedVramMib runtimeId = some required)
    (hok : ensureVramForRuntime components (some free) runtimeId order draft = .ok draft') :
    (required : Mib) ≤ free ∧ draft'.affected = draft.affected ∨
      free < (required : Mib) ∧ ∃ planned after,
        unloadInOrder components runtimeId required order free draft = .ok (planned, after) ∧
          draft'.affected = after.affected := by
  unfold ensureVramForRuntime at hok
  rw [hreserve] at hok
  dsimp only at hok
  split at hok
  · next henough =>
    obtain rfl := Except.ok.inj hok
    exact .inl ⟨henough, rfl⟩
  · next hshort =>
    obtain ⟨⟨planned, after⟩, hloop, hok⟩ := bind_eq_ok.mp hok
    refine .inr ⟨not_le.mp hshort, planned, after, hloop, ?_⟩
    dsimp only at hok
    split at hok
    · rw [← pure_eq_ok.mp hok]
    · rw [← pure_eq_ok.mp hok]

theorem affected_withoutTraining (components : List (String × Dict)) (reason : String) :
    (withoutTraining components reason).affected =
      if isResident (Assoc.get? components "training_runtime") then ["training_runtime"] else [] := by
  unfold withoutTraining
  split
  · next hresident => exact affected_requireUnload hresident List.not_mem_nil
  · rfl

theorem residentVram_nonneg (components : List (String × Dict)) (id : String) : 0 ≤ residentVram components id := by
  unfold residentVram
  split
  · exact currentVram_nonneg _
  · exact le_rfl

/-- The plan for the visual runtime. -/
theorem visualGpuDraft (hok : draftFor components (some free) "visual_gpu" = .ok draft) :
    VisualGpuDraft components free draft.affected := by
  have hplan : planVisualGpu components (some free) = .ok draft := hok
  have hreserve : Assoc.get? localSchedulerReservedVramMib "visual_gpu" = some 5120 := by decide
  have hfirst := affected_withoutTraining components "visual_gpu_requires_training_runtime_unloaded"
  set first := withoutTraining components "visual_gpu_requires_training_runtime_unloaded"
  have hvision : "vision_llm" ∉ first.affected := by
    rw [hfirst]
    split <;> decide
  have htext : "text_llm" ∉ first.affected := by
    rw [hfirst]
    split <;> decide
  have htraining : "training_runtime" ∈ first.affected ↔
      isResident (Assoc.get? components "training_runtime") = true := by
    rw [hfirst]
    split <;> simp_all
  have honly : ∀ id ∈ first.affected, id = "training_runtime" := by
    rw [hfirst]
    split <;> simp
  -- the memory of the vision model matters only if it is resident
  have hmore : free ≤ free + residentVram components "vision_llm" :=
    le_add_of_nonneg_right (residentVram_nonneg components _)
  rcases ensureVram_cases hreserve hplan with ⟨henough, heq⟩ | ⟨hshort, planned, after, hloop, heq⟩
  · rw [heq]
    exact {
      subset := fun id hid => .inl (honly id hid)
      training := htraining
      vision := iff_of_false hvision fun h => not_lt.mpr henough h.1
      text := iff_of_false htext fun h => not_lt.mpr (henough.trans hmore) h.1 }
  · rw [heq]
    rcases unloadInOrder_cases hvision hloop with ⟨henough, -⟩ | ⟨-, hgone, htail⟩ | ⟨-, hresident, next, hnext, htail⟩
    · exact absurd hshort (not_lt.mpr henough)
    · have hzero : residentVram components "vision_llm" = 0 := by
        rw [residentVram, hgone]
        rfl
      rw [affected_unloadInOrder_singleton htext htail]
      refine ⟨fun id hid => ?_, ?_, ?_, ?_⟩
      · have hid : id ∈ first.affected ++ ["text_llm"] := by
          split at hid
          · exact hid
          · exact List.mem_append_left _ hid
        rw [List.mem_append, List.mem_singleton] at hid
        exact hid.imp (honly id) .inr
      · rw [← htraining]
        split <;> simp
      · refine iff_of_false ?_ fun h => by simp [hgone] at h
        split <;> simp [hvision]
      · rw [hzero, add_zero]
        split
        · next h => exact iff_of_true (by simp) h
        · next h => exact iff_of_false htext h
    · have hvram : residentVram components "vision_llm" = vramOf components "vision_llm" := if_pos hresident
      have htext' : "text_llm" ∉ next.affected := by
        rw [hnext]
        simp [htext]
      rw [affected_unloadInOrder_singleton htext' htail, hnext]
      refine ⟨fun id hid => ?_, ?_, ?_, ?_⟩
      · have hid : id ∈ first.affected ++ ["vision_llm"] ++ ["text_llm"] := by
          split at hid
          · exact hid
          · exact List.mem_append_left _ hid
        rw [List.mem_append, List.mem_append, List.mem_singleton, List.mem_singleton, or_assoc] at hid
        exact hid.imp_left (honly id)
      · rw [← htraining]
        split <;> simp
      · refine iff_of_true ?_ ⟨hshort, hresident⟩
        split <;> simp
      · rw [hvram]
        split
        · next h => exact iff_of_true (by simp) h
        · next h => exact iff_of_false (by simp [htext]) h

end Draft

/-! ## The promise -/

/-- The memory of the training runtime, if it is unloaded. -/
def LocalSchedulerPlan.trainingFreed (plan : LocalSchedulerPlan) (schedulerStatus : Value) : Mib :=
  if "training_runtime" ∈ plan.unloaded then currentVram (componentOf schedulerStatus "training_runtime") else 0

/-- The text model is touched only if all other components together do not make enough room, and the vision model only
if the training runtime does not. -/
structure LastResort (schedulerStatus : Value) (free : Mib) (plan : LocalSchedulerPlan) : Prop where
  text : "text_llm" ∈ plan.touched →
    free + ∑ id ∈ plan.touched.toFinset.erase "text_llm", currentVram (componentOf schedulerStatus id) <
      ((5120 : ℕ) : Mib)
  vision : "vision_llm" ∈ plan.touched → free + plan.trainingFreed schedulerStatus < ((5120 : ℕ) : Mib)

/-- The memory of a resident training runtime would not have made the unloads for space unnecessary. -/
structure TrainingNotEnough (schedulerStatus : Value) (free : Mib) : Prop where
  vision : free < ((5120 : ℕ) : Mib) → isResident (componentOf schedulerStatus "training_runtime") = true →
    isBusy (componentOf schedulerStatus "training_runtime") = false →
    isResident (componentOf schedulerStatus "vision_llm") = true →
      free + currentVram (componentOf schedulerStatus "training_runtime") < ((5120 : ℕ) : Mib)
  text : isResident (componentOf schedulerStatus "training_runtime") = true →
    isResident (componentOf schedulerStatus "text_llm") = true →
    free + residentVram (componentsById schedulerStatus) "vision_llm" < ((5120 : ℕ) : Mib) →
      free + residentVram (componentsById schedulerStatus) "vision_llm" +
        currentVram (componentOf schedulerStatus "training_runtime") < ((5120 : ℕ) : Mib)

section Promise

variable {schedulerStatus importance : Value} {componentId : String} {plan : LocalSchedulerPlan} {free : Mib}

/-- What the plan touches beside the text model. -/
theorem sum_touched {components : List (String × Dict)} {affected : List String}
    (h : VisualGpuDraft components free affected) (htext : "text_llm" ∈ affected) :
    ∑ id ∈ affected.toFinset.erase "text_llm", vramOf components id =
      residentVram components "vision_llm" + residentVram components "training_runtime" := by
  have hshort : free < ((5120 : ℕ) : Mib) :=
    (le_add_of_nonneg_right (residentVram_nonneg components _)).trans_lt (h.text.mp htext).1
  have hvision : "vision_llm" ∈ affected ↔ isResident (Assoc.get? components "vision_llm") = true :=
    h.vision.trans (and_iff_right hshort)
  have hset : affected.toFinset.erase "text_llm" =
      ({"vision_llm", "training_runtime"} : Finset String).filter fun id =>
        isResident (Assoc.get? components id) = true := by
    ext id
    rw [Finset.mem_erase, List.mem_toFinset, Finset.mem_filter, Finset.mem_insert, Finset.mem_singleton]
    constructor
    · rintro ⟨hne, hid⟩
      rcases h.subset id hid with rfl | rfl | rfl
      · exact ⟨.inr rfl, h.training.mp hid⟩
      · exact ⟨.inl rfl, hvision.mp hid⟩
      · exact absurd rfl hne
    · rintro ⟨rfl | rfl, hresident⟩
      · exact ⟨by decide, hvision.mpr hresident⟩
      · exact ⟨by decide, h.training.mpr hresident⟩
  rw [hset, Finset.sum_filter, Finset.sum_pair (by decide)]
  rfl

/-- **The text model is the last resort, and the vision model the resort before**, exactly when the memory of a
resident training runtime would not have been enough. -/
theorem text_llm_is_last_resort_iff (hrequested : strip componentId = "visual_gpu")
    (hfree : gpuFreeMib schedulerStatus = .ok (some free))
    (hplan : planLocalSchedulerRequest schedulerStatus componentId importance = .ok plan) :
    LastResort schedulerStatus free plan ↔ TrainingNotEnough schedulerStatus free := by
  have hreserve : Assoc.get? localSchedulerReservedVramMib (strip componentId) = some 5120 := by
    rw [hrequested]
    decide
  obtain ⟨draft, hdraft, hactions, -⟩ := exists_draft hreserve hfree hplan
  have hconsistent := (draftFor_spec hreserve hdraft).1
  rw [hrequested] at hdraft
  have hshape := visualGpuDraft hdraft
  have htouched : plan.touched = draft.affected := by
    rw [LocalSchedulerPlan.touched, hactions, hconsistent.touched]
  have hunloaded : "training_runtime" ∈ plan.unloaded ↔
      isResident (componentOf schedulerStatus "training_runtime") = true ∧
        isBusy (componentOf schedulerStatus "training_runtime") = false := by
    rw [LocalSchedulerPlan.unloaded, hactions, hconsistent.mem_unloads, hshape.training]
    rfl
  have hrest : "text_llm" ∈ draft.affected →
      free + ∑ id ∈ plan.touched.toFinset.erase "text_llm", currentVram (componentOf schedulerStatus id) =
        free + residentVram (componentsById schedulerStatus) "vision_llm" +
          residentVram (componentsById schedulerStatus) "training_runtime" := by
    intro hmem
    rw [htouched, add_assoc]
    exact congrArg (free + ·) (sum_touched hshape hmem)
  constructor
  · intro h
    refine ⟨fun hshort htraining hidle hvision => ?_, fun htraining htext hshort => ?_⟩
    · have hbound := h.vision (htouched ▸ hshape.vision.mpr ⟨hshort, hvision⟩)
      rwa [LocalSchedulerPlan.trainingFreed, if_pos (hunloaded.mpr ⟨htraining, hidle⟩)] at hbound
    · have hmem := hshape.text.mpr ⟨hshort, htext⟩
      have hbound := h.text (htouched ▸ hmem)
      have hvram : residentVram (componentsById schedulerStatus) "training_runtime" =
          currentVram (componentOf schedulerStatus "training_runtime") := if_pos htraining
      rwa [hrest hmem, hvram] at hbound
  · intro h
    refine ⟨fun hmem => ?_, fun hmem => ?_⟩
    · rw [htouched] at hmem
      obtain ⟨hshort, htext⟩ := hshape.text.mp hmem
      rw [hrest hmem]
      by_cases htraining : isResident (componentOf schedulerStatus "training_runtime") = true
      · have hvram : residentVram (componentsById schedulerStatus) "training_runtime" =
            currentVram (componentOf schedulerStatus "training_runtime") := if_pos htraining
        rw [hvram]
        exact h.text htraining htext hshort
      · have hvram : residentVram (componentsById schedulerStatus) "training_runtime" = 0 := if_neg htraining
        rwa [hvram, add_zero]
    · rw [htouched] at hmem
      obtain ⟨hshort, hvision⟩ := hshape.vision.mp hmem
      unfold LocalSchedulerPlan.trainingFreed
      split
      · next hgoes =>
        obtain ⟨htraining, hidle⟩ := hunloaded.mp hgoes
        exact h.vision hshort htraining hidle hvision
      · rwa [add_zero]

end Promise

/-- The visual runtime alone: 1000 MiB are free, and a small training runtime leaves. -/
theorem text_llm_is_last_resort_iff_shared :
    ∃ plan, planLocalSchedulerRequest (sharedStatus "loaded" 1000) "visual_gpu" .null = .ok plan ∧
      (LastResort (sharedStatus "loaded" 1000) (1000 : ℚ) plan ↔
        TrainingNotEnough (sharedStatus "loaded" 1000) (1000 : ℚ)) := by
  have hfree : gpuFreeMib (sharedStatus "loaded" 1000) = .ok (some ((1000 : ℚ) : Mib)) := by decide +kernel
  rcases hplan : planLocalSchedulerRequest (sharedStatus "loaded" 1000) "visual_gpu" .null with e | plan
  · have hok : (planLocalSchedulerRequest (sharedStatus "loaded" 1000) "visual_gpu" .null).toOption.isSome = true := by
      decide +kernel
    rw [hplan] at hok
    cases hok
  · exact ⟨plan, rfl, text_llm_is_last_resort_iff (by decide) hfree hplan⟩

/-- A training runtime that takes enough memory for the visual runtime, beside the two models. -/
def trainingStatus : Value :=
  .dict [("components", .list [componentIn "loaded" "text_llm" 4000, componentIn "loaded" "vision_llm" 3000,
      componentIn "loaded" "training_runtime" 9000]),
    ("gpu_resources", .dict [("memory_free_mib", .int 1000)])]

/-- **Failure**: the training runtime alone makes enough room, but both models are unloaded as well. -/
theorem text_llm_is_no_last_resort :
    ∃ plan, planLocalSchedulerRequest trainingStatus "visual_gpu" .null = .ok plan ∧
      ¬LastResort trainingStatus (1000 : ℚ) plan := by
  have hrun : ((planLocalSchedulerRequest trainingStatus "visual_gpu" .null).toOption.map
      fun plan => (plan.touched, plan.unloaded)) = some (["training_runtime", "vision_llm", "text_llm"],
        ["training_runtime", "vision_llm", "text_llm"]) := by decide +kernel
  rcases hplan : planLocalSchedulerRequest trainingStatus "visual_gpu" .null with e | plan
  · rw [hplan] at hrun
    cases hrun
  · rw [hplan] at hrun
    obtain ⟨htouched, hunloaded⟩ := Prod.mk.inj (Option.some.inj hrun)
    refine ⟨plan, rfl, fun h => ?_⟩
    have hbound := h.vision (htouched ▸ by decide)
    rw [LocalSchedulerPlan.trainingFreed, hunloaded] at hbound
    revert hbound
    decide +kernel

end Runtime
end HexeAiNode
