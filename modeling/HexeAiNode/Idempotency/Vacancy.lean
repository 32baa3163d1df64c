import HexeAiNode.Idempotency.SingleFlight

/-!
# Vacant keys

A key is vacant when it has neither a record nor an entry in the pending table: the next call with it runs its
operation (`Store.Vacant.call`).  It stays vacant until such a call comes (`Store.Vacant.fire`).

An operation that raised leaves its key vacant (`Store.Abandons.fire`), and an operation that returned does not
(`not_vacant_of_storing`).
-/

namespace HexeAiNode
namespace Idempotency

open Py StoreAction

variable {R : Type} {cfg : Config R} {s : Store R} {step : Step R} {i j : ℕ} {now : ℤ} {write : Option Exc}
  {k : String} {e : Exc} {r : R}

/-- The key has neither a record nor an entry in the pending table. -/
structure Store.Vacant (k : String) (s : Store R) : Prop where
  record : s.records.get? k = none
  pending : s.pending.get? k = none

/-- A pruning brings no record back. -/
theorem get?_pruned_of_none (h : s.records.get? k = none) : (s.pruned now).records.get? k = none := by
  rcases hpruned : (s.pruned now).records.get? k with _ | record
  · rfl
  · rw [get?_of_pruned hpruned] at h
    cases h

/-- The key of an operation in progress is not vacant. -/
theorem Store.Vacant.other (h : s.Vacant k) (hsound : s.Sound cfg) (hi : (s.calls i).active = true) :
    k ≠ cfg.scopeKey i := by
  rintro rfl
  have hentry := hsound.active i hi
  rw [h.pending] at hentry
  cases hentry

/-- **A key stays vacant** until a call with it comes. -/
theorem Store.Vacant.fire (h : s.Vacant k) (hsound : s.Sound cfg)
    (hother : ∀ j now write, step = .call j now write → cfg.scopeKey j ≠ k) : (fire cfg s step).Vacant k := by
  have heffect := fire_effect cfg s step
  have hpruned : ∀ now, (s.pruned now).records.get? k = none := fun _ => get?_pruned_of_none h.record
  generalize Idempotency.fire cfg s step = t at heffect
  cases heffect with
  | skip => exact h
  | detach => exact ⟨h.record, h.pending⟩
  | pruneFails => exact ⟨hpruned _, h.pending⟩
  | answer => exact ⟨hpruned _, h.pending⟩
  | refuse => exact ⟨hpruned _, h.pending⟩
  | join => exact ⟨hpruned _, h.pending⟩
  | own =>
    refine ⟨hpruned _, ?_⟩
    show (s.pending.set _ _).get? k = none
    rw [OrderedDict.get?_set_of_ne _ _ (Ne.symm (hother _ _ _ rfl))]
    exact h.pending
  | finishDetached => exact ⟨h.record, h.pending⟩
  | returned => exact ⟨h.record, h.pending⟩
  | raised => exact ⟨h.record, h.pending⟩
  | stored file response hstoring =>
    have hne := h.other hsound (i := _) (by rw [hstoring]; rfl)
    refine ⟨?_, ?_⟩
    · show (s.records.set _ _).get? k = none
      rw [OrderedDict.get?_set_of_ne _ _ hne]
      exact h.record
    · show (s.pending.erase _).get? k = none
      rw [OrderedDict.get?_erase_of_ne _ hne]
      exact h.pending
  | persistFails response e hstoring =>
    have hne := h.other hsound (i := _) (by rw [hstoring]; rfl)
    refine ⟨?_, h.pending⟩
    show (s.records.set _ _).get? k = none
    rw [OrderedDict.get?_set_of_ne _ _ hne]
    exact h.record
  | recordFails => exact ⟨h.record, h.pending⟩
  | abandon e habandoning =>
    have hne := h.other hsound (i := _) (by rw [habandoning]; rfl)
    refine ⟨h.record, ?_⟩
    show (s.pending.erase _).get? k = none
    rw [OrderedDict.get?_erase_of_ne _ hne]
    exact h.pending
  | wake => exact ⟨h.record, h.pending⟩
  | cancel => exact ⟨h.record, h.pending⟩

/-- **A call with a vacant key runs its operation**, unless the pruning raises. -/
theorem Store.Vacant.call (h : s.Vacant (cfg.scopeKey j)) (hidle : s.calls j = .idle) (hblank : ¬cfg.Blank j) :
    (Idempotency.fire cfg s (.call j now write)).calls j = .running ∨
      ¬PruneFits cfg s now write ∧
        ∃ e, (Idempotency.fire cfg s (.call j now write)).calls j = .ended .answered (.error e) := by
  have heffect := fire_effect cfg s (.call j now write)
  have hpruned : (s.pruned now).records.get? (cfg.scopeKey j) = none := get?_pruned_of_none h.record
  generalize Idempotency.fire cfg s (.call j now write) = t at heffect
  cases heffect with
  | skip hskip => exact absurd hidle hskip
  | detach _ hb => exact absurd hb hblank
  | pruneFails e _ _ hfits =>
    refine Or.inr ⟨hfits, e, ?_⟩
    rw [calls_setCall, if_pos rfl]
  | answer file record _ _ hrecord =>
    rw [hpruned] at hrecord
    cases hrecord
  | refuse file _ _ hother =>
    rcases hother with ⟨record, hrecord, -⟩ | ⟨-, fingerprint, owner, hpending, -⟩
    · rw [hpruned] at hrecord
      cases hrecord
    · rw [h.pending] at hpending
      cases hpending
  | join file owner _ _ _ hpending =>
    rw [h.pending] at hpending
    cases hpending
  | own =>
    refine Or.inl ?_
    rw [calls_setCall, if_pos rfl]

/-! ## Operations that raised -/

/-- The operation of the call raised, and its last section is still to come or has left the key vacant. -/
def Store.Abandons (cfg : Config R) (i : ℕ) (s : Store R) : Prop :=
  (∃ e, s.calls i = .abandoning e) ∨
    (∃ part result, s.calls i = .ended part result) ∧ s.Vacant (cfg.scopeKey i)

/-- A call that has ended does not go on. -/
theorem calls_fire_of_ended {part : Part} {result : Except Exc R} (h : s.calls i = .ended part result) :
    (fire cfg s step).calls i = .ended part result := by
  have hother : ∀ {j state} {t : Store R}, (∀ part result, s.calls j ≠ .ended part result) → t.calls = s.calls →
      (t.setCall j state).calls i = .ended part result := by
    intro j state t hj hcalls
    rw [calls_setCall, hcalls, if_neg]
    · exact h
    · rintro rfl
      exact hj part result h
  have heffect := fire_effect cfg s step
  generalize fire cfg s step = t at heffect
  cases heffect with
  | skip => exact h
  | detach hj => exact hother (by simp [hj]) rfl
  | pruneFails e hj => exact hother (by simp [hj]) rfl
  | answer file record hj => exact hother (by simp [hj]) rfl
  | refuse file hj => exact hother (by simp [hj]) rfl
  | join file owner hj => exact hother (by simp [hj]) rfl
  | own file hj => exact hother (by simp [hj]) rfl
  | finishDetached hj => exact hother (by simp [hj]) rfl
  | returned hj => exact hother (by simp [hj]) rfl
  | raised hj => exact hother (by simp [hj]) rfl
  | stored file response hj => exact hother (by simp [hj]) rfl
  | persistFails response e hj => exact hother (by simp [hj]) rfl
  | recordFails response e hj => exact hother (by simp [hj]) rfl
  | abandon e hj => exact hother (by simp [hj]) rfl
  | wake owner cancelled result hj => exact hother (by simp [hj]) rfl
  | cancel owner cancelled hj => exact hother (by simp [hj]) rfl

/-- **What an operation that raised leaves behind** when no call with its key comes. -/
theorem Store.Abandons.fire (h : s.Abandons cfg i) (hsound : s.Sound cfg) (hfresh : s.Fresh cfg)
    (hother : ∀ j now write, step = .call j now write → cfg.scopeKey j ≠ cfg.scopeKey i) :
    (fire cfg s step).Abandons cfg i := by
  rcases h with ⟨e, habandoning⟩ | ⟨⟨part, result, hended⟩, hvacant⟩
  swap
  · exact Or.inr ⟨⟨part, result, calls_fire_of_ended hended⟩, hvacant.fire hsound hother⟩
  have hstays : ∀ {j state} {t : Store R}, (∀ e, s.calls j ≠ .abandoning e) → t.calls = s.calls →
      (t.setCall j state).Abandons cfg i := by
    intro j state t hj hcalls
    refine Or.inl ⟨e, ?_⟩
    rw [calls_setCall, hcalls, if_neg]
    · exact habandoning
    · rintro rfl
      exact hj e habandoning
  have heffect := fire_effect cfg s step
  generalize Idempotency.fire cfg s step = t at heffect
  cases heffect with
  | skip => exact Or.inl ⟨e, habandoning⟩
  | detach hj => exact hstays (by simp [hj]) rfl
  | pruneFails e hj => exact hstays (by simp [hj]) rfl
  | answer file record hj => exact hstays (by simp [hj]) rfl
  | refuse file hj => exact hstays (by simp [hj]) rfl
  | join file owner hj => exact hstays (by simp [hj]) rfl
  | own file hj => exact hstays (by simp [hj]) rfl
  | finishDetached hj => exact hstays (by simp [hj]) rfl
  | returned hj => exact hstays (by simp [hj]) rfl
  | raised hj => exact hstays (by simp [hj]) rfl
  | stored file response hj => exact hstays (by simp [hj]) rfl
  | persistFails response e hj => exact hstays (by simp [hj]) rfl
  | recordFails response e hj => exact hstays (by simp [hj]) rfl
  | @abandon j e' hj =>
    by_cases hji : j = i
    · subst hji
      refine Or.inr ⟨⟨.owned, .error e', ?_⟩, ?_, ?_⟩
      · rw [calls_setCall, if_pos rfl]
      · exact hfresh.unrecorded j (by rw [hj]; rfl)
      · exact OrderedDict.get?_erase_self _ _
    · refine Or.inl ⟨e, ?_⟩
      rw [calls_setCall, if_neg (Ne.symm hji)]
      exact habandoning
  | wake owner cancelled result hj => exact hstays (by simp [hj]) rfl
  | cancel owner cancelled hj => exact hstays (by simp [hj]) rfl

/-! ## Operations that returned -/

/-- An operation that returned does not leave its key vacant: the response is recorded, or the owner keeps its
entry in the pending table. -/
theorem not_vacant_of_storing (hsound : s.Sound cfg) (hstoring : s.calls i = .storing r) (now : ℤ)
    (write : Option Exc) :
    (∃ result, (fire cfg s (.store i now write)).calls i = .ended .owned result) ∧
      (((fire cfg s (.store i now write)).records.get? (cfg.scopeKey i)).isSome ∨
        ¬(fire cfg s (.store i now write)).Vacant (cfg.scopeKey i)) := by
  have hentry := hsound.active i (by rw [hstoring]; rfl)
  have hrecorded : ∀ response : R,
      ((s.remember cfg i response now).records.get? (cfg.scopeKey i)).isSome = true := by
    intro response
    show ((s.records.set _ _).get? _).isSome = true
    rw [OrderedDict.get?_set_self]
    rfl
  have heffect := fire_effect cfg s (.store i now write)
  generalize fire cfg s (.store i now write) = t at heffect
  cases heffect with
  | skip hskip => exact absurd ⟨r, hstoring⟩ hskip
  | stored file response =>
    refine ⟨⟨.ok response, ?_⟩, Or.inl (hrecorded response)⟩
    rw [calls_setCall, if_pos rfl]
  | persistFails response e =>
    refine ⟨⟨.error e, ?_⟩, Or.inl (hrecorded response)⟩
    rw [calls_setCall, if_pos rfl]
  | recordFails response e =>
    refine ⟨⟨.error e, ?_⟩, Or.inr fun hvacant => ?_⟩
    · rw [calls_setCall, if_pos rfl]
    · have hpending : s.pending.get? (cfg.scopeKey i) = none := hvacant.pending
      rw [hentry] at hpending
      cases hpending

end Idempotency
end HexeAiNode
