import HexeAiNode.Idempotency.SingleFlight

/-!
# Waiting calls

A call that waits for an owner is released with the outcome of the owner, as long as every response can be
recorded and no future is cancelled under a call that waits for it (`Step.WaitersFit`).

The section that records a response raises when the response cannot be copied or printed, when its record
would expire after the last date, or when the file cannot be written.  It then leaves the key in the
pending table and the future as it is, and the calls that wait for the future wait forever
(`unprintable_response_strands_waiter`).  A waiting call that is cancelled cancels the future, and with it
every other call that waits for it or comes to wait for it.
-/

namespace HexeAiNode
namespace Idempotency

open Py StoreAction

variable {R : Type} {cfg : Config R} {s t : Store R} {step : Step R} {i j owner : ℕ} {now : ℤ}
  {write : Option Exc} {r : R} {x : Except Exc R}

/-! ## The condition -/

/-- A response that is to be recorded can be; a waiting call is cancelled before its future is done only
while no other call waits for that future; no call comes to wait for a future that is cancelled. -/
def Step.WaitersFit (cfg : Config R) (s : Store R) : Step R → Prop
  | .store i now write => ∀ response, s.calls i = .storing response → StoreFits cfg s i response now write
  | .cancel j => ∀ owner cancelled, s.calls j = .waiting owner cancelled → s.futures owner = .pending →
      ∀ other cancelled', other ≠ j → s.calls other ≠ .waiting owner cancelled'
  | .call j _ _ => ∀ owner, ¬cfg.Blank j →
      s.pending.get? (cfg.scopeKey j) = some (cfg.requestHash j, owner) → s.futures owner ≠ .cancelled
  | _ => True

/-! ## The invariant -/

/-- The call waits for the owner, or got what its future carried, and was not cancelled. -/
def CallState.Served (owner : ℕ) (state : CallState R) : Prop :=
  state = .waiting owner false ∨ ∃ result, state = .ended (.joined owner false) result

/-- The pending table has the keys of operations in progress; the future of an owner that ended is done; and
the future of a call that waits, or waited, without being cancelled is not cancelled. -/
structure Store.Releases (s : Store R) : Prop where
  pending : ∀ k fingerprint i, s.pending.get? k = some (fingerprint, i) → (s.calls i).active = true
  done : ∀ i result, s.calls i = .ended .owned result → s.futures i ≠ .pending
  served : ∀ j owner, (s.calls j).Served owner → s.futures owner ≠ .cancelled

theorem releases_loaded (records : OrderedDict String (Record R)) : (Store.loaded records).Releases where
  pending := by simp [Store.loaded]
  done := by simp [Store.loaded]
  served := by simp [Store.loaded, CallState.Served]

namespace Store.Releases

/-- A call that owns no operation goes on to another such state. -/
theorem setCall (h : s.Releases) {state : CallState R} (hold : (s.calls i).active = false)
    (hnew : state.isOwner = false)
    (hserved : ∀ owner, state.Served owner → s.futures owner ≠ .cancelled) :
    (s.setCall i state).Releases where
  pending := by
    intro k fingerprint owner hentry
    have howner := h.pending k fingerprint owner hentry
    rw [calls_setCall, if_neg]
    · exact howner
    rintro rfl
    rw [hold] at howner
    cases howner
  done := by
    intro j result hj
    rw [calls_setCall] at hj
    split at hj
    · rw [hj] at hnew
      cases hnew
    · exact h.done j result hj
  served := by
    intro j owner hj
    rw [calls_setCall] at hj
    split at hj
    · exact hserved owner hj
    · exact h.served j owner hj

/-- An owner goes on. -/
theorem setActive (h : s.Releases) {state : CallState R} (hnew : state.active = true) :
    (s.setCall i state).Releases where
  pending := by
    intro k fingerprint owner hentry
    rw [calls_setCall]
    split
    · exact hnew
    · exact h.pending k fingerprint owner hentry
  done := by
    intro j result hj
    rw [calls_setCall] at hj
    split at hj
    · rw [hj] at hnew
      cases hnew
    · exact h.done j result hj
  served := by
    intro j owner hj
    rw [calls_setCall] at hj
    split at hj
    · rcases hj with hj | ⟨result, hj⟩ <;> rw [hj] at hnew <;> cases hnew
    · exact h.served j owner hj

/-- A call becomes the owner of its key. -/
theorem own (h : s.Releases) {k fingerprint : String} :
    (Store.setCall i .running { s with pending := s.pending.set k (fingerprint, i) }).Releases where
  pending := by
    intro k' fingerprint' owner hentry
    have hentry : (s.pending.set k (fingerprint, i)).get? k' = some (fingerprint', owner) := hentry
    rw [calls_setCall]
    split
    · rfl
    · next howner =>
      rw [OrderedDict.get?_set] at hentry
      split at hentry
      · exact absurd (Prod.mk.inj (Option.some.inj hentry)).2.symm howner
      · exact h.pending k' fingerprint' owner hentry
  done := (h.setActive rfl).done
  served := (h.setActive rfl).served

/-- An owner leaves with its outcome. -/
theorem leave (h : s.Releases) (hsound : s.Sound cfg) {value : Future R} (hvalue : value.get = some x)
    (hcancelled : value ≠ .cancelled) :
    ((s.settle cfg i value).setCall i (.ended .owned x)).Releases where
  pending := by
    intro k fingerprint owner hentry
    have herased : (s.pending.erase (cfg.scopeKey i)).get? k = some (fingerprint, owner) := hentry
    rw [OrderedDict.get?_erase] at herased
    split at herased
    · cases herased
    · next hk =>
      rw [calls_setCall, if_neg]
      · exact h.pending k fingerprint owner herased
      rintro rfl
      exact hk (hsound.entry k fingerprint owner herased).1
  done := by
    intro j result hj
    show Function.update s.futures i ((s.futures i).settle value) j ≠ .pending
    rw [calls_setCall] at hj
    rw [Function.update_apply]
    split at hj
    · next hji =>
      rw [if_pos hji]
      rcases hfuture : s.futures i with _ | _ | _ | _
      case pending =>
        rintro hpending
        have hpending : value = .pending := hpending
        rw [hpending] at hvalue
        cases hvalue
      all_goals simp [Future.settle]
    · next hji =>
      rw [if_neg hji]
      exact h.done j result hj
  served := by
    intro j owner hj
    show Function.update s.futures i ((s.futures i).settle value) owner ≠ .cancelled
    rw [calls_setCall] at hj
    have hold : s.futures owner ≠ .cancelled := by
      split at hj
      · rcases hj with hj | ⟨result, hj⟩ <;> cases hj
      · exact h.served j owner hj
    rw [Function.update_apply]
    split
    · next howner =>
      subst howner
      rcases hfuture : s.futures owner with _ | _ | _ | _
      case pending => exact hcancelled
      case cancelled => exact absurd hfuture hold
      all_goals simp [Future.settle]
    · exact hold

/-- A waiting call is cancelled. -/
theorem cancel (h : s.Releases) (hsound : s.Sound cfg) {cancelled : Bool}
    (hwaiting : s.calls i = .waiting owner cancelled)
    (hfits : s.futures owner = .pending →
      ∀ other cancelled', other ≠ i → s.calls other ≠ .waiting owner cancelled') :
    (Store.setCall i (.waiting owner true) { s with
      futures := Function.update s.futures owner ((s.futures owner).settle .cancelled) }).Releases where
  pending := by
    intro k fingerprint owner' hentry
    have howner := h.pending k fingerprint owner' hentry
    rw [calls_setCall, if_neg]
    · exact howner
    rintro rfl
    rw [hwaiting] at howner
    cases howner
  done := by
    intro j result hj
    rw [calls_setCall] at hj
    show Function.update s.futures owner ((s.futures owner).settle .cancelled) j ≠ .pending
    rw [Function.update_apply]
    split at hj
    · cases hj
    · split
      · cases s.futures owner <;> simp [Future.settle]
      · exact h.done j result hj
  served := by
    intro j owner' hj
    rw [calls_setCall] at hj
    show Function.update s.futures owner ((s.futures owner).settle .cancelled) owner' ≠ .cancelled
    split at hj
    · rcases hj with hj | ⟨result, hj⟩ <;> cases hj
    · next hji =>
      have hold := h.served j owner' hj
      rw [Function.update_apply]
      split
      · next howner =>
        subst howner
        -- the future is done: nobody else waits for it, or somebody got what it carries
        have hdone : s.futures owner' ≠ .pending := by
          intro hpending
          rcases hj with hj | ⟨result, hj⟩
          · exact hfits hpending j false hji hj
          · have hget := (hsound.joined j owner' false result hj).2 rfl
            rw [hpending] at hget
            cases hget
        rw [settle_of_ne_pending hdone]
        exact hold
      · exact hold

/-- **A step that fits keeps the invariant.** -/
theorem fire (h : s.Releases) (hsound : s.Sound cfg) (hfits : step.WaitersFit cfg s) :
    (Idempotency.fire cfg s step).Releases := by
  have heffect := fire_effect cfg s step
  have hinert : ∀ {i}, s.calls i = .idle → (s.calls i).active = false := by
    intro i hi
    rw [hi]
    rfl
  have hpruned : ∀ now file, ((s.pruned now).saved file).Releases :=
    fun now file => ⟨h.pending, h.done, h.served⟩
  have hremembered : ∀ i r now file, ((s.remember cfg i r now).saved file).Releases :=
    fun i r now file => ⟨h.pending, h.done, h.served⟩
  generalize Idempotency.fire cfg s step = t at heffect
  cases heffect with
  | skip => exact h
  | detach hi =>
    refine h.setCall (hinert hi) rfl ?_
    simp [CallState.Served]
  | pruneFails e hi =>
    refine (hpruned _ s.file).setCall (hinert hi) rfl ?_
    simp [CallState.Served]
  | answer file record hi =>
    refine (hpruned _ file).setCall (hinert hi) rfl ?_
    simp [CallState.Served]
  | refuse file hi =>
    refine (hpruned _ file).setCall (hinert hi) rfl ?_
    simp [CallState.Served]
  | join file owner hi hblank _ hpending =>
    refine (hpruned _ file).setCall (hinert hi) rfl ?_
    rintro owner' (hstate | ⟨result, hstate⟩)
    · obtain ⟨rfl, -⟩ := CallState.waiting.inj hstate
      exact hfits _ hblank hpending
    · cases hstate
  | own file => exact (hpruned _ file).own
  | finishDetached hdetached =>
    refine h.setCall (by rw [hdetached]; rfl) rfl ?_
    simp [CallState.Served]
  | returned => exact h.setActive rfl
  | raised => exact h.setActive rfl
  | stored file response =>
    exact (hremembered _ response _ file).leave (hsound.congr rfl rfl rfl) rfl (by simp)
  | persistFails response e hstoring _ _ hfails => exact absurd (hfits response hstoring) hfails
  | recordFails response e hstoring hfails =>
    exact absurd ⟨(hfits response hstoring).1, (hfits response hstoring).2.1⟩ hfails
  | abandon => exact h.leave hsound rfl (by simp)
  | wake owner cancelled result hwaiting =>
    refine h.setCall (by rw [hwaiting]; rfl) rfl ?_
    rintro owner' (hstate | ⟨result', hstate⟩)
    · cases hstate
    · obtain ⟨hpart, -⟩ := CallState.ended.inj hstate
      obtain ⟨rfl, rfl⟩ := Part.joined.inj hpart
      exact h.served _ _ (Or.inl hwaiting)
  | cancel owner cancelled hwaiting => exact h.cancel hsound hwaiting (hfits owner cancelled hwaiting)

end Store.Releases

/-! ## Release -/

/-- Calls that wait are released: an owner that ended has left the pending table and its future is done; a
waiting call that was not cancelled has an owner in progress, or goes on with the outcome of its owner, and
the outcome it got is that of its owner; a cancellation moves no other call. -/
structure Released (cfg : Config R) (s : Store R) : Prop where
  left : ∀ i result, s.calls i = .ended .owned result →
    (∀ k fingerprint, s.pending.get? k ≠ some (fingerprint, i)) ∧ s.futures i ≠ .pending
  awaits : ∀ j owner, s.calls j = .waiting owner false → (s.calls owner).active = true ∨
    ∃ result, s.calls owner = .ended .owned result ∧
      (fire cfg s (.wake j)).calls j = .ended (.joined owner false) result
  received : ∀ j owner result, s.calls j = .ended (.joined owner false) result →
    s.calls owner = .ended .owned result
  unmoved : ∀ i j, i ≠ j → (fire cfg s (.cancel j)).calls i = s.calls i

/-- What a future that is done and was not cancelled carries is the outcome of its owner. -/
theorem Store.Sound.outcome (h : s.Sound cfg) (hget : (s.futures i).get = some x)
    (hcancelled : s.futures i ≠ .cancelled) : s.calls i = .ended .owned x := by
  rcases hfuture : s.futures i with _ | r | e | _
  case cancelled => exact absurd hfuture hcancelled
  all_goals
    rw [hfuture] at hget
    cases hget
  case result => exact h.result i r hfuture
  case exception => exact h.exception i e hfuture

theorem Store.Releases.released (h : s.Releases) (hsound : s.Sound cfg) : Released cfg s where
  left := by
    intro i result hi
    refine ⟨fun k fingerprint hentry => ?_, h.done i result hi⟩
    have hactive := h.pending k fingerprint i hentry
    rw [hi] at hactive
    cases hactive
  awaits := by
    intro j owner hj
    obtain ⟨-, howner⟩ := hsound.waiting j owner false hj
    have hcancelled := h.served j owner (Or.inl hj)
    by_cases hactive : (s.calls owner).active = true
    · exact Or.inl hactive
    right
    obtain ⟨result, hended⟩ : ∃ result, s.calls owner = .ended .owned result := by
      rcases hstate : s.calls owner with _ | _ | _ | _ | _ | _ | ⟨part, result⟩
      case ended =>
        cases part with
        | owned => exact ⟨result, rfl⟩
        | _ =>
          rw [hstate] at howner
          cases howner
      all_goals
        rw [hstate] at howner hactive
        simp [CallState.isOwner, CallState.active] at howner hactive
    have hget : ∃ x, (s.futures owner).get = some x := by
      rcases hfuture : s.futures owner with _ | r | e | _
      case pending => exact absurd hfuture (h.done owner result hended)
      all_goals exact ⟨_, rfl⟩
    obtain ⟨x, hget⟩ := hget
    have houtcome := hsound.outcome hget hcancelled
    rw [hended] at houtcome
    obtain ⟨-, rfl⟩ := CallState.ended.inj houtcome
    refine ⟨result, hended, ?_⟩
    show (s.wake j).calls j = _
    have hawaited : s.awaited owner false = some result := hget
    unfold Store.wake
    rw [hj]
    dsimp only
    rw [hawaited]
    dsimp only
    rw [calls_setCall, if_pos rfl]
  received := by
    intro j owner result hj
    exact hsound.outcome ((hsound.joined j owner false result hj).2 rfl) (h.served j owner (Or.inr ⟨_, hj⟩))
  unmoved := by
    intro i j hij
    show (s.cancel j).calls i = _
    unfold Store.cancel
    split
    · rw [calls_setCall, if_neg hij]
    · rfl

/-- **Waiting calls are released** in every run whose steps fit. -/
theorem waiters_released (cfg : Config R) (records : OrderedDict String (Record R)) (steps : List (Step R))
    (h : Run.Along (fire cfg) (Step.WaitersFit cfg · ·) (.loaded records) steps) :
    Released cfg (run cfg records steps) := by
  have hkept := h.keeps (I := fun s : Store R => s.Sound cfg ∧ s.Releases)
    ⟨sound_loaded cfg records, releases_loaded records⟩
    fun s step hs hfits => ⟨hs.1.fire step, hs.2.fire hs.1 hfits⟩
  exact hkept.2.released hkept.1

/-- A call settles no future. -/
theorem call_futures (cfg : Config R) (s : Store R) (i : ℕ) (now : ℤ) (write : Option Exc) :
    (fire cfg s (.call i now write)).futures = s.futures := by
  have heffect := fire_effect cfg s (.call i now write)
  generalize fire cfg s (.call i now write) = t at heffect
  cases heffect <;> rfl

instance (cfg : Config R) (s : Store R) (i : ℕ) (response : R) (now : ℤ) (write : Option Exc) :
    Decidable (StoreFits cfg s i response now write) :=
  inferInstanceAs (Decidable (_ ∧ _ ∧ _ ∧ _))

/-- A call that joins another. -/
def joinedRun : List (Step String) :=
  [.call 0 0 none, .call 1 0 none, .finish 0 (.ok "done"), .store 0 0 none, .wake 1]

theorem waiters_released_joinedRun : Released sampleConfig (run sampleConfig .empty joinedRun) := by
  refine waiters_released sampleConfig .empty joinedRun
    ⟨fun owner _ _ => nofun, fun owner _ _ => ?_, trivial, fun response hstoring => ?_, trivial, trivial⟩
  · rw [call_futures]
    exact nofun
  · have hdone : (run sampleConfig .empty (joinedRun.take 3)).calls 0 = .storing "done" := rfl
    have hstoring : (run sampleConfig .empty (joinedRun.take 3)).calls 0 = .storing response := hstoring
    rw [hdone] at hstoring
    obtain rfl := CallState.storing.inj hstoring
    show StoreFits sampleConfig (run sampleConfig .empty (joinedRun.take 3)) 0 "done" 0 none
    decide +kernel

/-- A response that `json.dumps` does not print. -/
def unprintableConfig : Config String where
  sha256 := id
  dumpsError _ := some ⟨.typeError, "Object of type set is not JSON serializable"⟩
  args _ := { callerId := "scout", idempotencyKey := "job-1" }

/-- A call that waits beside one that is cancelled. -/
def cancelledRun : List (Step String) :=
  [.call 0 0 none, .call 1 0 none, .call 2 0 none, .cancel 1, .finish 0 (.ok "done"), .store 0 0 none, .wake 2]

/-- After a response that cannot be printed the owner has ended, and the waiting call has nothing to go on
with; and a call that waits beside one that is cancelled ends without the response. -/
theorem unprintable_response_strands_waiter :
    ¬Released unprintableConfig (run unprintableConfig .empty joinedRun) ∧
    ¬Released sampleConfig (run sampleConfig .empty cancelledRun) := by
  refine ⟨fun h => (h.left 0 (.error ⟨.typeError, "Object of type set is not JSON serializable"⟩) rfl).2 rfl,
    fun h => ?_⟩
  have howner := h.received 2 0 (.error cancelledError) rfl
  have hdone : (run sampleConfig .empty cancelledRun).calls 0 = .ended .owned (.ok "done") := rfl
  rw [hdone] at howner
  cases howner

end Idempotency
end HexeAiNode
