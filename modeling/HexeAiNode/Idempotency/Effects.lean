import HexeAiNode.Idempotency.Store

/-!
# What a step does

`fire_effect` inverts a step once: a step leaves the store alone or has one of the effects of `Effect`, each
with the state in which it can happen.

`Store.Sound` is what the tables and the calls agree on in every run (`sound_run`): an operation that is in
progress has the entry of its key in the pending table, an entry of the table is that of an owner which has
not left it, a waiting call waits for an owner with its own key and payload, and a future that carries an
outcome carries the outcome of its owner.
-/

namespace HexeAiNode
namespace Idempotency

open Py StoreAction

variable {R : Type}

/-! ## Effects -/

/-- A pruning with this reading of the clock does not raise. -/
def PruneFits (cfg : Config R) (s : Store R) (now : ℤ) (write : Option Exc) : Prop :=
  s.expired now = [] ∨ cfg.recordsError (s.pruned now).records = none ∧ write = none

/-- When the record of a response that is stored now expires. -/
def Config.expiry (cfg : Config R) (now : ℤ) : ℤ := now + cfg.retention * 1000000

/-- The store with the record of a response. -/
def Store.remember (cfg : Config R) (i : ℕ) (response : R) (now : ℤ) (s : Store R) : Store R :=
  { s with
    records := s.records.set (cfg.scopeKey i) (cfg.record i response now (cfg.expiry now)) }

/-- A section that records a response does not raise. -/
def StoreFits (cfg : Config R) (s : Store R) (i : ℕ) (response : R) (now : ℤ) (write : Option Exc) : Prop :=
  cfg.copyError response = none ∧ Fits now cfg.retention ∧
    cfg.recordsError (s.remember cfg i response now).records = none ∧ write = none

/-- The store with another file. -/
def Store.saved (file : OrderedDict String (Record R)) (s : Store R) : Store R := { s with file := file }

/-- The step can be taken. -/
def Step.Enabled (s : Store R) : Step R → Prop
  | .call i _ _ => s.calls i = .idle
  | .finish i _ => s.calls i = .detached ∨ s.calls i = .running
  | .store i _ _ => ∃ response, s.calls i = .storing response
  | .abandon i => ∃ e, s.calls i = .abandoning e
  | .wake i => ∃ owner cancelled result,
      s.calls i = .waiting owner cancelled ∧ s.awaited owner cancelled = some result
  | .cancel i => ∃ owner cancelled, s.calls i = .waiting owner cancelled

/-- What a step makes of a store. -/
inductive Effect (cfg : Config R) (s : Store R) : Step R → Store R → Prop
  | skip {step} (hskip : ¬step.Enabled s) : Effect cfg s step s
  | detach {i now write} (hidle : s.calls i = .idle) (hblank : cfg.Blank i) :
      Effect cfg s (.call i now write) (s.setCall i .detached)
  | pruneFails {i now write} (e : Exc) (hidle : s.calls i = .idle) (hblank : ¬cfg.Blank i)
      (hfits : ¬PruneFits cfg s now write) :
      Effect cfg s (.call i now write) ((s.pruned now).setCall i (.ended .answered (.error e)))
  | answer {i now write} (file record) (hidle : s.calls i = .idle) (hblank : ¬cfg.Blank i)
      (hrecord : (s.pruned now).records.get? (cfg.scopeKey i) = some record)
      (hhash : record.requestHash = cfg.requestHash i) :
      Effect cfg s (.call i now write)
        (((s.pruned now).saved file).setCall i (.ended .answered (.ok record.response)))
  | refuse {i now write} (file) (hidle : s.calls i = .idle) (hblank : ¬cfg.Blank i)
      (hother : (∃ record, (s.pruned now).records.get? (cfg.scopeKey i) = some record ∧
          record.requestHash ≠ cfg.requestHash i) ∨
        (s.pruned now).records.get? (cfg.scopeKey i) = none ∧ ∃ fingerprint owner,
          s.pending.get? (cfg.scopeKey i) = some (fingerprint, owner) ∧
            fingerprint ≠ cfg.requestHash i) :
      Effect cfg s (.call i now write)
        (((s.pruned now).saved file).setCall i (.ended .answered (.error conflict)))
  | join {i now write} (file) (owner : ℕ) (hidle : s.calls i = .idle) (hblank : ¬cfg.Blank i)
      (hrecord : (s.pruned now).records.get? (cfg.scopeKey i) = none)
      (hpending : s.pending.get? (cfg.scopeKey i) = some (cfg.requestHash i, owner)) :
      Effect cfg s (.call i now write) (((s.pruned now).saved file).setCall i (.waiting owner false))
  | own {i now write} (file) (hidle : s.calls i = .idle) (hblank : ¬cfg.Blank i)
      (hrecord : (s.pruned now).records.get? (cfg.scopeKey i) = none)
      (hpending : s.pending.get? (cfg.scopeKey i) = none) :
      Effect cfg s (.call i now write)
        (Store.setCall i .running { (s.pruned now).saved file with
          pending := s.pending.set (cfg.scopeKey i) (cfg.requestHash i, i) })
  | finishDetached {i outcome} (hdetached : s.calls i = .detached) :
      Effect cfg s (.finish i outcome) (s.setCall i (.ended .detached outcome))
  | returned {i response} (hrunning : s.calls i = .running) :
      Effect cfg s (.finish i (.ok response)) (s.setCall i (.storing response))
  | raised {i e} (hrunning : s.calls i = .running) :
      Effect cfg s (.finish i (.error e)) (s.setCall i (.abandoning e))
  | stored {i now write} (file) (response : R) (hstoring : s.calls i = .storing response)
      (hfits : StoreFits cfg s i response now write) :
      Effect cfg s (.store i now write)
        ((((s.remember cfg i response now).saved file).settle cfg i (.result response)).setCall i
          (.ended .owned (.ok response)))
  | persistFails {i now write} (response : R) (e : Exc) (hstoring : s.calls i = .storing response)
      (hcopy : cfg.copyError response = none) (hdate : Fits now cfg.retention)
      (hfits : ¬StoreFits cfg s i response now write) :
      Effect cfg s (.store i now write)
        ((s.remember cfg i response now).setCall i (.ended .owned (.error e)))
  | recordFails {i now write} (response : R) (e : Exc) (hstoring : s.calls i = .storing response)
      (hfits : ¬(cfg.copyError response = none ∧ Fits now cfg.retention)) :
      Effect cfg s (.store i now write) (s.setCall i (.ended .owned (.error e)))
  | abandon {i} (e : Exc) (habandoning : s.calls i = .abandoning e) :
      Effect cfg s (.abandon i)
        ((s.settle cfg i (.exception e)).setCall i (.ended .owned (.error e)))
  | wake {i} (owner : ℕ) (cancelled : Bool) (result : Except Exc R)
      (hwaiting : s.calls i = .waiting owner cancelled)
      (hresult : s.awaited owner cancelled = some result) :
      Effect cfg s (.wake i) (s.setCall i (.ended (.joined owner cancelled) result))
  | cancel {i} (owner : ℕ) (cancelled : Bool) (hwaiting : s.calls i = .waiting owner cancelled) :
      Effect cfg s (.cancel i) (Store.setCall i (.waiting owner true) { s with
        futures := Function.update s.futures owner ((s.futures owner).settle .cancelled) })

variable {cfg : Config R} {s t : Store R} {step : Step R} {i j owner : ℕ} {now : ℤ}
  {write : Option Exc} {r : R} {e : Exc}

/-! ## The sections -/

/-- `_persist` writes the records or raises. -/
theorem exec_persist (cfg : Config R) (write : Option Exc) (s : Store R) :
    (cfg.recordsError s.records = none ∧ write = none ∧
      (persist cfg write).exec s = (.ok (), s.saved s.records)) ∨
    ¬(cfg.recordsError s.records = none ∧ write = none) ∧
      ∃ e, (persist cfg write).exec s = (.error e, s) := by
  unfold persist
  rw [exec_bind, exec_read]
  dsimp only
  rcases hrecords : cfg.recordsError s.records with _ | e
  · rcases write with _ | e
    · exact Or.inl ⟨rfl, rfl, rfl⟩
    · exact Or.inr ⟨by simp, e, rfl⟩
  · exact Or.inr ⟨by simp, e, rfl⟩

/-- `_prune` removes the expired records, whether it raises or not. -/
theorem exec_prune (cfg : Config R) (now : ℤ) (write : Option Exc) (s : Store R) :
    (∃ file, (prune cfg now write).exec s = (.ok (), (s.pruned now).saved file)) ∨
    ¬PruneFits cfg s now write ∧ ∃ e, (prune cfg now write).exec s = (.error e, s.pruned now) := by
  have hexec : (prune cfg now write).exec s =
      (if s.expired now ≠ [] then persist cfg write else pure ()).exec (s.pruned now) := by
    unfold prune
    rw [exec_bind, exec_read]
    dsimp only
    rw [exec_bind, exec_write]
  rw [hexec]
  by_cases hexpired : s.expired now = []
  · rw [if_neg (by simp [hexpired])]
    exact Or.inl ⟨(s.pruned now).file, rfl⟩
  · rw [if_pos hexpired]
    rcases exec_persist cfg write (s.pruned now) with ⟨-, -, hok⟩ | ⟨hfails, herror⟩
    · exact Or.inl ⟨_, hok⟩
    · refine Or.inr ⟨?_, herror⟩
      rintro (hnone | hfits)
      · exact hexpired hnone
      · exact hfails hfits

/-- A first call. -/
theorem call_effect (hidle : s.calls i = .idle) :
    Effect cfg s (.call i now write) (s.call cfg i now write) := by
  unfold Store.call
  rw [hidle]
  dsimp only
  by_cases hblank : cfg.Blank i
  · rw [if_pos hblank]
    exact .detach hidle hblank
  rw [if_neg hblank]
  unfold enter
  rw [exec_bind]
  rcases exec_prune cfg now write s with ⟨file, hprune⟩ | ⟨hfits, e, hprune⟩
  · rw [hprune]
    dsimp only
    rw [exec_bind, exec_read]
    dsimp only
    show Effect cfg s _ (Store.setCall i (Entry.state (exec _ _).1) (exec _ _).2)
    rcases hrecord : (s.pruned now).records.get? (cfg.scopeKey i) with _ | record
    · rw [show ((s.pruned now).saved file).records.get? (cfg.scopeKey i) = none from hrecord]
      dsimp only
      rcases hpending : s.pending.get? (cfg.scopeKey i) with _ | ⟨fingerprint, owner⟩
      · rw [show ((s.pruned now).saved file).pending.get? (cfg.scopeKey i) = none from hpending]
        exact .own file hidle hblank hrecord hpending
      · rw [show ((s.pruned now).saved file).pending.get? (cfg.scopeKey i) =
          some (fingerprint, owner) from hpending]
        dsimp only
        by_cases hhash : fingerprint = cfg.requestHash i
        · subst hhash
          rw [if_neg (by simp)]
          exact .join file owner hidle hblank hrecord hpending
        · rw [if_pos hhash]
          exact .refuse file hidle hblank (Or.inr ⟨hrecord, _, _, hpending, hhash⟩)
    · rw [show ((s.pruned now).saved file).records.get? (cfg.scopeKey i) = some record from hrecord]
      dsimp only
      by_cases hhash : record.requestHash = cfg.requestHash i
      · rw [if_neg (by simp [hhash])]
        exact .answer file record hidle hblank hrecord hhash
      · rw [if_pos hhash]
        exact .refuse file hidle hblank (Or.inl ⟨_, hrecord, hhash⟩)
  · rw [hprune]
    exact .pruneFails e hidle hblank hfits

/-- The last section of an owner whose operation returned. -/
theorem store_effect (hstoring : s.calls i = .storing r) :
    Effect cfg s (.store i now write) (s.storeResponse cfg i now write) := by
  unfold Store.storeResponse
  rw [hstoring]
  dsimp only
  unfold succeed
  rw [exec_bind, exec_ofResult]
  unfold Config.deepcopy
  rcases hcopy : cfg.copyError r with _ | e
  · dsimp only
    rw [exec_bind, exec_ofResult]
    by_cases hdate : Fits now cfg.retention
    · rw [addSeconds_of_fits hdate]
      dsimp only
      rw [exec_bind, exec_update]
      dsimp only
      have hremember : { s with
          records := s.records.set (cfg.scopeKey i)
            (cfg.record i r now (now + cfg.retention * 1000000)) } = s.remember cfg i r now := rfl
      rw [exec_bind, hremember]
      rcases exec_persist cfg write (s.remember cfg i r now) with ⟨hrecords, hwrite, hok⟩ | ⟨hfails, e, he⟩
      · rw [hok]
        exact .stored _ r hstoring ⟨hcopy, hdate, hrecords, hwrite⟩
      · rw [he]
        refine .persistFails r e hstoring hcopy hdate fun hfits => ?_
        exact hfails hfits.2.2
    · obtain ⟨e, he⟩ := addSeconds_of_not_fits hdate
      rw [he]
      exact .recordFails r e hstoring fun hfits => hdate hfits.2
  · refine .recordFails r e hstoring fun hfits => ?_
    rw [hcopy] at hfits
    cases hfits.1

/-- **Every step has one of the effects.** -/
theorem fire_effect (cfg : Config R) (s : Store R) (step : Step R) :
    Effect cfg s step (fire cfg s step) := by
  cases step with
  | call i now write =>
    show Effect cfg s _ (s.call cfg i now write)
    by_cases hidle : s.calls i = .idle
    · exact call_effect hidle
    · unfold Store.call
      split
      · next h => exact absurd h hidle
      · exact .skip hidle
  | finish i outcome =>
    show Effect cfg s _ (s.finish i outcome)
    by_cases henabled : s.calls i = .detached ∨ s.calls i = .running
    · rcases henabled with hcall | hcall
      · unfold Store.finish
        rw [hcall]
        exact .finishDetached hcall
      · rcases outcome with e | response
        · unfold Store.finish
          rw [hcall]
          exact .raised hcall
        · unfold Store.finish
          rw [hcall]
          exact .returned hcall
    · unfold Store.finish
      split
      · next hcall => exact absurd (Or.inl hcall) henabled
      · next hcall => exact absurd (Or.inr hcall) henabled
      · next hcall => exact absurd (Or.inr hcall) henabled
      · exact .skip henabled
  | store i now write =>
    show Effect cfg s _ (s.storeResponse cfg i now write)
    by_cases hstoring : ∃ r, s.calls i = .storing r
    · obtain ⟨r, hstoring⟩ := hstoring
      exact store_effect hstoring
    · unfold Store.storeResponse
      split
      · next r h => exact absurd ⟨r, h⟩ hstoring
      · exact .skip hstoring
  | abandon i =>
    show Effect cfg s _ (s.abandonKey cfg i)
    unfold Store.abandonKey
    split
    · next e habandoning => exact .abandon e habandoning
    · next hother => exact .skip fun ⟨e, he⟩ => hother e he
  | wake i =>
    show Effect cfg s _ (s.wake i)
    unfold Store.wake
    split
    · next owner cancelled hwaiting =>
      split
      · next result hresult => exact .wake owner cancelled result hwaiting hresult
      · next hnone =>
        refine .skip ?_
        rintro ⟨owner', cancelled', result, hwaiting', hresult⟩
        rw [hwaiting] at hwaiting'
        obtain ⟨rfl, rfl⟩ := CallState.waiting.inj hwaiting'
        rw [hnone] at hresult
        cases hresult
    · next hother => exact .skip fun ⟨owner, cancelled, _, hwaiting, _⟩ => hother owner cancelled hwaiting
  | cancel i =>
    show Effect cfg s _ (s.cancel i)
    unfold Store.cancel
    split
    · next owner cancelled hwaiting => exact .cancel owner cancelled hwaiting
    · next hother => exact .skip fun ⟨owner, cancelled, hwaiting⟩ => hother owner cancelled hwaiting

/-! ## What the tables and the calls agree on -/

/-- The operation of the call is in progress, or its last section is still to come. -/
def CallState.active : CallState R → Bool
  | .running | .storing _ | .abandoning _ => true
  | _ => false

/-- The call owns an operation, or owned one. -/
def CallState.isOwner : CallState R → Bool
  | .ended .owned _ => true
  | state => state.active

/-- The calls have one key and one payload, as far as the store can tell. -/
def Config.Matches (cfg : Config R) (i j : ℕ) : Prop :=
  cfg.scopeKey j = cfg.scopeKey i ∧ cfg.requestHash j = cfg.requestHash i

/-- What the tables and the calls agree on. -/
structure Store.Sound (cfg : Config R) (s : Store R) : Prop where
  entry : ∀ k fingerprint i, s.pending.get? k = some (fingerprint, i) →
    k = cfg.scopeKey i ∧ fingerprint = cfg.requestHash i ∧ (s.calls i).isOwner = true
  active : ∀ i, (s.calls i).active = true →
    s.pending.get? (cfg.scopeKey i) = some (cfg.requestHash i, i)
  waiting : ∀ j i cancelled, s.calls j = .waiting i cancelled →
    cfg.Matches i j ∧ (s.calls i).isOwner = true
  joined : ∀ j i cancelled result, s.calls j = .ended (.joined i cancelled) result →
    cfg.Matches i j ∧ (cancelled = false → (s.futures i).get = some result)
  result : ∀ i r, s.futures i = .result r → s.calls i = .ended .owned (.ok r)
  exception : ∀ i e, s.futures i = .exception e → s.calls i = .ended .owned (.error e)
  returned : ∀ i r, s.calls i = .ended .owned (.ok r) →
    s.futures i = .result r ∨ s.futures i = .cancelled

theorem sound_loaded (cfg : Config R) (records : OrderedDict String (Record R)) :
    (Store.loaded records).Sound cfg where
  entry := by simp [Store.loaded]
  active := by simp [Store.loaded, CallState.active]
  waiting := by simp [Store.loaded]
  joined := by simp [Store.loaded]
  result := by simp [Store.loaded]
  exception := by simp [Store.loaded]
  returned := by simp [Store.loaded]

theorem isOwner_of_active {state : CallState R} (h : state.active = true) : state.isOwner = true := by
  cases state <;> simp_all [CallState.active, CallState.isOwner]

namespace Store.Sound

/-- The records do not matter. -/
theorem congr (h : s.Sound cfg) (hpending : t.pending = s.pending) (hfutures : t.futures = s.futures)
    (hcalls : t.calls = s.calls) : t.Sound cfg where
  entry := by
    rw [hpending, hcalls]
    exact h.entry
  active := by
    rw [hpending, hcalls]
    exact h.active
  waiting := by
    rw [hcalls]
    exact h.waiting
  joined := by
    rw [hfutures, hcalls]
    exact h.joined
  result := by
    rw [hfutures, hcalls]
    exact h.result
  exception := by
    rw [hfutures, hcalls]
    exact h.exception
  returned := by
    rw [hfutures, hcalls]
    exact h.returned

/-- A call that owns no operation goes on to another such state. -/
theorem setCall (h : s.Sound cfg) (hold : (s.calls i).isOwner = false) {state : CallState R}
    (hnew : state.isOwner = false)
    (hwaiting : ∀ owner cancelled, state = .waiting owner cancelled →
      cfg.Matches owner i ∧ (s.calls owner).isOwner = true)
    (hjoined : ∀ owner cancelled result, state = .ended (.joined owner cancelled) result →
      cfg.Matches owner i ∧ (cancelled = false → (s.futures owner).get = some result)) :
    (s.setCall i state).Sound cfg := by
  -- an owner is another call
  have hother : ∀ j, (s.calls j).isOwner = true → (s.setCall i state).calls j = s.calls j := by
    intro j hj
    refine Function.update_of_ne (fun hji => ?_) _ _
    rw [hji, hold] at hj
    cases hj
  have hcalls : ∀ j, (s.setCall i state).calls j = if j = i then state else s.calls j :=
    Function.update_apply _ _ _
  have hactive : ∀ j, ((s.setCall i state).calls j).isOwner = true → s.calls j = (s.setCall i state).calls j := by
    intro j hj
    rw [hcalls] at hj ⊢
    split at hj
    · rw [hnew] at hj
      cases hj
    · next hji => rw [if_neg hji]
  exact {
    entry := by
      intro k fingerprint owner hentry
      obtain ⟨hk, hhash, howner⟩ := h.entry k fingerprint owner hentry
      rw [hother owner howner]
      exact ⟨hk, hhash, howner⟩
    active := by
      intro j hj
      rw [← hactive j (isOwner_of_active hj)] at hj
      exact h.active j hj
    waiting := by
      intro j owner cancelled hj
      rw [hcalls] at hj
      have hfacts : cfg.Matches owner j ∧ (s.calls owner).isOwner = true := by
        split at hj
        · next hji =>
          subst hji
          exact hwaiting owner cancelled hj
        · exact h.waiting j owner cancelled hj
      rw [hother owner hfacts.2]
      exact hfacts
    joined := by
      intro j owner cancelled result hj
      rw [hcalls] at hj
      split at hj
      · next hji =>
        subst hji
        exact hjoined owner cancelled result hj
      · exact h.joined j owner cancelled result hj
    result := by
      intro j r hj
      have hended := h.result j r hj
      rw [hother j (by rw [hended]; rfl)]
      exact hended
    exception := by
      intro j e hj
      have hended := h.exception j e hj
      rw [hother j (by rw [hended]; rfl)]
      exact hended
    returned := by
      intro j r hj
      rw [← hactive j (by rw [hj]; rfl)] at hj
      exact h.returned j r hj }

/-- An owner goes on, and leaves the pending table or not; a future that is done stays as it is. -/
theorem advance (h : s.Sound cfg) (i : Nat) (state : CallState R) (future : Future R)
    (hcalls : t.calls = Function.update s.calls i state)
    (hfutures : t.futures = Function.update s.futures i future)
    (hpending : t.pending = s.pending ∨
      t.pending = s.pending.erase (cfg.scopeKey i) ∧ (s.calls i).active = true ∧ state.active = false)
    (howner : state.isOwner = true) (hactive : state.active = true → (s.calls i).active = true)
    (hdone : ∀ x, (s.futures i).get = some x → future.get = some x)
    (hresult : ∀ r, future = .result r → state = .ended .owned (.ok r))
    (hexception : ∀ e, future = .exception e → state = .ended .owned (.error e))
    (hreturned : ∀ r, state = .ended .owned (.ok r) → future = .result r ∨ future = .cancelled) :
    t.Sound cfg := by
  have hcall : ∀ j, t.calls j = if j = i then state else s.calls j := by
    intro j
    rw [hcalls, Function.update_apply]
  have hfuture : ∀ j, t.futures j = if j = i then future else s.futures j := by
    intro j
    rw [hfutures, Function.update_apply]
  have hkeeps : ∀ j, (s.calls j).isOwner = true → (t.calls j).isOwner = true := by
    intro j hj
    rw [hcall]
    split
    · exact howner
    · exact hj
  exact {
    entry := by
      intro k fingerprint owner hentry
      have hentry : s.pending.get? k = some (fingerprint, owner) := by
        rcases hpending with hsame | ⟨herased, -⟩
        · rw [← hsame]
          exact hentry
        · rw [herased, OrderedDict.get?_erase] at hentry
          split at hentry
          · cases hentry
          · exact hentry
      obtain ⟨hk, hhash, hsome⟩ := h.entry k fingerprint owner hentry
      exact ⟨hk, hhash, hkeeps owner hsome⟩
    active := by
      intro j hj
      rw [hcall] at hj
      have hold : (s.calls j).active = true := by
        split at hj
        · next hji =>
          subst hji
          exact hactive hj
        · exact hj
      have hentry := h.active j hold
      rcases hpending with hsame | ⟨herased, hi, hleft⟩
      · rw [hsame]
        exact hentry
      · -- another call with the entry of this key would be this call
        rw [herased, OrderedDict.get?_erase, if_neg]
        · exact hentry
        intro hkey
        rw [hkey, h.active i hi] at hentry
        obtain rfl : i = j := (Prod.mk.inj (Option.some.inj hentry)).2
        rw [if_pos rfl, hleft] at hj
        cases hj
    waiting := by
      intro j owner cancelled hj
      rw [hcall] at hj
      split at hj
      · rw [hj] at howner
        cases howner
      · obtain ⟨hmatches, hsome⟩ := h.waiting j owner cancelled hj
        exact ⟨hmatches, hkeeps owner hsome⟩
    joined := by
      intro j owner cancelled result hj
      rw [hcall] at hj
      split at hj
      · rw [hj] at howner
        cases howner
      · obtain ⟨hmatches, hget⟩ := h.joined j owner cancelled result hj
        refine ⟨hmatches, fun hcancelled => ?_⟩
        rw [hfuture]
        split
        · next howns =>
          subst howns
          exact hdone result (hget hcancelled)
        · exact hget hcancelled
    result := by
      intro j r hj
      rw [hfuture] at hj
      rw [hcall]
      split at hj
      · next hji =>
        rw [if_pos hji]
        exact hresult r hj
      · next hji =>
        rw [if_neg hji]
        exact h.result j r hj
    exception := by
      intro j e hj
      rw [hfuture] at hj
      rw [hcall]
      split at hj
      · next hji =>
        rw [if_pos hji]
        exact hexception e hj
      · next hji =>
        rw [if_neg hji]
        exact h.exception j e hj
    returned := by
      intro j r hj
      rw [hcall] at hj
      rw [hfuture]
      split at hj
      · next hji =>
        rw [if_pos hji]
        exact hreturned r hj
      · next hji =>
        rw [if_neg hji]
        exact h.returned j r hj }

/-- The future of an operation in progress carries no outcome. -/
theorem future_of_active (h : s.Sound cfg) (hi : (s.calls i).active = true) :
    s.futures i = .pending ∨ s.futures i = .cancelled := by
  rcases hfuture : s.futures i with _ | r | e | _
  case pending => exact Or.inl rfl
  case cancelled => exact Or.inr rfl
  case result =>
    rw [h.result i r hfuture] at hi
    cases hi
  case exception =>
    rw [h.exception i e hfuture] at hi
    cases hi

/-- An owner goes on, and its future waits. -/
theorem setOwner (h : s.Sound cfg) (hold : (s.calls i).active = true) {state : CallState R}
    (hnew : state.isOwner = true) (hreturned : ∀ r, state ≠ .ended .owned (.ok r)) :
    (s.setCall i state).Sound cfg := by
  have hfuture := h.future_of_active hold
  refine h.advance i state (s.futures i) rfl (Function.update_eq_self i _).symm
    (Or.inl rfl) hnew (fun _ => hold) (fun x hx => hx) (fun r hr => ?_) (fun e he => ?_)
    fun r hr => absurd hr (hreturned r)
  · rcases hfuture with hfuture | hfuture <;> rw [hfuture] at hr <;> cases hr
  · rcases hfuture with hfuture | hfuture <;> rw [hfuture] at he <;> cases he

/-- An owner leaves with the outcome that its future carries from now on. -/
theorem leave (h : s.Sound cfg) (hold : (s.calls i).active = true) {value : Future R}
    {result : Except Exc R} (hvalue : value.get = some result) (hcancelled : value ≠ .cancelled) :
    ((s.settle cfg i value).setCall i (.ended .owned result)).Sound cfg := by
  have hfuture := h.future_of_active hold
  refine h.advance i (.ended .owned result) _ rfl rfl (Or.inr ⟨rfl, hold, rfl⟩) rfl
    (fun hactive => nomatch hactive) ?_ ?_ ?_ ?_
  · intro x hx
    rcases hfuture with hfuture | hfuture
    · rw [hfuture] at hx
      cases hx
    · rw [hfuture] at hx ⊢
      exact hx
  all_goals
    intro x hx
    rcases hfuture with hfuture | hfuture <;> cases value <;>
      simp_all [Future.settle, Future.get]

/-- A future that somebody waits for is cancelled. -/
theorem cancelFuture (h : s.Sound cfg) (howner : (s.calls i).isOwner = true) :
    Store.Sound cfg { s with
      futures := Function.update s.futures i ((s.futures i).settle .cancelled) } := by
  refine h.advance i (s.calls i) _ (Function.update_eq_self i _).symm rfl (Or.inl rfl)
    howner id ?_ ?_ ?_ ?_
  · intro x hx
    rcases hfuture : s.futures i with _ | _ | _ | _ <;> rw [hfuture] at hx <;>
      simp_all [Future.settle, Future.get]
  · intro r hr
    refine h.result i r ?_
    rcases hfuture : s.futures i with _ | _ | _ | _ <;> rw [hfuture] at hr <;>
      simp_all [Future.settle]
  · intro e he
    refine h.exception i e ?_
    rcases hfuture : s.futures i with _ | _ | _ | _ <;> rw [hfuture] at he <;>
      simp_all [Future.settle]
  · intro r hr
    rcases h.returned i r hr with hfuture | hfuture <;> rw [hfuture]
    · exact Or.inl rfl
    · exact Or.inr rfl

/-- A call becomes the owner of its key. -/
theorem own (h : s.Sound cfg) (hidle : s.calls i = .idle)
    (hpending : s.pending.get? (cfg.scopeKey i) = none) :
    (Store.setCall i .running { s with
      pending := s.pending.set (cfg.scopeKey i) (cfg.requestHash i, i) }).Sound cfg := by
  have hcall : ∀ j, Function.update s.calls i .running j = if j = i then .running else s.calls j :=
    Function.update_apply _ _ _
  have hkeeps : ∀ j, (s.calls j).isOwner = true →
      (Function.update s.calls i .running j).isOwner = true := by
    intro j hj
    rw [hcall]
    split
    · rfl
    · exact hj
  have hended : ∀ j result, s.calls j = .ended .owned result →
      Function.update s.calls i .running j = .ended .owned result := by
    intro j result hj
    rw [hcall, if_neg, hj]
    rintro rfl
    rw [hidle] at hj
    cases hj
  exact {
    entry := by
      intro k fingerprint owner hentry
      have hentry : (s.pending.set (cfg.scopeKey i) (cfg.requestHash i, i)).get? k =
        some (fingerprint, owner) := hentry
      rw [OrderedDict.get?_set] at hentry
      split at hentry
      · next hk =>
        obtain ⟨rfl, rfl⟩ := Prod.mk.inj (Option.some.inj hentry)
        refine ⟨hk, rfl, ?_⟩
        simp [CallState.isOwner, CallState.active]
      · obtain ⟨hk, hhash, howner⟩ := h.entry k fingerprint owner hentry
        exact ⟨hk, hhash, hkeeps owner howner⟩
    active := by
      intro j hj
      have hj : (Function.update s.calls i .running j).active = true := hj
      show (s.pending.set (cfg.scopeKey i) (cfg.requestHash i, i)).get? (cfg.scopeKey j) = _
      rw [hcall] at hj
      rw [OrderedDict.get?_set]
      split at hj
      · next hji =>
        subst hji
        rw [if_pos rfl]
      · have hentry := h.active j hj
        rw [if_neg, hentry]
        intro hkey
        rw [hkey, hpending] at hentry
        cases hentry
    waiting := by
      intro j owner cancelled hj
      have hj : Function.update s.calls i .running j = .waiting owner cancelled := hj
      rw [hcall] at hj
      split at hj
      · cases hj
      · obtain ⟨hmatches, howner⟩ := h.waiting j owner cancelled hj
        exact ⟨hmatches, hkeeps owner howner⟩
    joined := by
      intro j owner cancelled result hj
      have hj : Function.update s.calls i .running j = .ended (.joined owner cancelled) result := hj
      rw [hcall] at hj
      split at hj
      · cases hj
      · exact h.joined j owner cancelled result hj
    result := fun j r hj => hended j _ (h.result j r hj)
    exception := fun j e hj => hended j _ (h.exception j e hj)
    returned := by
      intro j r hj
      have hj : Function.update s.calls i .running j = .ended .owned (.ok r) := hj
      rw [hcall] at hj
      split at hj
      · cases hj
      · exact h.returned j r hj }

/-- **A step keeps the tables and the calls in agreement.** -/
theorem fire (h : s.Sound cfg) (step : Step R) : (Idempotency.fire cfg s step).Sound cfg := by
  have heffect := fire_effect cfg s step
  have hidle : ∀ {i}, s.calls i = .idle → (s.calls i).isOwner = false := by
    intro i hi
    rw [hi]
    rfl
  have hpruned : ∀ now file, ((s.pruned now).saved file).Sound cfg :=
    fun now file => h.congr rfl rfl rfl
  have hremembered : ∀ i r now file, ((s.remember cfg i r now).saved file).Sound cfg :=
    fun i r now file => h.congr rfl rfl rfl
  generalize Idempotency.fire cfg s step = t at heffect
  cases heffect with
  | skip => exact h
  | detach hi => exact h.setCall (hidle hi) rfl (by simp) (by simp)
  | pruneFails e hi =>
    exact (h.congr (t := s.pruned _) rfl rfl rfl).setCall (hidle hi) rfl (by simp) (by simp)
  | answer file record hi => exact (hpruned _ file).setCall (hidle hi) rfl (by simp) (by simp)
  | refuse file hi => exact (hpruned _ file).setCall (hidle hi) rfl (by simp) (by simp)
  | join file owner hi _ _ hpending =>
    refine (hpruned _ file).setCall (hidle hi) rfl ?_ (by simp)
    intro owner' cancelled hstate
    obtain ⟨rfl, -⟩ := CallState.waiting.inj hstate
    obtain ⟨hk, hhash, howner⟩ := h.entry _ _ _ hpending
    exact ⟨⟨hk, hhash⟩, howner⟩
  | own file hi _ _ hpending => exact (hpruned _ file).own hi hpending
  | finishDetached hdetached =>
    refine h.setCall ?_ rfl (by simp) (by simp)
    rw [hdetached]
    rfl
  | returned hrunning =>
    refine h.setOwner ?_ rfl (by simp)
    rw [hrunning]
    rfl
  | raised hrunning =>
    refine h.setOwner ?_ rfl (by simp)
    rw [hrunning]
    rfl
  | stored file response hstoring =>
    refine (hremembered _ response _ file).leave ?_ rfl (by simp)
    show (s.calls _).active = true
    rw [hstoring]
    rfl
  | persistFails response e hstoring =>
    refine (h.congr (t := s.remember cfg _ response _) rfl rfl rfl).setOwner ?_ rfl (by simp)
    show (s.calls _).active = true
    rw [hstoring]
    rfl
  | recordFails response e hstoring =>
    refine h.setOwner ?_ rfl (by simp)
    rw [hstoring]
    rfl
  | abandon e habandoning =>
    refine h.leave ?_ rfl (by simp)
    rw [habandoning]
    rfl
  | wake owner cancelled result hwaiting hresult =>
    refine h.setCall ?_ rfl (by simp) ?_
    · rw [hwaiting]
      rfl
    · intro owner' cancelled' result' hstate
      obtain ⟨hpart, rfl⟩ := CallState.ended.inj hstate
      obtain ⟨rfl, rfl⟩ := Part.joined.inj hpart
      refine ⟨(h.waiting _ _ _ hwaiting).1, fun hcancelled => ?_⟩
      rw [hcancelled] at hresult
      exact hresult
  | cancel owner cancelled hwaiting =>
    obtain ⟨hmatches, howner⟩ := h.waiting _ _ _ hwaiting
    refine (h.cancelFuture howner).setCall ?_ rfl ?_ (by simp)
    · show (s.calls _).isOwner = false
      rw [hwaiting]
      rfl
    · intro owner' cancelled' hstate
      obtain ⟨rfl, -⟩ := CallState.waiting.inj hstate
      exact ⟨hmatches, howner⟩

end Store.Sound

/-- The agreement holds in every run. -/
theorem sound_run (cfg : Config R) (records : OrderedDict String (Record R)) (steps : List (Step R)) :
    (run cfg records steps).Sound cfg :=
  Run.after_keeps steps (sound_loaded cfg records) fun _ step h => h.fire step

/-- **One operation for a key**: two calls that own an operation of one key are one call. -/
theorem Store.Sound.unique (h : s.Sound cfg) (hi : (s.calls i).active = true)
    (hj : (s.calls j).active = true) (hkey : cfg.scopeKey i = cfg.scopeKey j) : i = j := by
  have hentry := h.active i hi
  rw [hkey, h.active j hj] at hentry
  exact (Prod.mk.inj (Option.some.inj hentry)).2.symm

end Idempotency
end HexeAiNode
