import Mathlib.Tactic.Basic

/-!
# Actions on a store that may fail

`StoreAction σ ε α` is a computation that reads and writes a store and either returns or raises.  A
raised exception does not undo the writes made before it: the store is threaded through both ways
an action can end.

`Triple P m Q E` is a triple with a postcondition for each way to end, with one rule for each
construct.  `Keeps I m Q` says that `m` keeps the invariant `I` of the store whichever way it ends, and that what
it returns satisfies `Q`.  The rules below take an action apart along its sequencing, and
`Keeps.storeAfter` carries the invariant over a whole list of actions, each of which may fail.
-/

/-- A computation on a store that returns or raises. -/
abbrev StoreAction (σ ε α : Type) := ExceptT ε (StateM σ) α

namespace StoreAction

variable {σ ε α β : Type}

/-- What an action ends with, and the store it leaves. -/
def exec (m : StoreAction σ ε α) (s : σ) : Except ε α × σ := m.run.run s

/-- The store an action leaves. -/
def store (m : StoreAction σ ε α) (s : σ) : σ := (m.exec s).2

/-- The result of a computation that does not use the store. -/
def ofResult (x : Except ε α) : StoreAction σ ε α := ExceptT.mk (pure x)

/-- Read the store. -/
def read : StoreAction σ ε σ := ExceptT.mk fun s => (.ok s, s)

/-- Write the store. -/
def write (s : σ) : StoreAction σ ε Unit := ExceptT.mk fun _ => (.ok (), s)

/-- Change the store. -/
def update (f : σ → σ) : StoreAction σ ε Unit := ExceptT.mk fun s => (.ok (), f s)

/-- Run an action and recover from the exceptions it raises. -/
def recover (m : StoreAction σ ε α) (handler : ε → StoreAction σ ε α) : StoreAction σ ε α :=
  ExceptT.mk fun s =>
    match m.exec s with
    | (.ok a, s') => (.ok a, s')
    | (.error e, s') => (handler e).exec s'

/-- Run an action and hand back the exceptions it raises that are caught; the others go through. -/
def attempt (caught : ε → Bool) (m : StoreAction σ ε α) : StoreAction σ ε (Except ε α) :=
  ExceptT.mk fun s =>
    match m.exec s with
    | (.ok a, s') => (.ok (.ok a), s')
    | (.error e, s') => if caught e then (.ok (.error e), s') else (.error e, s')

/-- Run an action on a part of the store. -/
def zoom {τ : Type} (get : σ → τ) (set : τ → σ → σ) (m : StoreAction τ ε α) : StoreAction σ ε α :=
  ExceptT.mk fun s => ((m.exec (get s)).1, set (m.exec (get s)).2 s)

/-! ## Running -/

@[simp] theorem exec_pure (a : α) (s : σ) :
    (pure a : StoreAction σ ε α).exec s = (.ok a, s) := rfl

@[simp] theorem exec_throw (e : ε) (s : σ) :
    (throw e : StoreAction σ ε α).exec s = (.error e, s) := rfl

@[simp] theorem exec_ofResult (x : Except ε α) (s : σ) :
    (ofResult x : StoreAction σ ε α).exec s = (x, s) := rfl

@[simp] theorem exec_read (s : σ) : (read : StoreAction σ ε σ).exec s = (.ok s, s) := rfl

@[simp] theorem exec_write (s s' : σ) :
    (write s' : StoreAction σ ε Unit).exec s = (.ok (), s') := rfl

@[simp] theorem exec_update (f : σ → σ) (s : σ) :
    (update f : StoreAction σ ε Unit).exec s = (.ok (), f s) := rfl

theorem exec_bind (m : StoreAction σ ε α) (f : α → StoreAction σ ε β) (s : σ) :
    (m >>= f).exec s =
      match m.exec s with
      | (.ok a, s') => (f a).exec s'
      | (.error e, s') => (.error e, s') := by
  unfold exec ExceptT.run StateT.run
  simp only [bind, ExceptT.bind, ExceptT.mk, StateT.bind, ExceptT.bindCont]
  rcases m s with ⟨x, s'⟩
  cases x <;> rfl

theorem exec_bind_of_ok {m : StoreAction σ ε α} {f : α → StoreAction σ ε β} {s s' : σ} {a : α}
    (h : m.exec s = (.ok a, s')) : (m >>= f).exec s = (f a).exec s' := by
  rw [exec_bind, h]

theorem exec_bind_of_error {m : StoreAction σ ε α} {f : α → StoreAction σ ε β} {s s' : σ} {e : ε}
    (h : m.exec s = (.error e, s')) : (m >>= f).exec s = (.error e, s') := by
  rw [exec_bind, h]

theorem exec_recover (m : StoreAction σ ε α) (handler : ε → StoreAction σ ε α) (s : σ) :
    (m.recover handler).exec s =
      match m.exec s with
      | (.ok a, s') => (.ok a, s')
      | (.error e, s') => (handler e).exec s' := rfl

theorem exec_attempt (caught : ε → Bool) (m : StoreAction σ ε α) (s : σ) :
    (m.attempt caught).exec s =
      match m.exec s with
      | (.ok a, s') => (.ok (.ok a), s')
      | (.error e, s') => if caught e then (.ok (.error e), s') else (.error e, s') := rfl

theorem exec_zoom {τ : Type} (get : σ → τ) (set : τ → σ → σ) (m : StoreAction τ ε α) (s : σ) :
    (m.zoom get set).exec s = ((m.exec (get s)).1, set (m.exec (get s)).2 s) := rfl

theorem exec_map (m : StoreAction σ ε α) (f : α → β) (s : σ) :
    (f <$> m).exec s = (f <$> (m.exec s).1, (m.exec s).2) := by
  rw [← bind_pure_comp, exec_bind]
  rcases m.exec s with ⟨e | a, s'⟩ <;> rfl

theorem exec_discard (m : StoreAction σ ε α) (s : σ) :
    (Functor.discard m).exec s = ((fun _ => PUnit.unit) <$> (m.exec s).1, (m.exec s).2) :=
  exec_map m _ s

/-! ## Triples -/

/-- From a store with `P`, the action leaves one with `E` when it raises, and otherwise returns a value
and leaves a store that satisfy `Q`. -/
def Triple (P : σ → Prop) (m : StoreAction σ ε α) (Q : α → σ → Prop) (E : σ → Prop) : Prop :=
  ∀ s, P s → (∀ a s', m.exec s = (.ok a, s') → Q a s') ∧ ∀ e s', m.exec s = (.error e, s') → E s'

section Triple

variable {P P' : σ → Prop} {Q Q' : α → σ → Prop} {E E' : σ → Prop} {R : β → σ → Prop}

theorem Triple.pure {a : α} (h : ∀ s, P s → Q a s) :
    Triple P (Pure.pure a : StoreAction σ ε α) Q E := by
  intro s hs
  refine ⟨fun b s' hexec => ?_, fun e s' hexec => nomatch hexec⟩
  obtain ⟨hb, rfl⟩ := Prod.mk.inj hexec
  obtain rfl := Except.ok.inj hb
  exact h s hs

theorem Triple.bind {m : StoreAction σ ε α} {f : α → StoreAction σ ε β} (hm : Triple P m Q E)
    (hf : ∀ a, Triple (Q a) (f a) R E) : Triple P (m >>= f) R E := by
  intro s hs
  have h := hm s hs
  rw [exec_bind]
  rcases hexec : m.exec s with ⟨e | a, s'⟩
  · refine ⟨fun b t ht => (by cases ht), fun e' t ht => ?_⟩
    obtain ⟨-, rfl⟩ := Prod.mk.inj ht
    exact h.2 e s' hexec
  · exact hf a s' (h.1 a s' hexec)

theorem Triple.ofResult {x : Except ε α} (hok : ∀ s a, P s → x = .ok a → Q a s)
    (herror : ∀ s e, P s → x = .error e → E s) :
    Triple P (ofResult x : StoreAction σ ε α) Q E := by
  intro s hs
  refine ⟨fun a s' hexec => ?_, fun e s' hexec => ?_⟩
  · obtain ⟨hx, rfl⟩ := Prod.mk.inj hexec
    exact hok s a hs hx
  · obtain ⟨hx, rfl⟩ := Prod.mk.inj hexec
    exact herror s e hs hx

/-- What is read is the store. -/
theorem Triple.read : Triple P (read : StoreAction σ ε σ) (fun a s => P s ∧ s = a) E := by
  intro s hs
  refine ⟨fun a s' hexec => ?_, fun e s' hexec => nomatch hexec⟩
  obtain ⟨hs', rfl⟩ := Prod.mk.inj hexec
  exact ⟨hs, Except.ok.inj hs'⟩

theorem Triple.update {f : σ → σ} {Q : Unit → σ → Prop} (h : ∀ s, P s → Q () (f s)) :
    Triple P (update f : StoreAction σ ε Unit) Q E := by
  intro s hs
  refine ⟨fun a s' hexec => ?_, fun e s' hexec => nomatch hexec⟩
  obtain ⟨-, rfl⟩ := Prod.mk.inj hexec
  exact h s hs

theorem Triple.recover {m : StoreAction σ ε α} {handler : ε → StoreAction σ ε α}
    (hm : Triple P m Q E') (hhandler : ∀ e, Triple E' (handler e) Q E) :
    Triple P (m.recover handler) Q E := by
  intro s hs
  have h := hm s hs
  rw [exec_recover]
  rcases hexec : m.exec s with ⟨e | a, s'⟩
  · exact hhandler e s' (h.2 e s' hexec)
  · refine ⟨fun b t ht => ?_, fun e t ht => (by cases ht)⟩
    obtain ⟨hb, rfl⟩ := Prod.mk.inj ht
    obtain rfl := Except.ok.inj hb
    exact h.1 a s' hexec

theorem Triple.mono {m : StoreAction σ ε α} (h : Triple P m Q E) (hP : ∀ s, P' s → P s)
    (hQ : ∀ a s, Q a s → Q' a s) (hE : ∀ s, E s → E' s) : Triple P' m Q' E' :=
  fun s hs => ⟨fun a s' hexec => hQ a s' ((h s (hP s hs)).1 a s' hexec),
    fun e s' hexec => hE s' ((h s (hP s hs)).2 e s' hexec)⟩

theorem Triple.ite {c : Prop} [Decidable c] {m m' : StoreAction σ ε α} (h : c → Triple P m Q E)
    (h' : ¬c → Triple P m' Q E) : Triple P (if c then m else m') Q E := by
  by_cases hc : c
  · rw [if_pos hc]
    exact h hc
  · rw [if_neg hc]
    exact h' hc

/-- Forgetting what an action returns. -/
theorem Triple.discard {m : StoreAction σ ε α} {I : σ → Prop} (h : Triple P m (fun _ => I) E) :
    Triple P (Functor.discard m : StoreAction σ ε PUnit) (fun _ => I) E := by
  intro s hs
  have h := h s hs
  rw [exec_discard]
  rcases hexec : m.exec s with ⟨e | a, s'⟩
  · refine ⟨fun _ t ht => (by cases ht), fun e' t ht => ?_⟩
    obtain ⟨-, rfl⟩ := Prod.mk.inj ht
    exact h.2 e s' hexec
  · refine ⟨fun _ t ht => ?_, fun e' t ht => (by cases ht)⟩
    obtain ⟨-, rfl⟩ := Prod.mk.inj ht
    exact h.1 a s' hexec

/-- A triple whose precondition fixes a fact. -/
theorem Triple.of_imp {p : Prop} {m : StoreAction σ ε α} (h : p → Triple P m Q E) :
    Triple (fun s => p ∧ P s) m Q E := fun s hs => h hs.1 s hs.2

/-- The store an action leaves satisfies what both ways it can end promise. -/
theorem Triple.store {m : StoreAction σ ε α} {I : σ → Prop} (h : Triple P m (fun _ => I) I) {s : σ}
    (hs : P s) : I (m.store s) := by
  have h := h s hs
  show I (m.exec s).2
  rcases hexec : m.exec s with ⟨e | a, s'⟩
  · exact h.2 e s' hexec
  · exact h.1 a s' hexec

end Triple

/-! ## Invariants -/

/-- The action keeps the invariant, however it ends, and returns what satisfies the condition. -/
def Keeps (I : σ → Prop) (m : StoreAction σ ε α) (Q : α → Prop) : Prop :=
  ∀ s, I s → I (m.exec s).2 ∧ ∀ a, (m.exec s).1 = .ok a → Q a

variable {I : σ → Prop} {Q : α → Prop} {R : β → Prop}

theorem Keeps.pure {a : α} (h : Q a) : Keeps I (Pure.pure a : StoreAction σ ε α) Q := by
  intro s hs
  refine ⟨hs, fun b hb => ?_⟩
  obtain rfl := Except.ok.inj hb
  exact h

theorem Keeps.throw {e : ε} : Keeps I (throw e : StoreAction σ ε α) Q :=
  fun _ hs => ⟨hs, fun _ h => nomatch h⟩

theorem Keeps.ofResult {x : Except ε α} (h : ∀ a, x = .ok a → Q a) :
    Keeps I (ofResult x : StoreAction σ ε α) Q := fun _ hs => ⟨hs, h⟩

/-- What is read satisfies the invariant. -/
theorem Keeps.read : Keeps I (read : StoreAction σ ε σ) I := by
  intro s hs
  refine ⟨hs, fun t ht => ?_⟩
  obtain rfl := Except.ok.inj ht
  exact hs

theorem Keeps.write {s : σ} (h : I s) :
    Keeps I (write s : StoreAction σ ε Unit) fun _ => True :=
  fun _ _ => ⟨h, fun _ _ => trivial⟩

theorem Keeps.update {f : σ → σ} (h : ∀ s, I s → I (f s)) :
    Keeps I (update f : StoreAction σ ε Unit) fun _ => True :=
  fun s hs => ⟨h s hs, fun _ _ => trivial⟩

theorem Keeps.bind {m : StoreAction σ ε α} {f : α → StoreAction σ ε β} (hm : Keeps I m Q)
    (hf : ∀ a, Q a → Keeps I (f a) R) : Keeps I (m >>= f) R := by
  intro s hs
  have h := hm s hs
  rw [exec_bind]
  rcases hexec : m.exec s with ⟨x, s'⟩
  rw [hexec] at h
  rcases x with e | a
  · exact ⟨h.1, fun _ h => nomatch h⟩
  · exact hf a (h.2 a rfl) s' h.1

/-- A handler may rely on nothing but the invariant. -/
theorem Keeps.recover {m : StoreAction σ ε α} {handler : ε → StoreAction σ ε α}
    (hm : Keeps I m Q) (hhandler : ∀ e, Keeps I (handler e) Q) :
    Keeps I (m.recover handler) Q := by
  intro s hs
  have h := hm s hs
  rw [exec_recover]
  rcases hexec : m.exec s with ⟨x, s'⟩
  rw [hexec] at h
  rcases x with e | a
  · exact hhandler e s' h.1
  · exact h

theorem Keeps.mono {Q' : α → Prop} {m : StoreAction σ ε α} (h : Keeps I m Q)
    (hQ : ∀ a, Q a → Q' a) : Keeps I m Q' :=
  fun s hs => ⟨(h s hs).1, fun a ha => hQ a ((h s hs).2 a ha)⟩

theorem Keeps.ite {c : Prop} [Decidable c] {m m' : StoreAction σ ε α} (h : c → Keeps I m Q)
    (h' : ¬c → Keeps I m' Q) : Keeps I (if c then m else m') Q := by
  by_cases hc : c
  · rw [if_pos hc]
    exact h hc
  · rw [if_neg hc]
    exact h' hc

/-- Forgetting what an action returns. -/
theorem Keeps.discard {m : StoreAction σ ε α} (h : Keeps I m Q) :
    Keeps I (Functor.discard m : StoreAction σ ε PUnit) fun _ => True := by
  have hmap : (Functor.discard m : StoreAction σ ε PUnit) = m >>= fun _ => Pure.pure PUnit.unit := by
    rw [bind_pure_comp]
    rfl
  rw [hmap]
  exact h.bind fun _ _ => Keeps.pure trivial

/-! ## Exceptions -/

/-- The action keeps the invariant; what it returns satisfies the one condition, and what it raises the
other. -/
def Ensures (I : σ → Prop) (m : StoreAction σ ε α) (Q : α → Prop) (E : ε → Prop) : Prop :=
  ∀ s, I s → I (m.exec s).2 ∧ (∀ a, (m.exec s).1 = .ok a → Q a) ∧ ∀ e, (m.exec s).1 = .error e → E e

section Ensures

variable {E : ε → Prop}

theorem Ensures.keeps {m : StoreAction σ ε α} (h : Ensures I m Q E) : Keeps I m Q :=
  fun s hs => ⟨(h s hs).1, (h s hs).2.1⟩

theorem Ensures.pure {a : α} (h : Q a) : Ensures I (Pure.pure a : StoreAction σ ε α) Q E := by
  refine fun s hs => ⟨hs, fun b hb => ?_, fun e he => nomatch he⟩
  obtain rfl := Except.ok.inj hb
  exact h

theorem Ensures.throw {e : ε} (h : E e) : Ensures I (throw e : StoreAction σ ε α) Q E := by
  intro s hs
  rw [exec_throw]
  refine ⟨hs, fun b hb => (by cases hb), fun e' he => ?_⟩
  have he : e = e' := Except.error.inj he
  exact he ▸ h

theorem Ensures.ofResult {x : Except ε α} (hok : ∀ a, x = .ok a → Q a) (herror : ∀ e, x = .error e → E e) :
    Ensures I (ofResult x : StoreAction σ ε α) Q E := fun _ hs => ⟨hs, hok, herror⟩

theorem Ensures.read : Ensures I (read : StoreAction σ ε σ) I E := by
  refine fun s hs => ⟨hs, fun t ht => ?_, fun e he => nomatch he⟩
  obtain rfl := Except.ok.inj ht
  exact hs

theorem Ensures.write {s : σ} (h : I s) : Ensures I (write s : StoreAction σ ε Unit) (fun _ => True) E :=
  fun _ _ => ⟨h, fun _ _ => trivial, fun _ he => nomatch he⟩

theorem Ensures.bind {m : StoreAction σ ε α} {f : α → StoreAction σ ε β} (hm : Ensures I m Q E)
    (hf : ∀ a, Q a → Ensures I (f a) R E) : Ensures I (m >>= f) R E := by
  intro s hs
  have h := hm s hs
  rw [exec_bind]
  rcases hexec : m.exec s with ⟨e | a, s'⟩
  · rw [hexec] at h
    dsimp only
    refine ⟨h.1, fun b hb => (by cases hb), fun e' he => ?_⟩
    have he : e = e' := Except.error.inj he
    exact he ▸ h.2.2 e rfl
  · rw [hexec] at h
    exact hf a (h.2.1 a rfl) s' h.1

theorem Ensures.ite {c : Prop} [Decidable c] {m m' : StoreAction σ ε α} (h : c → Ensures I m Q E)
    (h' : ¬c → Ensures I m' Q E) : Ensures I (if c then m else m') Q E := by
  by_cases hc : c
  · rw [if_pos hc]
    exact h hc
  · rw [if_neg hc]
    exact h' hc

/-- Forgetting what an action returns. -/
theorem Ensures.discard {m : StoreAction σ ε α} (h : Ensures I m Q E) :
    Ensures I (Functor.discard m : StoreAction σ ε PUnit) (fun _ => True) E := by
  have hmap : (Functor.discard m : StoreAction σ ε PUnit) = m >>= fun _ => Pure.pure PUnit.unit := by
    rw [bind_pure_comp]
    rfl
  rw [hmap]
  exact h.bind fun _ _ => Ensures.pure trivial

end Ensures

/-- The store after a list of actions, run one after the other whether or not they fail. -/
def storeAfter (ms : List (StoreAction σ ε α)) (s : σ) : σ := ms.foldl (fun s m => m.store s) s

/-- Actions that keep an invariant keep it together. -/
theorem Keeps.storeAfter {ms : List (StoreAction σ ε α)} {s : σ}
    (h : ∀ m ∈ ms, Keeps I m fun _ => True) (hs : I s) : I (storeAfter ms s) := by
  induction ms generalizing s with
  | nil => exact hs
  | cons m ms ih =>
    have hstep : I (m.store s) := (h m List.mem_cons_self s hs).1
    exact ih (fun m' hm' => h m' (List.mem_cons_of_mem _ hm')) hstep

end StoreAction
