import Mathlib

/-!
# Insertion-ordered dictionaries

A Python dictionary is a list of entries in insertion order: assigning to a key that is present keeps
its place, a new key goes last, and a deletion closes the gap.  `Mathlib`'s `AList` puts a written
key in front, which would lose the iteration order the code observes, hence these three operations:

* `get?` is `d.get(key)`;
* `set` is `d[key] = a`;
* `erase` is `d.pop(key, None)`.

The laws of `get?` over `set` and `erase` hold for every list of entries; `Distinct` says that no key
occurs twice, which `set` and `erase` preserve.
-/

namespace Py
namespace Assoc

variable {κ α β : Type*} [DecidableEq κ]

/-- `d.get(key)`. -/
def get? : List (κ × α) → κ → Option α
  | [], _ => none
  | (k, a) :: d, key => if k = key then some a else get? d key

/-- `d[key] = a`. -/
def set : List (κ × α) → κ → α → List (κ × α)
  | [], key, a => [(key, a)]
  | (k, b) :: d, key, a => if k = key then (k, a) :: d else (k, b) :: set d key a

/-- `d.pop(key, None)`. -/
def erase (d : List (κ × α)) (key : κ) : List (κ × α) := d.filter fun e => e.1 ≠ key

/-- `list(d)`. -/
def keys (d : List (κ × α)) : List κ := d.map Prod.fst

/-- No key occurs twice. -/
def Distinct (d : List (κ × α)) : Prop := (keys d).Nodup

/-! ## Reading after writing -/

@[simp] theorem get?_nil (key : κ) : get? ([] : List (κ × α)) key = none := rfl

theorem get?_cons (k : κ) (a : α) (d : List (κ × α)) (key : κ) :
    get? ((k, a) :: d) key = if k = key then some a else get? d key := rfl

@[simp] theorem get?_set_self (d : List (κ × α)) (key : κ) (a : α) :
    get? (set d key a) key = some a := by
  induction d with
  | nil => simp [set, get?_cons]
  | cons e d ih =>
    obtain ⟨k, b⟩ := e
    by_cases h : k = key
    · simp [set, h, get?_cons]
    · simp [set, h, get?_cons, ih]

theorem get?_set_of_ne (d : List (κ × α)) {key key' : κ} (a : α) (h : key' ≠ key) :
    get? (set d key a) key' = get? d key' := by
  induction d with
  | nil => simp [set, get?_cons, Ne.symm h]
  | cons e d ih =>
    obtain ⟨k, b⟩ := e
    by_cases hk : k = key
    · subst hk
      simp [set, get?_cons, Ne.symm h]
    · simp only [set, hk, if_false, get?_cons, ih]

theorem get?_set (d : List (κ × α)) (key key' : κ) (a : α) :
    get? (set d key a) key' = if key' = key then some a else get? d key' := by
  by_cases h : key' = key
  · subst h
    simp
  · rw [if_neg h, get?_set_of_ne d a h]

@[simp] theorem get?_erase_self (d : List (κ × α)) (key : κ) : get? (erase d key) key = none := by
  induction d with
  | nil => rfl
  | cons e d ih =>
    obtain ⟨k, b⟩ := e
    by_cases h : k = key
    · simpa [erase, h] using ih
    · simpa [erase, h, get?_cons] using ih

theorem get?_erase_of_ne (d : List (κ × α)) {key key' : κ} (h : key' ≠ key) :
    get? (erase d key) key' = get? d key' := by
  induction d with
  | nil => rfl
  | cons e d ih =>
    obtain ⟨k, b⟩ := e
    by_cases hk : k = key
    · subst hk
      have hne : ¬ k = key' := fun he => h he.symm
      simpa [erase, get?_cons, hne] using ih
    · have hcons : erase ((k, b) :: d) key = (k, b) :: erase d key := by simp [erase, hk]
      rw [hcons, get?_cons, get?_cons, ih]

theorem get?_erase (d : List (κ × α)) (key key' : κ) :
    get? (erase d key) key' = if key' = key then none else get? d key' := by
  by_cases h : key' = key
  · subst h
    simp
  · rw [if_neg h, get?_erase_of_ne d h]

/-- The second write counts. -/
theorem set_set (d : List (κ × α)) (key : κ) (a b : α) : set (set d key a) key b = set d key b := by
  induction d with
  | nil => simp [set]
  | cons e d ih =>
    obtain ⟨k, c⟩ := e
    by_cases hk : k = key
    · simp [set, hk]
    · simp [set, hk, ih]

/-- A new key goes to the end. -/
theorem set_of_get?_eq_none {d : List (κ × α)} {key : κ} (a : α) (h : get? d key = none) :
    set d key a = d ++ [(key, a)] := by
  induction d with
  | nil => rfl
  | cons e d ih =>
    obtain ⟨k, b⟩ := e
    rw [get?_cons] at h
    split at h
    · cases h
    · next hk => simp [set, hk, ih h]

/-- A written dictionary is not empty. -/
theorem set_ne_nil (d : List (κ × α)) (key : κ) (a : α) : set d key a ≠ [] := by
  cases d with
  | nil => simp [set]
  | cons e d => by_cases h : e.1 = key <;> simp [set, h]

/-! ## Membership -/

theorem mem_of_get? {d : List (κ × α)} {key : κ} {a : α} (h : get? d key = some a) :
    (key, a) ∈ d := by
  induction d with
  | nil => simp at h
  | cons e d ih =>
    obtain ⟨k, b⟩ := e
    by_cases hk : k = key
    · rw [get?_cons, if_pos hk] at h
      obtain rfl := Option.some.inj h
      simp [hk]
    · rw [get?_cons, if_neg hk] at h
      exact List.mem_cons_of_mem _ (ih h)

theorem get?_eq_none_iff {d : List (κ × α)} {key : κ} : get? d key = none ↔ key ∉ keys d := by
  induction d with
  | nil => simp [keys]
  | cons e d ih =>
    obtain ⟨k, b⟩ := e
    by_cases hk : k = key
    · simp [get?_cons, keys, hk]
    · rw [get?_cons, if_neg hk, ih]
      simp [keys, Ne.symm hk]

theorem mem_keys_of_get? {d : List (κ × α)} {key : κ} {a : α} (h : get? d key = some a) :
    key ∈ keys d := by
  by_contra hk
  rw [get?_eq_none_iff.mpr hk] at h
  cases h

/-- With distinct keys, an entry is what its key reads. -/
theorem get?_of_mem {d : List (κ × α)} (hd : Distinct d) {key : κ} {a : α} (h : (key, a) ∈ d) :
    get? d key = some a := by
  induction d with
  | nil => simp at h
  | cons e d ih =>
    obtain ⟨k, b⟩ := e
    have hnodup := List.nodup_cons.mp hd
    rcases List.mem_cons.mp h with he | hm
    · cases he
      simp [get?_cons]
    · have hne : k ≠ key := by
        rintro rfl
        exact hnodup.1 (List.mem_map.mpr ⟨(k, a), hm, rfl⟩)
      rw [get?_cons, if_neg hne]
      exact ih hnodup.2 hm

/-- A table of a function over a list of keys reads the function. -/
theorem get?_map_of_mem {f : κ → α} {ks : List κ} {key : κ} (h : key ∈ ks) :
    get? (ks.map fun k => (k, f k)) key = some (f key) := by
  induction ks with
  | nil => cases h
  | cons k ks ih =>
    rw [List.map_cons, get?_cons]
    by_cases hk : k = key
    · rw [if_pos hk, hk]
    · rw [if_neg hk]
      exact ih ((List.mem_cons.mp h).resolve_left fun he => hk he.symm)

/-! ## Keys -/

omit [DecidableEq κ] in
@[simp] theorem distinct_nil : Distinct ([] : List (κ × α)) := List.nodup_nil

theorem mem_keys_set {d : List (κ × α)} {key k : κ} {a : α} :
    k ∈ keys (set d key a) ↔ k = key ∨ k ∈ keys d := by
  have h : k ∉ keys (set d key a) ↔ ¬ (k = key ∨ k ∈ keys d) := by
    rw [← get?_eq_none_iff, get?_set, not_or, ← get?_eq_none_iff]
    by_cases hk : k = key <;> simp [hk]
  exact not_iff_not.mp h

theorem mem_keys_erase {d : List (κ × α)} {key k : κ} :
    k ∈ keys (erase d key) ↔ k ≠ key ∧ k ∈ keys d := by
  have h : k ∉ keys (erase d key) ↔ ¬ (k ≠ key ∧ k ∈ keys d) := by
    rw [← get?_eq_none_iff, get?_erase]
    by_cases hk : k = key <;> simp [hk, get?_eq_none_iff]
  exact not_iff_not.mp h

theorem Distinct.set {d : List (κ × α)} (hd : Distinct d) (key : κ) (a : α) :
    Distinct (set d key a) := by
  induction d with
  | nil => simp [Distinct, Assoc.set, keys]
  | cons e d ih =>
    obtain ⟨k, b⟩ := e
    have hnodup := List.nodup_cons.mp hd
    by_cases hk : k = key
    · simpa [Assoc.set, hk, Distinct, keys] using hd
    · rw [Assoc.set, if_neg hk]
      refine List.nodup_cons.mpr ⟨?_, ih hnodup.2⟩
      intro hmem
      rcases mem_keys_set.mp hmem with h | h
      · exact hk h
      · exact hnodup.1 h

theorem Distinct.erase {d : List (κ × α)} (hd : Distinct d) (key : κ) :
    Distinct (erase d key) :=
  hd.sublist (List.filter_sublist.map Prod.fst)

/-! ## Building a dictionary -/

theorem mem_of_mem_set {d : List (κ × α)} {key : κ} {a : α} {entry : κ × α} (h : entry ∈ set d key a) :
    entry = (key, a) ∨ entry ∈ d := by
  induction d with
  | nil => exact .inl (List.mem_singleton.mp h)
  | cons e d ih =>
    obtain ⟨k, b⟩ := e
    rw [set] at h
    split at h
    · next hk =>
      rcases List.mem_cons.mp h with rfl | h
      · exact .inl (by rw [hk])
      · exact .inr (List.mem_cons_of_mem _ h)
    · rcases List.mem_cons.mp h with rfl | h
      · exact .inr List.mem_cons_self
      · exact (ih h).imp_right (List.mem_cons_of_mem _)

/-- What a loop that sets some keys leaves was set by it. -/
theorem mem_foldl_set {γ : Type*} {skip : γ → Prop} [DecidablePred skip] {key : γ → κ} {f : γ → α} {l : List γ}
    {entry : κ × α} (h : entry ∈ l.foldl (fun acc x => if skip x then acc else set acc (key x) (f x)) []) :
    ∃ x ∈ l, ¬skip x ∧ entry = (key x, f x) := by
  refine List.foldlRecOn (motive := fun acc : List (κ × α) => ∀ entry ∈ acc,
    ∃ x ∈ l, ¬skip x ∧ entry = (key x, f x)) l _ (fun _ h => absurd h List.not_mem_nil) ?_ entry h
  intro acc hacc x hx entry hentry
  split at hentry
  · exact hacc entry hentry
  · next hskip =>
    rcases mem_of_mem_set hentry with rfl | hentry
    · exact ⟨x, hx, hskip, rfl⟩
    · exact hacc entry hentry

/-! ## Maps over the values -/

theorem map_set {β : Type*} (f : α → β) (l : List (κ × α)) (key : κ) (a : α) :
    (set l key a).map (fun e => (e.1, f e.2)) = set (l.map fun e => (e.1, f e.2)) key (f a) := by
  induction l with
  | nil => rfl
  | cons e l ih =>
    obtain ⟨k, b⟩ := e
    by_cases h : k = key
    · simp [set, h]
    · simp [set, h, ih]

theorem map_erase {β : Type*} (f : α → β) (l : List (κ × α)) (key : κ) :
    (erase l key).map (fun e => (e.1, f e.2)) = erase (l.map fun e => (e.1, f e.2)) key := by
  unfold erase
  rw [List.filter_map]
  rfl

end Assoc
end Py
