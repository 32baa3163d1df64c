import HexeAiNode.Python.Value

/-!
# Dates

A date is a number of microseconds since 1970-01-01 on the node's wall clock.  Adding seconds to a date
fails as `date + timedelta(seconds=n)` does: a duration has at most 999999999 days, and a date lies in
the years up to 9999.
-/

namespace Py

/-- `datetime.max`, the last microsecond of the year 9999. -/
def maxInstant : ℤ := 253402300799999999

/-- The days of `timedelta.max`. -/
def maxDays : ℕ := 999999999

/-- `timedelta(seconds=n)`, in microseconds. -/
def seconds (n : ℕ) : Except Exc ℤ :=
  if maxDays < n / 86400 then
    .error ⟨.overflowError, if n / 86400 < 2 ^ 31 then
      "days=" ++ toString (n / 86400) ++ "; must have magnitude <= 999999999"
      else "Python int too large to convert to C int"⟩
  else .ok (n * 1000000)

/-- `date + timedelta(seconds=n)`. -/
def addSeconds (t : ℤ) (n : ℕ) : Except Exc ℤ := do
  let d ← seconds n
  if maxInstant < t + d then .error ⟨.overflowError, "date value out of range"⟩ else pure (t + d)

/-- `date + timedelta(seconds=n)` is a date. -/
def Fits (t : ℤ) (n : ℕ) : Prop := n / 86400 ≤ maxDays ∧ t + n * 1000000 ≤ maxInstant

instance (t : ℤ) (n : ℕ) : Decidable (Fits t n) :=
  inferInstanceAs (Decidable (n / 86400 ≤ maxDays ∧ t + n * 1000000 ≤ maxInstant))

/-- The sum of a date and a duration, where it is a date. -/
theorem addSeconds_of_fits {t : ℤ} {n : ℕ} (h : Fits t n) :
    addSeconds t n = .ok (t + n * 1000000) := by
  have hdays : ¬maxDays < n / 86400 := not_lt.mpr h.1
  have hdate : ¬maxInstant < t + (n : ℤ) * 1000000 := not_lt.mpr h.2
  unfold addSeconds seconds
  rw [if_neg hdays]
  show (if _ then _ else _) = _
  rw [if_neg hdate]
  rfl

theorem addSeconds_eq_ok_iff {t t' : ℤ} {n : ℕ} :
    addSeconds t n = .ok t' ↔ Fits t n ∧ t' = t + n * 1000000 := by
  constructor
  · intro h
    unfold addSeconds at h
    obtain ⟨d, hd, h⟩ := bind_eq_ok.mp h
    unfold seconds at hd
    split at hd
    · cases hd
    · next hdays =>
      obtain rfl := Except.ok.inj hd
      split at h
      · cases h
      · next hdate =>
        refine ⟨⟨not_lt.mp hdays, not_lt.mp hdate⟩, ?_⟩
        exact (pure_eq_ok.mp h).symm
  · rintro ⟨hfits, rfl⟩
    exact addSeconds_of_fits hfits

/-- A sum that is not a date raises. -/
theorem addSeconds_of_not_fits {t : ℤ} {n : ℕ} (h : ¬Fits t n) :
    ∃ e, addSeconds t n = .error e := by
  rcases hadd : addSeconds t n with e | t'
  · exact ⟨e, rfl⟩
  · exact absurd (addSeconds_eq_ok_iff.mp hadd).1 h

/-- An earlier date and a shorter duration fit as well. -/
theorem Fits.mono {t t' : ℤ} {n n' : ℕ} (h : Fits t n) (ht : t' ≤ t) (hn : n' ≤ n) :
    Fits t' n' := by
  have hdays : n' / 86400 ≤ n / 86400 := Nat.div_le_div_right hn
  have hdate := h.2
  refine ⟨hdays.trans h.1, ?_⟩
  have : (n' : ℤ) ≤ n := Int.ofNat_le.mpr hn
  omega

end Py
