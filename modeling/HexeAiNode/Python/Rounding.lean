import Mathlib.Tactic.FieldSimp
import Mathlib.Tactic.Linarith
import Mathlib.Tactic.Ring
import HexeAiNode.Python.Coercion

/-!
# Numbers with ten decimals

`round(x, 10)` gives the nearest number with at most ten decimals.  Such numbers are closed under addition and
rounding keeps them (`TenDecimals.round10_eq`), rounding stays under every such bound (`round10_le`), and it adds
half a unit of the tenth decimal at most (`round10_le_add`).
-/

namespace Py

variable {p q : ℚ}

/-- The number has at most ten decimals. -/
def TenDecimals (q : ℚ) : Prop := ∃ n : ℤ, q = n / 10 ^ 10

theorem tenDecimals_zero : TenDecimals 0 := ⟨0, by norm_num⟩

theorem TenDecimals.add (hp : TenDecimals p) (hq : TenDecimals q) : TenDecimals (p + q) := by
  obtain ⟨m, rfl⟩ := hp
  obtain ⟨n, rfl⟩ := hq
  exact ⟨m + n, by push_cast; ring⟩

/-- Cents have two decimals. -/
theorem tenDecimals_cents (cents : ℤ) : TenDecimals (cents / 100) := ⟨cents * 10 ^ 8, by push_cast; ring⟩

theorem tenDecimals_round10 (q : ℚ) : TenDecimals (round10 q) := ⟨_, rfl⟩

/-- Rounding keeps what has ten decimals. -/
theorem TenDecimals.round10_eq (h : TenDecimals q) : round10 q = q := by
  obtain ⟨n, rfl⟩ := h
  have hscaled : (n / 10 ^ 10 : ℚ) * 10 ^ 10 = n := by
    field_simp
  unfold round10
  simp only [hscaled, Int.floor_intCast, sub_self]
  rw [if_pos (Or.inl (by norm_num))]

/-- Rounding does not leave a bound that has ten decimals. -/
theorem round10_le (hp : TenDecimals p) (h : q ≤ p) : round10 q ≤ p := by
  obtain ⟨n, rfl⟩ := hp
  have hscaled : q * 10 ^ 10 ≤ n := (le_div_iff₀ (by positivity)).mp h
  have hbelow : ⌊q * 10 ^ 10⌋ ≤ n := by
    have hfloor := Int.floor_le (q * 10 ^ 10)
    exact_mod_cast hfloor.trans hscaled
  unfold round10
  dsimp only
  refine div_le_div_of_nonneg_right ?_ (by positivity)
  split
  · exact_mod_cast hbelow
  · next hrest =>
    -- below the bound itself there is room for the next unit
    have hne : ⌊q * 10 ^ 10⌋ ≠ n := by
      intro heq
      refine hrest (Or.inl ?_)
      rw [heq]
      linarith
    have hnext : ⌊q * 10 ^ 10⌋ + 1 ≤ n := by omega
    exact_mod_cast hnext

/-- Rounding adds half a unit of the tenth decimal at most. -/
theorem round10_le_add (q : ℚ) : round10 q ≤ q + 1 / (2 * 10 ^ 10) := by
  have hfloor := Int.floor_le (q * 10 ^ 10)
  have hsum : q + 1 / (2 * 10 ^ 10) = (q * 10 ^ 10 + 1 / 2) / 10 ^ 10 := by
    field_simp
  rw [hsum]
  unfold round10
  dsimp only
  refine div_le_div_of_nonneg_right ?_ (by positivity)
  split
  · exact hfloor.trans (le_add_of_nonneg_right (by norm_num))
  · next hrest =>
    have hhalf : ¬q * 10 ^ 10 - ⌊q * 10 ^ 10⌋ < 1 / 2 := fun h => hrest (Or.inl h)
    push_cast
    linarith

theorem round10_nonneg (h : 0 ≤ q) : 0 ≤ round10 q := by
  have hfloor : (0 : ℤ) ≤ ⌊q * 10 ^ 10⌋ := Int.floor_nonneg.mpr (by positivity)
  unfold round10
  dsimp only
  refine div_nonneg ?_ (by positivity)
  split
  · exact_mod_cast hfloor
  · have hnext : (0 : ℤ) ≤ ⌊q * 10 ^ 10⌋ + 1 := by omega
    exact_mod_cast hnext

theorem round10_zero : round10 0 = 0 := tenDecimals_zero.round10_eq

end Py
