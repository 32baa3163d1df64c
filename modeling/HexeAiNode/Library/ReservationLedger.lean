import HexeAiNode.Python.OrderedDict

/-!
# Reservation ledgers

An account keeps a dictionary of reservations and, beside it, the amount they reserve in total.  The
two are redundant: the account is *balanced* when the amount is the sum of the reservations.

The three operations of an account keep the balance:

* `reserve` adds a reservation under a fresh key;
* `settle` removes one, subtracting its amount and clamping at zero;
* `Account.empty` starts again.

The clamp of `settle` never acts on a balanced account whose reservations are non-negative
(`settle_reserved`), so it cannot hide a drift: this is where `Balanced` asks for non-negative
amounts.
-/

namespace ReservationLedger

open Py

variable {κ : Type*} [DecidableEq κ]

/-- Reservations by key, and the amount they reserve. -/
structure Account (κ : Type*) where
  reserved : ℤ
  reservations : OrderedDict κ ℤ

namespace Account

/-- An account without reservations. -/
def empty : Account κ := ⟨0, OrderedDict.empty⟩

/-- Reserve an amount under a key. -/
def reserve (account : Account κ) (key : κ) (amount : ℤ) : Account κ where
  reserved := account.reserved + amount
  reservations := account.reservations.set key amount

/-- Give a reservation back, if there is one. -/
def settle (account : Account κ) (key : κ) : Account κ :=
  match account.reservations.get? key with
  | none => account
  | some amount =>
    { reserved := max (account.reserved - amount) 0
      reservations := account.reservations.erase key }

/-- The kept amount is the sum of the reservations, which are non-negative. -/
structure Balanced (account : Account κ) : Prop where
  nonneg : ∀ amount ∈ account.reservations.values, 0 ≤ amount
  sum : account.reserved = account.reservations.total id

omit [DecidableEq κ] in
theorem balanced_empty : (empty : Account κ).Balanced :=
  ⟨fun _ h => absurd h List.not_mem_nil, rfl⟩

/-- Reserving under a fresh key keeps the balance. -/
theorem Balanced.reserve {account : Account κ} (h : account.Balanced) {key : κ} {amount : ℤ}
    (hfresh : account.reservations.get? key = none) (hamount : 0 ≤ amount) :
    (account.reserve key amount).Balanced := by
  refine ⟨?_, ?_⟩
  · intro a ha
    rcases OrderedDict.mem_values_set ha with rfl | ha
    · exact hamount
    · exact h.nonneg a ha
  · show account.reserved + amount = (account.reservations.set key amount).total id
    rw [OrderedDict.total_set_of_none id amount hfresh, h.sum, id]

/-- In a balanced account the clamp of `settle` does not act. -/
theorem settle_reserved {account : Account κ} (h : account.Balanced) (key : κ) :
    (account.settle key).reserved =
      account.reserved - account.reservations.contribution id key := by
  unfold settle
  rcases hget : account.reservations.get? key with _ | amount
  · rw [OrderedDict.contribution_of_none hget, sub_zero]
  · have hsplit := OrderedDict.total_erase_add account.reservations id key
    have hrest : 0 ≤ (account.reservations.erase key).total id :=
      OrderedDict.total_nonneg fun a ha => h.nonneg a (OrderedDict.mem_values_erase ha)
    rw [OrderedDict.contribution_of_get? hget, ← h.sum] at hsplit
    rw [OrderedDict.contribution_of_get? hget]
    simp only [id_eq] at hsplit ⊢
    omega

/-- Settling keeps the balance. -/
theorem Balanced.settle {account : Account κ} (h : account.Balanced) (key : κ) :
    (account.settle key).Balanced := by
  have hreserved := settle_reserved h key
  unfold Account.settle at hreserved ⊢
  rcases hget : account.reservations.get? key with _ | amount
  · exact h
  · rw [hget] at hreserved
    refine ⟨fun a ha => h.nonneg a (OrderedDict.mem_values_erase ha), ?_⟩
    dsimp only at hreserved ⊢
    rw [hreserved, h.sum, ← OrderedDict.total_erase_add account.reservations id key]
    omega

/-- Settling leaves no reservation under the key. -/
@[simp] theorem get?_settle_self (account : Account κ) (key : κ) :
    (account.settle key).reservations.get? key = none := by
  unfold settle
  rcases hget : account.reservations.get? key with _ | amount
  · exact hget
  · exact OrderedDict.get?_erase_self _ _

end Account
end ReservationLedger
