import HexeAiNode.Pricing.ManualYaml
import Mathlib.Algebra.Order.BigOperators.Group.List
import Mathlib.Data.List.Perm.Subperm

/-!
# What the manual pricing file gives back

`roundTrips_iff`: a list of models is read back from the file exactly when every id is one that the file can hold and
every price has six significant digits.

If all models come back, then the ids that are read are as many as the ids that were written, so that every model was
headed and the ids are read back in another order at most.  Reading makes no id longer, hence it changed none.
-/

namespace HexeAiNode
namespace Pricing

open Py

/-- The prices are decimals, or missing. -/
def ManualPrices.AreDecimals (prices : ManualPrices) : Prop :=
  ∀ price ∈ [prices.input, prices.cachedInput, prices.output], ∀ x ∈ price, ∃ q : ℚ, 0 ≤ q ∧ x = .finite q

/-- The models as a dictionary. -/
def modelPrices (models : List ManualModel) : List (String × ManualPrices) :=
  models.map fun model => (model.modelId, model.prices)

/-- The file gives back exactly the ids and prices that were saved. -/
def RoundTrips (models : List ManualModel) : Prop :=
  ∀ modelId, Assoc.get? (loadManualPricingYaml (saveManualPricingYaml models)) modelId =
    Assoc.get? (modelPrices models) modelId

/-- An id that the file can hold. -/
structure FitsFile (modelId : String) : Prop where
  nonempty : modelId ≠ ""
  uncommented : startsWith modelId "#" = false
  notHeading : modelId ≠ "models"
  oneLine : IsOneLine modelId
  unquoted : stripQuotes modelId = modelId
  resolved : resolveOpenaiBaseModelId modelId = modelId

/-- A price that the file can hold. -/
def PriceFits (price : Price) : Prop := ∀ q, price = some (.finite q) → HasSixDigits q ∧ q < Value.floatOverflow

/-- The prices fit. -/
def ManualPrices.Fit (prices : ManualPrices) : Prop :=
  ∀ price ∈ [prices.input, prices.cachedInput, prices.output], PriceFits price

/-! ## Ids -/

section Ids

variable {modelId : String}

/-- The value of `resolve_openai_base_model_id`, of whatever text. -/
def IsResolved (modelId : String) : Prop := ∃ s, resolveOpenaiBaseModelId s = modelId

theorem IsResolved.lowered (h : IsResolved modelId) : Lowered modelId.toList := by
  obtain ⟨s, rfl⟩ := h
  exact lowered_resolve s

/-- What is read back of a resolved id is a part of it. -/
theorem IsResolved.readId_sublist (h : IsResolved modelId) :
    (readId modelId).toList.Sublist (stripQuotes (strip modelId)).toList := by
  have hsub : (stripQuotes (strip modelId)).toList.Sublist modelId.toList :=
    (stripQuotes_sublist _).trans (strip_sublist _)
  exact (h.lowered.sublist hsub).sublist_resolve

theorem IsResolved.length_readId_le (h : IsResolved modelId) : (readId modelId).length ≤ modelId.length := by
  rw [← String.length_toList, ← String.length_toList]
  exact (h.readId_sublist.trans ((stripQuotes_sublist _).trans (strip_sublist _))).length_le

/-- A text is its part of the same length. -/
theorem eq_of_sublist_of_length {s t : String} (h : s.toList.Sublist t.toList) (hlength : t.length ≤ s.length) : s = t := by
  refine String.toList_injective (h.eq_of_length_le ?_)
  rwa [String.length_toList, String.length_toList]

/-- **An id is read back as itself** exactly if it is stripped, has no quotation marks around it and is resolved. -/
theorem readId_eq_self_iff (h : IsResolved modelId) : readId modelId = modelId ↔
    strip modelId = modelId ∧ stripQuotes modelId = modelId ∧ resolveOpenaiBaseModelId modelId = modelId := by
  constructor
  · intro heq
    have hread := h.readId_sublist
    rw [heq] at hread
    have hstrip : strip modelId = modelId := by
      refine eq_of_sublist_of_length (strip_sublist _) ?_
      rw [← String.length_toList, ← String.length_toList]
      exact (hread.trans (stripQuotes_sublist _)).length_le
    rw [hstrip] at hread
    have hquotes : stripQuotes modelId = modelId := by
      refine eq_of_sublist_of_length (stripQuotes_sublist _) ?_
      rw [← String.length_toList, ← String.length_toList]
      exact hread.length_le
    refine ⟨hstrip, hquotes, ?_⟩
    rw [readId, hstrip, hquotes] at heq
    exact heq
  · rintro ⟨hstrip, hquotes, hresolve⟩
    rw [readId, hstrip, hquotes, hresolve]

/-- A resolved id that resolves to itself is stripped. -/
theorem strip_of_resolve_eq_self (h : IsResolved modelId) (heq : resolveOpenaiBaseModelId modelId = modelId) :
    strip modelId = modelId := by
  have hsub := sublist_resolve modelId
  rw [heq, stripLower_of_lowered h.lowered] at hsub
  refine eq_of_sublist_of_length (strip_sublist _) ?_
  rw [← String.length_toList, ← String.length_toList]
  exact hsub.length_le

/-- Which resolved ids fit. -/
theorem fitsFile_iff (h : IsResolved modelId) :
    FitsFile modelId ↔ IsHeaded modelId ∧ IsOneLine modelId ∧ readId modelId = modelId := by
  rw [readId_eq_self_iff h]
  constructor
  · rintro ⟨hne, hhash, hmodels, hline, hquotes, hresolve⟩
    have hstrip := strip_of_resolve_eq_self h hresolve
    refine ⟨?_, hline, hstrip, hquotes, hresolve⟩
    rw [IsHeaded, hstrip]
    exact ⟨hne, hhash, hmodels⟩
  · rintro ⟨hheaded, hline, hstrip, hquotes, hresolve⟩
    rw [IsHeaded, hstrip] at hheaded
    exact ⟨hheaded.1, hheaded.2.1, hheaded.2.2, hline, hquotes, hresolve⟩

/-- **Reading that loses no id changes none.** -/
theorem readId_eq_of_subset {ids : List String} (hnodup : ids.Nodup) (hresolved : ∀ id ∈ ids, IsResolved id)
    (hread : ∀ id ∈ ids, ∃ id' ∈ ids, IsHeaded id' ∧ id = readId id') :
    ∀ id ∈ ids, IsHeaded id ∧ readId id = id := by
  have hsubset : ids ⊆ (ids.filter fun id => decide (IsHeaded id)).map readId := by
    intro id hid
    obtain ⟨id', hid', hheaded, rfl⟩ := hread id hid
    exact List.mem_map_of_mem (List.mem_filter.mpr ⟨hid', decide_eq_true hheaded⟩)
  have hsubperm := List.subperm_of_subset hnodup hsubset
  have hlength : ids.length ≤ (ids.filter fun id => decide (IsHeaded id)).length := by
    simpa using hsubperm.length_le
  have hall : ∀ id ∈ ids, IsHeaded id := by
    have hfilter := (List.filter_sublist (p := fun id => decide (IsHeaded id)) (l := ids)).eq_of_length_le hlength
    intro id hid
    rw [← hfilter] at hid
    exact of_decide_eq_true (List.mem_filter.mp hid).2
  have hperm : ids.Perm (ids.map readId) := by
    rw [List.filter_eq_self.mpr fun id hid => decide_eq_true (hall id hid)] at hsubperm
    exact hsubperm.perm_of_length_le (by simp)
  have hsum : (ids.map String.length).sum = (ids.map fun id => (readId id).length).sum := by
    have h := (hperm.map String.length).sum_eq
    rwa [List.map_map] at h
  intro id hid
  refine ⟨hall id hid, ?_⟩
  have hle : ∀ id ∈ ids, (readId id).length ≤ id.length := fun id hid => (hresolved id hid).length_readId_le
  have heq : id.length ≤ (readId id).length := by
    by_contra hlt
    have hstrict := List.sum_lt_sum (l := ids) (fun id => (readId id).length) String.length hle ⟨id, hid, not_le.mp hlt⟩
    omega
  have hsub := (hresolved id hid).readId_sublist.trans ((stripQuotes_sublist _).trans (strip_sublist _))
  exact eq_of_sublist_of_length hsub heq

end Ids

/-! ## Prices -/

/-- Which decimals are read back as they are. -/
theorem ManualPrices.reread_eq_self_iff {prices : ManualPrices} (h : prices.AreDecimals) :
    prices.reread = prices ↔ prices.Fit := by
  have hprice : ∀ price ∈ [prices.input, prices.cachedInput, prices.output],
      (Pricing.reread price = price ↔ PriceFits price) := by
    intro price hprice
    rcases price with _ | x
    · exact iff_of_true rfl (by rintro q ⟨⟩)
    · obtain ⟨q, hq, rfl⟩ := h _ hprice x rfl
      rw [reread_eq_iff hq]
      constructor
      · intro hfits q' hq'
        obtain rfl := FloatVal.finite.inj (Option.some.inj hq')
        exact hfits
      · intro hfits
        exact hfits q rfl
  obtain ⟨input, cachedInput, output⟩ := prices
  simp only [ManualPrices.reread, ManualPrices.mk.injEq, ManualPrices.Fit, List.forall_mem_cons] at hprice ⊢
  rw [hprice.1, hprice.2.1, hprice.2.2.1]
  simp

/-! ## Files -/

section Files

variable {models : List ManualModel}

theorem keys_modelPrices (models : List ManualModel) :
    Assoc.keys (modelPrices models) = models.map ManualModel.modelId := by
  rw [Assoc.keys, modelPrices, List.map_map]
  rfl

/-- What a file gives back whose ids it can hold. -/
theorem load_save_of_fits (hnodup : (models.map ManualModel.modelId).Nodup)
    (hresolved : ∀ model ∈ models, IsResolved model.modelId) (hfits : ∀ model ∈ models, FitsFile model.modelId) :
    loadManualPricingYaml (saveManualPricingYaml models) =
      models.map fun model => (model.modelId, model.prices.reread) := by
  rw [load_save fun model hmodel => (hfits model hmodel).oneLine, close_readModels _ hnodup]
  · rfl
  · intro model _ hmem
    cases hmem
  · intro model hmodel
    obtain ⟨hheaded, -, hid⟩ := (fitsFile_iff (hresolved model hmodel)).mp (hfits model hmodel)
    exact ⟨hheaded, hid⟩

/-- **The ids of a file that gives everything back** are ids that the file can hold. -/
theorem fitsFile_of_roundTrips (hnodup : (models.map ManualModel.modelId).Nodup)
    (hresolved : ∀ model ∈ models, IsResolved model.modelId) (h : RoundTrips models) :
    ∀ model ∈ models, FitsFile model.modelId := by
  have hdistinct : Assoc.Distinct (modelPrices models) := by rwa [Assoc.Distinct, keys_modelPrices]
  have hloaded : ∀ model ∈ models,
      model.modelId ∈ Assoc.keys (loadManualPricingYaml (saveManualPricingYaml models)) := by
    intro model hmodel
    have hmem : (model.modelId, model.prices) ∈ modelPrices models := List.mem_map_of_mem hmodel
    exact Assoc.mem_keys_of_get? ((h model.modelId).trans (Assoc.get?_of_mem hdistinct hmem))
  have hlines : ∀ model ∈ models, IsOneLine model.modelId :=
    fun model hmodel => isOneLine_of_mem_load (hloaded model hmodel)
  have hread : ∀ id ∈ models.map ManualModel.modelId, ∃ id' ∈ models.map ManualModel.modelId,
      IsHeaded id' ∧ id = readId id' := by
    intro id hid
    obtain ⟨model, hmodel, rfl⟩ := List.mem_map.mp hid
    have hmem := hloaded model hmodel
    rw [load_save hlines] at hmem
    rcases mem_keys_readModels hmem with hnone | ⟨m, hm, hheaded, hkey⟩
    · cases hnone
    · exact ⟨m.modelId, List.mem_map_of_mem hm, hheaded, hkey⟩
  intro model hmodel
  have hids : ∀ id ∈ models.map ManualModel.modelId, IsResolved id := by
    intro id hid
    obtain ⟨m, hm, rfl⟩ := List.mem_map.mp hid
    exact hresolved m hm
  obtain ⟨hheaded, hid⟩ := readId_eq_of_subset hnodup hids hread model.modelId (List.mem_map_of_mem hmodel)
  exact (fitsFile_iff (hresolved model hmodel)).mpr ⟨hheaded, hlines model hmodel, hid⟩

/-- **Which lists of models the file gives back.** -/
theorem roundTrips_iff (hnodup : (models.map ManualModel.modelId).Nodup)
    (hresolved : ∀ model ∈ models, IsResolved model.modelId) (hdecimal : ∀ model ∈ models, model.prices.AreDecimals) :
    RoundTrips models ↔ ∀ model ∈ models, FitsFile model.modelId ∧ model.prices.Fit := by
  have hdistinct : Assoc.Distinct (modelPrices models) := by rwa [Assoc.Distinct, keys_modelPrices]
  constructor
  · intro h model hmodel
    have hfits := fitsFile_of_roundTrips hnodup hresolved h
    refine ⟨hfits model hmodel, (ManualPrices.reread_eq_self_iff (hdecimal model hmodel)).mp ?_⟩
    have hmem := List.mem_map_of_mem (f := fun m : ManualModel => (m.modelId, m.prices)) hmodel
    have hget := h model.modelId
    rw [load_save_of_fits hnodup hresolved hfits, Assoc.get?_of_mem hdistinct hmem] at hget
    have hread : Assoc.Distinct (models.map fun m : ManualModel => (m.modelId, m.prices.reread)) := by
      rw [Assoc.Distinct, Assoc.keys, List.map_map]
      exact hnodup
    rw [Assoc.get?_of_mem hread (List.mem_map_of_mem (f := fun m : ManualModel => (m.modelId, m.prices.reread)) hmodel)]
      at hget
    exact Option.some.inj hget
  · intro h modelId
    rw [load_save_of_fits hnodup hresolved fun model hmodel => (h model hmodel).1, modelPrices]
    congr 1
    refine List.map_congr_left fun model hmodel => ?_
    rw [(ManualPrices.reread_eq_self_iff (hdecimal model hmodel)).mpr (h model hmodel).2]

end Files

end Pricing
end HexeAiNode
