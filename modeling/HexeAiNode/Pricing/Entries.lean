import HexeAiNode.Pricing.ModelIds
import Mathlib.Data.Char
import Mathlib.Data.List.Dedup
import Mathlib.Data.List.Lex
import Mathlib.Data.List.Sort

/-!
# The entries of a price list

`OpenAIPricingEntry` and the rules that every path to an entry applies: which prices are numbers, which fields a
family has, and what a list of entries must satisfy to be saved.  A price is `None` or a number; a text that is no
number, or is negative, counts as `None`.
-/

namespace HexeAiNode
namespace Pricing

open Py

/-- A price of an entry. -/
abbrev Price := Option FloatVal

/-- `parsed < 0`. -/
def isBelowZero : FloatVal → Bool
  | .finite q => decide (q < 0)
  | .negInf => true
  | _ => false

/-- A number as a price: none if it is negative. -/
def nonNegativePrice (x : FloatVal) : Price := if isBelowZero x then none else some x

/-- `_normalize_price` of a text. -/
def normalizePriceText (s : String) : Price :=
  if strip s = "" then none
  else (Value.parseFloat (replace (replace (strip s) "$" "") "," "")).bind nonNegativePrice

/-- `_normalize_price`. -/
def normalizePrice : Value → Except Exc Price
  | .null => .ok none
  | .bool b => .ok (nonNegativePrice (.finite (if b then 1 else 0)))
  | .int n => nonNegativePrice <$> (Value.int n).toFloat
  | .float x _ => .ok (nonNegativePrice x)
  | v => .ok (normalizePriceText v.normalizeString)

/-- `_normalize_price` of a price. -/
def Price.normalize (price : Price) : Price := price.bind nonNegativePrice

/-- The four prices of an entry. -/
structure Prices where
  input : Price := none
  cachedInput : Price := none
  output : Price := none
  normalized : Price := none

/-- There is a price. -/
def Prices.any (prices : Prices) : Bool :=
  prices.input.isSome || prices.cachedInput.isSome || prices.output.isSome || prices.normalized.isSome

/-- `OpenAIPricingEntry`. -/
structure OpenAIPricingEntry where
  modelId : String
  family : String
  pricingBasis : String
  prices : Prices
  normalizedUnit : String
  notes : List String := []
  sourceUrl : String
  extractedAt : String
  extractionStatus : String := "ok"

/-- The price of output tokens, or else of input tokens. -/
def Prices.outputOrInput (prices : Prices) : Price := prices.output.or prices.input

/-- `_compute_normalized_price`: for every basis the price there is, or else that of output or input tokens. -/
def Prices.computeNormalized (prices : Prices) : Price := prices.normalized.or prices.outputOrInput

/-- A price, unless it is zero. -/
def unlessZero (price : Price) : Price := if price = some (.finite 0) then none else price

/-- `_sanitize_non_applicable_price_fields`. -/
def sanitizePrices (basis : String) (prices : Prices) : Prices :=
  if basis = "per_1m_tokens" then prices
  else { prices with cachedInput := none, input := unlessZero prices.input, output := unlessZero prices.output }

/-- `sorted(set(notes))`. -/
def sortedSet (notes : List String) : List String :=
  notes.dedup.insertionSort fun a b => a.toList ≤ b.toList

theorem mem_sortedSet {notes : List String} {note : String} : note ∈ sortedSet notes ↔ note ∈ notes := by
  rw [sortedSet, List.mem_insertionSort, List.mem_dedup]

theorem nodup_sortedSet (notes : List String) : (sortedSet notes).Nodup :=
  (List.perm_insertionSort _ _).nodup_iff.mpr (List.nodup_dedup notes)

/-- The order of the notes does not matter. -/
theorem sortedSet_congr {notes notes' : List String} (h : ∀ note, note ∈ notes ↔ note ∈ notes') :
    sortedSet notes = sortedSet notes' := by
  have htotal : Std.Total fun a b : String => a.toList ≤ b.toList := ⟨fun a b => le_total a.toList b.toList⟩
  have htrans : IsTrans String fun a b => a.toList ≤ b.toList := ⟨fun _ _ _ => le_trans⟩
  have hperm : (sortedSet notes).Perm (sortedSet notes') := by
    rw [List.perm_ext_iff_of_nodup (nodup_sortedSet _) (nodup_sortedSet _)]
    intro note
    rw [mem_sortedSet, mem_sortedSet, h]
  exact hperm.eq_of_pairwise (fun a b _ _ hab hba => String.toList_injective (le_antisymm hab hba))
    (List.pairwise_insertionSort _ _) (List.pairwise_insertionSort _ _)

/-- The basis, the prices, the unit and the notes of an entry. -/
structure Terms where
  basis : String
  prices : Prices
  normalizedUnit : String
  notes : List String

/-- The notes that are not blank, each once. -/
def usableNotes (notes : List String) : List String := sortedSet (notes.filter fun note => strip note != "")

/-- The terms under a basis that is not that of tokens. -/
def sanitizedTerms (basis normalizedUnit : String) (terms : Terms) : Terms :=
  let prices := sanitizePrices basis terms.prices
  { basis := basis
    prices := { prices with normalized := prices.computeNormalized }
    normalizedUnit := normalizedUnit
    notes := terms.notes }

/-- The terms of tokens. -/
def tokenTerms (terms : Terms) : Terms :=
  { terms with
    basis := "per_1m_tokens"
    prices := { terms.prices with normalized := terms.prices.computeNormalized }
    normalizedUnit := "per_1m_tokens" }

/-- The notes say that a moderation model is free. -/
def saysFree (notes : List String) : Bool :=
  notes.any fun note => contains (lower note) "free of charge" || lower note == "free"

/-- The terms of a moderation model. -/
def moderationTerms (terms : Terms) : Terms :=
  let free := saysFree terms.notes
  let prices := terms.prices
  let unpriced := prices.normalized.isNone && prices.output.isNone && prices.input.isNone
  tokenTerms
    { terms with
      prices := if free && unpriced then { prices with normalized := some (.finite 0) } else prices
      notes := sortedSet (terms.notes ++ [if free then "status:free" else "status:priced"]) }

/-- `_enforce_family_pricing_rules`. -/
def enforceFamilyPricingRules (family : String) (terms : Terms) : Terms :=
  let terms := { terms with notes := usableNotes terms.notes }
  if family ∈ ["llm", "embeddings", "realtime_voice"] then tokenTerms terms
  else if family = "speech_to_text" then sanitizedTerms "per_minute" "per_minute" terms
  else if family = "text_to_speech" then
    let basis := if terms.basis ∈ ["per_1m_characters", "per_minute"] then terms.basis else "per_1m_characters"
    sanitizedTerms basis basis terms
  else if family = "image_generation" then
    if terms.basis = "per_1m_tokens" then sanitizedTerms "per_1m_tokens" "per_1m_tokens" terms
    else sanitizedTerms "per_image" "medium_1024x1536_per_image" terms
  else if family = "video_generation" then sanitizedTerms "per_second" "per_second" terms
  else if family = "moderation" then moderationTerms terms
  else terms

/-- A price is negative. -/
def Price.isNegative (price : Price) : Bool := price.any isBelowZero

/-- What is wrong with an entry. -/
def entryError (entry : OpenAIPricingEntry) : Option String :=
  if strip entry.modelId = "" then some "pricing_entry_model_id_missing"
  else if entry.pricingBasis ∉ canonicalPricingBasis then some ("pricing_entry_basis_invalid:" ++ entry.modelId)
  else if entry.family ∉ canonicalFamilies then some ("pricing_entry_family_invalid:" ++ entry.modelId)
  else if entry.prices.normalized.isNegative then some ("pricing_entry_normalized_negative:" ++ entry.modelId)
  else if strip entry.normalizedUnit = "" then some ("pricing_entry_normalized_unit_missing:" ++ entry.modelId)
  else if entry.prices.input.isNegative || entry.prices.cachedInput.isNegative || entry.prices.output.isNegative then
    some ("pricing_entry_negative_value:" ++ entry.modelId)
  else none

/-- `validate_openai_pricing_entries`: the error, if there is one. -/
def validateOpenaiPricingEntries (entries : List OpenAIPricingEntry) : Option String :=
  if entries.isEmpty then some "pricing_entries_empty" else entries.findSome? entryError

end Pricing
end HexeAiNode
