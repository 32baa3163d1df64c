import HexeAiNode.Pricing.RoundTrip

/-!
# The files of the price list

The price list is kept in four files: the snapshot of the last refresh, the overrides, the classifications of the
provider's models, and the manual file that an operator may edit.  `_ensure_manual_pricing_config` writes the manual
file anew from all four: it lists every model that one of them names, with the prices the manual file has or else those
of the snapshot or the overrides.  `get_pricing_entry` reads the manual file first.

How a snapshot is decoded is a parameter.  A file that is not there and one that is not JSON are treated alike, so
that both are `none` here.
-/

namespace HexeAiNode
namespace Pricing

open Py

/-- `OpenAIPricingSnapshot`. -/
structure OpenAIPricingSnapshot where
  scrapedAt : Option String
  stale : Bool
  entries : List OpenAIPricingEntry

/-- The files. -/
structure PricingFiles where
  catalog : Option Value := none
  overrides : Option Value := none
  classifications : Option Value := none
  yaml : Option String := none

/-! ## Models -/

/-- The ids that the items under a field name. -/
def listedUnder (payload : Value) (key : String) : Except Exc (List String) := do
  let items ← (payload.asDict.get key).toItems
  return items.filterMap fun item =>
    if item.isDict then
      let modelId := resolveOpenaiBaseModelId (item.asDict.get "model_id").normalizeString
      if modelId = "" then none else some modelId
    else none

/-- The ids that a file names. -/
def listedIn (file : Option Value) (keys : List String) : Except Exc (List String) := do
  let listed ← keys.mapM fun key => listedUnder (file.getD .null) key
  return listed.flatten

/-- The models of the manual file. -/
def loadYaml (yaml : Option String) : List (String × ManualPrices) := yaml.elim [] loadManualPricingYaml

/-- The ids that the files other than the manual file name. -/
def listedOutside (files : PricingFiles) : Except Exc (List String) := do
  let catalog ← listedIn files.catalog ["entries", "models"]
  let overrides ← listedIn files.overrides ["entries", "models"]
  let classifications ← listedIn files.classifications ["entries"]
  return catalog ++ overrides ++ classifications

/-- `_load_known_openai_model_ids`. -/
def loadKnownOpenaiModelIds (files : PricingFiles) : Except Exc (List String) := do
  let outside ← listedOutside files
  return sortedSet (outside ++ Assoc.keys (loadYaml files.yaml))

/-- `_load_pricing_overrides`. -/
def loadPricingOverrides (overrides : Option Value) : List (String × Dict) :=
  match (overrides.getD .null).asDict.get "models" with
  | .list models =>
    models.foldl (fun acc item =>
      let modelId := resolveOpenaiBaseModelId (item.asDict.get "model_id").normalizeString
      if item.isDict && modelId != "" then Assoc.set acc modelId item.asDict else acc) []
  | _ => []

/-- The entries by their ids; the last one of an id counts. -/
def entriesById (entries : List OpenAIPricingEntry) : List (String × OpenAIPricingEntry) :=
  entries.foldl (fun acc entry => Assoc.set acc entry.modelId entry) []

/-- There is a price. -/
def ManualPrices.any (prices : ManualPrices) : Bool :=
  prices.input.isSome || prices.cachedInput.isSome || prices.output.isSome

/-- The prices of an override. -/
def overridePrices (override : Dict) : Except Exc ManualPrices :=
  if (override.get "pricing_basis").normalizeLower = "per_1m_tokens" then do
    let input ← normalizePrice (override.get "input_price")
    let cachedInput ← normalizePrice (override.get "cached_input_price")
    let output ← normalizePrice (override.get "output_price")
    return { input, cachedInput, output }
  else .ok {}

/-- The prices of a model for the manual file. -/
def manualPricesOf (existing : List (String × ManualPrices)) (entries : List (String × OpenAIPricingEntry))
    (overrides : List (String × Dict)) (modelId : String) : Except Exc ManualPrices :=
  let yaml := (Assoc.get? existing modelId).getD {}
  if yaml.any then .ok yaml
  else
    match (Assoc.get? entries modelId).filter fun entry => entry.pricingBasis = "per_1m_tokens" with
    | some entry =>
      .ok { input := entry.prices.input, cachedInput := entry.prices.cachedInput, output := entry.prices.output }
    | none => overridePrices ((Assoc.get? overrides modelId).getD [])

/-- `_build_manual_pricing_yaml_models`. -/
def buildManualPricingYamlModels (modelIds : List String) (existing : List (String × ManualPrices))
    (entries : List (String × OpenAIPricingEntry)) (overrides : List (String × Dict)) :
    Except Exc (List ManualModel) :=
  modelIds.mapM fun modelId => ManualModel.mk modelId <$> manualPricesOf existing entries overrides modelId

section Sync

variable (decode : Value → Option OpenAIPricingSnapshot)

/-- `load_snapshot`. -/
def loadSnapshot (files : PricingFiles) : Option OpenAIPricingSnapshot := files.catalog.bind decode

/-- The models that `_ensure_manual_pricing_config` writes. -/
def manualModels (files : PricingFiles) : Except Exc (List ManualModel) := do
  let entries := entriesById ((loadSnapshot decode files).elim [] OpenAIPricingSnapshot.entries)
  let overrides := loadPricingOverrides files.overrides
  let knownIds ← loadKnownOpenaiModelIds files
  buildManualPricingYamlModels knownIds (loadYaml files.yaml) entries overrides

/-- `_ensure_manual_pricing_config`; what goes wrong is logged. -/
def ensureManualPricingConfig (files : PricingFiles) : PricingFiles :=
  match manualModels decode files with
  | .ok [] | .error _ => files
  | .ok models => { files with yaml := some (saveManualPricingYaml models) }

end Sync

/-! ## Entries -/

/-- The entry of a model in the manual file. -/
def manualEntryIn (manualOverrides : List (String × ManualPrices)) (now modelId : String) : Option OpenAIPricingEntry :=
  let normalizedModelId := resolveOpenaiBaseModelId modelId
  if normalizedModelId = "" then none
  else do
    let payload ← Assoc.get? manualOverrides normalizedModelId
    let prices : Prices :=
      { input := payload.input.normalize, cachedInput := payload.cachedInput.normalize, output := payload.output.normalize }
    guard (prices.input.isSome || prices.cachedInput.isSome || prices.output.isSome)
    let family := familyOf normalizedModelId
    let basis := if family = "image_generation" then "per_1m_tokens" else defaultPricingBasisForFamily family
    return {
      modelId := normalizedModelId
      family := family
      pricingBasis := basis
      prices := { prices with
        cachedInput := if basis = "per_1m_tokens" then prices.cachedInput else none
        normalized := prices.outputOrInput }
      normalizedUnit := defaultNormalizedUnit basis
      notes := ["manual_pricing_yaml_override"]
      sourceUrl := "manual://yaml_override"
      extractedAt := now
      extractionStatus := "manual" }

/-- `_manual_pricing_yaml_entry`. -/
def manualPricingYamlEntry (yaml : Option String) (now modelId : String) : Option OpenAIPricingEntry :=
  manualEntryIn (loadYaml yaml) now modelId

/-- A decimal as a price. -/
def decimal (q : ℚ) : Price := some (.finite q)

/-- `_OPENAI_MANUAL_RATE_FALLBACKS`. -/
def openaiManualRateFallbacks : List (String × ManualPrices) :=
  [("gpt-5.4", ⟨decimal 2.50, decimal 0.25, decimal 15⟩),
    ("gpt-5.4-2026-03-05", ⟨decimal 2.50, decimal 0.25, decimal 15⟩),
    ("gpt-5.4-mini", ⟨decimal 0.75, decimal 0.075, decimal 4.50⟩),
    ("gpt-5.4-mini-2026-03-17", ⟨decimal 0.75, decimal 0.075, decimal 4.50⟩),
    ("gpt-5.4-nano", ⟨decimal 0.20, decimal 0.02, decimal 1.25⟩),
    ("gpt-5.4-nano-2026-03-17", ⟨decimal 0.20, decimal 0.02, decimal 1.25⟩),
    ("gpt-5.6-sol", ⟨decimal 4, decimal 0.40, decimal 20⟩),
    ("gpt-5.6-terra", ⟨decimal 2, decimal 0.20, decimal 12⟩),
    ("gpt-5.6-luna", ⟨decimal 0.20, decimal 0.02, decimal 1.20⟩)]

/-- `_fallback_openai_pricing_entry`. -/
def fallbackOpenaiPricingEntry (now modelId : String) : Option OpenAIPricingEntry := do
  let normalizedModelId := stripLower modelId
  let targetModelId := resolveOpenaiBaseModelId normalizedModelId
  let pricing ← (Assoc.get? openaiManualRateFallbacks normalizedModelId).or
    (Assoc.get? openaiManualRateFallbacks targetModelId)
  let prices : Prices := { input := pricing.input, cachedInput := pricing.cachedInput, output := pricing.output }
  return {
    modelId := if targetModelId = "" then normalizedModelId else targetModelId
    family := "llm"
    pricingBasis := "per_1m_tokens"
    prices := { prices with normalized := prices.computeNormalized }
    normalizedUnit := "per_1m_tokens"
    notes := ["manual_pricing_fallback", "source:user_supplied_gpt54_rates"]
    sourceUrl := "manual://built_in_gpt54_rates"
    extractedAt := now
    extractionStatus := "manual" }

/-- `get_pricing_entry` at some moment; `isStale` is `is_stale` then. -/
def getPricingEntry (decode : Value → Option OpenAIPricingSnapshot) (isStale : OpenAIPricingSnapshot → Bool)
    (now : String) (files : PricingFiles) (modelId : String) : Option OpenAIPricingEntry :=
  match manualPricingYamlEntry files.yaml now modelId with
  | some entry => some entry
  | none =>
    let fallback := fallbackOpenaiPricingEntry now modelId
    match loadSnapshot decode files with
    | none => fallback
    | some snapshot =>
      let candidates := [stripLower modelId, resolveOpenaiBaseModelId modelId].filter (· != "")
      match candidates.findSome? fun candidate => snapshot.entries.find? (·.modelId = candidate) with
      | some entry => if isStale snapshot then fallback.or (some { entry with extractionStatus := "stale" }) else some entry
      | none => fallback

section Entry

variable {decode : Value → Option OpenAIPricingSnapshot} {isStale : OpenAIPricingSnapshot → Bool} {now : String}
  {files : PricingFiles} {modelId : String}

/-- The manual file comes first. -/
theorem getPricingEntry_of_manual {entry : OpenAIPricingEntry}
    (h : manualEntryIn (loadYaml files.yaml) now modelId = some entry) :
    getPricingEntry decode isStale now files modelId = some entry := by
  rw [getPricingEntry, manualPricingYamlEntry, h]

/-- Without a manual entry and a snapshot only the fallback is left. -/
theorem getPricingEntry_of_none (h : manualEntryIn (loadYaml files.yaml) now modelId = none)
    (hsnapshot : loadSnapshot decode files = none) :
    getPricingEntry decode isStale now files modelId = fallbackOpenaiPricingEntry now modelId := by
  rw [getPricingEntry, manualPricingYamlEntry, h, hsnapshot]

end Entry

end Pricing
end HexeAiNode
