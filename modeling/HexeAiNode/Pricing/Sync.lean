import HexeAiNode.Pricing.Files

/-!
# The manual file at start-up

Each start writes the manual file anew from what was decoded of it.  If every id the files name is one that the manual
file can hold, then the second file holds what the first one gives back: the ids are the same, a price that was read is
written again, and one that was not is looked up in the same place (`sync_of_synced`).
-/

namespace HexeAiNode
namespace Pricing

open Py

/-! ## What a manual file gives -/

/-- Reading back changes nothing of these prices but their digits. -/
def ManualPrices.AreNormal (prices : ManualPrices) : Prop :=
  prices.input.normalize = prices.input ∧ prices.cachedInput.normalize = prices.cachedInput ∧
    prices.output.normalize = prices.output

theorem normalize_nonNegativePrice (x : FloatVal) : Price.normalize (nonNegativePrice x) = nonNegativePrice x := by
  unfold nonNegativePrice
  split
  · rfl
  · next h => exact Price.normalize_of_not_below (Bool.not_eq_true _ ▸ h)

theorem normalize_normalizePriceText (s : String) :
    Price.normalize (normalizePriceText s) = normalizePriceText s := by
  unfold normalizePriceText
  split
  · rfl
  · rcases Value.parseFloat (replace (replace (strip s) "$" "") "," "") with _ | x
    · rfl
    · exact normalize_nonNegativePrice x

theorem normalize_yamlValue (s : String) : Price.normalize (yamlValue s) = yamlValue s := by
  unfold yamlValue
  split
  · rfl
  · exact normalize_normalizePriceText s

theorem ManualPrices.AreNormal.setField {prices : ManualPrices} (h : prices.AreNormal) (key s : String) :
    (prices.setField key (yamlValue s)).AreNormal := by
  have hvalue := normalize_yamlValue s
  obtain ⟨hinput, hcached, houtput⟩ := h
  unfold ManualPrices.setField
  split
  · exact ⟨hvalue, hcached, houtput⟩
  · split
    · exact ⟨hinput, hvalue, houtput⟩
    · split
      · exact ⟨hinput, hcached, hvalue⟩
      · exact ⟨hinput, hcached, houtput⟩

/-- An id that is resolved and normal prices. -/
def IsLoaded (entry : String × ManualPrices) : Prop := IsResolved entry.1 ∧ entry.2.AreNormal

/-- A reader that holds nothing else. -/
def YamlReader.IsNormal (reader : YamlReader) : Prop :=
  (∀ entry ∈ reader.overrides, IsLoaded entry) ∧ ∀ entry ∈ reader.current, IsLoaded entry

theorem YamlReader.IsNormal.close {reader : YamlReader} (h : reader.IsNormal) : ∀ entry ∈ reader.close, IsLoaded entry := by
  intro entry hentry
  obtain ⟨overrides, _ | ⟨modelId, prices⟩⟩ := reader
  · exact h.1 entry hentry
  · rcases Assoc.mem_of_mem_set hentry with rfl | hold
    · exact h.2 (modelId, prices) rfl
    · exact h.1 entry hold

/-- A line keeps it so. -/
theorem YamlReader.IsNormal.readLine {reader : YamlReader} (h : reader.IsNormal) (line : String) :
    (reader.readLine line).IsNormal := by
  rcases readLine_cases reader line with heq | ⟨-, -, heq⟩ | ⟨modelId, prices, key, value, hcurrent, heq⟩
  · rwa [heq]
  · rw [heq]
    refine ⟨h.close, ?_⟩
    intro entry hentry
    rw [Option.mem_some_iff] at hentry
    rw [← hentry]
    exact ⟨⟨_, rfl⟩, rfl, rfl, rfl⟩
  · rw [heq]
    refine ⟨h.1, ?_⟩
    intro entry hentry
    obtain ⟨hid, hprices⟩ := h.2 _ hcurrent
    rw [Option.mem_some_iff] at hentry
    rw [← hentry]
    exact ⟨hid, hprices.setField key value⟩

/-- **What is loaded** are resolved ids with normal prices. -/
theorem isLoaded_of_mem_load {text : String} : ∀ entry ∈ loadManualPricingYaml text, IsLoaded entry := by
  refine YamlReader.IsNormal.close ?_
  refine List.foldlRecOn (motive := YamlReader.IsNormal) _ _ ?_ fun reader hreader line _ => hreader.readLine line
  refine ⟨?_, ?_⟩
  · intro entry hentry
    cases hentry
  · intro entry hentry
    cases hentry

theorem isLoaded_of_mem_loadYaml {yaml : Option String} : ∀ entry ∈ loadYaml yaml, IsLoaded entry := by
  rcases yaml with _ | text
  · intro entry hentry
    cases hentry
  · exact isLoaded_of_mem_load

/-! ## Known ids -/

theorem isResolved_of_mem_listedUnder {payload : Value} {key : String} {ids : List String}
    (h : listedUnder payload key = .ok ids) : ∀ id ∈ ids, IsResolved id := by
  obtain ⟨items, -, h⟩ := bind_eq_ok.mp h
  obtain rfl := pure_eq_ok.mp h
  intro id hid
  obtain ⟨item, -, hitem⟩ := List.mem_filterMap.mp hid
  split at hitem
  · extract_lets modelId at hitem
    split at hitem
    · cases hitem
    · obtain rfl := Option.some.inj hitem
      exact ⟨_, rfl⟩
  · cases hitem

theorem isResolved_of_mem_listedIn {file : Option Value} {keys ids : List String}
    (h : listedIn file keys = .ok ids) : ∀ id ∈ ids, IsResolved id := by
  obtain ⟨listed, hlisted, h⟩ := bind_eq_ok.mp h
  obtain rfl := pure_eq_ok.mp h
  intro id hid
  obtain ⟨ids, hids, hid⟩ := List.mem_flatten.mp hid
  obtain ⟨key, -, hkey⟩ := exists_of_mem_mapM_eq_ok hlisted hids
  exact isResolved_of_mem_listedUnder hkey id hid

/-- Every known id is resolved. -/
theorem isResolved_of_mem_known {files : PricingFiles} {ids : List String}
    (h : loadKnownOpenaiModelIds files = .ok ids) : ∀ id ∈ ids, IsResolved id := by
  obtain ⟨outside, houtside, h⟩ := bind_eq_ok.mp h
  obtain rfl := pure_eq_ok.mp h
  obtain ⟨catalog, hcatalog, houtside⟩ := bind_eq_ok.mp houtside
  obtain ⟨overrides, hoverrides, houtside⟩ := bind_eq_ok.mp houtside
  obtain ⟨classifications, hclassifications, houtside⟩ := bind_eq_ok.mp houtside
  obtain rfl := pure_eq_ok.mp houtside
  intro id hid
  simp only [mem_sortedSet, List.mem_append] at hid
  rcases hid with ((hid | hid) | hid) | hid
  · exact isResolved_of_mem_listedIn hcatalog id hid
  · exact isResolved_of_mem_listedIn hoverrides id hid
  · exact isResolved_of_mem_listedIn hclassifications id hid
  · obtain ⟨entry, hentry, rfl⟩ := List.mem_map.mp hid
    exact (isLoaded_of_mem_loadYaml entry hentry).1

/-! ## The models that are written -/

section Build

variable {ids : List String} {existing existing' : List (String × ManualPrices)}
  {entries : List (String × OpenAIPricingEntry)} {overrides : List (String × Dict)} {models : List ManualModel}

/-- The models as the file gives them back. -/
def asReread (models : List ManualModel) : List (String × ManualPrices) :=
  models.map fun model => (model.modelId, model.prices.reread)

theorem build_cons_eq_ok {id : String} : buildManualPricingYamlModels (id :: ids) existing entries overrides = .ok models ↔
    ∃ prices rest, manualPricesOf existing entries overrides id = .ok prices ∧
      buildManualPricingYamlModels ids existing entries overrides = .ok rest ∧ models = ⟨id, prices⟩ :: rest := by
  unfold buildManualPricingYamlModels
  rw [List.mapM_cons, bind_eq_ok]
  rcases manualPricesOf existing entries overrides id with e | prices
  · constructor
    · rintro ⟨_, ⟨⟩, -⟩
    · rintro ⟨_, _, ⟨⟩, -⟩
  · constructor
    · rintro ⟨model, hmodel, h⟩
      obtain ⟨rest, hrest, h⟩ := bind_eq_ok.mp h
      obtain rfl := Except.ok.inj hmodel
      exact ⟨prices, rest, rfl, hrest, (pure_eq_ok.mp h).symm⟩
    · rintro ⟨prices', rest, hprices, hrest, rfl⟩
      obtain rfl := Except.ok.inj hprices
      exact ⟨⟨id, prices⟩, rfl, bind_eq_ok.mpr ⟨rest, hrest, rfl⟩⟩

/-- The models have the ids they were built for. -/
theorem map_modelId_build (h : buildManualPricingYamlModels ids existing entries overrides = .ok models) :
    models.map ManualModel.modelId = ids := by
  induction ids generalizing models with
  | nil =>
      obtain rfl := pure_eq_ok.mp h
      rfl
  | cons id ids ih =>
      obtain ⟨prices, rest, -, hrest, rfl⟩ := build_cons_eq_ok.mp h
      rw [List.map_cons, ih hrest]

/-- The prices a model was built with. -/
theorem mem_build (h : buildManualPricingYamlModels ids existing entries overrides = .ok models) :
    ∀ model ∈ models, manualPricesOf existing entries overrides model.modelId = .ok model.prices := by
  induction ids generalizing models with
  | nil =>
      obtain rfl := pure_eq_ok.mp h
      intro model hmodel
      cases hmodel
  | cons id ids ih =>
      obtain ⟨prices, rest, hprices, hrest, rfl⟩ := build_cons_eq_ok.mp h
      intro model hmodel
      rcases List.mem_cons.mp hmodel with rfl | hmodel
      · exact hprices
      · exact ih hrest model hmodel

/-- Models are built alike from prices that are read back alike. -/
theorem build_of_reread (h : buildManualPricingYamlModels ids existing entries overrides = .ok models)
    (hprices : ∀ model ∈ models, ∃ prices, manualPricesOf existing' entries overrides model.modelId = .ok prices ∧
      prices.reread = model.prices.reread) :
    ∃ models', buildManualPricingYamlModels ids existing' entries overrides = .ok models' ∧
      asReread models' = asReread models := by
  induction ids generalizing models with
  | nil =>
      obtain rfl := pure_eq_ok.mp h
      exact ⟨[], rfl, rfl⟩
  | cons id ids ih =>
      obtain ⟨prices, rest, -, hrest, rfl⟩ := build_cons_eq_ok.mp h
      obtain ⟨prices', hprices', hreread⟩ := hprices ⟨id, prices⟩ List.mem_cons_self
      obtain ⟨rest', hrest', heq⟩ := ih hrest fun model hmodel => hprices model (List.mem_cons_of_mem _ hmodel)
      refine ⟨⟨id, prices'⟩ :: rest', build_cons_eq_ok.mpr ⟨prices', rest', hprices', hrest', rfl⟩, ?_⟩
      have hhead : prices'.reread = prices.reread := hreread
      rw [asReread, List.map_cons, hhead]
      exact congrArg (List.cons _) heq

@[simp] theorem ManualPrices.reread_reread (prices : ManualPrices) : prices.reread.reread = prices.reread := by
  simp [ManualPrices.reread]

theorem reread_eq_none_iff {price : Price} : reread price = none ↔ price.normalize = none := by
  unfold reread
  rcases price.normalize with _ | ⟨q | _ | _ | _⟩ <;> simp

/-- Normal prices are not lost. -/
theorem ManualPrices.AreNormal.any_reread {prices : ManualPrices} (h : prices.AreNormal) (hany : prices.any = true) :
    prices.reread.any = true := by
  have hsome (price : Price) (hprice : price.normalize = price) : (Pricing.reread price).isSome = price.isSome := by
    rw [Bool.eq_iff_iff, Option.isSome_iff_ne_none, Option.isSome_iff_ne_none, Ne, reread_eq_none_iff, hprice]
  obtain ⟨hinput, hcached, houtput⟩ := h
  unfold ManualPrices.any ManualPrices.reread
  rw [hsome _ hinput, hsome _ hcached, hsome _ houtput]
  exact hany

/-- **The prices of a model in the next file** are read back like those in this one. -/
theorem manualPricesOf_reread {id : String} {prices : ManualPrices}
    (hnormal : ∀ entry ∈ existing, entry.2.AreNormal)
    (h : manualPricesOf existing entries overrides id = .ok prices)
    (hget : Assoc.get? existing' id = some prices.reread) :
    ∃ prices', manualPricesOf existing' entries overrides id = .ok prices' ∧ prices'.reread = prices.reread := by
  by_cases hany : prices.reread.any = true
  · refine ⟨prices.reread, ?_, ManualPrices.reread_reread prices⟩
    unfold manualPricesOf
    dsimp only
    rw [hget, Option.getD_some, if_pos hany]
  · refine ⟨prices, ?_, rfl⟩
    unfold manualPricesOf at h ⊢
    dsimp only at h ⊢
    rw [hget, Option.getD_some, if_neg hany]
    split at h
    · next hyaml =>
      obtain rfl := Except.ok.inj h
      rcases hexisting : Assoc.get? existing id with _ | yaml
      · rw [hexisting] at hyaml
        cases hyaml
      · rw [hexisting, Option.getD_some] at hyaml hany
        exact absurd ((hnormal _ (Assoc.mem_of_get? hexisting)).any_reread hyaml) hany
    · exact h

end Build

/-! ## Starting again and again -/

section Runs

variable {decode : Value → Option OpenAIPricingSnapshot} {files : PricingFiles} {models : List ManualModel}

/-- Every id the files name is one that the manual file can hold. -/
def KnownIdsFit (files : PricingFiles) : Prop := ∀ ids, loadKnownOpenaiModelIds files = .ok ids → ∀ id ∈ ids, FitsFile id

/-- The other files are the same. -/
structure SameOthers (files files' : PricingFiles) : Prop where
  catalog : files'.catalog = files.catalog
  overrides : files'.overrides = files.overrides
  classifications : files'.classifications = files.classifications

/-- The manual file gives back the models that were written from these files. -/
structure Synced (files : PricingFiles) (models : List ManualModel) (files' : PricingFiles) : Prop where
  others : SameOthers files files'
  loaded : loadYaml files'.yaml = asReread models

theorem known_of_manualModels (h : manualModels decode files = .ok models) :
    loadKnownOpenaiModelIds files = .ok (models.map ManualModel.modelId) := by
  obtain ⟨ids, hids, hbuild⟩ := bind_eq_ok.mp h
  rw [hids, map_modelId_build hbuild]

/-- The ids of the models that are written. -/
theorem models_of_manualModels (h : manualModels decode files = .ok models) (hfit : KnownIdsFit files) :
    (models.map ManualModel.modelId).Nodup ∧ (∀ model ∈ models, IsResolved model.modelId) ∧
      ∀ model ∈ models, FitsFile model.modelId := by
  have hknown := known_of_manualModels h
  refine ⟨?_, ?_, ?_⟩
  · obtain ⟨outside, -, heq⟩ := bind_eq_ok.mp hknown
    rw [← pure_eq_ok.mp heq]
    exact nodup_sortedSet _
  · intro model hmodel
    exact isResolved_of_mem_known hknown _ (List.mem_map_of_mem hmodel)
  · intro model hmodel
    exact hfit _ hknown _ (List.mem_map_of_mem hmodel)

theorem keys_asReread (models : List ManualModel) : Assoc.keys (asReread models) = models.map ManualModel.modelId := by
  rw [Assoc.keys, asReread, List.map_map]
  rfl

/-- The known ids of files that are synced. -/
theorem known_of_synced {files' : PricingFiles} (h : manualModels decode files = .ok models)
    (hsynced : Synced files models files') :
    loadKnownOpenaiModelIds files' = .ok (models.map ManualModel.modelId) := by
  have hknown := known_of_manualModels h
  obtain ⟨outside, houtside, heq⟩ := bind_eq_ok.mp hknown
  have heq := pure_eq_ok.mp heq
  have houtside' : listedOutside files' = .ok outside := by
    rw [← houtside, listedOutside, listedOutside, hsynced.others.catalog, hsynced.others.overrides,
      hsynced.others.classifications]
  refine bind_eq_ok.mpr ⟨outside, houtside', pure_eq_ok.mpr ?_⟩
  rw [hsynced.loaded, keys_asReread, ← heq]
  refine sortedSet_congr fun id => ?_
  simp only [List.mem_append, mem_sortedSet]
  tauto

@[simp] theorem loadYaml_some (text : String) : loadYaml (some text) = loadManualPricingYaml text := rfl

/-- What a start writes. -/
theorem ensure_of_models (h : manualModels decode files = .ok models) (hne : models ≠ []) :
    ensureManualPricingConfig decode files = { files with yaml := some (saveManualPricingYaml models) } := by
  unfold ensureManualPricingConfig
  rw [h]
  rcases models with _ | ⟨model, rest⟩
  · exact absurd rfl hne
  · rfl

/-- **A start keeps the files synced.** -/
theorem sync_of_synced {files' : PricingFiles} (h : manualModels decode files = .ok models) (hfit : KnownIdsFit files)
    (hsynced : Synced files models files') : Synced files models (ensureManualPricingConfig decode files') := by
  obtain ⟨hnodup, hresolved, hfits⟩ := models_of_manualModels h hfit
  obtain ⟨ids, hids, hbuild⟩ := bind_eq_ok.mp h
  have hdistinct : Assoc.Distinct (asReread models) := by rwa [Assoc.Distinct, keys_asReread]
  have hnormal : ∀ entry ∈ loadYaml files.yaml, entry.2.AreNormal :=
    fun entry hentry => (isLoaded_of_mem_loadYaml entry hentry).2
  have hget : ∀ model ∈ models, Assoc.get? (asReread models) model.modelId = some model.prices.reread := by
    intro model hmodel
    refine Assoc.get?_of_mem hdistinct ?_
    exact List.mem_map_of_mem (f := fun m : ManualModel => (m.modelId, m.prices.reread)) hmodel
  obtain ⟨models', hbuild', hreread⟩ := build_of_reread hbuild fun model hmodel =>
    manualPricesOf_reread hnormal (mem_build hbuild model hmodel) (hget model hmodel)
  have hids' : models'.map ManualModel.modelId = models.map ManualModel.modelId := by
    rw [← keys_asReread, hreread, keys_asReread]
  have hmodels' : manualModels decode files' = .ok models' := by
    have hknown := known_of_synced h hsynced
    refine bind_eq_ok.mpr ⟨_, hknown, ?_⟩
    rw [hsynced.loaded, loadSnapshot, hsynced.others.catalog, hsynced.others.overrides, map_modelId_build hbuild]
    exact hbuild'
  rcases eq_or_ne models' [] with rfl | hne
  · have hsame : ensureManualPricingConfig decode files' = files' := by
      unfold ensureManualPricingConfig
      rw [hmodels']
    rwa [hsame]
  · have hmem : ∀ m ∈ models', ∃ m' ∈ models, m'.modelId = m.modelId := by
      intro m hm
      have hid : m.modelId ∈ models.map ManualModel.modelId := hids' ▸ List.mem_map_of_mem hm
      exact List.mem_map.mp hid
    rw [ensure_of_models hmodels' hne]
    refine ⟨⟨hsynced.others.catalog, hsynced.others.overrides, hsynced.others.classifications⟩, ?_⟩
    rw [loadYaml_some, ← hreread, asReread]
    refine load_save_of_fits (hids' ▸ hnodup) ?_ ?_
    · intro m hm
      obtain ⟨m', hm', heq⟩ := hmem m hm
      exact heq ▸ hresolved m' hm'
    · intro m hm
      obtain ⟨m', hm', heq⟩ := hmem m hm
      exact heq ▸ hfits m' hm'

/-- The first start makes the files synced, or changes nothing. -/
theorem ensure_cases (hfit : KnownIdsFit files) : ensureManualPricingConfig decode files = files ∨
    ∃ models, manualModels decode files = .ok models ∧ Synced files models (ensureManualPricingConfig decode files) := by
  rcases hmodels : manualModels decode files with e | models
  · left
    unfold ensureManualPricingConfig
    rw [hmodels]
  · rcases eq_or_ne models [] with rfl | hne
    · left
      unfold ensureManualPricingConfig
      rw [hmodels]
    · obtain ⟨hnodup, hresolved, hfits⟩ := models_of_manualModels hmodels hfit
      refine .inr ⟨models, rfl, ?_⟩
      rw [ensure_of_models hmodels hne]
      refine ⟨⟨rfl, rfl, rfl⟩, ?_⟩
      rw [loadYaml_some, load_save_of_fits hnodup hresolved hfits]
      rfl

/-- An entry depends on what the files say, and on nothing else. -/
theorem getPricingEntry_congr {isStale : OpenAIPricingSnapshot → Bool} {now : String} {files' : PricingFiles}
    (hcatalog : files'.catalog = files.catalog) (hloaded : loadYaml files'.yaml = loadYaml files.yaml) (modelId : String) :
    getPricingEntry decode isStale now files' modelId = getPricingEntry decode isStale now files modelId := by
  unfold getPricingEntry manualPricingYamlEntry loadSnapshot
  rw [hcatalog, hloaded]

/-- **Starting again** changes no entry. -/
theorem getPricingEntry_ensure {isStale : OpenAIPricingSnapshot → Bool} {now : String} (hfit : KnownIdsFit files) (k : ℕ)
    (modelId : String) :
    getPricingEntry decode isStale now ((ensureManualPricingConfig decode)^[k + 1] files) modelId =
      getPricingEntry decode isStale now (ensureManualPricingConfig decode files) modelId := by
  rcases @ensure_cases decode files hfit with hsame | ⟨models, hmodels, hsynced⟩
  · rw [Function.iterate_fixed hsame, hsame]
  · have hrun : ∀ k, Synced files models ((ensureManualPricingConfig decode)^[k + 1] files) := by
      intro k
      induction k with
      | zero => exact hsynced
      | succ k ih =>
          rw [Function.iterate_succ_apply']
          exact sync_of_synced hmodels hfit ih
    refine getPricingEntry_congr ?_ ?_ modelId
    · rw [(hrun k).others.catalog, hsynced.others.catalog]
    · rw [(hrun k).loaded, hsynced.loaded]

end Runs

/-- Prices that are one decimal. -/
theorem areDecimals_of_input {q : ℚ} (hq : 0 ≤ q) : ({ input := decimal q } : ManualPrices).AreDecimals := by
  intro price hprice x hx
  simp only [List.mem_cons, List.not_mem_nil, or_false] at hprice
  rcases hprice with rfl | rfl | rfl
  · exact ⟨q, hq, (Option.some.inj hx).symm⟩
  · cases hx
  · cases hx

/-- An override of a model with three tags. -/
def taggedFiles : PricingFiles where
  overrides := some (.dict [("models", .list [.dict
    [("model_id", .str "x-latest-latest-latest"), ("pricing_basis", .str "per_1m_tokens"), ("input_price", .int 1)]])])

/-- The price of the override. -/
def taggedPrices : ManualPrices := { input := decimal 1 }

theorem manualModels_taggedFiles :
    manualModels (fun _ => none) taggedFiles = .ok [⟨"x-latest-latest", taggedPrices⟩] := by
  decide +kernel

/-- The first start writes an id that is read back without its last tag. -/
theorem loadYaml_taggedFiles : loadYaml (ensureManualPricingConfig (fun _ => none) taggedFiles).yaml =
    [("x-latest", taggedPrices)] := by
  rw [ensure_of_models manualModels_taggedFiles (by decide), loadYaml_some, load_save (by decide)]
  decide +kernel

/-- The second start knows that id too. -/
theorem loadYaml_taggedFiles_twice :
    loadYaml ((ensureManualPricingConfig fun _ => none)^[2] taggedFiles).yaml =
      [("x", taggedPrices), ("x-latest", taggedPrices)] := by
  have hmodels : manualModels (fun _ => none) (ensureManualPricingConfig (fun _ => none) taggedFiles) =
      .ok [⟨"x-latest", taggedPrices⟩, ⟨"x-latest-latest", taggedPrices⟩] := by
    unfold manualModels loadKnownOpenaiModelIds
    rw [loadYaml_taggedFiles, ensure_of_models manualModels_taggedFiles (by decide)]
    decide +kernel
  rw [Function.iterate_succ_apply', Function.iterate_one, ensure_of_models hmodels (by decide), loadYaml_some,
    load_save (by decide)]
  decide +kernel

/-- A price with eight digits. -/
def seventhDigit : ManualPrices := { input := decimal (12345678 / 10000000) }

end Pricing
end HexeAiNode
