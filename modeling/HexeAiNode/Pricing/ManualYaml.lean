import HexeAiNode.Pricing.Entries
import HexeAiNode.Python.FormatG
import HexeAiNode.Python.Lines

/-!
# The manual pricing file

`_save_manual_pricing_yaml` writes a block of four lines for each model and `_load_manual_pricing_yaml` reads such a
file line by line, with a model id at two blanks and its fields at four.  Three things keep a list of models from
being read back: a price is written with six significant digits, an id is resolved again when it is read, and a line
that looks like a comment or like the heading `models:` is no block.

`readModel_of_headed` is what is read back of one model, `close_readModels` of a list of them, and `mem_keys_readModels`
bounds the ids that any list is read back under.
-/

namespace HexeAiNode
namespace Pricing

open Py

/-- The prices of a model in the file. -/
structure ManualPrices where
  input : Price := none
  cachedInput : Price := none
  output : Price := none
  deriving DecidableEq

/-- A model that is written to the file. -/
structure ManualModel where
  modelId : String
  prices : ManualPrices
  deriving DecidableEq

/-! ## Writing -/

/-- `_yaml_scalar`. -/
def yamlScalar (price : Price) : String :=
  match price.normalize with
  | some x => formatG x
  | none => "null"

/-- The lines of a model. -/
def manualModelLines (model : ManualModel) : List String :=
  let modelId := strip model.modelId
  if modelId = "" then []
  else
    ["  " ++ modelId ++ ":",
      "    Input: " ++ yamlScalar model.prices.input,
      "    Cached input: " ++ yamlScalar model.prices.cachedInput,
      "    Output: " ++ yamlScalar model.prices.output]

/-- The lines in front of the models. -/
def manualPricingHeader : List String :=
  ["# Manual OpenAI pricing overrides used by the node.",
    "# Edit the values below as needed. Use null to leave a field unset.",
    "# Units are USD per 1M tokens.",
    "version: 1",
    "models:"]

/-- The text `_save_manual_pricing_yaml` writes. -/
def saveManualPricingYaml (models : List ManualModel) : String :=
  join "\n" (manualPricingHeader ++ models.flatMap manualModelLines ++ [""])

/-! ## Reading -/

/-- The models read so far, and the one that is being read. -/
structure YamlReader where
  overrides : List (String × ManualPrices) := []
  current : Option (String × ManualPrices) := none

/-- `overrides[current_model_id] = dict(current_fields)`, if a model is being read. -/
def YamlReader.close (reader : YamlReader) : List (String × ManualPrices) :=
  match reader.current with
  | some (modelId, prices) => Assoc.set reader.overrides modelId prices
  | none => reader.overrides

/-- A single or double quotation mark. -/
def isQuote (c : Char) : Bool := c.toNat == 39 || c.toNat == 34

/-- `s.strip("'\"")`. -/
def stripQuotes (s : String) : String := String.ofList ((s.toList.dropWhile isQuote).rdropWhile isQuote)

/-- `s.rstrip()`. -/
def rstrip (s : String) : String := String.ofList (s.toList.rdropWhile isSpace)

/-- A field's value: `null`, or a price. -/
def yamlValue (s : String) : Price := if s = "" ∨ s = "null" ∨ s = "~" then none else normalizePriceText s

/-- The prices with a field set, if the file has such a field. -/
def ManualPrices.setField (prices : ManualPrices) (key : String) (value : Price) : ManualPrices :=
  if key = "input" then { prices with input := value }
  else if key = "cached input" then { prices with cachedInput := value }
  else if key = "output" then { prices with output := value }
  else prices

/-- The line says nothing: it is blank, a comment, the version or the heading. -/
def isIdleLine (stripped : String) : Bool :=
  stripped == "" || startsWith stripped "#" || stripped == "version: 1" || stripped == "models:"

/-- The line begins a model. -/
def isModelLine (line : String) : Bool :=
  startsWith line "  " && !startsWith line "    " && endsWith (strip line) ":"

/-- The id in the line that begins a model. -/
def modelIdOfLine (stripped : String) : String :=
  resolveOpenaiBaseModelId (stripQuotes (strip (String.ofList stripped.toList.dropLast)))

/-- The key and the value of a line, which are separated by its first colon. -/
def splitField (stripped : String) : String × String :=
  (strip (String.ofList (stripped.toList.takeWhile (· != ':'))),
    strip (String.ofList ((stripped.toList.dropWhile (· != ':')).drop 1)))

/-- One line of `_load_manual_pricing_yaml`. -/
def YamlReader.readLine (reader : YamlReader) (rawLine : String) : YamlReader :=
  let line := rstrip rawLine
  let stripped := strip line
  if isIdleLine stripped then reader
  else if isModelLine line then { overrides := reader.close, current := some (modelIdOfLine stripped, {}) }
  else
    match reader.current with
    | none => reader
    | some (modelId, prices) =>
      if !startsWith line "    " || !contains stripped ":" then reader
      else
        let (key, value) := splitField stripped
        { reader with current := some (modelId, prices.setField (lower key) (yamlValue value)) }

/-- `_load_manual_pricing_yaml`, on the text of the file. -/
def loadManualPricingYaml (text : String) : List (String × ManualPrices) :=
  ((splitLines text).foldl YamlReader.readLine {}).close

example : loadManualPricingYaml "models:\n  gpt-4o:\n    Input: $2.5\n    Output: ~\n" =
    [("gpt-4o", { input := some (.finite (5 / 2)) })] := by decide +kernel

/-! ## A price is read back -/

/-- What is read back of a price: nothing of a negative one, else the number rounded to six digits. -/
def reread (price : Price) : Price :=
  match price.normalize with
  | some (.finite q) => some (Value.floatOfRat (roundSix q))
  | other => other

section Scalars

variable {price : Price} {x : FloatVal} {q : ℚ}

theorem nonNegativePrice_eq_some {y : FloatVal} : nonNegativePrice x = some y ↔ isBelowZero x = false ∧ y = x := by
  unfold nonNegativePrice
  split
  · rename_i h
    simp [h]
  · rename_i h
    simp [h, eq_comm]

/-- A normalized price is not negative. -/
theorem normalize_eq_some (h : price.normalize = some x) : isBelowZero x = false := by
  obtain ⟨y, -, hy⟩ := Option.bind_eq_some_iff.mp h
  obtain ⟨hbelow, rfl⟩ := nonNegativePrice_eq_some.mp hy
  exact hbelow

theorem floatOverflow_pos : (0 : ℚ) < Value.floatOverflow := by
  have hlt : (2 : ℚ) ^ 970 < 2 ^ 1024 := pow_lt_pow_right₀ (by norm_num) (by norm_num)
  exact sub_pos.mpr hlt

/-- A number that is not negative is a float, or infinite. -/
theorem floatOfRat_of_nonneg (h : 0 ≤ q) :
    Value.floatOfRat q = if Value.floatOverflow ≤ q then .posInf else .finite q := by
  have hpos := floatOverflow_pos
  unfold Value.floatOfRat
  rw [if_neg (by linarith : ¬q ≤ -Value.floatOverflow)]

theorem floatOfRat_not_below (h : 0 ≤ q) : isBelowZero (Value.floatOfRat q) = false := by
  rw [floatOfRat_of_nonneg h]
  split
  · rfl
  · simpa [isBelowZero] using h

/-- The characters of a scalar. -/
theorem isSpace_of_mem_yamlScalar {c : Char} (h : c ∈ (yamlScalar price).toList) : isSpace c = false := by
  unfold yamlScalar at h
  rcases hprice : price.normalize with _ | ⟨q | _ | _ | _⟩
  · rw [hprice] at h
    have hall : ∀ d ∈ "null".toList, isSpace d = false := forall_mem_of_all (by decide)
    exact hall c h
  · rw [hprice] at h
    have hq : 0 ≤ q := by simpa [isBelowZero] using normalize_eq_some hprice
    exact isSpace_of_mem_numeralChars c (mem_numeralChars_of_mem_formatG hq h)
  · rw [hprice] at h
    have hall : ∀ d ∈ "inf".toList, isSpace d = false := forall_mem_of_all (by decide)
    exact hall c h
  · cases normalize_eq_some hprice
  · rw [hprice] at h
    have hall : ∀ d ∈ "nan".toList, isSpace d = false := forall_mem_of_all (by decide)
    exact hall c h

theorem yamlScalar_ne_empty (price : Price) : yamlScalar price ≠ "" := by
  unfold yamlScalar
  rcases hprice : price.normalize with _ | ⟨q | _ | _ | _⟩
  · decide
  · have hq : 0 ≤ q := by simpa [isBelowZero] using normalize_eq_some hprice
    exact formatG_ne_empty hq
  · decide
  · cases normalize_eq_some hprice
  · decide

/-- A text without white space is stripped. -/
theorem strip_of_noSpace {s : String} (h : ∀ c ∈ s.toList, isSpace c = false) : strip s = s :=
  strip_eq_self ⟨fun c hc => h c (List.mem_of_mem_head? hc), fun c hc => h c (List.mem_of_mem_getLast? hc)⟩

/-- The text of a number is read as a price. -/
theorem normalizePriceText_formatG (hq : 0 ≤ q) :
    normalizePriceText (formatG (.finite q)) = some (Value.floatOfRat (roundSix q)) := by
  have hstrip : strip (formatG (.finite q)) = formatG (.finite q) :=
    strip_of_noSpace fun c hc => isSpace_of_mem_numeralChars c (mem_numeralChars_of_mem_formatG hq hc)
  have hmem : ∀ c ∉ numeralChars, c ∉ (formatG (.finite q)).toList :=
    fun c hc h => hc (mem_numeralChars_of_mem_formatG hq h)
  rw [normalizePriceText, hstrip, if_neg (formatG_ne_empty hq), replace_of_not_mem "$" "" (hmem '$' (by decide)) rfl,
    replace_of_not_mem "," "" (hmem ',' (by decide)) rfl, parseFloat_formatG hq, Option.bind_some, nonNegativePrice,
    floatOfRat_not_below (roundSix_nonneg q)]
  rfl

/-- **A scalar is read back as the price rounded to six digits.** -/
theorem yamlValue_yamlScalar (price : Price) : yamlValue (yamlScalar price) = reread price := by
  unfold yamlScalar reread
  rcases hprice : price.normalize with _ | ⟨q | _ | _ | _⟩
  · rfl
  · have hq : 0 ≤ q := by simpa [isBelowZero] using normalize_eq_some hprice
    have hmem : ∀ c ∉ numeralChars, c ∉ (formatG (.finite q)).toList :=
      fun c hc h => hc (mem_numeralChars_of_mem_formatG hq h)
    dsimp only
    rw [yamlValue, if_neg, normalizePriceText_formatG hq]
    rintro (h | h | h)
    · exact formatG_ne_empty hq h
    · exact hmem 'n' (by decide) (by rw [h]; decide)
    · exact hmem '~' (by decide) (by rw [h]; decide)
  · decide +kernel
  · cases normalize_eq_some hprice
  · decide +kernel

/-- A price that is not negative is its own normal form. -/
theorem Price.normalize_of_not_below (h : isBelowZero x = false) : Price.normalize (some x) = some x := by
  rw [Price.normalize, Option.bind_some, nonNegativePrice, h]
  rfl

theorem reread_finite (hq : 0 ≤ q) : reread (some (.finite q)) = some (Value.floatOfRat (roundSix q)) := by
  rw [reread, Price.normalize_of_not_below (by simpa [isBelowZero] using hq)]

/-- Reading back a second time changes nothing. -/
@[simp] theorem reread_reread (price : Price) : reread (reread price) = reread price := by
  rcases hprice : price.normalize with _ | ⟨q | _ | _ | _⟩
  · have hread : reread price = none := by rw [reread, hprice]
    rw [hread]
    rfl
  · have hq : 0 ≤ q := by simpa [isBelowZero] using normalize_eq_some hprice
    have hsix := roundSix_nonneg q
    have hread : reread price = some (Value.floatOfRat (roundSix q)) := by rw [reread, hprice]
    rw [hread, floatOfRat_of_nonneg hsix]
    split
    · rfl
    · next hlow => rw [reread_finite hsix, roundSix_roundSix hq, floatOfRat_of_nonneg hsix, if_neg hlow]
  · have hread : reread price = some .posInf := by rw [reread, hprice]
    rw [hread]
    rfl
  · cases normalize_eq_some hprice
  · have hread : reread price = some .nan := by rw [reread, hprice]
    rw [hread]
    rfl

/-- Which prices are read back as they are. -/
theorem reread_eq_iff (hq : 0 ≤ q) :
    reread (some (.finite q)) = some (.finite q) ↔ HasSixDigits q ∧ q < Value.floatOverflow := by
  have hsix := roundSix_nonneg q
  rw [reread_finite hq, floatOfRat_of_nonneg hsix, ← roundSix_eq_iff hq]
  constructor
  · intro h
    split at h
    · cases h
    · next hlow =>
      have heq : roundSix q = q := FloatVal.finite.inj (Option.some.inj h)
      rw [heq] at hlow
      exact ⟨heq, not_le.mp hlow⟩
  · rintro ⟨heq, hlow⟩
    rw [heq, if_neg (not_le.mpr hlow)]

end Scalars

/-! ## A line is read back -/

section Lines

variable {s t label modelId : String} {reader : YamlReader}

theorem rstrip_eq_self (h : ∀ c ∈ s.toList.getLast?, isSpace c = false) : rstrip s = s := by
  have hlist : s.toList.rdropWhile isSpace = s.toList := by
    rw [List.rdropWhile_eq_self_iff]
    intro hne
    rw [h _ (List.getLast?_eq_some_getLast hne ▸ rfl)]
    exact Bool.false_ne_true
  rw [rstrip, hlist, String.ofList_toList]

/-- White space in front is stripped. -/
theorem strip_append (h : ∀ c ∈ s.toList, isSpace c = true) : strip (s ++ t) = strip t := by
  rw [strip, strip, String.toList_append, List.dropWhile_append_of_pos h]

/-- A line that begins with another character than those of the idle lines says something. -/
theorem isIdleLine_eq_false {c : Char} {cs : List Char} (h : s.toList = c :: cs) (hc : c ∉ ['#', 'v', 'm']) :
    isIdleLine s = false := by
  have hne : ∀ t : String, (∀ d ∈ t.toList.head?, d ≠ c) → t.toList ≠ [] → (s == t) = false := by
    intro t hhead hnil
    rw [beq_eq_false_iff_ne]
    rintro rfl
    exact hhead c (by rw [h]; rfl) rfl
  have hhash : startsWith s "#" = false := by
    rw [← Bool.not_eq_true, startsWith_iff, h]
    intro hprefix
    obtain ⟨rest, hrest⟩ := hprefix
    exact hc (by rw [← (List.cons.inj hrest).1]; decide)
  have hempty : (s == "") = false := by
    rw [beq_eq_false_iff_ne]
    rintro rfl
    cases h
  unfold isIdleLine
  rw [hempty, hhash, hne "version: 1" _ (by decide), hne "models:" _ (by decide)]
  · rfl
  · rintro d hd rfl
    obtain rfl : 'm' = d := Option.some.inj hd
    exact hc (by decide)
  · rintro d hd rfl
    obtain rfl : 'v' = d := Option.some.inj hd
    exact hc (by decide)

/-- The labels of the fields. -/
def fieldLabels : List String := ["Input", "Cached input", "Output"]

theorem fieldLabels_spec : ∀ label ∈ fieldLabels, (∃ c ∈ label.toList.head?, c ∉ ['#', 'v', 'm'] ∧ isSpace c = false) ∧
    ':' ∉ label.toList ∧ strip label = label := by
  intro label hlabel
  simp only [fieldLabels, List.mem_cons, List.not_mem_nil, or_false] at hlabel
  rcases hlabel with rfl | rfl | rfl
  · exact ⟨⟨'I', by decide⟩, by decide⟩
  · exact ⟨⟨'C', by decide⟩, by decide⟩
  · exact ⟨⟨'O', by decide⟩, by decide⟩

/-- A label and a value are separated again. -/
theorem splitField_field (hlabel : label ∈ fieldLabels) (ht : ∀ c ∈ t.toList, isSpace c = false) :
    splitField (label ++ ": " ++ t) = (label, t) := by
  obtain ⟨-, hcolon, hstrip⟩ := fieldLabels_spec label hlabel
  have hlist : (label ++ ": " ++ t).toList = label.toList ++ ':' :: ' ' :: t.toList := by simp
  have hall : ∀ c ∈ label.toList, (c != ':') = true := by
    rintro c hc
    rw [bne_iff_ne]
    rintro rfl
    exact hcolon hc
  have hvalue : strip (" " ++ t) = t := by
    rw [strip_append (forall_mem_of_all (by decide))]
    exact strip_of_noSpace ht
  rw [splitField, hlist, List.takeWhile_append_of_pos hall, List.dropWhile_append_of_pos hall]
  simp [hstrip, hvalue]

/-- The line of a field. -/
def fieldLine (label t : String) : String := "    " ++ (label ++ ": " ++ t)

/-- **A field is read back.** -/
theorem readLine_field (hlabel : label ∈ fieldLabels) (hne : t ≠ "") (ht : ∀ c ∈ t.toList, isSpace c = false)
    (reader : YamlReader) : reader.readLine (fieldLine label t) = { reader with
      current := reader.current.map fun m => (m.1, m.2.setField (lower label) (yamlValue t)) } := by
  obtain ⟨⟨c, hc, hfirst, hspace⟩, -⟩ := fieldLabels_spec label hlabel
  obtain ⟨cs, hcs⟩ : ∃ cs, label.toList = c :: cs := by
    rcases hlist : label.toList with _ | ⟨d, cs⟩
    · rw [hlist] at hc
      cases hc
    · rw [hlist] at hc
      exact ⟨cs, by rw [Option.some.inj hc]⟩
  have hlast : ∀ d ∈ (label ++ ": " ++ t).toList.getLast?, isSpace d = false := by
    intro d hd
    have htne : t.toList ≠ [] := fun h => hne (String.toList_eq_nil_iff.mp h)
    rw [String.toList_append, List.getLast?_append_of_ne_nil _ htne] at hd
    exact ht d (List.mem_of_mem_getLast? hd)
  have htrimmed : strip (label ++ ": " ++ t) = label ++ ": " ++ t := by
    refine strip_eq_self ⟨?_, hlast⟩
    intro d hd
    obtain rfl : c = d := by simpa [hcs] using hd
    exact hspace
  have hline : rstrip (fieldLine label t) = fieldLine label t := by
    refine rstrip_eq_self ?_
    intro d hd
    rw [fieldLine, String.toList_append, List.getLast?_append_of_ne_nil _ (by simp [hcs])] at hd
    exact hlast d hd
  have hstrip : strip (fieldLine label t) = label ++ ": " ++ t := by
    rw [fieldLine, strip_append (forall_mem_of_all (by decide)), htrimmed]
  have hfour : startsWith (fieldLine label t) "    " = true := by
    rw [startsWith_iff, fieldLine, String.toList_append]
    exact List.prefix_append _ _
  have hmodel : isModelLine (fieldLine label t) = false := by
    rw [isModelLine, hfour]
    simp
  have hcolon : contains (label ++ ": " ++ t) ":" = true := by
    rw [contains_iff]
    exact ⟨label.toList, ' ' :: t.toList, by simp⟩
  have hbody : (label ++ ": " ++ t).toList = c :: (cs ++ (": " ++ t).toList) := by simp [hcs]
  have hidle : isIdleLine (label ++ ": " ++ t) = false := isIdleLine_eq_false hbody hfirst
  unfold YamlReader.readLine
  dsimp only
  rw [hline, hstrip, hidle, hmodel, hfour, hcolon, splitField_field hlabel ht]
  obtain ⟨overrides, _ | ⟨modelId, prices⟩⟩ := reader
  · rfl
  · rfl

/-! ## A model is read back -/

/-- The id that is read back of one that was written. -/
def readId (modelId : String) : String := resolveOpenaiBaseModelId (stripQuotes (strip modelId))

/-- The first line of the model is read as that of a model. -/
def IsHeaded (modelId : String) : Prop :=
  strip modelId ≠ "" ∧ startsWith (strip modelId) "#" = false ∧ strip modelId ≠ "models"

instance (modelId : String) : Decidable (IsHeaded modelId) := by
  unfold IsHeaded
  infer_instance

theorem exists_head (h : strip modelId ≠ "") :
    ∃ c cs, (strip modelId).toList = c :: cs ∧ isSpace c = false := by
  rcases hlist : (strip modelId).toList with _ | ⟨c, cs⟩
  · exact absurd (String.toList_eq_nil_iff.mp hlist) h
  · exact ⟨c, cs, rfl, (trimmed_strip modelId).1 c (by rw [hlist]; rfl)⟩

theorem getLast?_append_colon (s : String) : (s ++ ":").toList.getLast? = some ':' := by
  rw [String.toList_append]
  exact List.getLast?_concat

/-- The line of a headed model says something. -/
theorem isIdleLine_header (h : IsHeaded modelId) : isIdleLine (strip modelId ++ ":") = false := by
  obtain ⟨hne, hhash, hmodels⟩ := h
  obtain ⟨c, cs, hcs, -⟩ := exists_head hne
  have hempty : (strip modelId ++ ":" == "") = false := by
    rw [beq_eq_false_iff_ne]
    intro heq
    have hlast := getLast?_append_colon (strip modelId)
    rw [heq] at hlast
    cases hlast
  have hstart : startsWith (strip modelId ++ ":") "#" = false := by
    rw [startsWith, hcs] at hhash
    rw [startsWith, String.toList_append, hcs]
    simpa [List.isPrefixOf] using hhash
  have hversion : (strip modelId ++ ":" == "version: 1") = false := by
    rw [beq_eq_false_iff_ne]
    intro heq
    have hlast := getLast?_append_colon (strip modelId)
    rw [heq] at hlast
    revert hlast
    decide
  have hheading : (strip modelId ++ ":" == "models:") = false := by
    rw [beq_eq_false_iff_ne]
    intro heq
    have hlists : (strip modelId).toList ++ [':'] = "models".toList ++ [':'] := by
      simpa using congrArg String.toList heq
    exact hmodels (String.toList_injective (List.append_cancel_right hlists))
  rw [isIdleLine, hempty, hstart, hversion, hheading]
  rfl

/-- A line that seems to be a comment or the heading says nothing. -/
theorem isIdleLine_of_not_headed (hne : strip modelId ≠ "") (h : ¬IsHeaded modelId) :
    isIdleLine (strip modelId ++ ":") = true := by
  have hcases : startsWith (strip modelId) "#" = true ∨ strip modelId = "models" := by
    by_contra hnot
    rw [not_or, Bool.not_eq_true] at hnot
    exact h ⟨hne, hnot.1, hnot.2⟩
  unfold isIdleLine
  rcases hcases with hhash | hmodels
  · have hstart : startsWith (strip modelId ++ ":") "#" = true := by
      rw [startsWith_iff] at hhash ⊢
      rw [String.toList_append]
      exact hhash.trans (List.prefix_append _ _)
    simp [hstart]
  · rw [hmodels]
    decide

/-- The first line of a model. -/
def headerLine (modelId : String) : String := "  " ++ strip modelId ++ ":"

theorem strip_headerLine (hne : strip modelId ≠ "") :
    rstrip (headerLine modelId) = headerLine modelId ∧ strip (headerLine modelId) = strip modelId ++ ":" := by
  obtain ⟨c, cs, hcs, hspace⟩ := exists_head hne
  have hlast : ∀ s : String, ∀ d ∈ (s ++ ":").toList.getLast?, isSpace d = false := by
    intro s d hd
    rw [getLast?_append_colon] at hd
    obtain rfl := Option.some.inj hd
    decide
  refine ⟨rstrip_eq_self (hlast _), ?_⟩
  rw [headerLine, String.append_assoc, strip_append (forall_mem_of_all (by decide))]
  refine strip_eq_self ⟨?_, hlast _⟩
  intro d hd
  obtain rfl : c = d := by simpa [hcs] using hd
  exact hspace

/-- The first line of a headed model is read as such. -/
theorem readLine_header (h : IsHeaded modelId) (reader : YamlReader) :
    reader.readLine (headerLine modelId) = { overrides := reader.close, current := some (readId modelId, {}) } := by
  have hidle := isIdleLine_header h
  obtain ⟨c, cs, hcs, hspace⟩ := exists_head h.1
  obtain ⟨hline, hstrip⟩ := strip_headerLine h.1
  have hlist : (headerLine modelId).toList = ' ' :: ' ' :: c :: (cs ++ [':']) := by
    rw [headerLine, String.toList_append, String.toList_append, hcs]
    rfl
  have htwo : startsWith (headerLine modelId) "  " = true := by
    rw [startsWith, hlist]
    rfl
  have hfour : startsWith (headerLine modelId) "    " = false := by
    have hc : (' ' == c) = false := by
      rw [beq_eq_false_iff_ne]
      rintro rfl
      cases hspace
    rw [startsWith, hlist]
    simp [List.isPrefixOf, hc]
  have hends : endsWith (strip modelId ++ ":") ":" = true := by
    rw [endsWith, List.isSuffixOf_iff_suffix, String.toList_append]
    exact List.suffix_append _ _
  have hmodel : isModelLine (headerLine modelId) = true := by
    rw [isModelLine, htwo, hfour, hstrip, hends]
    rfl
  have hid : modelIdOfLine (strip modelId ++ ":") = readId modelId := by
    have hdrop : String.ofList (strip modelId ++ ":").toList.dropLast = strip modelId := by
      rw [String.toList_append, show (":" : String).toList = [':'] from rfl, List.dropLast_concat, String.ofList_toList]
    rw [modelIdOfLine, hdrop, strip_strip]
    rfl
  unfold YamlReader.readLine
  dsimp only
  rw [hline, hstrip, hidle, hmodel, hid]
  rfl

/-- The prices that are read back. -/
def ManualPrices.reread (prices : ManualPrices) : ManualPrices where
  input := Pricing.reread prices.input
  cachedInput := Pricing.reread prices.cachedInput
  output := Pricing.reread prices.output

/-- A field of a price is read back. -/
theorem readLine_price (hlabel : label ∈ fieldLabels) (price : Price) (reader : YamlReader) :
    reader.readLine (fieldLine label (yamlScalar price)) = { reader with
      current := reader.current.map fun m => (m.1, m.2.setField (lower label) (reread price)) } := by
  rw [readLine_field hlabel (yamlScalar_ne_empty price) (fun c hc => isSpace_of_mem_yamlScalar hc), yamlValue_yamlScalar]

theorem manualModelLines_eq (model : ManualModel) (hne : strip model.modelId ≠ "") :
    manualModelLines model = [headerLine model.modelId,
      fieldLine "Input" (yamlScalar model.prices.input),
      fieldLine "Cached input" (yamlScalar model.prices.cachedInput),
      fieldLine "Output" (yamlScalar model.prices.output)] := by
  rw [manualModelLines, if_neg hne]
  simp [fieldLine, headerLine, ← String.append_assoc]

theorem lower_fieldLabels : lower "Input" = "input" ∧ lower "Cached input" = "cached input" ∧
    lower "Output" = "output" := by
  decide

/-- Setting all fields. -/
theorem setField_all (a b c : Price) :
    (((({} : ManualPrices).setField "input" a).setField "cached input" b).setField "output" c) = ⟨a, b, c⟩ := by
  simp [ManualPrices.setField]

/-- The reader after the lines of a model. -/
def readModel (reader : YamlReader) (model : ManualModel) : YamlReader :=
  (manualModelLines model).foldl YamlReader.readLine reader

/-- **The lines of a headed model are read back.** -/
theorem readModel_of_headed (model : ManualModel) (h : IsHeaded model.modelId) (reader : YamlReader) :
    readModel reader model =
      { overrides := reader.close, current := some (readId model.modelId, model.prices.reread) } := by
  rw [readModel, manualModelLines_eq model h.1]
  simp only [List.foldl_cons, List.foldl_nil]
  rw [readLine_header h, readLine_price (by decide), readLine_price (by decide), readLine_price (by decide), lower_fieldLabels.1,
    lower_fieldLabels.2.1, lower_fieldLabels.2.2]
  simp only [Option.map_some, setField_all]
  rfl

/-! ## A file is read back -/

/-- The keys a reader holds. -/
def YamlReader.keys (reader : YamlReader) : List String := Assoc.keys reader.close

theorem YamlReader.mem_keys_iff {reader : YamlReader} {key : String} :
    key ∈ reader.keys ↔ key ∈ Assoc.keys reader.overrides ∨ ∃ m ∈ reader.current, m.1 = key := by
  obtain ⟨overrides, _ | ⟨modelId, prices⟩⟩ := reader
  · simp [YamlReader.keys, YamlReader.close]
  · simp [YamlReader.keys, YamlReader.close, Assoc.mem_keys_set, or_comm, eq_comm]

/-- **What one line does**: nothing, it begins a model, or it changes the prices of the model that is being read. -/
theorem readLine_cases (reader : YamlReader) (line : String) : reader.readLine line = reader ∨
    (isIdleLine (strip (rstrip line)) = false ∧ isModelLine (rstrip line) = true ∧
      reader.readLine line =
        { overrides := reader.close, current := some (modelIdOfLine (strip (rstrip line)), {}) }) ∨
    ∃ modelId prices key value, reader.current = some (modelId, prices) ∧
      reader.readLine line = { reader with current := some (modelId, prices.setField key (yamlValue value)) } := by
  unfold YamlReader.readLine
  extract_lets line stripped
  split
  · exact .inl rfl
  · next hidle =>
    split
    · next hmodel => exact .inr (.inl ⟨Bool.not_eq_true _ ▸ hidle, hmodel, rfl⟩)
    · split
      · exact .inl rfl
      · next modelId prices hcurrent =>
        split
        · exact .inl rfl
        · exact .inr (.inr ⟨modelId, prices, _, _, hcurrent, rfl⟩)

/-- What one line adds to the keys: the id of a model, and nothing else. -/
theorem mem_keys_readLine {key line : String} (h : key ∈ (reader.readLine line).keys) :
    key ∈ reader.keys ∨ key = modelIdOfLine (strip (rstrip line)) ∧ isIdleLine (strip (rstrip line)) = false ∧
      isModelLine (rstrip line) = true := by
  rcases readLine_cases reader line with heq | ⟨hidle, hmodel, heq⟩ | ⟨modelId, prices, name, value, hcurrent, heq⟩
  · exact .inl (heq ▸ h)
  · rw [heq] at h
    rcases YamlReader.mem_keys_iff.mp h with hold | ⟨m, hm, hkey⟩
    · exact .inl hold
    · rw [Option.mem_some_iff] at hm
      rw [← hm] at hkey
      exact .inr ⟨hkey.symm, hidle, hmodel⟩
  · left
    rw [heq, YamlReader.mem_keys_iff] at h
    rw [YamlReader.mem_keys_iff, hcurrent]
    simpa using h

/-- The lines of a model that is not headed add no key. -/
theorem mem_keys_of_not_headed {model : ManualModel} {key : String} (h : ¬IsHeaded model.modelId)
    (hkey : key ∈ (readModel reader model).keys) : key ∈ reader.keys := by
  unfold readModel at hkey
  by_cases hne : strip model.modelId = ""
  · have hnone : manualModelLines model = [] := if_pos hne
    rw [hnone] at hkey
    exact hkey
  · have hidle : reader.readLine (headerLine model.modelId) = reader := by
      obtain ⟨hline, hstrip⟩ := strip_headerLine hne
      unfold YamlReader.readLine
      dsimp only
      rw [hline, hstrip, isIdleLine_of_not_headed hne h]
      rfl
    have hfield (label : String) (hlabel : label ∈ fieldLabels) (price : Price) (r : YamlReader)
        (hr : key ∈ (r.readLine (fieldLine label (yamlScalar price))).keys) : key ∈ r.keys := by
      rw [readLine_price hlabel, YamlReader.mem_keys_iff] at hr
      rw [YamlReader.mem_keys_iff]
      simpa using hr
    rw [manualModelLines_eq model hne] at hkey
    rw [List.foldl_cons, hidle, List.foldl_cons, List.foldl_cons, List.foldl_cons, List.foldl_nil] at hkey
    have hcached := hfield "Output" (by decide) _ _ hkey
    have hinput := hfield "Cached input" (by decide) _ _ hcached
    exact hfield "Input" (by decide) _ _ hinput

end Lines

/-- The reader after the lines of some models. -/
def readModels (models : List ManualModel) (reader : YamlReader) : YamlReader :=
  models.foldl readModel reader

/-- **The keys that are read** are the ids of headed models. -/
theorem mem_keys_readModels {models : List ManualModel} {reader : YamlReader} {key : String}
    (h : key ∈ (readModels models reader).keys) :
    key ∈ reader.keys ∨ ∃ model ∈ models, IsHeaded model.modelId ∧ key = readId model.modelId := by
  induction models generalizing reader with
  | nil => exact .inl h
  | cons model models ih =>
      rcases ih h with hold | ⟨m, hm, hheaded, hkey⟩
      · by_cases hheaded : IsHeaded model.modelId
        · rw [readModel_of_headed model hheaded, YamlReader.mem_keys_iff] at hold
          rcases hold with hold | ⟨m, hm, hkey⟩
          · exact .inl hold
          · rw [Option.mem_some_iff] at hm
            rw [← hm] at hkey
            exact .inr ⟨model, List.mem_cons_self, hheaded, hkey.symm⟩
        · exact .inl (mem_keys_of_not_headed hheaded hold)
      · exact .inr ⟨m, List.mem_cons_of_mem _ hm, hheaded, hkey⟩

/-- Models that are read back under their own ids are read back one after the other. -/
theorem close_readModels {models : List ManualModel} {reader : YamlReader}
    (h : ∀ model ∈ models, IsHeaded model.modelId ∧ readId model.modelId = model.modelId)
    (hnodup : (models.map ManualModel.modelId).Nodup) (hnew : ∀ model ∈ models, model.modelId ∉ reader.keys) :
    (readModels models reader).close =
      reader.close ++ models.map fun model => (model.modelId, model.prices.reread) := by
  induction models generalizing reader with
  | nil => simp [readModels]
  | cons model models ih =>
      obtain ⟨hheaded, hid⟩ := h model List.mem_cons_self
      rw [List.map_cons, List.nodup_cons] at hnodup
      obtain ⟨hmodel, hnodup⟩ := hnodup
      have hnone : Assoc.get? reader.close model.modelId = none :=
        Assoc.get?_eq_none_iff.mpr (hnew model List.mem_cons_self)
      have hread := readModel_of_headed model hheaded reader
      have hclose : (readModel reader model).close =
          reader.close ++ [(model.modelId, model.prices.reread)] := by
        rw [hread, hid, YamlReader.close]
        exact Assoc.set_of_get?_eq_none _ hnone
      have hstep : readModels (model :: models) reader =
          readModels models (readModel reader model) := rfl
      have hnew' : ∀ m ∈ models, m.modelId ∉ (readModel reader model).keys := by
        intro m hm hmem
        rw [YamlReader.keys, hclose, Assoc.keys, List.map_append, List.mem_append] at hmem
        rcases hmem with hold | heq
        · exact hnew m (List.mem_cons_of_mem _ hm) hold
        · refine hmodel (List.mem_map.mpr ⟨m, hm, ?_⟩)
          simpa using heq
      rw [hstep, ih (fun m hm => h m (List.mem_cons_of_mem _ hm)) hnodup hnew', hclose]
      simp

/-- No line break in a text. -/
def IsOneLine (s : String) : Prop := ∀ c ∈ s.toList, isLineBreak c = false

instance (s : String) : Decidable (IsOneLine s) :=
  decidable_of_iff ((s.toList.all fun c => !isLineBreak c) = true) (by simp [IsOneLine])

/-- The lines of an id of one line have no line breaks. -/
theorem isOneLine_of_mem_manualModelLines {model : ManualModel} (h : IsOneLine model.modelId) {line : String}
    (hline : line ∈ manualModelLines model) : IsOneLine line := by
  have hscalar (price : Price) {c : Char} (hc : c ∈ (yamlScalar price).toList) : isLineBreak c = false := by
    by_contra hbreak
    rw [Bool.not_eq_false] at hbreak
    have hspace := isSpace_of_isLineBreak hbreak
    rw [isSpace_of_mem_yamlScalar hc] at hspace
    cases hspace
  have happend (p t : String) (hp : IsOneLine p) (ht : IsOneLine t) : IsOneLine (p ++ t) := by
    intro c hc
    rw [String.toList_append, List.mem_append] at hc
    rcases hc with hc | hc
    · exact hp c hc
    · exact ht c hc
  have hstrip : IsOneLine (strip model.modelId) := fun c hc => h c ((strip_sublist _).subset hc)
  unfold manualModelLines at hline
  extract_lets modelId at hline
  split at hline
  · cases hline
  · simp only [List.mem_cons, List.not_mem_nil, or_false] at hline
    rcases hline with rfl | rfl | rfl | rfl
    · exact happend _ _ (happend _ _ (by decide) hstrip) (by decide)
    · exact happend _ _ (by decide) fun c hc => hscalar _ hc
    · exact happend _ _ (by decide) fun c hc => hscalar _ hc
    · exact happend _ _ (by decide) fun c hc => hscalar _ hc

/-- The lines in front of the models say nothing. -/
theorem foldl_readLine_header (reader : YamlReader) :
    manualPricingHeader.foldl YamlReader.readLine reader = reader := by
  have hidle : ∀ line ∈ manualPricingHeader, isIdleLine (strip (rstrip line)) = true := by decide +kernel
  have hread : ∀ line ∈ manualPricingHeader, reader.readLine line = reader := by
    intro line hline
    unfold YamlReader.readLine
    dsimp only
    rw [hidle line hline]
    rfl
  generalize manualPricingHeader = lines at hread
  induction lines with
  | nil => rfl
  | cons line lines ih =>
      rw [List.foldl_cons, hread line List.mem_cons_self]
      exact ih fun l hl => hread l (List.mem_cons_of_mem _ hl)

/-- **What is loaded of a file that was saved.** -/
theorem load_save {models : List ManualModel} (h : ∀ model ∈ models, IsOneLine model.modelId) :
    loadManualPricingYaml (saveManualPricingYaml models) = (readModels models {}).close := by
  have hheader : ∀ line ∈ manualPricingHeader, IsOneLine line := by decide +kernel
  have hlines : ∀ line ∈ manualPricingHeader ++ models.flatMap manualModelLines, IsOneLine line := by
    intro line hline
    rcases List.mem_append.mp hline with hline | hline
    · exact hheader line hline
    · obtain ⟨model, hmodel, hline⟩ := List.mem_flatMap.mp hline
      exact isOneLine_of_mem_manualModelLines (h model hmodel) hline
  rw [loadManualPricingYaml, saveManualPricingYaml, splitLines_join hlines, List.foldl_append, foldl_readLine_header,
    List.foldl_flatMap]
  rfl

theorem stripQuotes_sublist (s : String) : (stripQuotes s).toList.Sublist s.toList := by
  rw [stripQuotes, String.toList_ofList]
  exact (List.rdropWhile_prefix _ _).sublist.trans (List.dropWhile_suffix _).sublist

theorem rstrip_sublist (s : String) : (rstrip s).toList.Sublist s.toList := by
  rw [rstrip, String.toList_ofList]
  exact (List.rdropWhile_prefix _ _).sublist

/-- The id in a line has no line break. -/
theorem isOneLine_modelIdOfLine {s : String} (h : IsOneLine s) : IsOneLine (modelIdOfLine s) := by
  intro c hc
  by_contra hbreak
  rw [Bool.not_eq_false] at hbreak
  have hc := (sublist_resolve _).subset hc
  rw [stripLower, lower, String.toList_ofList] at hc
  obtain ⟨d, hd, hcd⟩ := List.mem_flatMap.mp hc
  obtain rfl := eq_of_mem_lowerChar_of_isSpace hcd (isSpace_of_isLineBreak hbreak)
  have hd := (strip_sublist _).subset ((stripQuotes_sublist _).subset ((strip_sublist _).subset hd))
  rw [String.toList_ofList] at hd
  rw [h c (List.dropLast_subset _ hd)] at hbreak
  cases hbreak

/-- **No key that is loaded has a line break.** -/
theorem isOneLine_of_mem_load {text key : String} (h : key ∈ Assoc.keys (loadManualPricingYaml text)) : IsOneLine key := by
  have hlines : ∀ line ∈ splitLines text, IsOneLine line := by
    intro line hline c hc
    obtain ⟨cs, hcs, rfl⟩ := List.mem_map.mp hline
    rw [String.toList_ofList] at hc
    exact isLineBreak_of_mem_splitLinesFrom hcs hc
  have hkeys : ∀ key ∈ ((splitLines text).foldl YamlReader.readLine {}).keys, IsOneLine key := by
    refine List.foldlRecOn (motive := fun reader : YamlReader => ∀ key ∈ reader.keys, IsOneLine key) _ _ ?_ ?_
    · intro key hkey
      cases hkey
    · intro reader hreader line hline key hkey
      rcases mem_keys_readLine hkey with hold | ⟨rfl, -⟩
      · exact hreader key hold
      · refine isOneLine_modelIdOfLine fun c hc => ?_
        exact hlines line hline c ((rstrip_sublist _).subset ((strip_sublist _).subset hc))
  exact hkeys key h

end Pricing
end HexeAiNode
