import HexeAiNode.Execution.ProviderExecutionRouter

/-!
# Reading a provider's answer

`OpenAIProviderAdapter.execute_prompt` and `LocalProviderAdapter.execute_prompt` turn the JSON value of an
answer into a response.  They walk `choices`, the first choice, its `message` and `usage`, and some of these
accesses are guarded and some are not: `x.get(key)` on anything but a dictionary is an `AttributeError`, which
becomes a failure of the provider.

## What an answer must look like

`Adapter.Accepts` lists the shapes that get through.  The first choice and its message have to be there as
dictionaries, and for the OpenAI adapter so does `usage`, which the local adapter and the image path leave out
when it is missing.  The price of the tokens is computed before the answer is handed back, so the counts that
are multiplied by a rate have to fit in a float.

## What follows for the router

An answered call of the router is its last one (`routerExecute_ok_iff`), and a failure has it ask again.
`answer_kept_iff` puts the two together: the answer of a call below 400 is handed back with the counts it reports,
and nobody is asked again, exactly when it is accepted.
-/

namespace HexeAiNode
namespace Execution

open Py

/-! ## Answers -/

/-- What a provider returns over HTTP: the status, the content type and what `response.json()` does. -/
structure HttpAnswer where
  statusCode : Int
  contentType : String
  json : Except Exc Value

/-- `x.get(key)`. -/
def getMember (key : String) : Value → Except Exc Value
  | .dict kvs => .ok (Dict.get kvs key)
  | v => .error ⟨.attributeError, "'" ++ v.typeName ++ "' object has no attribute 'get'"⟩

/-- `int(x or 0)`. -/
def tokenCount (v : Value) : Except Exc Int := (v.orElse (.int 0)).toInt

/-- `x.get(key) if isinstance(x, dict) else default`. -/
def memberOr (default : Value) (key : String) : Value → Value
  | .dict kvs => Dict.get kvs key
  | _ => default

/-- `choices[0] if isinstance(choices, list) and choices else {}`. -/
def firstChoice : Value → Value
  | .list (first :: _) => first
  | _ => .dict []

/-- `UnifiedExecutionUsage`. -/
structure UnifiedExecutionUsage where
  promptTokens : Int := 0
  cachedInputTokens : Int := 0
  completionTokens : Int := 0
  totalTokens : Int := 0
  deriving DecidableEq

/-- The usage of a response. -/
def UnifiedExecutionResponse.usage (response : UnifiedExecutionResponse) : UnifiedExecutionUsage :=
  { promptTokens := response.promptTokens
    cachedInputTokens := response.cachedInputTokens
    completionTokens := response.completionTokens
    totalTokens := response.totalTokens }

/-- `except Exception as exc: raise RuntimeError(str(exc).strip() or fallback)`. -/
def asRuntimeError (fallback : String) (e : Exc) : Exc :=
  if e.isException then
    ⟨.runtimeError, if strip e.text = "" then fallback else strip e.text⟩
  else e

/-- `str(request.requested_model or "").strip() or self._default_model_id`. -/
def chosenModel (default : String) (request : UnifiedExecutionRequest) : String :=
  let requested := strip (request.requestedModel.getD "")
  if requested = "" then default else requested

/-! ## The price of an answer -/

/-- What `get_openai_model_pricing` says of a model. -/
structure ModelPricing where
  pricingStatus : String
  pricingBasis : String
  inputPer1mTokens : Option FloatVal := none
  cachedInputPer1mTokens : Option FloatVal := none
  outputPer1mTokens : Option FloatVal := none
  normalizedPrice : Option FloatVal := none

/-- `count * rate` for a count that is not negative. -/
def mulCount (count : Int) (rate : FloatVal) : Except Exc FloatVal := do
  let _ ← (Value.int count).toFloat
  match rate with
  | .finite r => return Value.floatOfRat (count * r)
  | .nan => return .nan
  | rate => return if count = 0 then .nan else rate

/-- The price list answers for a model, if it has one that may be used. -/
def ModelPricing.isUsable (pricing : ModelPricing) : Bool :=
  ["ok", "manual"].contains (strip pricing.pricingStatus)

/-- The cached prompt tokens that are priced. -/
def UnifiedExecutionUsage.pricedCached (usage : UnifiedExecutionUsage) : Int :=
  max (min usage.cachedInputTokens (max usage.promptTokens 0)) 0

/-- The other prompt tokens that are priced. -/
def UnifiedExecutionUsage.pricedUncached (usage : UnifiedExecutionUsage) : Int :=
  max (max usage.promptTokens 0 - usage.pricedCached) 0

/-- The rates of a price list for prompt and completion tokens, if it may be used and has both. -/
def ModelPricing.rates (pricing : ModelPricing) : Option (FloatVal × FloatVal) :=
  if pricing.isUsable then
    match pricing.inputPer1mTokens, pricing.outputPer1mTokens with
    | some inRate, some outRate => some (inRate, outRate)
    | _, _ => none
  else none

/-- `OpenAIProviderAdapter.estimate_cost`. -/
def estimateCost (pricing : Option ModelPricing) (usage : UnifiedExecutionUsage) :
    Except Exc (Option FloatVal) :=
  match pricing with
  | none => .ok none
  | some pricing =>
    match pricing.rates with
    | none => .ok none
    | some (inRate, outRate) => do
      let cachedRate := if 0 < usage.pricedCached then pricing.cachedInputPer1mTokens.getD inRate else inRate
      let uncached ← mulCount usage.pricedUncached inRate
      let cached ← mulCount usage.pricedCached cachedRate
      let completion ← mulCount (max usage.completionTokens 0) outRate
      return some (((uncached.scale (1 / 10 ^ 6)).add (cached.scale (1 / 10 ^ 6))).add
        (completion.scale (1 / 10 ^ 6)))

/-- The price of one image, if the list may be used and prices images. -/
def ModelPricing.perImage (pricing : ModelPricing) : Option FloatVal :=
  if pricing.isUsable && strip pricing.pricingBasis == "per_image" then pricing.normalizedPrice else none

/-- The usage reports tokens. -/
def UnifiedExecutionUsage.isCounted (usage : UnifiedExecutionUsage) : Bool :=
  decide (0 < usage.promptTokens ∨ 0 < usage.completionTokens ∨ 0 < usage.cachedInputTokens)

/-- `_estimate_image_generation_cost`. -/
def estimateImageGenerationCost (pricing : Option ModelPricing) (imageCount : Int)
    (usage : UnifiedExecutionUsage) : Except Exc (Option FloatVal) := do
  let tokenCost ← if usage.isCounted then estimateCost pricing usage else .ok none
  match tokenCost, pricing.bind ModelPricing.perImage with
  | some cost, _ => return some cost
  | none, some price => return some (← mulCount imageCount price)
  | none, none => return none

/-! ## The OpenAI adapter -/

/-- What is written to the debug log: the status and the value of an answer, or an error. -/
structure DebugRecord where
  responseStatus : Option Int := none
  responsePayload : Value := .null
  error : Option String := none

/-- An `OpenAIProviderAdapter`.  `pricing` is `get_openai_model_pricing` and `debugLog` what writing a record to
the debug log does. -/
structure OpenAIProviderAdapter where
  providerId : String := "openai"
  defaultModelId : String := "gpt-4o-mini"
  debugAopenai : Bool := false
  debugLog : DebugRecord → Except Exc Unit := fun _ => .ok ()
  pricing : String → Except Exc (Option ModelPricing)

/-- `_write_debug_aopenai_log`. -/
def OpenAIProviderAdapter.writeDebugLog (adapter : OpenAIProviderAdapter) (record : DebugRecord) :
    Except Exc Unit :=
  if adapter.debugAopenai then adapter.debugLog record else .ok ()

/-- `OPENAI_IMAGE_GENERATION_MODEL_IDS`. -/
def openaiImageGenerationModelIds : List String :=
  ["gpt-image-1", "gpt-image-1-mini", "gpt-image-1.5", "gpt-image-2"]

/-- `_is_image_generation_request`. -/
def isImageGenerationRequest (request : UnifiedExecutionRequest) (model : String) : Bool :=
  stripLower request.taskFamily == "task.image_generation" ||
    openaiImageGenerationModelIds.contains (stripLower model)

/-- The text an image is generated from: the prompt, or the contents of the messages. -/
def imageGenerationPrompt (request : UnifiedExecutionRequest) : String :=
  let prompt := strip (request.prompt.getD "")
  let contents := request.messages.filterMap fun
    | .dict message =>
      let content := (Dict.get message "content").normalizeString
      if content = "" then none else some content
    | _ => none
  if prompt = "" then strip (join "\n\n" contents) else prompt

/-- `_image_generation_payload`. -/
def imageGenerationPayload (request : UnifiedExecutionRequest) (model : String) : Except Exc Dict :=
  let prompt := imageGenerationPrompt request
  let normalizedModel := stripLower model
  if prompt = "" then .error ⟨.valueError, "image_generation_prompt_required"⟩
  else if !openaiImageGenerationModelIds.contains normalizedModel then
    .error ⟨.valueError, "openai_image_generation_model_required"⟩
  else
    let count : Dict :=
      match Dict.get request.metadata "n" with
      | .int n => if 0 < n then [("n", .int (min n 10))] else []
      | .bool true => [("n", .bool true)]
      | _ => []
    let options := ["size", "quality", "background", "output_format"].filterMap fun key =>
      let value := (Dict.get request.metadata key).normalizeString
      if value = "" then none else some (key, Value.str value)
    .ok ([("model", .str normalizedModel), ("prompt", .str prompt)] ++ count ++ options)

/-- One image of `_image_generation_output`. -/
def imageEntry (item : Value) : Option Value :=
  match item with
  | .dict kvs =>
    let entry := ["b64_json", "url", "revised_prompt"].filterMap fun key =>
      let value := Dict.get kvs key
      if value.normalizeString = "" then none else some (key, Value.str value.toStr)
    if entry = [] then none else some (.dict entry)
  | _ => none

/-- `_image_generation_output`. -/
def imageGenerationOutput (data : Value) : String :=
  let images :=
    match memberOr (.list []) "data" data with
    | .list items => items.filterMap imageEntry
    | _ => []
  let created := Dict.get data.asDict "created"
  dumps { sortKeys := true } (.dict
    ([("images", .list images)] ++ if created.isNull then [] else [("created", created)]))

/-- `_error_message_from_payload` of the OpenAI adapter. -/
def openaiErrorMessage (data : Value) (statusCode : Int) : String :=
  let status := "http_" ++ toString statusCode
  match memberOr .null "error" data with
  | .dict detail =>
    let message := (Dict.get detail "message").normalizeString
    let extras := (["type", "param", "code"].map fun key => (Dict.get detail key).normalizeString).filter (· ≠ "")
    if message = "" then status
    else if extras = [] then message
    else message ++ " [" ++ join " | " extras ++ "]"
  | .null => status
  | detail => if strip detail.toStr = "" then status else strip detail.toStr

/-- The value of an answer: `{}` unless the content type is JSON. -/
def openaiData (answer : HttpAnswer) : Except Exc Value :=
  if startsWith answer.contentType "application/json" then answer.json else .ok (.dict [])

/-- What both paths do with an answer before they read it. -/
def OpenAIProviderAdapter.receive (adapter : OpenAIProviderAdapter) (answer : HttpAnswer) : Except Exc Value := do
  let data ← openaiData answer
  adapter.writeDebugLog { responseStatus := some answer.statusCode, responsePayload := data }
  if 400 ≤ answer.statusCode then
    throw ⟨.runtimeError, openaiErrorMessage data answer.statusCode⟩
  return data

/-- The response `execute_prompt` makes of the value of an answer. -/
def OpenAIProviderAdapter.readAnswer (adapter : OpenAIProviderAdapter) (model : String) (latencyMs : FloatVal)
    (data : Value) : Except Exc UnifiedExecutionResponse := do
  let first := firstChoice (memberOr (.list []) "choices" data)
  let msg := memberOr (.dict []) "message" first
  let usageRaw := memberOr (.dict []) "usage" data
  let promptDetails := memberOr (.dict []) "prompt_tokens_details" usageRaw
  let promptTokens ← tokenCount (← getMember "prompt_tokens" usageRaw)
  let cachedInputTokens ← tokenCount (← getMember "cached_tokens" (promptDetails.orElse (.dict [])))
  let completionTokens ← tokenCount (← getMember "completion_tokens" usageRaw)
  let totalTokens ← tokenCount (← getMember "total_tokens" usageRaw)
  let estimatedCost ← estimateCost (← adapter.pricing model)
    { promptTokens := promptTokens, cachedInputTokens := cachedInputTokens
      completionTokens := completionTokens, totalTokens := totalTokens }
  let content ← getMember "content" msg
  let finishReason := (← getMember "finish_reason" first).normalizeString
  return {
    providerId := adapter.providerId
    modelId := model
    outputText := if content.truthy then content.toStr else ""
    finishReason := if finishReason = "" then none else some finishReason
    promptTokens := promptTokens
    cachedInputTokens := cachedInputTokens
    completionTokens := completionTokens
    totalTokens := totalTokens
    latencyMs := latencyMs
    estimatedCost := estimatedCost }

/-- `x or y`, where the second is read only when it is needed. -/
def memberElse (x : Value) (y : Except Exc Value) : Except Exc Value := if x.truthy then .ok x else y

/-- The response `_execute_image_generation` makes of the value of an answer. -/
def OpenAIProviderAdapter.readImageAnswer (adapter : OpenAIProviderAdapter) (model : String)
    (latencyMs : FloatVal) (data : Value) : Except Exc UnifiedExecutionResponse := do
  let usageRaw := (memberOr (.dict []) "usage" data).orElse (.dict [])
  let promptTokens ← tokenCount
    (← memberElse (← getMember "input_tokens" usageRaw) (getMember "prompt_tokens" usageRaw))
  let completionTokens ← tokenCount
    (← memberElse (← getMember "output_tokens" usageRaw) (getMember "completion_tokens" usageRaw))
  let totalTokens ← tokenCount (← getMember "total_tokens" usageRaw)
  let imageCount : Int :=
    match memberOr .null "data" data with
    | .list items => items.length
    | _ => 0
  let estimatedCost ← estimateImageGenerationCost (← adapter.pricing model) imageCount
    { promptTokens := promptTokens, completionTokens := completionTokens, totalTokens := totalTokens }
  return {
    providerId := adapter.providerId
    modelId := model
    outputText := imageGenerationOutput data
    finishReason := some "stop"
    promptTokens := promptTokens
    completionTokens := completionTokens
    totalTokens := totalTokens
    latencyMs := latencyMs
    estimatedCost := estimatedCost }

/-- The handler of both paths: the error is written to the debug log and raised as a `RuntimeError`. -/
def OpenAIProviderAdapter.handled (adapter : OpenAIProviderAdapter) (fallback : String)
    (x : Except Exc UnifiedExecutionResponse) : Except Exc UnifiedExecutionResponse :=
  match x with
  | .ok response => .ok response
  | .error e => do
    if e.isException then
      adapter.writeDebugLog { error := some e.text }
    throw (asRuntimeError fallback e)

/-- `OpenAIProviderAdapter.execute_prompt`, when the provider returns the answer. -/
def OpenAIProviderAdapter.executePrompt (adapter : OpenAIProviderAdapter) (request : UnifiedExecutionRequest)
    (answer : HttpAnswer) (latencyMs : FloatVal) : Except Exc UnifiedExecutionResponse :=
  let model := chosenModel adapter.defaultModelId request
  if isImageGenerationRequest request model then do
    let payload ← imageGenerationPayload request model
    adapter.handled "openai_image_generation_failed" do
      adapter.readImageAnswer (Dict.get payload "model").toStr latencyMs (← adapter.receive answer)
  else
    adapter.handled "openai_execute_failed" do
      adapter.readAnswer model latencyMs (← adapter.receive answer)

/-! ## The local adapter -/

/-- A `LocalProviderAdapter`. -/
structure LocalProviderAdapter where
  providerId : String := "local"
  defaultModelId : String := "qwen3-14b-q4_k_m"

/-- `_error_message_from_payload` of the local adapter. -/
def localErrorMessage (data : Value) (statusCode : Int) : String :=
  let status := "http_" ++ toString statusCode
  let detail := memberOr .null "error" data
  let message := (Dict.get detail.asDict "message").normalizeString
  if message ≠ "" then message
  else if detail.isNull || strip detail.toStr = "" then status
  else strip detail.toStr

/-- The value of an answer: `{}` for a body that is not JSON. -/
def localData (answer : HttpAnswer) : Except Exc Value :=
  match answer.json with
  | .ok data => .ok data
  | .error e => if e.isValueError then .ok (.dict []) else .error e

/-- The response the local adapter makes of the value of an answer. -/
def LocalProviderAdapter.readAnswer (adapter : LocalProviderAdapter) (model : String) (latencyMs : FloatVal)
    (data : Value) : Except Exc UnifiedExecutionResponse := do
  let first := firstChoice (memberOr (.list []) "choices" data)
  let message := memberOr (.dict []) "message" first
  let usageRaw := (memberOr (.dict []) "usage" data).orElse (.dict [])
  let promptTokens ← tokenCount (← getMember "prompt_tokens" usageRaw)
  let completionTokens ← tokenCount (← getMember "completion_tokens" usageRaw)
  let totalTokens ← tokenCount (← getMember "total_tokens" usageRaw)
  let content ← memberElse (← getMember "content" message) (getMember "text" first)
  let finishReason := (← getMember "finish_reason" first).normalizeString
  return {
    providerId := adapter.providerId
    modelId := model
    outputText := if content.truthy then content.toStr else ""
    finishReason := if finishReason = "" then none else some finishReason
    promptTokens := promptTokens
    completionTokens := completionTokens
    totalTokens := if totalTokens = 0 then promptTokens + completionTokens else totalTokens
    latencyMs := latencyMs
    estimatedCost := some (.finite 0) }

/-- `LocalProviderAdapter.execute_prompt`, when the server returns the answer. -/
def LocalProviderAdapter.executePrompt (adapter : LocalProviderAdapter) (request : UnifiedExecutionRequest)
    (answer : HttpAnswer) (latencyMs : FloatVal) : Except Exc UnifiedExecutionResponse :=
  let model := chosenModel adapter.defaultModelId request
  let read : Except Exc UnifiedExecutionResponse := do
    let data ← localData answer
    if 400 ≤ answer.statusCode then
      throw ⟨.runtimeError, localErrorMessage data answer.statusCode⟩
    adapter.readAnswer model latencyMs data
  match read with
  | .ok response => .ok response
  | .error e => .error (asRuntimeError "local_execute_failed" e)

/-! ## What an answer reports -/

/-- A token count: absent, or a natural number. -/
def IsCount (v : Value) : Prop := v = .null ∨ ∃ n : ℕ, v = .int n

/-- The number a token count stands for. -/
def countOf : Value → Int
  | .int n => n
  | _ => 0

/-- The `usage` of an answer. -/
def usageOf (body : Value) : Dict := (Dict.get body.asDict "usage").asDict

/-- The `prompt_tokens_details` of an answer. -/
def promptDetailsOf (body : Value) : Dict := (Dict.get (usageOf body) "prompt_tokens_details").asDict

/-- The numeric fields of an answer are non-negative integers where they are present. -/
structure CountsWellFormed (body : Value) : Prop where
  usage : ∀ key ∈ ["prompt_tokens", "completion_tokens", "total_tokens", "input_tokens", "output_tokens"],
    IsCount (Dict.get (usageOf body) key)
  details : IsCount (Dict.get (promptDetailsOf body) "cached_tokens")

/-- The token counts a chat answer reports. -/
def reportedUsage (body : Value) : UnifiedExecutionUsage :=
  { promptTokens := countOf (Dict.get (usageOf body) "prompt_tokens")
    cachedInputTokens := countOf (Dict.get (promptDetailsOf body) "cached_tokens")
    completionTokens := countOf (Dict.get (usageOf body) "completion_tokens")
    totalTokens := countOf (Dict.get (usageOf body) "total_tokens") }

/-- A count, or another one where it is zero or absent. -/
def countOrElse (v w : Value) : Int := if countOf v = 0 then countOf w else countOf v

/-- The token counts an image answer reports: under the names of the image interface, or else of the chat
interface. -/
def reportedImageUsage (body : Value) : UnifiedExecutionUsage :=
  { promptTokens := countOrElse (Dict.get (usageOf body) "input_tokens") (Dict.get (usageOf body) "prompt_tokens")
    completionTokens :=
      countOrElse (Dict.get (usageOf body) "output_tokens") (Dict.get (usageOf body) "completion_tokens")
    totalTokens := countOf (Dict.get (usageOf body) "total_tokens") }

/-- The number of images of an answer. -/
def imageCountOf (body : Value) : Int :=
  match Dict.get body.asDict "data" with
  | .list items => items.length
  | _ => 0

section Counts

variable {v w : Value} {body : Value}

theorem IsCount.truthy_iff (h : IsCount v) : v.truthy = true ↔ countOf v ≠ 0 := by
  rcases h with rfl | ⟨n, rfl⟩
  · simp [countOf]
  · simp [Value.truthy, countOf]

theorem IsCount.tokenCount (h : IsCount v) : tokenCount v = .ok (countOf v) := by
  rcases h with rfl | ⟨n, rfl⟩
  · rfl
  · rcases n with _ | n
    · rfl
    · rfl

theorem IsCount.tokenCount_memberElse (hv : IsCount v) (hw : IsCount w) :
    (memberElse v (.ok w) >>= Execution.tokenCount) = .ok (countOrElse v w) := by
  by_cases h : countOf v = 0
  · have hfalsy : ¬v.truthy = true := fun ht => hv.truthy_iff.mp ht h
    rw [memberElse, if_neg hfalsy, countOrElse, if_pos h]
    exact hw.tokenCount
  · rw [memberElse, if_pos (hv.truthy_iff.mpr h), countOrElse, if_neg h]
    exact hv.tokenCount

theorem IsCount.countOf_nonneg (h : IsCount v) : 0 ≤ countOf v := by
  rcases h with rfl | ⟨n, rfl⟩
  · exact le_rfl
  · exact Int.natCast_nonneg n

/-- A computation succeeds when its first step and its rest do. -/
theorem exists_bind_eq_ok {α β : Type} {x : Except Exc α} {f : α → Except Exc β} {a : α} (hx : x = .ok a)
    (hf : ∃ b, f a = .ok b) : ∃ b, (x >>= f) = .ok b := by
  obtain ⟨b, hb⟩ := hf
  exact ⟨b, bind_eq_ok.mpr ⟨a, hx, hb⟩⟩

theorem getMember_eq_ok {key : String} : getMember key v = .ok w ↔ ∃ kvs, v = .dict kvs ∧ w = Dict.get kvs key := by
  cases v <;> simp [getMember, eq_comm]

theorem orElse_nil_eq_dict {kvs : Dict} :
    v.orElse (.dict []) = .dict kvs ↔ v = .dict kvs ∨ (v.truthy = false ∧ kvs = []) := by
  unfold Value.orElse
  split
  · next h => simp [h]
  · next h =>
    rw [Bool.not_eq_true] at h
    constructor
    · rintro ⟨⟩
      exact .inr ⟨h, rfl⟩
    · rintro (rfl | ⟨-, rfl⟩)
      · have hnil : kvs = [] := by simpa [Value.truthy] using h
        rw [hnil]
      · rfl

end Counts

/-! ## What an answer must look like -/

/-- The number fits in a float. -/
def FitsFloat (n : Int) : Prop := (n : ℚ) < Value.floatOverflow

/-- The counts that are multiplied by a rate fit in a float. -/
def PricesFit (pricing : Option ModelPricing) (usage : UnifiedExecutionUsage) : Prop :=
  ∀ list, pricing = some list → list.rates.isSome = true →
    FitsFloat usage.pricedUncached ∧ FitsFloat usage.pricedCached ∧ FitsFloat (max usage.completionTokens 0)

/-- The same for an image answer, where the number of images counts when no tokens are priced. -/
def ImagePricesFit (pricing : Option ModelPricing) (imageCount : Int) (usage : UnifiedExecutionUsage) : Prop :=
  (usage.isCounted = true → PricesFit pricing usage) ∧
    ∀ list, pricing = some list → list.perImage.isSome = true →
      (usage.isCounted = true → list.rates = none) → FitsFloat imageCount

/-- The first choice of the answer has a message, and both are dictionaries. -/
def HasMessage (body : Value) : Prop :=
  ∃ choice choices message, Dict.get body.asDict "choices" = .list (.dict choice :: choices) ∧
    Dict.get choice "message" = .dict message

/-- The answer has a dictionary `usage`, whose `prompt_tokens_details` are a dictionary or falsy. -/
def HasUsage (body : Value) : Prop :=
  (Dict.get body.asDict "usage").isDict = true ∧
    ((Dict.get (usageOf body) "prompt_tokens_details").truthy = true →
      (Dict.get (usageOf body) "prompt_tokens_details").isDict = true)

/-- The `usage` of the answer is a dictionary or falsy. -/
def MayOmitUsage (body : Value) : Prop :=
  (Dict.get body.asDict "usage").truthy = true → (Dict.get body.asDict "usage").isDict = true

section Prices

variable {pricing : Option ModelPricing} {usage : UnifiedExecutionUsage} {imageCount count : Int}

theorem neg_floatOverflow_lt (h : 0 ≤ count) : -Value.floatOverflow < (count : ℚ) := by
  have hcount : (0 : ℚ) ≤ count := by exact_mod_cast h
  have hpos : (0 : ℚ) < Value.floatOverflow := by
    have hpow : (2 : ℚ) ^ 970 < 2 ^ 1024 := pow_lt_pow_right₀ (by norm_num) (by norm_num)
    exact sub_pos.mpr hpow
  linarith

theorem mulCount_isOk_iff (rate : FloatVal) (h : 0 ≤ count) :
    (∃ x, mulCount count rate = .ok x) ↔ FitsFloat count := by
  have hneg := neg_floatOverflow_lt h
  by_cases hfits : FitsFloat count
  · have hfloat : (Value.int count).toFloat = .ok (.finite count) := by
      rw [Value.toFloat, Value.floatOfRat, if_neg (not_le.mpr hfits), if_neg (not_le.mpr hneg)]
    refine ⟨fun _ => hfits, fun _ => ?_⟩
    unfold mulCount
    rw [hfloat]
    cases rate <;> exact ⟨_, rfl⟩
  · refine ⟨?_, fun h => absurd h hfits⟩
    rintro ⟨x, hx⟩
    obtain ⟨y, hy, -⟩ := bind_eq_ok.mp hx
    rw [Value.toFloat, Value.floatOfRat, if_pos (not_lt.mp hfits)] at hy
    cases hy

theorem estimateCost_isOk_iff : (∃ cost, estimateCost pricing usage = .ok cost) ↔ PricesFit pricing usage := by
  rcases pricing with _ | list
  · refine ⟨fun _ list h => ?_, fun _ => ⟨none, rfl⟩⟩
    cases h
  rcases hrates : list.rates with _ | ⟨inRate, outRate⟩
  · refine ⟨fun _ list' h hsome => ?_, fun _ => ⟨none, by rw [estimateCost]; simp only [hrates]⟩⟩
    obtain rfl := Option.some.inj h
    rw [hrates] at hsome
    cases hsome
  have huncached : 0 ≤ usage.pricedUncached := le_max_right _ _
  have hcached : 0 ≤ usage.pricedCached := le_max_right _ _
  have hcompletion : 0 ≤ max usage.completionTokens 0 := le_max_right _ _
  rw [estimateCost]
  simp only [hrates]
  constructor
  · rintro ⟨cost, hcost⟩ list' - -
    obtain ⟨x, hx, hcost⟩ := bind_eq_ok.mp hcost
    obtain ⟨y, hy, hcost⟩ := bind_eq_ok.mp hcost
    obtain ⟨z, hz, -⟩ := bind_eq_ok.mp hcost
    exact ⟨(mulCount_isOk_iff _ huncached).mp ⟨x, hx⟩, (mulCount_isOk_iff _ hcached).mp ⟨y, hy⟩,
      (mulCount_isOk_iff _ hcompletion).mp ⟨z, hz⟩⟩
  · intro hfits
    obtain ⟨hfit, hfit', hfit''⟩ := hfits list rfl (by rw [hrates]; rfl)
    obtain ⟨x, hx⟩ := (mulCount_isOk_iff inRate huncached).mpr hfit
    obtain ⟨y, hy⟩ := (mulCount_isOk_iff (if 0 < usage.pricedCached then
      list.cachedInputPer1mTokens.getD inRate else inRate) hcached).mpr hfit'
    obtain ⟨z, hz⟩ := (mulCount_isOk_iff outRate hcompletion).mpr hfit''
    refine ⟨_, bind_eq_ok.mpr ⟨x, hx, bind_eq_ok.mpr ⟨y, hy, bind_eq_ok.mpr ⟨z, hz, rfl⟩⟩⟩⟩

theorem estimateCost_eq_none_iff :
    estimateCost pricing usage = .ok none ↔ ∀ list, pricing = some list → list.rates = none := by
  rcases pricing with _ | list
  · refine ⟨fun _ list h => ?_, fun _ => rfl⟩
    cases h
  rcases hrates : list.rates with _ | ⟨inRate, outRate⟩
  · refine ⟨fun _ list' h => ?_, fun _ => by rw [estimateCost]; simp only [hrates]⟩
    obtain rfl := Option.some.inj h
    exact hrates
  · constructor
    · intro h
      rw [estimateCost] at h
      simp only [hrates] at h
      obtain ⟨x, -, h⟩ := bind_eq_ok.mp h
      obtain ⟨y, -, h⟩ := bind_eq_ok.mp h
      obtain ⟨z, -, h⟩ := bind_eq_ok.mp h
      cases h
    · intro h
      have hnone := h list rfl
      rw [hrates] at hnone
      cases hnone

/-- The second half of the cost of an image answer. -/
theorem perImageCost_isOk_iff (tokenCost : Option FloatVal) (himages : 0 ≤ imageCount) :
    (∃ cost, (match tokenCost, pricing.bind ModelPricing.perImage with
      | some cost, _ => pure (some cost)
      | none, some price => do return some (← mulCount imageCount price)
      | none, none => pure none : Except Exc (Option FloatVal)) = .ok cost) ↔
    ∀ list, pricing = some list → list.perImage.isSome = true → tokenCost = none → FitsFloat imageCount := by
  rcases tokenCost with _ | cost
  · rcases pricing with _ | list
    · refine ⟨fun _ list h => ?_, fun _ => ⟨none, rfl⟩⟩
      cases h
    rcases hprice : list.perImage with _ | price
    · refine ⟨fun _ list' h hsome => ?_, fun _ => ⟨none, by rw [Option.bind_some, hprice]; rfl⟩⟩
      obtain rfl := Option.some.inj h
      rw [hprice] at hsome
      cases hsome
    rw [Option.bind_some, hprice]
    constructor
    · rintro ⟨cost, hcost⟩ list' - - -
      obtain ⟨x, hx, -⟩ := bind_eq_ok.mp hcost
      exact (mulCount_isOk_iff price himages).mp ⟨x, hx⟩
    · intro hfits
      obtain ⟨x, hx⟩ := (mulCount_isOk_iff price himages).mpr (hfits list rfl (by rw [hprice]; rfl) rfl)
      exact ⟨_, bind_eq_ok.mpr ⟨x, hx, rfl⟩⟩
  · refine ⟨fun _ list _ _ h => ?_, fun _ => ⟨some cost, rfl⟩⟩
    cases h

theorem estimateImageGenerationCost_isOk_iff (himages : 0 ≤ imageCount) :
    (∃ cost, estimateImageGenerationCost pricing imageCount usage = .ok cost) ↔
      ImagePricesFit pricing imageCount usage := by
  unfold estimateImageGenerationCost
  by_cases hcounted : usage.isCounted = true
  · rw [if_pos hcounted]
    constructor
    · rintro ⟨cost, hcost⟩
      obtain ⟨tokenCost, htokens, hcost⟩ := bind_eq_ok.mp hcost
      refine ⟨fun _ => estimateCost_isOk_iff.mp ⟨tokenCost, htokens⟩, fun list hlist hprice hrates => ?_⟩
      refine (perImageCost_isOk_iff _ himages).mp ⟨cost, hcost⟩ list hlist hprice ?_
      have hnone : estimateCost pricing usage = .ok none := by
        refine estimateCost_eq_none_iff.mpr fun list' hlist' => ?_
        obtain rfl := Option.some.inj (hlist.symm.trans hlist')
        exact hrates hcounted
      exact Except.ok.inj (htokens.symm.trans hnone)
    · rintro ⟨htokensFit, himagesFit⟩
      obtain ⟨tokenCost, htokens⟩ := estimateCost_isOk_iff.mpr (htokensFit hcounted)
      obtain ⟨cost, hcost⟩ := (perImageCost_isOk_iff tokenCost himages).mpr
        fun list hlist hprice hnone => himagesFit list hlist hprice fun _ =>
          estimateCost_eq_none_iff.mp (hnone ▸ htokens) list hlist
      exact ⟨cost, bind_eq_ok.mpr ⟨tokenCost, htokens, hcost⟩⟩
  · rw [if_neg hcounted]
    constructor
    · rintro ⟨cost, hcost⟩
      obtain ⟨tokenCost, htokens, hcost⟩ := bind_eq_ok.mp hcost
      obtain rfl := Except.ok.inj htokens
      refine ⟨fun h => absurd h hcounted, fun list hlist hprice _ => ?_⟩
      exact (perImageCost_isOk_iff _ himages).mp ⟨cost, hcost⟩ list hlist hprice rfl
    · rintro ⟨-, himagesFit⟩
      obtain ⟨cost, hcost⟩ := (perImageCost_isOk_iff none himages).mpr
        fun list hlist hprice _ => himagesFit list hlist hprice fun h => absurd h hcounted
      exact ⟨cost, bind_eq_ok.mpr ⟨none, rfl, hcost⟩⟩

end Prices

/-! ## Reading an answer -/

section Reading

variable {body : Value} {model : String} {latencyMs : FloatVal} {response : UnifiedExecutionResponse}

theorem asDict_eq_of_isDict {v : Value} (h : v.isDict = true) : v = .dict v.asDict := by
  cases v <;> first | rfl | cases h

/-- The first choice and the message of an answer, as the adapters look them up. -/
theorem memberOr_message_iff {first : Value} (hfirst : first = firstChoice (memberOr (.list []) "choices" body)) :
    (∃ choice message, first = .dict choice ∧ memberOr (.dict []) "message" first = .dict message) ↔
      HasMessage body := by
  constructor
  · rintro ⟨choice, message, rfl, hmessage⟩
    have hget : Dict.get choice "message" = .dict message := hmessage
    rcases body with _ | _ | _ | _ | _ | _ | fields
    case dict =>
      have hchoices : memberOr (.list []) "choices" (.dict fields) = Dict.get fields "choices" := rfl
      rw [hchoices] at hfirst
      rcases hlist : Dict.get fields "choices" with _ | _ | _ | _ | _ | choices | _
      case list =>
        rw [hlist] at hfirst
        rcases choices with _ | ⟨first, choices⟩
        · obtain rfl := Value.dict.inj hfirst
          cases hget
        · have hfirst : Value.dict choice = first := hfirst
          exact ⟨choice, choices, message, by rw [Value.asDict_dict, hlist, hfirst], hget⟩
      all_goals
        rw [hlist] at hfirst
        obtain rfl := Value.dict.inj hfirst
        cases hget
    all_goals
      obtain rfl := Value.dict.inj hfirst
      cases hget
  · rintro ⟨choice, choices, message, hchoices, hmessage⟩
    rcases body with _ | _ | _ | _ | _ | _ | fields
    case dict =>
      have hlist : memberOr (.list []) "choices" (.dict fields) = .list (.dict choice :: choices) := hchoices
      rw [hlist] at hfirst
      exact ⟨choice, message, hfirst, by rw [hfirst]; exact hmessage⟩
    all_goals cases hchoices

theorem HasMessage.isDict (h : HasMessage body) : ∃ fields, body = .dict fields := by
  obtain ⟨choice, choices, message, hchoices, -⟩ := h
  rcases body with _ | _ | _ | _ | _ | _ | fields
  case dict => exact ⟨fields, rfl⟩
  all_goals cases hchoices

/-- What `x or {}` stands for, and when it can be read. -/
theorem orElse_nil_isDict_iff {v : Value} :
    (∃ kvs, v.orElse (.dict []) = .dict kvs) ↔ (v.truthy = true → v.isDict = true) := by
  constructor
  · rintro ⟨kvs, h⟩ htruthy
    rcases orElse_nil_eq_dict.mp h with rfl | ⟨hfalsy, -⟩
    · rfl
    · rw [htruthy] at hfalsy
      cases hfalsy
  · intro h
    rcases htruthy : v.truthy with _ | _
    · exact ⟨[], orElse_nil_eq_dict.mpr (.inr ⟨htruthy, rfl⟩)⟩
    · exact ⟨v.asDict, orElse_nil_eq_dict.mpr (.inl (asDict_eq_of_isDict (h htruthy)))⟩

theorem asDict_of_orElse_nil {v : Value} {kvs : Dict} (h : v.orElse (.dict []) = .dict kvs) : v.asDict = kvs := by
  rcases orElse_nil_eq_dict.mp h with rfl | ⟨hfalsy, rfl⟩
  · rfl
  · cases v <;> first | rfl | simpa [Value.truthy] using hfalsy

/-- A usage that may be missing, as the image path and the local adapter look it up. -/
theorem usage_orElse_eq {usage : Dict} (h : (memberOr (.dict []) "usage" body).orElse (.dict []) = .dict usage) :
    usageOf body = usage ∧ MayOmitUsage body := by
  rcases body with _ | _ | _ | _ | _ | _ | fields
  case dict => exact ⟨asDict_of_orElse_nil h, orElse_nil_isDict_iff.mp ⟨usage, h⟩⟩
  all_goals
    obtain rfl := Value.dict.inj h
    exact ⟨rfl, fun htruthy => (by cases htruthy)⟩

theorem usage_orElse_of_mayOmit (h : MayOmitUsage body) :
    (memberOr (.dict []) "usage" body).orElse (.dict []) = .dict (usageOf body) := by
  rcases body with _ | _ | _ | _ | _ | _ | fields
  case dict =>
    obtain ⟨usage, husage⟩ := orElse_nil_isDict_iff.mpr h
    have husageOf : usageOf (.dict fields) = usage := asDict_of_orElse_nil husage
    rw [husageOf]
    exact husage
  all_goals rfl

theorem imageCountOf_nonneg (body : Value) : 0 ≤ imageCountOf body := by
  unfold imageCountOf
  split
  · exact Int.natCast_nonneg _
  · exact le_rfl

section Chat

variable {adapter : OpenAIProviderAdapter} (hcounts : CountsWellFormed body)
include hcounts

/-- What the OpenAI adapter reads was there, and it reports the counts of the answer. -/
theorem OpenAIProviderAdapter.readAnswer_spec
    (h : adapter.readAnswer model latencyMs body = .ok response) :
    HasMessage body ∧ HasUsage body ∧ response.usage = reportedUsage body ∧
      ∃ pricing, adapter.pricing model = .ok pricing ∧
        estimateCost pricing (reportedUsage body) = .ok response.estimatedCost := by
  unfold OpenAIProviderAdapter.readAnswer at h
  obtain ⟨prompt, hprompt, h⟩ := bind_eq_ok.mp h
  obtain ⟨promptTokens, hpromptTokens, h⟩ := bind_eq_ok.mp h
  obtain ⟨cached, hcached, h⟩ := bind_eq_ok.mp h
  obtain ⟨cachedTokens, hcachedTokens, h⟩ := bind_eq_ok.mp h
  obtain ⟨completion, hcompletion, h⟩ := bind_eq_ok.mp h
  obtain ⟨completionTokens, hcompletionTokens, h⟩ := bind_eq_ok.mp h
  obtain ⟨total, htotal, h⟩ := bind_eq_ok.mp h
  obtain ⟨totalTokens, htotalTokens, h⟩ := bind_eq_ok.mp h
  obtain ⟨pricing, hpricing, h⟩ := bind_eq_ok.mp h
  obtain ⟨cost, hcost, h⟩ := bind_eq_ok.mp h
  obtain ⟨content, hcontent, h⟩ := bind_eq_ok.mp h
  obtain ⟨finish, hfinish, h⟩ := bind_eq_ok.mp h
  obtain rfl := pure_eq_ok.mp h
  obtain ⟨choice, hchoice, -⟩ := getMember_eq_ok.mp hfinish
  obtain ⟨message, hmessage, -⟩ := getMember_eq_ok.mp hcontent
  have hhas : HasMessage body := (memberOr_message_iff rfl).mp ⟨choice, message, hchoice, hmessage⟩
  obtain ⟨fields, rfl⟩ := hhas.isDict
  obtain ⟨usage, husage, rfl⟩ := getMember_eq_ok.mp hprompt
  have hget : Dict.get fields "usage" = .dict usage := husage
  have hraw : memberOr (.dict []) "usage" (.dict fields) = .dict usage := husage
  rw [hraw] at hcached hcompletion htotal
  obtain rfl := Except.ok.inj hcompletion
  obtain rfl := Except.ok.inj htotal
  obtain ⟨details, hdetails, rfl⟩ := getMember_eq_ok.mp hcached
  have hdetails' : (Dict.get usage "prompt_tokens_details").orElse (.dict []) = .dict details := hdetails
  have husageOf : usageOf (.dict fields) = usage := by rw [usageOf, Value.asDict_dict, hget, Value.asDict_dict]
  have hdetailsOf : promptDetailsOf (.dict fields) = details := by
    rw [promptDetailsOf, husageOf]
    exact asDict_of_orElse_nil hdetails'
  have husageCounts := hcounts.usage
  have hdetailsCount := hcounts.details
  rw [husageOf] at husageCounts
  rw [hdetailsOf] at hdetailsCount
  rw [(husageCounts _ (by simp)).tokenCount] at hpromptTokens hcompletionTokens htotalTokens
  rw [hdetailsCount.tokenCount] at hcachedTokens
  obtain rfl := Except.ok.inj hpromptTokens
  obtain rfl := Except.ok.inj hcompletionTokens
  obtain rfl := Except.ok.inj htotalTokens
  obtain rfl := Except.ok.inj hcachedTokens
  have hreported : reportedUsage (.dict fields) =
      { promptTokens := countOf (Dict.get usage "prompt_tokens")
        cachedInputTokens := countOf (Dict.get details "cached_tokens")
        completionTokens := countOf (Dict.get usage "completion_tokens")
        totalTokens := countOf (Dict.get usage "total_tokens") } := by
    rw [reportedUsage, husageOf, hdetailsOf]
  rw [hreported]
  refine ⟨hhas, ⟨by rw [Value.asDict_dict, hget]; rfl, ?_⟩, rfl, pricing, hpricing, hcost⟩
  rw [husageOf]
  exact orElse_nil_isDict_iff.mp ⟨details, hdetails'⟩

/-- What is there is read, and handed back if it can be priced. -/
theorem OpenAIProviderAdapter.exists_readAnswer (hmessage : HasMessage body) (husage : HasUsage body)
    {pricing : Option ModelPricing} (hpricing : adapter.pricing model = .ok pricing)
    (hfits : PricesFit pricing (reportedUsage body)) :
    ∃ response, adapter.readAnswer model latencyMs body = .ok response := by
  obtain ⟨cost, hcost⟩ := estimateCost_isOk_iff.mpr hfits
  obtain ⟨choice, message, hchoice, hmember⟩ := (memberOr_message_iff rfl).mpr hmessage
  obtain ⟨fields, rfl⟩ := hmessage.isDict
  have hget : Dict.get fields "usage" = .dict (usageOf (.dict fields)) := asDict_eq_of_isDict husage.1
  have hraw : memberOr (.dict []) "usage" (.dict fields) = .dict (usageOf (.dict fields)) := hget
  obtain ⟨details, hdetails⟩ := orElse_nil_isDict_iff.mpr husage.2
  have hdetailsOf : promptDetailsOf (.dict fields) = details := asDict_of_orElse_nil hdetails
  have hcounted := fun key hkey => (hcounts.usage key hkey).tokenCount
  have hcached := hcounts.details.tokenCount
  rw [hdetailsOf] at hcached
  have hreported : reportedUsage (.dict fields) =
      { promptTokens := countOf (Dict.get (usageOf (.dict fields)) "prompt_tokens")
        cachedInputTokens := countOf (Dict.get details "cached_tokens")
        completionTokens := countOf (Dict.get (usageOf (.dict fields)) "completion_tokens")
        totalTokens := countOf (Dict.get (usageOf (.dict fields)) "total_tokens") } := by
    rw [reportedUsage, hdetailsOf]
  rw [hreported] at hcost
  have hpromptDetails : memberOr (.dict []) "prompt_tokens_details" (.dict (usageOf (.dict fields))) =
      Dict.get (usageOf (.dict fields)) "prompt_tokens_details" := rfl
  unfold OpenAIProviderAdapter.readAnswer
  dsimp only
  rw [hmember, hchoice, hraw, hpromptDetails, hdetails]
  refine exists_bind_eq_ok rfl (exists_bind_eq_ok (hcounted _ (by simp)) ?_)
  refine exists_bind_eq_ok rfl (exists_bind_eq_ok hcached ?_)
  refine exists_bind_eq_ok rfl (exists_bind_eq_ok (hcounted _ (by simp)) ?_)
  refine exists_bind_eq_ok rfl (exists_bind_eq_ok (hcounted _ (by simp)) ?_)
  refine exists_bind_eq_ok hpricing (exists_bind_eq_ok hcost ?_)
  exact exists_bind_eq_ok rfl (exists_bind_eq_ok rfl ⟨_, rfl⟩)

/-- The same for the image path, which needs no message. -/
theorem OpenAIProviderAdapter.readImageAnswer_spec
    (h : adapter.readImageAnswer model latencyMs body = .ok response) :
    MayOmitUsage body ∧ response.usage = reportedImageUsage body ∧
      ∃ pricing, adapter.pricing model = .ok pricing ∧
        estimateImageGenerationCost pricing (imageCountOf body) (reportedImageUsage body) =
          .ok response.estimatedCost := by
  unfold OpenAIProviderAdapter.readImageAnswer at h
  obtain ⟨input, hinput, h⟩ := bind_eq_ok.mp h
  obtain ⟨usage, husage, rfl⟩ := getMember_eq_ok.mp hinput
  obtain ⟨rfl, homit⟩ := usage_orElse_eq husage
  rw [husage] at h
  obtain ⟨prompt, hprompt, h⟩ := bind_eq_ok.mp h
  obtain ⟨promptTokens, hpromptTokens, h⟩ := bind_eq_ok.mp h
  obtain ⟨output, houtput, h⟩ := bind_eq_ok.mp h
  obtain rfl := Except.ok.inj houtput
  obtain ⟨completion, hcompletion, h⟩ := bind_eq_ok.mp h
  obtain ⟨completionTokens, hcompletionTokens, h⟩ := bind_eq_ok.mp h
  obtain ⟨total, htotal, h⟩ := bind_eq_ok.mp h
  obtain rfl := Except.ok.inj htotal
  obtain ⟨totalTokens, htotalTokens, h⟩ := bind_eq_ok.mp h
  obtain ⟨pricing, hpricing, h⟩ := bind_eq_ok.mp h
  obtain ⟨cost, hcost, h⟩ := bind_eq_ok.mp h
  obtain rfl := pure_eq_ok.mp h
  have hinput' := (hcounts.usage "input_tokens" (by simp)).tokenCount_memberElse
    (hcounts.usage "prompt_tokens" (by simp))
  have houtput' := (hcounts.usage "output_tokens" (by simp)).tokenCount_memberElse
    (hcounts.usage "completion_tokens" (by simp))
  obtain rfl := Except.ok.inj ((bind_eq_ok.mpr ⟨prompt, hprompt, hpromptTokens⟩).symm.trans hinput')
  obtain rfl := Except.ok.inj ((bind_eq_ok.mpr ⟨completion, hcompletion, hcompletionTokens⟩).symm.trans houtput')
  rw [(hcounts.usage "total_tokens" (by simp)).tokenCount] at htotalTokens
  obtain rfl := Except.ok.inj htotalTokens
  have himages : imageCountOf body = (match memberOr .null "data" body with
      | .list items => (items.length : Int)
      | _ => 0) := by
    cases body <;> rfl
  rw [himages]
  exact ⟨homit, rfl, pricing, hpricing, hcost⟩

/-- A missing usage counts nothing. -/
theorem OpenAIProviderAdapter.exists_readImageAnswer (homit : MayOmitUsage body)
    {pricing : Option ModelPricing} (hpricing : adapter.pricing model = .ok pricing)
    (hfits : ImagePricesFit pricing (imageCountOf body) (reportedImageUsage body)) :
    ∃ response, adapter.readImageAnswer model latencyMs body = .ok response := by
  obtain ⟨cost, hcost⟩ := (estimateImageGenerationCost_isOk_iff (imageCountOf_nonneg body)).mpr hfits
  have hcount : imageCountOf body = (match memberOr .null "data" body with
      | .list items => (items.length : Int)
      | _ => 0) := by
    cases body <;> rfl
  rw [hcount] at hcost
  obtain ⟨prompt, hprompt, hpromptTokens⟩ := bind_eq_ok.mp ((hcounts.usage "input_tokens"
    (by simp)).tokenCount_memberElse (hcounts.usage "prompt_tokens" (by simp)))
  obtain ⟨completion, hcompletion, hcompletionTokens⟩ := bind_eq_ok.mp ((hcounts.usage "output_tokens"
    (by simp)).tokenCount_memberElse (hcounts.usage "completion_tokens" (by simp)))
  unfold OpenAIProviderAdapter.readImageAnswer
  dsimp only
  rw [usage_orElse_of_mayOmit homit]
  refine exists_bind_eq_ok rfl (exists_bind_eq_ok hprompt (exists_bind_eq_ok hpromptTokens ?_))
  refine exists_bind_eq_ok rfl (exists_bind_eq_ok hcompletion (exists_bind_eq_ok hcompletionTokens ?_))
  refine exists_bind_eq_ok rfl (exists_bind_eq_ok (hcounts.usage "total_tokens" (by simp)).tokenCount ?_)
  exact exists_bind_eq_ok hpricing (exists_bind_eq_ok hcost ⟨_, rfl⟩)

/-- What the local adapter makes of an answer: it counts no cached tokens, and adds up a total that is missing. -/
theorem LocalProviderAdapter.readAnswer_spec {adapter : LocalProviderAdapter}
    (h : adapter.readAnswer model latencyMs body = .ok response) :
    HasMessage body ∧ MayOmitUsage body ∧ response.estimatedCost = some (.finite 0) ∧
      response.usage = { reportedUsage body with
        cachedInputTokens := 0
        totalTokens := if (reportedUsage body).totalTokens = 0 then
          (reportedUsage body).promptTokens + (reportedUsage body).completionTokens
        else (reportedUsage body).totalTokens } := by
  unfold LocalProviderAdapter.readAnswer at h
  obtain ⟨prompt, hprompt, h⟩ := bind_eq_ok.mp h
  obtain ⟨usage, husage, rfl⟩ := getMember_eq_ok.mp hprompt
  obtain ⟨rfl, homit⟩ := usage_orElse_eq husage
  dsimp only at h
  rw [husage] at h
  obtain ⟨promptTokens, hpromptTokens, h⟩ := bind_eq_ok.mp h
  obtain ⟨completion, hcompletion, h⟩ := bind_eq_ok.mp h
  obtain rfl := Except.ok.inj hcompletion
  obtain ⟨completionTokens, hcompletionTokens, h⟩ := bind_eq_ok.mp h
  obtain ⟨total, htotal, h⟩ := bind_eq_ok.mp h
  obtain rfl := Except.ok.inj htotal
  obtain ⟨totalTokens, htotalTokens, h⟩ := bind_eq_ok.mp h
  obtain ⟨content, hcontent, h⟩ := bind_eq_ok.mp h
  obtain ⟨chosen, -, h⟩ := bind_eq_ok.mp h
  obtain ⟨finish, hfinish, h⟩ := bind_eq_ok.mp h
  obtain rfl := pure_eq_ok.mp h
  obtain ⟨choice, hchoice, -⟩ := getMember_eq_ok.mp hfinish
  obtain ⟨message, hmessage, -⟩ := getMember_eq_ok.mp hcontent
  rw [(hcounts.usage _ (by simp)).tokenCount] at hpromptTokens hcompletionTokens htotalTokens
  obtain rfl := Except.ok.inj hpromptTokens
  obtain rfl := Except.ok.inj hcompletionTokens
  obtain rfl := Except.ok.inj htotalTokens
  exact ⟨(memberOr_message_iff rfl).mp ⟨choice, message, hchoice, hmessage⟩, homit, rfl, rfl⟩

theorem LocalProviderAdapter.exists_readAnswer (adapter : LocalProviderAdapter) (hmessage : HasMessage body)
    (homit : MayOmitUsage body) : ∃ response, adapter.readAnswer model latencyMs body = .ok response := by
  obtain ⟨choice, message, hchoice, hmember⟩ := (memberOr_message_iff rfl).mpr hmessage
  have hcounted := fun key hkey => (hcounts.usage key hkey).tokenCount
  obtain ⟨content, hcontent⟩ : ∃ content, memberElse (Dict.get message "content")
      (getMember "text" (.dict choice)) = .ok content := by
    unfold memberElse
    split
    · exact ⟨_, rfl⟩
    · exact ⟨_, rfl⟩
  unfold LocalProviderAdapter.readAnswer
  dsimp only
  rw [hmember, hchoice, usage_orElse_of_mayOmit homit]
  refine exists_bind_eq_ok rfl (exists_bind_eq_ok (hcounted _ (by simp)) ?_)
  refine exists_bind_eq_ok rfl (exists_bind_eq_ok (hcounted _ (by simp)) ?_)
  refine exists_bind_eq_ok rfl (exists_bind_eq_ok (hcounted _ (by simp)) ?_)
  exact exists_bind_eq_ok rfl (exists_bind_eq_ok hcontent (exists_bind_eq_ok rfl ⟨_, rfl⟩))

end Chat

end Reading

/-! ## Which answers are accepted -/

/-- The adapter of a provider. -/
inductive Adapter where
  | ofOpenAI (adapter : OpenAIProviderAdapter)
  | ofLocal (adapter : LocalProviderAdapter)

/-- `adapter.execute_prompt`, when the provider returns the answer. -/
def Adapter.executePrompt (adapter : Adapter) (request : UnifiedExecutionRequest) (answer : HttpAnswer)
    (latencyMs : FloatVal) : Except Exc UnifiedExecutionResponse :=
  match adapter with
  | ofOpenAI adapter => adapter.executePrompt request answer latencyMs
  | ofLocal adapter => adapter.executePrompt request answer latencyMs

/-- The OpenAI adapter asks for an image. -/
def OpenAIProviderAdapter.wantsImage (adapter : OpenAIProviderAdapter) (request : UnifiedExecutionRequest) : Bool :=
  isImageGenerationRequest request (chosenModel adapter.defaultModelId request)

/-- The adapter sends the request: an image request has a prompt and a model for images. -/
def Adapter.Sends (adapter : Adapter) (request : UnifiedExecutionRequest) : Prop :=
  match adapter with
  | ofOpenAI adapter => adapter.wantsImage request = true →
      ∃ payload, imageGenerationPayload request (chosenModel adapter.defaultModelId request) = .ok payload
  | ofLocal _ => True

/-- The token counts that an answer to the request reports. -/
def Adapter.reported (adapter : Adapter) (request : UnifiedExecutionRequest) (body : Value) :
    UnifiedExecutionUsage :=
  match adapter with
  | ofOpenAI adapter => if adapter.wantsImage request then reportedImageUsage body else reportedUsage body
  | ofLocal _ => reportedUsage body

/-- The model an image is asked of. -/
def imageModel (model : String) : String := stripLower model

/-- What the OpenAI adapter takes of a JSON body: `{}` unless the content type is JSON. -/
def openaiValue (answer : HttpAnswer) (body : Value) : Value :=
  if startsWith answer.contentType "application/json" then body else .dict []

/-- What the OpenAI adapter writes to the debug log when it receives the answer. -/
def openaiRecord (answer : HttpAnswer) (body : Value) : DebugRecord :=
  { responseStatus := some answer.statusCode, responsePayload := openaiValue answer body }

/-- The OpenAI adapter gets through the value of an answer. -/
def OpenAIProviderAdapter.Reads (adapter : OpenAIProviderAdapter) (request : UnifiedExecutionRequest)
    (data : Value) : Prop :=
  (adapter.wantsImage request = true → MayOmitUsage data ∧ ∃ pricing,
    adapter.pricing (imageModel (chosenModel adapter.defaultModelId request)) = .ok pricing ∧
      ImagePricesFit pricing (imageCountOf data) (reportedImageUsage data)) ∧
  (adapter.wantsImage request = false → HasMessage data ∧ HasUsage data ∧ ∃ pricing,
    adapter.pricing (chosenModel adapter.defaultModelId request) = .ok pricing ∧
      PricesFit pricing (reportedUsage data))

/-- **What an answer must look like** to be handed back with the counts it reports. -/
def Adapter.Accepts (adapter : Adapter) (request : UnifiedExecutionRequest) (answer : HttpAnswer) (body : Value) :
    Prop :=
  match adapter with
  | ofOpenAI openai =>
      openai.writeDebugLog (openaiRecord answer body) = .ok () ∧
      openai.Reads request (openaiValue answer body) ∧
      adapter.reported request (openaiValue answer body) = adapter.reported request body
  | ofLocal _ =>
      HasMessage body ∧ MayOmitUsage body ∧ (reportedUsage body).cachedInputTokens = 0 ∧
      ((reportedUsage body).totalTokens = 0 →
        (reportedUsage body).promptTokens = 0 ∧ (reportedUsage body).completionTokens = 0)

section Accepts

variable {request : UnifiedExecutionRequest} {answer : HttpAnswer} {body : Value} {latencyMs : FloatVal}

theorem OpenAIProviderAdapter.handled_eq_ok {adapter : OpenAIProviderAdapter} {fallback : String}
    {x : Except Exc UnifiedExecutionResponse} {response : UnifiedExecutionResponse} :
    adapter.handled fallback x = .ok response ↔ x = .ok response := by
  rcases x with e | r
  · refine ⟨fun h => ?_, fun h => nomatch h⟩
    rw [OpenAIProviderAdapter.handled] at h
    by_cases he : e.isException = true
    · rw [if_pos he] at h
      obtain ⟨_, -, h⟩ := bind_eq_ok.mp h
      cases h
    · rw [if_neg he] at h
      cases h
  · exact Iff.rfl

theorem imageGenerationPayload_model {model : String} {payload : Dict}
    (h : imageGenerationPayload request model = .ok payload) :
    (Dict.get payload "model").toStr = imageModel model := by
  unfold imageGenerationPayload at h
  dsimp only at h
  split at h
  · cases h
  split at h
  · cases h
  obtain rfl := Except.ok.inj h
  rfl

section OpenAI

variable {adapter : OpenAIProviderAdapter}

theorem openaiData_of_json (hjson : answer.json = .ok body) :
    openaiData answer = .ok (openaiValue answer body) := by
  unfold openaiData openaiValue
  split
  · exact hjson
  · rfl

/-- Below 400 an answer is received unless the debug log fails. -/
theorem OpenAIProviderAdapter.receive_eq_ok (hstatus : answer.statusCode < 400) (hjson : answer.json = .ok body)
    {data : Value} : adapter.receive answer = .ok data ↔
      adapter.writeDebugLog (openaiRecord answer body) = .ok () ∧ data = openaiValue answer body := by
  unfold OpenAIProviderAdapter.receive
  rw [openaiData_of_json hjson]
  constructor
  · intro h
    obtain ⟨value, hvalue, h⟩ := bind_eq_ok.mp h
    obtain rfl := Except.ok.inj hvalue
    obtain ⟨⟨⟩, hlog, h⟩ := bind_eq_ok.mp h
    dsimp only at h
    rw [if_neg (not_le.mpr hstatus)] at h
    exact ⟨hlog, (pure_eq_ok.mp h).symm⟩
  · rintro ⟨hlog, rfl⟩
    refine bind_eq_ok.mpr ⟨_, rfl, bind_eq_ok.mpr ⟨(), hlog, ?_⟩⟩
    dsimp only
    rw [if_neg (not_le.mpr hstatus)]
    rfl

theorem countsWellFormed_openaiValue (hcounts : CountsWellFormed body) :
    CountsWellFormed (openaiValue answer body) := by
  unfold openaiValue
  split
  · exact hcounts
  · exact ⟨fun key _ => .inl rfl, .inl rfl⟩

theorem OpenAIProviderAdapter.executePrompt_image (himage : adapter.wantsImage request = true)
    {payload : Dict}
    (hpayload : imageGenerationPayload request (chosenModel adapter.defaultModelId request) = .ok payload) :
    adapter.executePrompt request answer latencyMs = adapter.handled "openai_image_generation_failed"
      (adapter.receive answer >>=
        adapter.readImageAnswer (imageModel (chosenModel adapter.defaultModelId request)) latencyMs) := by
  rw [← imageGenerationPayload_model hpayload]
  unfold OpenAIProviderAdapter.executePrompt
  unfold OpenAIProviderAdapter.wantsImage at himage
  dsimp only
  rw [if_pos himage, hpayload]
  rfl

theorem OpenAIProviderAdapter.executePrompt_chat (himage : adapter.wantsImage request = false) :
    adapter.executePrompt request answer latencyMs = adapter.handled "openai_execute_failed"
      (adapter.receive answer >>= adapter.readAnswer (chosenModel adapter.defaultModelId request) latencyMs) := by
  unfold OpenAIProviderAdapter.executePrompt
  unfold OpenAIProviderAdapter.wantsImage at himage
  dsimp only
  rw [himage]
  rfl

/-- A response is what reading the value of the answer gives. -/
theorem OpenAIProviderAdapter.handled_receive_iff (hstatus : answer.statusCode < 400)
    (hjson : answer.json = .ok body) {fallback : String} {read : Value → Except Exc UnifiedExecutionResponse}
    {response : UnifiedExecutionResponse} :
    adapter.handled fallback (adapter.receive answer >>= read) = .ok response ↔
      adapter.writeDebugLog (openaiRecord answer body) = .ok () ∧
        read (openaiValue answer body) = .ok response := by
  rw [handled_eq_ok, bind_eq_ok]
  constructor
  · rintro ⟨data, hdata, hread⟩
    obtain ⟨hlog, rfl⟩ := (receive_eq_ok hstatus hjson).mp hdata
    exact ⟨hlog, hread⟩
  · rintro ⟨hlog, hread⟩
    exact ⟨_, (receive_eq_ok hstatus hjson).mpr ⟨hlog, rfl⟩, hread⟩

/-- What the adapter answers it has read. -/
theorem OpenAIProviderAdapter.executePrompt_spec (hstatus : answer.statusCode < 400)
    (hjson : answer.json = .ok body) (hcounts : CountsWellFormed body) {response : UnifiedExecutionResponse}
    (hsent : (Adapter.ofOpenAI adapter).Sends request)
    (h : adapter.executePrompt request answer latencyMs = .ok response) :
    response.usage = (Adapter.ofOpenAI adapter).reported request (openaiValue answer body) ∧
      adapter.writeDebugLog (openaiRecord answer body) = .ok () ∧
      adapter.Reads request (openaiValue answer body) := by
  have hvalue : CountsWellFormed (openaiValue answer body) := countsWellFormed_openaiValue hcounts
  rcases himage : adapter.wantsImage request with _ | _
  · rw [executePrompt_chat himage, handled_receive_iff hstatus hjson] at h
    obtain ⟨hmessage, husage, hreported, pricing, hpricing, hcost⟩ := readAnswer_spec hvalue h.2
    refine ⟨?_, h.1, fun himage' => ?_, fun _ => ?_⟩
    · rw [Adapter.reported, himage]
      exact hreported
    · rw [himage] at himage'
      cases himage'
    · exact ⟨hmessage, husage, pricing, hpricing, estimateCost_isOk_iff.mp ⟨_, hcost⟩⟩
  · obtain ⟨payload, hpayload⟩ := hsent himage
    rw [executePrompt_image himage hpayload, handled_receive_iff hstatus hjson] at h
    obtain ⟨homit, hreported, pricing, hpricing, hcost⟩ := readImageAnswer_spec hvalue h.2
    refine ⟨?_, h.1, fun _ => ?_, fun himage' => ?_⟩
    · rw [Adapter.reported, himage]
      exact hreported
    · exact ⟨homit, pricing, hpricing,
        (estimateImageGenerationCost_isOk_iff (imageCountOf_nonneg _)).mp ⟨_, hcost⟩⟩
    · rw [himage] at himage'
      cases himage'

/-- What can be read is answered. -/
theorem OpenAIProviderAdapter.exists_executePrompt (hstatus : answer.statusCode < 400)
    (hjson : answer.json = .ok body) (hcounts : CountsWellFormed body)
    (hsent : (Adapter.ofOpenAI adapter).Sends request)
    (hlog : adapter.writeDebugLog (openaiRecord answer body) = .ok ())
    (hreads : adapter.Reads request (openaiValue answer body)) :
    ∃ response, adapter.executePrompt request answer latencyMs = .ok response := by
  have hvalue : CountsWellFormed (openaiValue answer body) := countsWellFormed_openaiValue hcounts
  rcases himage : adapter.wantsImage request with _ | _
  · obtain ⟨hmessage, husage, pricing, hpricing, hfits⟩ := hreads.2 himage
    obtain ⟨response, hread⟩ := exists_readAnswer hvalue hmessage husage hpricing hfits
    refine ⟨response, ?_⟩
    rw [executePrompt_chat himage, handled_receive_iff hstatus hjson]
    exact ⟨hlog, hread⟩
  · obtain ⟨homit, pricing, hpricing, hfits⟩ := hreads.1 himage
    obtain ⟨response, hread⟩ := exists_readImageAnswer hvalue homit hpricing hfits
    obtain ⟨payload, hpayload⟩ := hsent himage
    refine ⟨response, ?_⟩
    rw [executePrompt_image himage hpayload, handled_receive_iff hstatus hjson]
    exact ⟨hlog, hread⟩

end OpenAI

section LocalServer

variable {adapter : LocalProviderAdapter}

theorem LocalProviderAdapter.executePrompt_eq_ok (hstatus : answer.statusCode < 400)
    (hjson : answer.json = .ok body) {response : UnifiedExecutionResponse} :
    adapter.executePrompt request answer latencyMs = .ok response ↔
      adapter.readAnswer (chosenModel adapter.defaultModelId request) latencyMs body = .ok response := by
  have hread : (do
      let data ← localData answer
      if 400 ≤ answer.statusCode then
        throw ⟨.runtimeError, localErrorMessage data answer.statusCode⟩
      adapter.readAnswer (chosenModel adapter.defaultModelId request) latencyMs data) =
      adapter.readAnswer (chosenModel adapter.defaultModelId request) latencyMs body := by
    rw [localData, hjson]
    show (if 400 ≤ answer.statusCode then _ else _) = _
    rw [if_neg (not_le.mpr hstatus)]
  unfold LocalProviderAdapter.executePrompt
  dsimp only at hread ⊢
  rw [hread]
  rcases adapter.readAnswer (chosenModel adapter.defaultModelId request) latencyMs body with e | r
  · constructor
    · intro h
      cases h
    · intro h
      cases h
  · exact Iff.rfl

/-- The counts the local adapter reports are those of the answer if there are no cached tokens and the total is
not added up. -/
theorem localUsage_eq_iff (hcounts : CountsWellFormed body) :
    ({ reportedUsage body with
        cachedInputTokens := 0
        totalTokens := if (reportedUsage body).totalTokens = 0 then
          (reportedUsage body).promptTokens + (reportedUsage body).completionTokens
        else (reportedUsage body).totalTokens } : UnifiedExecutionUsage) = reportedUsage body ↔
      (reportedUsage body).cachedInputTokens = 0 ∧ ((reportedUsage body).totalTokens = 0 →
        (reportedUsage body).promptTokens = 0 ∧ (reportedUsage body).completionTokens = 0) := by
  have hprompt : 0 ≤ (reportedUsage body).promptTokens := (hcounts.usage "prompt_tokens" (by simp)).countOf_nonneg
  have hcompletion : 0 ≤ (reportedUsage body).completionTokens :=
    (hcounts.usage "completion_tokens" (by simp)).countOf_nonneg
  generalize reportedUsage body = usage at hprompt hcompletion ⊢
  rcases usage with ⟨prompt, cached, completion, total⟩
  simp only [UnifiedExecutionUsage.mk.injEq, true_and] at hprompt hcompletion ⊢
  split
  · omega
  · omega

theorem LocalProviderAdapter.answered_iff (hstatus : answer.statusCode < 400)
    (hjson : answer.json = .ok body) (hcounts : CountsWellFormed body) :
    (∃ response, adapter.executePrompt request answer latencyMs = .ok response ∧
      response.usage = reportedUsage body) ↔
    HasMessage body ∧ MayOmitUsage body ∧ (reportedUsage body).cachedInputTokens = 0 ∧
      ((reportedUsage body).totalTokens = 0 →
        (reportedUsage body).promptTokens = 0 ∧ (reportedUsage body).completionTokens = 0) := by
  simp only [executePrompt_eq_ok hstatus hjson]
  constructor
  · rintro ⟨response, hresponse, husage⟩
    obtain ⟨hmessage, homit, -, hreported⟩ := readAnswer_spec hcounts hresponse
    exact ⟨hmessage, homit, (localUsage_eq_iff hcounts).mp (hreported.symm.trans husage)⟩
  · rintro ⟨hmessage, homit, hsame⟩
    obtain ⟨response, hresponse⟩ := exists_readAnswer hcounts adapter hmessage homit
    obtain ⟨-, -, -, hreported⟩ := readAnswer_spec hcounts hresponse
    exact ⟨response, hresponse, hreported.trans ((localUsage_eq_iff hcounts).mpr hsame)⟩

end LocalServer

/-- An answer below 400 is handed back with the counts it reports exactly when it is accepted. -/
theorem Adapter.answered_iff {adapter : Adapter} (hstatus : answer.statusCode < 400)
    (hjson : answer.json = .ok body) (hcounts : CountsWellFormed body) (hsent : adapter.Sends request) :
    (∃ response, adapter.executePrompt request answer latencyMs = .ok response ∧
      response.usage = adapter.reported request body) ↔ adapter.Accepts request answer body := by
  rcases adapter with openai | localServer
  · have hstep : ∀ {response}, (Adapter.ofOpenAI openai).executePrompt request answer latencyMs = .ok response ↔
        openai.executePrompt request answer latencyMs = .ok response := Iff.rfl
    constructor
    · rintro ⟨response, hresponse, husage⟩
      have hspec := OpenAIProviderAdapter.executePrompt_spec hstatus hjson hcounts hsent (hstep.mp hresponse)
      exact ⟨hspec.2.1, hspec.2.2, hspec.1.symm.trans husage⟩
    · rintro ⟨hlog, hreads, hsame⟩
      obtain ⟨response, hresponse⟩ :=
        OpenAIProviderAdapter.exists_executePrompt hstatus hjson hcounts hsent hlog hreads
      have hspec := OpenAIProviderAdapter.executePrompt_spec hstatus hjson hcounts hsent hresponse
      exact ⟨response, hstep.mpr hresponse, hspec.1.trans hsame⟩
  · exact LocalProviderAdapter.answered_iff hstatus hjson hcounts

end Accepts

/-! ## The router -/

/-- A call whose provider returned an answer that the execution keeps: the adapter hands the answer back with the
counts it reports, and so does the router, which asks nobody again. -/
def AnswerKept (adapters : String → Adapter) (registry : ProviderRegistry) (config : RouterConfig)
    (outcomes : AdapterOutcomes) (request : UnifiedExecutionRequest) (n : ℕ) (call : ProviderCall)
    (body : Value) : Prop :=
  ∃ response, outcomes n = .ok response ∧
    response.usage = (adapters call.provider).reported call.request body ∧
    ((routerExecute registry config outcomes request).exec []).1 = .ok response ∧
    ((routerExecute registry config outcomes request).exec []).2.length = n + 1

/-- **When a paid answer is kept**: a call of the router that its provider answered below 400 ends the execution with
the counts of the answer exactly when the adapter accepts the answer. -/
theorem answer_kept_iff (adapters : String → Adapter) (registry : ProviderRegistry) (config : RouterConfig)
    (outcomes : AdapterOutcomes) (request : UnifiedExecutionRequest) (n : ℕ) (call : ProviderCall)
    (answer : HttpAnswer) (latencyMs : FloatVal) (body : Value)
    (hcall : ((routerExecute registry config outcomes request).exec []).2[n]? = some call)
    (hsent : (adapters call.provider).Sends call.request)
    (houtcome : outcomes n = (adapters call.provider).executePrompt call.request answer latencyMs)
    (hstatus : answer.statusCode < 400) (hjson : answer.json = .ok body) (hcounts : CountsWellFormed body) :
    AnswerKept adapters registry config outcomes request n call body ↔
      (adapters call.provider).Accepts call.request answer body := by
  obtain ⟨hn, -⟩ := List.getElem?_eq_some_iff.mp hcall
  have hanswered : (∃ response, (adapters call.provider).executePrompt call.request answer latencyMs = .ok response ∧
      response.usage = (adapters call.provider).reported call.request body) ↔
      (adapters call.provider).Accepts call.request answer body :=
    Adapter.answered_iff hstatus hjson hcounts hsent
  rw [← hanswered, ← houtcome]
  constructor
  · rintro ⟨response, hresponse, husage, -⟩
    exact ⟨response, hresponse, husage⟩
  · rintro ⟨response, hresponse, husage⟩
    exact ⟨response, hresponse, husage, (routerExecute_ok_iff hn).mp hresponse⟩

/-! ### An answer without usage -/

/-- A node where both providers are available. -/
def bothProviders : ProviderRegistry where
  providers := ["openai", "local"]
  health := [("openai", .dict [("availability", .str "available")]),
    ("local", .dict [("availability", .str "available")])]

/-- The adapters of that node, without a price list. -/
def bothAdapters (providerId : String) : Adapter :=
  if providerId = "openai" then .ofOpenAI { pricing := fun _ => .ok none } else .ofLocal {}

/-- A request that asks the OpenAI provider first. -/
def greetingRequest : UnifiedExecutionRequest :=
  { taskFamily := "task.chat", prompt := some "hi", requestedProvider := some "openai" }

/-- An answer with status 200. -/
def jsonAnswer (body : Value) : HttpAnswer :=
  { statusCode := 200, contentType := "application/json", json := .ok body }

/-- A chat answer with the given usage. -/
def greetingBody (usage : Value) : Value :=
  .dict [
    ("choices", .list [.dict [("message", .dict [("content", .str "hello")]), ("finish_reason", .str "stop")]]),
    ("usage", usage)]

/-- Both providers return the answer. -/
def answersWith (body : Value) : AdapterOutcomes := fun n =>
  (bothAdapters (if n = 0 then "openai" else "local")).executePrompt greetingRequest (jsonAnswer body) (.finite 0)

/-- The usage of an answer that counts nothing. -/
theorem countsWellFormed_greetingBody_null : CountsWellFormed (greetingBody .null) where
  usage := fun _ _ => .inl rfl
  details := .inl rfl

/-- An answer whose `usage` is `null` counts as a failure of the provider, and the other provider is asked. -/
theorem null_usage_asked_again :
    CountsWellFormed (greetingBody .null) ∧ (bothAdapters "openai").Sends greetingRequest ∧
    ((routerExecute bothProviders {} (answersWith (greetingBody .null)) greetingRequest).exec []).2.map
      ProviderCall.provider = ["openai", "local"] ∧
    ¬AnswerKept bothAdapters bothProviders {} (answersWith (greetingBody .null)) greetingRequest 0
      ⟨"openai", greetingRequest⟩ (greetingBody .null) := by
  refine ⟨countsWellFormed_greetingBody_null, ?_, rfl, ?_⟩
  · intro himage
    cases himage
  · rintro ⟨response, hresponse, -⟩
    have hfailed : answersWith (greetingBody .null) 0 =
        .error ⟨.runtimeError, "'NoneType' object has no attribute 'get'"⟩ := rfl
    rw [hfailed] at hresponse
    cases hresponse

/-- A usage that counts its tokens. -/
def countedUsage : Value := .dict [("prompt_tokens", .int 9), ("completion_tokens", .int 4), ("total_tokens", .int 13)]

theorem countsWellFormed_countedUsage : CountsWellFormed (greetingBody countedUsage) where
  usage := by
    intro key hkey
    simp only [List.mem_cons, List.not_mem_nil, or_false] at hkey
    rcases hkey with rfl | rfl | rfl | rfl | rfl
    · exact .inr ⟨9, rfl⟩
    · exact .inr ⟨4, rfl⟩
    · exact .inr ⟨13, rfl⟩
    · exact .inl rfl
    · exact .inl rfl
  details := .inl rfl

/-- An answer that counts its tokens is kept, and nobody else is asked. -/
theorem counted_usage_kept :
    AnswerKept bothAdapters bothProviders {} (answersWith (greetingBody countedUsage)) greetingRequest 0
      ⟨"openai", greetingRequest⟩ (greetingBody countedUsage) := by
  refine (answer_kept_iff bothAdapters bothProviders {} (answersWith (greetingBody countedUsage)) greetingRequest 0
    ⟨"openai", greetingRequest⟩ (jsonAnswer (greetingBody countedUsage)) (.finite 0) (greetingBody countedUsage)
    rfl ?_ rfl (by decide) rfl countsWellFormed_countedUsage).mpr ⟨rfl, ⟨?_, ?_⟩, rfl⟩
  · intro himage
    cases himage
  · intro himage
    cases himage
  · refine fun _ => ⟨⟨_, _, _, rfl, rfl⟩, ⟨rfl, fun htruthy => ?_⟩, none, rfl, fun _ h => ?_⟩
    · cases htruthy
    · cases h

end Execution
end HexeAiNode
