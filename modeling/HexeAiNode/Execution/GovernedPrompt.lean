import HexeAiNode.Execution.Confinement
import HexeAiNode.Execution.InputValidation
import HexeAiNode.Execution.PromptConstruction
import HexeAiNode.Execution.ProviderAnswers
import HexeAiNode.Execution.TaskExecutionService

/-!
# From the governed prompt to the messages of a call

A request whose prompt version has a template is turned into a provider request by one of two builders,
`_build_unified_execution_request` of the classification and summarization handlers and `_build_unified_request`
of the default one, and an adapter makes a message list of it.  `handlerContent` is what the builders make of a
request; with it for `ServiceEnv.content`, `unifiedRequest` is the request the service dispatches.

## Where the text gets lost

* The validator of the classification and summarization handlers runs before the template is considered: inputs
  without a prompt text of their own are refused.  The default handler has no such check.
* Both adapters leave prompt and system prompt out when the inputs have messages.
* An image request has a prompt and no message list.
* A template may render to the empty text, which is not sent.

`governed_prompt_sent_iff` says that nothing else loses it.
-/

namespace HexeAiNode
namespace Execution

open Py Governance Budget

/-! ## The two builders -/

/-- `DEFAULT_CLASSIFICATION_SYSTEM_PROMPT`. -/
def defaultClassificationSystemPrompt : String :=
  "Return only a JSON object for the classification result. " ++
    "Use the shape \x7b\"label\": string, \"confidence\": number|null, \"reasoning\": string\x7d. " ++
    "Do not include markdown fences or extra prose."

/-- `STRUCTURED_EXTRACTION_SYSTEM_PROMPT_SUFFIX`. -/
def structuredExtractionSystemPromptSuffix : String :=
  " Return exactly one JSON object. " ++
    "Do not wrap the JSON object in a field named text. " ++
    "Do not return a JSON string. " ++
    "Do not include markdown fences. " ++
    "Do not include explanations, notes, or prose before or after the JSON object. " ++
    "The top-level response must be the template object itself."

/-- A text with a suffix, or the suffix alone. -/
def withSuffix (base suffix : String) : String := if base = "" then strip suffix else base ++ suffix

/-- The system prompt of a structured extraction has a suffix; that of another family is left alone. -/
def extractionSystemPrompt (taskFamily : String) (systemPrompt : Value) : Value :=
  if stripLower taskFamily = "task.structured_extraction" then
    .str (withSuffix systemPrompt.normalizeString structuredExtractionSystemPromptSuffix)
  else systemPrompt

/-- The definition of the prompt version, `{}` where there is none. -/
def promptDefinitionOf (authorization : Option ExecutionAuthorizationResult) : Dict :=
  match authorization with
  | some authorization => authorization.promptDefinition.asDict
  | none => []

/-- The schema the inputs ask for. -/
def structuredOutputSchema (inputs : Dict) : Value :=
  let schema := Dict.get inputs "structured_output_schema"
  let schema := if schema.isDict then schema else Dict.get inputs "json_schema"
  if schema.isDict then schema else .null

/-- `_prompt_importance_level` of the handlers. -/
def handlerPromptImportance (authorization : Option ExecutionAuthorizationResult) : Value :=
  match authorization with
  | some authorization =>
    let level := ((authorization.promptConstraints.asDict.get "importance").asDict.get "level").normalizeLower
    if level ∈ ["background", "normal", "high", "critical"] then .str level else .null
  | none => .null

/-- The metadata both builders give a request. -/
def requestMetadata (request : TaskExecutionRequest) (importance : Value) : Dict :=
  [("task_id", .str request.taskId), ("requested_by", .str request.requestedBy),
    ("trace_id", .str request.traceId), ("prompt_id", optStr request.promptId),
    ("prompt_version", optStr request.promptVersion), ("execution_priority", .str request.priority.text),
    ("prompt_importance", importance), ("lease_id", optStr request.leaseId),
    ("structured_output_schema", structuredOutputSchema request.inputs)]

/-- A system prompt as pydantic takes it: a text or nothing. -/
def typedText : Value → Except Exc (Option String)
  | .null => .ok none
  | .str s => .ok (some s)
  | _ => .error ⟨.validationError, "Input should be a valid string"⟩

/-- Messages as pydantic takes them: dictionaries. -/
def typedMessages (messages : List Value) : Except Exc (List Value) :=
  if messages.all Value.isDict then .ok messages
  else .error ⟨.validationError, "Input should be a valid dictionary"⟩

/-- The system prompt of the handlers: the caller's, the definition's, or that of the classifications. -/
def handlerSystemPrompt (taskFamily : String) (definition : Dict) (callers : Option String) : Value :=
  (optStr callers).orElse <| (Dict.get definition "system_prompt").orElse <|
    if startsWith (strip taskFamily) "task.classification" then .str defaultClassificationSystemPrompt else .null

/-- `_build_unified_execution_request`. -/
def buildUnifiedExecutionRequest (request : TaskExecutionRequest)
    (authorization : Option ExecutionAuthorizationResult) (inputs : NormalizedTaskInputs) :
    Except Exc UnifiedContent := do
  let definition := promptDefinitionOf authorization
  let rendered := renderPromptTemplate definition request.inputs
  let systemPrompt ← typedText (extractionSystemPrompt request.taskFamily
    (handlerSystemPrompt request.taskFamily definition inputs.systemPrompt))
  let messages ← typedMessages inputs.messages
  return {
    prompt := (rendered.filter (· ≠ "")).or inputs.prompt
    systemPrompt := systemPrompt
    messages := messages
    temperature := inputs.temperature
    maxTokens := inputs.maxTokens
    metadata := requestMetadata request (handlerPromptImportance authorization) ++ inputs.metadata }

/-- `str(x or "") if x is not None else None`. -/
def textUnlessNull (v : Value) : Option String :=
  if v.isNull then none else some (if v.truthy then v.toStr else "")

/-- `x if isinstance(x, list) else []`. -/
def listOrEmpty : Value → List Value
  | .list xs => xs
  | _ => []

/-- The first of two values that is not `None`. -/
def unlessNull (v w : Value) : Value := if v.isNull then w else v

/-- `float(temperature) if isinstance(temperature, (int, float)) else None`. -/
def floatTemperature : Value → Except Exc (Option FloatVal)
  | .null | .str _ | .list _ | .dict _ => .ok none
  | v => some <$> v.toFloat

/-- `int(max_tokens) if isinstance(max_tokens, int) else None`. -/
def intMaxTokens : Value → Option Int
  | .int n => some n
  | .bool b => some (if b then 1 else 0)
  | _ => none

/-- The image template of the constraints, as the metadata has it. -/
def imageTemplateMetadata (constraints : Dict) : Value :=
  match Dict.get constraints "image_template_resolved" with
  | .dict template => .dict (["template_id", "template_version", "template_runtime", "output_scope",
      "output_folder_policy", "model_requirements"].map fun key => (key, Dict.get template key))
  | _ => .null

/-- The options of an image generation among the inputs. -/
def imageGenerationOptions (inputs : Dict) : Dict :=
  (["n", "size", "quality", "background", "output_format"].map fun key => (key, Dict.get inputs key)).filter
    fun entry => !entry.2.isNull

/-- `_build_unified_request`. -/
def buildUnifiedRequest (request : TaskExecutionRequest)
    (authorization : Option ExecutionAuthorizationResult) : Except Exc UnifiedContent := do
  let inputs := request.inputs
  let definition := promptDefinitionOf authorization
  let prompt := unlessNull (optStr (renderPromptTemplate definition inputs)) <|
    unlessNull (Dict.get inputs "prompt") (Dict.get inputs "text")
  let systemPrompt := extractionSystemPrompt request.taskFamily
    (unlessNull (Dict.get inputs "system_prompt") (Dict.get definition "system_prompt"))
  let temperature ← floatTemperature (Dict.get inputs "temperature")
  let messages ← typedMessages (listOrEmpty (Dict.get inputs "messages"))
  let importance := (authorization.map fun a => Value.str (promptImportanceLevel a).text).getD .null
  return {
    prompt := textUnlessNull prompt
    systemPrompt := textUnlessNull systemPrompt
    messages := messages
    temperature := temperature
    maxTokens := intMaxTokens (Dict.get inputs "max_tokens")
    metadata := requestMetadata request importance ++
      [("image_template", imageTemplateMetadata request.constraints)] ++ imageGenerationOptions inputs }

/-- What a handler makes of a request. -/
def handlerContent (handler : Handler) (request : TaskExecutionRequest)
    (authorization : Option ExecutionAuthorizationResult) : Except Exc UnifiedContent :=
  match handler with
  | .provider => buildUnifiedRequest request authorization
  | _ => do
    let inputs ← validateAndNormalizeTaskInputs request.taskFamily request.inputs
    buildUnifiedExecutionRequest request authorization inputs

/-! ## The message lists of the adapters -/

/-- A message. -/
def roleMessage (role content : String) : Value := .dict [("role", .str role), ("content", .str content)]

/-- The messages of a chat call: those of the request, or its system prompt and its prompt. -/
def chatMessages (request : UnifiedExecutionRequest) : List Value :=
  if request.messages.isEmpty then
    ((request.systemPrompt.filter (· ≠ "")).map (roleMessage "system")).toList ++
      ((request.prompt.filter (· ≠ "")).map (roleMessage "user")).toList
  else request.messages

/-- `STRUCTURED_OUTPUT_SYSTEM_PROMPT_SUFFIX`. -/
def structuredOutputSystemPromptSuffix : String :=
  " Return only the final JSON object that satisfies the requested response schema. " ++
    "Do not return a tool call, function call, name/parameters wrapper, arguments wrapper, markdown fences, " ++
    "or input echo."

/-- A message of the role `system`. -/
def isSystemMessage : Value → Bool
  | .dict kvs => (Dict.get kvs "role").normalizeLower == "system"
  | _ => false

/-- A system message with the suffix, unless it has one. -/
def guardedMessage : Value → Value
  | .dict kvs =>
    let content := (Dict.get kvs "content").normalizeString
    if contains content "name/parameters wrapper" then .dict kvs
    else .dict (Dict.set kvs "content" (.str (withSuffix content structuredOutputSystemPromptSuffix)))
  | message => message

/-- The messages with the first system message guarded, if there is one. -/
def guardFirst : List Value → Option (List Value)
  | [] => none
  | message :: messages =>
    if isSystemMessage message then some (guardedMessage message :: messages)
    else (guardFirst messages).map (message :: ·)

/-- `_messages_with_structured_output_guard`. -/
def messagesWithStructuredOutputGuard (schema : Value) (messages : List Value) : List Value :=
  if schema.isDict then
    (guardFirst messages).getD (roleMessage "system" (strip structuredOutputSystemPromptSuffix) :: messages)
  else messages

/-- What an adapter makes of a message list: the local one adds a guard when a schema is asked for. -/
def Adapter.passes (adapter : Adapter) (schema : Value) (messages : List Value) : List Value :=
  match adapter with
  | ofOpenAI _ => messages
  | ofLocal _ => messagesWithStructuredOutputGuard schema messages

/-- The adapter asks for an image. -/
def Adapter.wantsImage (adapter : Adapter) (request : UnifiedExecutionRequest) : Bool :=
  match adapter with
  | ofOpenAI adapter => adapter.wantsImage request
  | ofLocal _ => false

/-- The message list an adapter sends; an image request has none. -/
def Adapter.sentMessages (adapter : Adapter) (request : UnifiedExecutionRequest) : List Value :=
  if adapter.wantsImage request then []
  else adapter.passes (Dict.get request.metadata "structured_output_schema") (chatMessages request)

/-! ## What a message list says -/

/-- A message of a user has exactly this text. -/
def UserSays (text : String) (messages : List Value) : Prop :=
  ∃ m ∈ messages, Dict.get m.asDict "role" = .str "user" ∧ Dict.get m.asDict "content" = .str text

/-- A system message contains this text. -/
def SystemSays (text : String) (messages : List Value) : Prop :=
  ∃ m ∈ messages, Dict.get m.asDict "role" = .str "system" ∧
    ∃ content, Dict.get m.asDict "content" = .str content ∧ contains content text = true

section Messages

variable {text : String} {messages : List Value} {request : UnifiedExecutionRequest} {adapter : Adapter}

theorem userSays_cons {m : Value} : UserSays text (m :: messages) ↔
    (Dict.get m.asDict "role" = .str "user" ∧ Dict.get m.asDict "content" = .str text) ∨ UserSays text messages := by
  simp [UserSays]

@[simp] theorem not_userSays_nil : ¬UserSays text [] := by simp [UserSays]

/-- A guarded message keeps its role. -/
theorem role_guardedMessage (m : Value) :
    Dict.get (guardedMessage m).asDict "role" = Dict.get m.asDict "role" := by
  cases m with
  | dict kvs =>
      simp only [guardedMessage]
      split
      · rfl
      · exact Dict.get_set_of_ne _ _ (by decide)
  | _ => rfl

/-- A system message is not one of a user. -/
theorem role_ne_user_of_isSystemMessage {m : Value} (h : isSystemMessage m = true) :
    Dict.get m.asDict "role" ≠ .str "user" := by
  intro hrole
  cases m with
  | dict kvs =>
      rw [Value.asDict] at hrole
      rw [isSystemMessage, hrole] at h
      exact absurd h (by decide)
  | _ => simp [isSystemMessage] at h

theorem userSays_guardFirst {guarded : List Value} (h : guardFirst messages = some guarded) :
    UserSays text guarded ↔ UserSays text messages := by
  induction messages generalizing guarded with
  | nil => cases h
  | cons m messages ih =>
      rw [guardFirst] at h
      split at h
      · rename_i hsystem
        cases h
        have hrole := role_ne_user_of_isSystemMessage hsystem
        simp [userSays_cons, role_guardedMessage, hrole]
      · obtain ⟨rest, hrest, rfl⟩ := Option.map_eq_some_iff.mp h
        rw [userSays_cons, userSays_cons, ih hrest]

/-- **What an adapter adds to a message list changes nothing a user says in it.** -/
theorem userSays_passes {schema : Value} : UserSays text (adapter.passes schema messages) ↔ UserSays text messages := by
  rcases adapter with _ | _
  · rfl
  · simp only [Adapter.passes, messagesWithStructuredOutputGuard]
    split
    · rcases hguard : guardFirst messages with _ | guarded
      · simp only [Option.getD_none, userSays_cons, roleMessage]
        simp [Value.asDict, Dict.get, Assoc.get?_cons]
      · rw [Option.getD_some, userSays_guardFirst hguard]
    · rfl

/-- Without messages of its own a request says its prompt, unless that is empty. -/
theorem userSays_chatMessages (hmessages : request.messages = []) :
    UserSays text (chatMessages request) ↔ text ≠ "" ∧ request.prompt = some text := by
  have hsystem : ∀ s, ¬(Dict.get (roleMessage "system" s).asDict "role" = .str "user") := by
    intro s
    simp [roleMessage, Value.asDict, Dict.get, Assoc.get?_cons]
  have huser : ∀ p, (Dict.get (roleMessage "user" p).asDict "role" = .str "user" ∧
      Dict.get (roleMessage "user" p).asDict "content" = .str text) ↔ p = text := by
    intro p
    simp [roleMessage, Value.asDict, Dict.get, Assoc.get?_cons]
  rw [chatMessages, if_pos (by simp [hmessages])]
  constructor
  · rintro ⟨m, hm, hsaid⟩
    rcases List.mem_append.mp hm with h | h
    · obtain ⟨s, -, rfl⟩ := Option.map_eq_some_iff.mp (Option.mem_toList.mp h)
      exact absurd hsaid.1 (hsystem s)
    · obtain ⟨p, hp, rfl⟩ := Option.map_eq_some_iff.mp (Option.mem_toList.mp h)
      obtain ⟨hp, hne⟩ := Option.filter_eq_some_iff.mp hp
      obtain rfl := (huser p).mp hsaid
      exact ⟨by simpa using hne, hp⟩
  · rintro ⟨hne, hp⟩
    exact ⟨roleMessage "user" text, by simp [hp, hne], (huser text).mpr rfl⟩

/-- The guard leaves in a system message what is stripped and in it. -/
theorem systemSays_guardedMessage {content s : String} (hcontains : contains content (strip s) = true) :
    ∃ guarded, Dict.get (guardedMessage (roleMessage "system" content)).asDict "content" = .str guarded ∧
      contains guarded (strip s) = true := by
  have hget : Dict.get [("role", Value.str "system"), ("content", Value.str content)] "content" = .str content := by
    simp [Dict.get, Assoc.get?_cons]
  simp only [roleMessage, guardedMessage, hget, Value.normalizeString_str]
  split
  · exact ⟨content, hget, hcontains⟩
  · refine ⟨withSuffix (strip content) structuredOutputSystemPromptSuffix, by simp [Value.asDict], ?_⟩
    have hstrip := contains_strip hcontains
    rw [withSuffix]
    split
    · rename_i hempty
      rw [hempty, contains_iff] at hstrip
      rw [contains_iff, List.infix_nil.mp hstrip]
      exact List.nil_infix
    · exact contains_append_left _ hstrip

/-- Without messages of its own a request says its system prompt, whichever adapter sends it. -/
theorem systemSays_passes_chatMessages (adapter : Adapter) (schema : Value) {content s : String} (hmessages : request.messages = [])
    (hsystem : request.systemPrompt = some content) (hne : content ≠ "")
    (hcontains : contains content (strip s) = true) :
    SystemSays (strip s) (adapter.passes schema (chatMessages request)) := by
  have hrole : Dict.get (roleMessage "system" content).asDict "role" = .str "system" := by
    simp [roleMessage, Value.asDict, Dict.get, Assoc.get?_cons]
  obtain ⟨rest, hrest⟩ : ∃ rest, chatMessages request = roleMessage "system" content :: rest :=
    ⟨((request.prompt.filter (· ≠ "")).map (roleMessage "user")).toList,
      by simp [chatMessages, hmessages, hsystem, Option.filter_some, hne]⟩
  have hplain : SystemSays (strip s) (chatMessages request) := by
    refine ⟨roleMessage "system" content, by simp [hrest], hrole, content, ?_, hcontains⟩
    simp [roleMessage, Value.asDict, Dict.get, Assoc.get?_cons]
  rcases adapter with _ | _
  · exact hplain
  · simp only [Adapter.passes, messagesWithStructuredOutputGuard]
    split
    · have hfirst : isSystemMessage (roleMessage "system" content) = true := by
        simp [roleMessage, isSystemMessage, Dict.get, Assoc.get?_cons, Value.normalizeLower]
        decide
      rw [hrest, guardFirst, if_pos hfirst, Option.getD_some]
      exact ⟨_, List.mem_cons_self, (role_guardedMessage _).trans hrole, systemSays_guardedMessage hcontains⟩
    · exact hplain

end Messages

/-! ## What the builders make of a template -/

section Builders

variable {handler : Handler} {request : TaskExecutionRequest} {authorization : Option ExecutionAuthorizationResult}
  {content : UnifiedContent} {text s : String}

/-- The messages the inputs give a handler. -/
def givenMessages (handler : Handler) (inputs : Dict) : List Value :=
  match handler with
  | .provider => listOrEmpty (Dict.get inputs "messages")
  | _ => (normalizedMessages (Dict.get inputs "messages")).toOption.getD []

/-- The definition has the system prompt and the inputs give none. -/
structure GovernsSystem (definition inputs : Dict) (systemPrompt : String) : Prop where
  absent : Dict.get inputs "system_prompt" = .null
  stored : Dict.get definition "system_prompt" = .str systemPrompt
  nonBlank : strip systemPrompt ≠ ""

/-- The classification and summarization handlers refuse inputs that have neither a prompt text nor messages. -/
def RefusedForPrompt (handler : Handler) (request : TaskExecutionRequest) : Prop :=
  handler ≠ .provider ∧
    ∃ read, readTaskInputs request.taskFamily request.inputs = .ok read ∧ read.lacksPrompt = true

theorem handlerContent_of_refused (h : RefusedForPrompt handler request) :
    handlerContent handler request authorization = .error invalidInput := by
  obtain ⟨hhandler, read, hread, hlacks⟩ := h
  have hvalidate : validateAndNormalizeTaskInputs request.taskFamily request.inputs = .error invalidInput := by
    rw [validateAndNormalizeTaskInputs, hread]
    exact if_pos hlacks
  cases handler with
  | provider => exact absurd rfl hhandler
  | classification => simp only [handlerContent, hvalidate]; rfl
  | summarization => simp only [handlerContent, hvalidate]; rfl

theorem typedMessages_eq_ok {messages typed : List Value} :
    typedMessages messages = .ok typed ↔ messages.all Value.isDict = true ∧ typed = messages := by
  unfold typedMessages
  split
  · rename_i h
    simp [h, eq_comm]
  · rename_i h
    simp [h]

/-- The system prompt of a structured extraction contains the one it is made of. -/
theorem contains_extractionSystemPrompt (taskFamily : String) {t : String} (ht : strip t ≠ "") :
    ∃ c, extractionSystemPrompt taskFamily (.str t) = .str c ∧ c ≠ "" ∧ contains c (strip t) = true := by
  unfold extractionSystemPrompt
  split
  · rw [Value.normalizeString_str, withSuffix, if_neg ht]
    exact ⟨_, rfl, fun h => ht (String.append_eq_empty_iff.mp h).1, contains_append_left _ (contains_self _)⟩
  · refine ⟨t, rfl, ?_, contains_strip_self t⟩
    rintro rfl
    exact ht rfl

/-- What either builder makes of a request whose template renders to a text. -/
structure ContentSpec (handler : Handler) (request : TaskExecutionRequest)
    (authorization : Option ExecutionAuthorizationResult) (content : UnifiedContent) : Prop where
  messages : content.messages = givenMessages handler request.inputs
  schema : Dict.get content.metadata "structured_output_schema" = structuredOutputSchema request.inputs
  prompt : ∀ text, renderPromptTemplate (promptDefinitionOf authorization) request.inputs = some text →
    text ≠ "" → content.prompt = some text
  system : ∀ s, GovernsSystem (promptDefinitionOf authorization) request.inputs s →
    ∃ c, content.systemPrompt = some c ∧ c ≠ "" ∧ contains c (strip s) = true

theorem schema_requestMetadata (importance : Value) (rest : Dict) :
    Dict.get (requestMetadata request importance ++ rest) "structured_output_schema" =
      structuredOutputSchema request.inputs := by
  simp [requestMetadata, Dict.get, Assoc.get?_cons]

theorem contentSpec_provider (h : buildUnifiedRequest request authorization = .ok content) :
    ContentSpec .provider request authorization content := by
  obtain ⟨temperature, -, h⟩ := bind_eq_ok.mp h
  obtain ⟨messages, hmessages, h⟩ := bind_eq_ok.mp h
  obtain ⟨-, rfl⟩ := typedMessages_eq_ok.mp hmessages
  simp only [pure, Except.pure, Except.ok.injEq] at h
  subst h
  refine { messages := ?_, schema := ?_, prompt := ?_, system := ?_ }
  · dsimp only [givenMessages]
  · dsimp only
    rw [List.append_assoc]
    exact schema_requestMetadata _ _
  · intro text htext hne
    dsimp only
    rw [htext]
    simp [unlessNull, textUnlessNull, Value.isNull, Value.truthy, Value.toStr, hne]
  · intro s hs
    dsimp only
    rw [hs.absent, hs.stored]
    obtain ⟨c, hc, hne, hcontains⟩ := contains_extractionSystemPrompt request.taskFamily hs.nonBlank
    have hnull : unlessNull .null (.str s) = .str s := rfl
    refine ⟨c, ?_, hne, hcontains⟩
    rw [hnull, hc]
    simp [textUnlessNull, Value.isNull, Value.truthy, Value.toStr, hne]

/-- The system prompt a handler takes from the definition. -/
theorem handlerSystemPrompt_of_governs {definition inputs : Dict} (hs : GovernsSystem definition inputs s)
    (taskFamily : String) :
    handlerSystemPrompt taskFamily definition (normalizedOptionalString (Dict.get inputs "system_prompt")) =
      .str s := by
  have hne : s ≠ "" := by
    rintro rfl
    exact hs.nonBlank rfl
  rw [hs.absent, handlerSystemPrompt, hs.stored]
  simp [normalizedOptionalString, Value.orElse, Value.truthy, hne]

theorem contentSpec_handlers {read : NormalizedTaskInputs}
    (hread : readTaskInputs request.taskFamily request.inputs = .ok read) (hhandler : handler ≠ .provider)
    (h : buildUnifiedExecutionRequest request authorization read = .ok content) :
    ContentSpec handler request authorization content := by
  obtain ⟨hnormalized, -, hsystem⟩ := readTaskInputs_eq_ok hread
  obtain ⟨systemPrompt, hprompt, h⟩ := bind_eq_ok.mp h
  obtain ⟨messages, hmessages, h⟩ := bind_eq_ok.mp h
  obtain ⟨-, rfl⟩ := typedMessages_eq_ok.mp hmessages
  simp only [pure, Except.pure, Except.ok.injEq] at h
  subst h
  refine { messages := ?_, schema := ?_, prompt := ?_, system := ?_ }
  · cases handler with
    | provider => exact absurd rfl hhandler
    | _ => simp [givenMessages, hnormalized, Except.toOption]
  · exact schema_requestMetadata _ _
  · intro text htext hne
    dsimp only
    rw [htext]
    simp [Option.filter_some, hne]
  · intro s hs
    obtain ⟨c, hc, hne, hcontains⟩ := contains_extractionSystemPrompt request.taskFamily hs.nonBlank
    rw [hsystem, handlerSystemPrompt_of_governs hs, hc] at hprompt
    cases hprompt
    exact ⟨c, rfl, hne, hcontains⟩

/-- **Both builders put the rendered text and the governed system prompt into a request.** -/
theorem contentSpec_of_eq_ok (h : handlerContent handler request authorization = .ok content) :
    ContentSpec handler request authorization content := by
  by_cases hhandler : handler = .provider
  · subst hhandler
    exact contentSpec_provider h
  · have hbind : (validateAndNormalizeTaskInputs request.taskFamily request.inputs >>=
        buildUnifiedExecutionRequest request authorization) = .ok content := by
      cases handler with
      | provider => exact absurd rfl hhandler
      | _ => exact h
    obtain ⟨validated, hvalidated, hbuild⟩ := bind_eq_ok.mp hbind
    obtain ⟨read, hread, hrequire⟩ := bind_eq_ok.mp hvalidated
    obtain ⟨-, rfl⟩ := requirePrompt_eq_ok.mp hrequire
    exact contentSpec_handlers hread hhandler hbuild

/-! ## Which requests a builder takes -/

/-- The inputs pass the checks of the builder that are not about a prompt text. -/
def BuilderAccepts (handler : Handler) (request : TaskExecutionRequest)
    (authorization : Option ExecutionAuthorizationResult) : Prop :=
  match handler with
  | .provider => (∃ temperature, floatTemperature (Dict.get request.inputs "temperature") = .ok temperature) ∧
      (givenMessages .provider request.inputs).all Value.isDict = true
  | _ => (∃ read, readTaskInputs request.taskFamily request.inputs = .ok read) ∧
      ∃ systemPrompt, typedText (extractionSystemPrompt request.taskFamily
        (handlerSystemPrompt request.taskFamily (promptDefinitionOf authorization)
          (normalizedOptionalString (Dict.get request.inputs "system_prompt")))) = .ok systemPrompt

theorem isDict_of_normalizedMessage {m normalized : Value} (h : normalizedMessage m = .ok normalized) :
    normalized.isDict = true := by
  cases m with
  | dict kvs =>
      rw [normalizedMessage] at h
      split at h
      · cases h
        rfl
      · cases h
  | _ => cases h

/-- Normalized messages are dictionaries. -/
theorem isDict_of_normalizedMessages {v : Value} {messages : List Value} (h : normalizedMessages v = .ok messages) :
    messages.all Value.isDict = true := by
  cases v with
  | null =>
      cases h
      rfl
  | list entries =>
      rw [normalizedMessages] at h
      induction entries generalizing messages with
      | nil =>
          cases h
          rfl
      | cons entry entries ih =>
          rw [List.mapM_cons] at h
          obtain ⟨m, hm, h⟩ := bind_eq_ok.mp h
          obtain ⟨ms, hms, h⟩ := bind_eq_ok.mp h
          cases h
          simp [isDict_of_normalizedMessage hm, ih hms]
  | _ => cases h

/-- A handler builds a request exactly when the inputs pass its checks. -/
theorem exists_handlerContent_iff :
    (∃ content, handlerContent handler request authorization = .ok content) ↔
      BuilderAccepts handler request authorization ∧ ¬RefusedForPrompt handler request := by
  by_cases hhandler : handler = .provider
  · subst hhandler
    have hrefused : ¬RefusedForPrompt .provider request := fun h => h.1 rfl
    simp only [BuilderAccepts, hrefused, not_false_eq_true, and_true]
    constructor
    · rintro ⟨content, h⟩
      obtain ⟨temperature, htemperature, h⟩ := bind_eq_ok.mp h
      obtain ⟨messages, hmessages, -⟩ := bind_eq_ok.mp h
      exact ⟨⟨temperature, htemperature⟩, (typedMessages_eq_ok.mp hmessages).1⟩
    · rintro ⟨⟨temperature, htemperature⟩, hmessages⟩
      exact exists_bind_eq_ok htemperature (exists_bind_eq_ok (typedMessages_eq_ok.mpr ⟨hmessages, rfl⟩) ⟨_, rfl⟩)
  · have hcontent : handlerContent handler request authorization =
        (validateAndNormalizeTaskInputs request.taskFamily request.inputs >>=
          buildUnifiedExecutionRequest request authorization) := by
      cases handler with
      | provider => exact absurd rfl hhandler
      | _ => rfl
    have haccepts : BuilderAccepts handler request authorization ↔
        (∃ read, readTaskInputs request.taskFamily request.inputs = .ok read) ∧
          ∃ systemPrompt, typedText (extractionSystemPrompt request.taskFamily
            (handlerSystemPrompt request.taskFamily (promptDefinitionOf authorization)
              (normalizedOptionalString (Dict.get request.inputs "system_prompt")))) = .ok systemPrompt := by
      cases handler with
      | provider => exact absurd rfl hhandler
      | _ => rfl
    rw [hcontent, haccepts]
    constructor
    · rintro ⟨content, h⟩
      obtain ⟨validated, hvalidated, hbuild⟩ := bind_eq_ok.mp h
      obtain ⟨read, hread, hrequire⟩ := bind_eq_ok.mp hvalidated
      obtain ⟨hlacks, rfl⟩ := requirePrompt_eq_ok.mp hrequire
      obtain ⟨systemPrompt, hprompt, -⟩ := bind_eq_ok.mp hbuild
      rw [(readTaskInputs_eq_ok hread).2.2] at hprompt
      refine ⟨⟨⟨validated, hread⟩, systemPrompt, hprompt⟩, ?_⟩
      rintro ⟨-, read', hread', hlacks'⟩
      cases hread.symm.trans hread'
      rw [hlacks] at hlacks'
      cases hlacks'
    · rintro ⟨⟨⟨read, hread⟩, systemPrompt, hprompt⟩, hrefused⟩
      obtain ⟨hmessages, -, hsystem⟩ := readTaskInputs_eq_ok hread
      have hlacks : read.lacksPrompt = false :=
        Bool.eq_false_iff.mpr fun hlacks => hrefused ⟨hhandler, read, hread, hlacks⟩
      rw [← hsystem] at hprompt
      exact exists_bind_eq_ok (bind_eq_ok.mpr ⟨read, hread, requirePrompt_eq_ok.mpr ⟨hlacks, rfl⟩⟩)
        (exists_bind_eq_ok hprompt (exists_bind_eq_ok
          (typedMessages_eq_ok.mpr ⟨isDict_of_normalizedMessages hmessages, rfl⟩) ⟨_, rfl⟩))

end Builders

/-! ## What reaches the model -/

/-- The environment whose handlers build requests the way the source does. -/
def ServiceEnv.withHandlers (env : ServiceEnv) : ServiceEnv := { env with content := handlerContent }

section Sent

variable {env : ServiceEnv} {plan : Plan} {handler : Handler} {adapter : Adapter} {text : String}
  {unified : UnifiedExecutionRequest}

/-- **The governed prompt is what is sent**: the request is not refused for lacking a prompt text of its own, and the
message list of the adapter has the rendered text as user content and, unless the inputs give one, the system prompt
of the definition. -/
structure GovernedPromptSent (env : ServiceEnv) (plan : Plan) (handler : Handler) (adapter : Adapter)
    (text : String) : Prop where
  notRefused : ¬RefusedForPrompt handler plan.request
  user : ∀ unified, unifiedRequest env.withHandlers plan = .ok unified →
    UserSays text (adapter.sentMessages unified)
  system : ∀ unified s, unifiedRequest env.withHandlers plan = .ok unified →
    GovernsSystem (promptDefinitionOf env.authorization) plan.request.inputs s →
    SystemSays (strip s) (adapter.sentMessages unified)

/-- When the governed prompt gets through.  Inputs without messages have a prompt text of their own where the handler
asks for one, and the template does not render to the empty text; messages of the inputs say the two texts already;
and the adapter does not ask for an image. -/
structure PromptReaches (plan : Plan) (handler : Handler) (authorization : Option ExecutionAuthorizationResult)
    (adapter : Adapter) (text : String) : Prop where
  own : handler ≠ .provider → (∃ read, readTaskInputs plan.request.taskFamily plan.request.inputs = .ok read) →
    callerPrompt plan.request.taskFamily plan.request.inputs ≠ none ∨
      givenMessages handler plan.request.inputs ≠ []
  chat : BuilderAccepts handler plan.request authorization →
    adapter.wantsImage { taskFamily := plan.request.taskFamily, requestedModel := plan.resolution.modelId } = false
  rendered : BuilderAccepts handler plan.request authorization → givenMessages handler plan.request.inputs = [] →
    text ≠ ""
  given : BuilderAccepts handler plan.request authorization → givenMessages handler plan.request.inputs ≠ [] →
    UserSays text (givenMessages handler plan.request.inputs) ∧
    ∀ s, GovernsSystem (promptDefinitionOf authorization) plan.request.inputs s →
      SystemSays (strip s) (adapter.passes (structuredOutputSchema plan.request.inputs)
        (givenMessages handler plan.request.inputs))

/-- Inputs are refused when they have neither a prompt text nor messages. -/
theorem refusedForPrompt_iff {request : TaskExecutionRequest} :
    RefusedForPrompt handler request ↔ handler ≠ .provider ∧
      (∃ read, readTaskInputs request.taskFamily request.inputs = .ok read) ∧
      callerPrompt request.taskFamily request.inputs = none ∧ givenMessages handler request.inputs = [] := by
  have hlacks : ∀ read, handler ≠ .provider → readTaskInputs request.taskFamily request.inputs = .ok read →
      (read.lacksPrompt = true ↔
        callerPrompt request.taskFamily request.inputs = none ∧ givenMessages handler request.inputs = []) := by
    intro read hhandler hread
    obtain ⟨hmessages, hprompt, -⟩ := readTaskInputs_eq_ok hread
    have hgiven : givenMessages handler request.inputs = read.messages := by
      cases handler with
      | provider => exact absurd rfl hhandler
      | _ => simp [givenMessages, hmessages, Except.toOption]
    simp [NormalizedTaskInputs.lacksPrompt, hprompt, hgiven]
  constructor
  · rintro ⟨hhandler, read, hread, hread'⟩
    exact ⟨hhandler, ⟨read, hread⟩, (hlacks read hhandler hread).mp hread'⟩
  · rintro ⟨hhandler, ⟨read, hread⟩, h⟩
    exact ⟨hhandler, read, hread, (hlacks read hhandler hread).mpr h⟩

/-- The request the service dispatches is what the handler builds, for the resolved provider and model. -/
theorem unifiedRequest_eq_ok (hhandler : resolveHandler env plan.request.taskFamily = .ok handler) :
    unifiedRequest env.withHandlers plan = .ok unified ↔
      ∃ content, handlerContent handler plan.request env.authorization = .ok content ∧
        unified = UnifiedExecutionRequest.mk plan.request.taskFamily content.prompt content.systemPrompt
          content.messages plan.resolution.providerId plan.resolution.modelId content.temperature content.maxTokens
          content.metadata := by
  have hresolve : resolveHandler env.withHandlers plan.request.taskFamily = .ok handler := hhandler
  unfold unifiedRequest
  rw [bind_eq_ok]
  constructor
  · rintro ⟨handler', hhandler', h⟩
    cases hresolve.symm.trans hhandler'
    obtain ⟨content, hcontent, h⟩ := bind_eq_ok.mp h
    exact ⟨content, hcontent, (Except.ok.inj h).symm⟩
  · rintro ⟨content, hcontent, rfl⟩
    exact ⟨handler, hresolve, bind_eq_ok.mpr ⟨content, hcontent, rfl⟩⟩

/-- What a dispatched request has of the handler's content. -/
structure DispatchedSpec (plan : Plan) (handler : Handler) (authorization : Option ExecutionAuthorizationResult)
    (unified : UnifiedExecutionRequest) : Prop where
  route : unified.taskFamily = plan.request.taskFamily ∧ unified.requestedModel = plan.resolution.modelId
  messages : unified.messages = givenMessages handler plan.request.inputs
  schema : Dict.get unified.metadata "structured_output_schema" = structuredOutputSchema plan.request.inputs
  prompt : ∀ text, renderPromptTemplate (promptDefinitionOf authorization) plan.request.inputs = some text →
    text ≠ "" → unified.prompt = some text
  system : ∀ s, GovernsSystem (promptDefinitionOf authorization) plan.request.inputs s →
    ∃ c, unified.systemPrompt = some c ∧ c ≠ "" ∧ contains c (strip s) = true

theorem dispatchedSpec_of_unified (hhandler : resolveHandler env plan.request.taskFamily = .ok handler)
    (h : unifiedRequest env.withHandlers plan = .ok unified) :
    DispatchedSpec plan handler env.authorization unified := by
  obtain ⟨content, hcontent, rfl⟩ := (unifiedRequest_eq_ok hhandler).mp h
  have hspec := contentSpec_of_eq_ok hcontent
  exact { route := ⟨rfl, rfl⟩, messages := hspec.messages, schema := hspec.schema
          prompt := hspec.prompt, system := hspec.system }

/-- Whether an image is asked for depends on the family and the model only. -/
theorem wantsImage_of_spec (hspec : DispatchedSpec plan handler env.authorization unified) :
    adapter.wantsImage unified =
      adapter.wantsImage { taskFamily := plan.request.taskFamily, requestedModel := plan.resolution.modelId } := by
  rcases adapter with _ | _
  · simp only [Adapter.wantsImage, OpenAIProviderAdapter.wantsImage, chosenModel, isImageGenerationRequest,
      hspec.route.1, hspec.route.2]
  · rfl

/-- The message list of a chat call. -/
theorem sentMessages_of_chat (hspec : DispatchedSpec plan handler env.authorization unified)
    (hchat : adapter.wantsImage unified = false) :
    adapter.sentMessages unified =
      adapter.passes (structuredOutputSchema plan.request.inputs) (chatMessages unified) := by
  rw [Adapter.sentMessages, hchat, hspec.schema]
  exact if_neg Bool.false_ne_true

/-- A call that says something is a chat call. -/
theorem chat_of_userSays (h : UserSays text (adapter.sentMessages unified)) :
    adapter.wantsImage unified = false := by
  rcases hwants : adapter.wantsImage unified with _ | _
  · rfl
  · rw [Adapter.sentMessages, hwants] at h
    exact absurd h not_userSays_nil

/-- Whose text the messages of a chat call say: that of the inputs' messages, if there are any. -/
theorem userSays_sent_iff (hspec : DispatchedSpec plan handler env.authorization unified)
    (htext : renderPromptTemplate (promptDefinitionOf env.authorization) plan.request.inputs = some text)
    (hchat : adapter.wantsImage unified = false) :
    UserSays text (adapter.sentMessages unified) ↔
      (givenMessages handler plan.request.inputs = [] → text ≠ "") ∧
      (givenMessages handler plan.request.inputs ≠ [] →
        UserSays text (givenMessages handler plan.request.inputs)) := by
  rw [sentMessages_of_chat hspec hchat, userSays_passes]
  by_cases hgiven : givenMessages handler plan.request.inputs = []
  · rw [userSays_chatMessages (hspec.messages.trans hgiven)]
    constructor
    · rintro ⟨hne, -⟩
      exact ⟨fun _ => hne, fun h => absurd hgiven h⟩
    · rintro ⟨hne, -⟩
      exact ⟨hne hgiven, hspec.prompt text htext (hne hgiven)⟩
  · have hchatMessages : chatMessages unified = givenMessages handler plan.request.inputs := by
      rw [chatMessages, hspec.messages, if_neg (by simpa using hgiven)]
    simp [hchatMessages, hgiven]

/-- The system prompt of the definition is in the messages of a chat call, unless the inputs' messages leave it out. -/
theorem systemSays_sent_iff {s : String} (hspec : DispatchedSpec plan handler env.authorization unified)
    (hs : GovernsSystem (promptDefinitionOf env.authorization) plan.request.inputs s)
    (hchat : adapter.wantsImage unified = false) :
    SystemSays (strip s) (adapter.sentMessages unified) ↔
      (givenMessages handler plan.request.inputs ≠ [] →
        SystemSays (strip s) (adapter.passes (structuredOutputSchema plan.request.inputs)
          (givenMessages handler plan.request.inputs))) := by
  rw [sentMessages_of_chat hspec hchat]
  by_cases hgiven : givenMessages handler plan.request.inputs = []
  · obtain ⟨c, hc, hne, hcontains⟩ := hspec.system s hs
    have hsaid := systemSays_passes_chatMessages adapter (structuredOutputSchema plan.request.inputs) (hspec.messages.trans hgiven) hc hne hcontains
    simp [hgiven, hsaid]
  · have hchatMessages : chatMessages unified = givenMessages handler plan.request.inputs := by
      rw [chatMessages, hspec.messages, if_neg (by simpa using hgiven)]
    simp [hchatMessages, hgiven]

/-- The inputs get through the builder exactly when the service dispatches a request. -/
theorem exists_unified_iff (hhandler : resolveHandler env plan.request.taskFamily = .ok handler) :
    (∃ unified, unifiedRequest env.withHandlers plan = .ok unified) ↔
      BuilderAccepts handler plan.request env.authorization ∧ ¬RefusedForPrompt handler plan.request := by
  rw [← exists_handlerContent_iff]
  constructor
  · rintro ⟨unified, h⟩
    obtain ⟨content, hcontent, -⟩ := (unifiedRequest_eq_ok hhandler).mp h
    exact ⟨content, hcontent⟩
  · rintro ⟨content, hcontent⟩
    exact ⟨_, (unifiedRequest_eq_ok hhandler).mpr ⟨content, hcontent, rfl⟩⟩

/-- The check on the caller's own prompt text is the only reason for which inputs are refused for lacking one. -/
theorem not_refusedForPrompt_iff {request : TaskExecutionRequest} :
    ¬RefusedForPrompt handler request ↔ (handler ≠ .provider →
      (∃ read, readTaskInputs request.taskFamily request.inputs = .ok read) →
      callerPrompt request.taskFamily request.inputs ≠ none ∨ givenMessages handler request.inputs ≠ []) := by
  rw [refusedForPrompt_iff]
  constructor
  · intro h hne hread
    by_contra hnone
    rw [not_or, not_not, not_not] at hnone
    exact h ⟨hne, hread, hnone⟩
  · rintro h ⟨hne, hread, hprompt, hgiven⟩
    rcases h hne hread with h | h
    · exact h hprompt
    · exact h hgiven

/-- **What the governed prompt needs to be sent**, for every handler and both adapters. -/
theorem governed_prompt_sent_iff (env : ServiceEnv) (plan : Plan) (handler : Handler) (adapter : Adapter)
    (text : String) (hhandler : resolveHandler env plan.request.taskFamily = .ok handler)
    (htext : renderPromptTemplate (promptDefinitionOf env.authorization) plan.request.inputs = some text) :
    GovernedPromptSent env plan handler adapter text ↔
      PromptReaches plan handler env.authorization adapter text := by
  constructor
  · intro hsent
    have hdispatched : BuilderAccepts handler plan.request env.authorization →
        ∃ unified, unifiedRequest env.withHandlers plan = .ok unified :=
      fun haccepts => (exists_unified_iff hhandler).mpr ⟨haccepts, hsent.notRefused⟩
    refine { own := not_refusedForPrompt_iff.mp hsent.notRefused, chat := ?_, rendered := ?_, given := ?_ }
    all_goals
      intro haccepts
      obtain ⟨unified, hunified⟩ := hdispatched haccepts
      have hspec := dispatchedSpec_of_unified hhandler hunified
      have huser := hsent.user unified hunified
      have hchat := chat_of_userSays huser
      have hsaid := (userSays_sent_iff hspec htext hchat).mp huser
    · rw [← wantsImage_of_spec hspec]
      exact hchat
    · exact hsaid.1
    · intro hgiven
      exact ⟨hsaid.2 hgiven, fun s hs =>
        (systemSays_sent_iff hspec hs hchat).mp (hsent.system unified s hunified hs) hgiven⟩
  · intro hreaches
    have hdispatched : ∀ unified, unifiedRequest env.withHandlers plan = .ok unified →
        DispatchedSpec plan handler env.authorization unified ∧
          BuilderAccepts handler plan.request env.authorization ∧ adapter.wantsImage unified = false := by
      intro unified hunified
      have hspec := dispatchedSpec_of_unified hhandler hunified
      have haccepts := ((exists_unified_iff hhandler).mp ⟨unified, hunified⟩).1
      exact ⟨hspec, haccepts, (wantsImage_of_spec hspec).trans (hreaches.chat haccepts)⟩
    refine { notRefused := not_refusedForPrompt_iff.mpr hreaches.own, user := ?_, system := ?_ }
    · intro unified hunified
      obtain ⟨hspec, haccepts, hchat⟩ := hdispatched unified hunified
      exact (userSays_sent_iff hspec htext hchat).mpr
        ⟨hreaches.rendered haccepts, fun hgiven => (hreaches.given haccepts hgiven).1⟩
    · intro unified s hunified hs
      obtain ⟨hspec, haccepts, hchat⟩ := hdispatched unified hunified
      exact (systemSays_sent_iff hspec hs hchat).mpr fun hgiven => (hreaches.given haccepts hgiven).2 s hs

/-- **Every call of an execution says the governed prompt**, where it gets through to the adapter of the call. -/
theorem userSays_of_call {outcomes : AdapterOutcomes} {request : TaskExecutionRequest} {file : Option BudgetState}
    {call : ProviderCall} {adapters : String → Adapter}
    (hcall : call ∈ adapterCalls env.withHandlers outcomes request file)
    (hreaches : ∀ plan handler, planExecution env.withHandlers request = .ok (.next plan) →
      resolveHandler env plan.request.taskFamily = .ok handler →
      renderPromptTemplate (promptDefinitionOf env.authorization) plan.request.inputs = some text ∧
        PromptReaches plan handler env.authorization (adapters call.provider) text) :
    UserSays text ((adapters call.provider).sentMessages call.request) := by
  obtain ⟨plan, reservation, unified, hdispatched⟩ := dispatched_of_call hcall
  rw [calls_of_dispatched hdispatched] at hcall
  obtain ⟨-, -, hrequest⟩ := call_spec hcall
  obtain ⟨handler, hhandler, -⟩ := bind_eq_ok.mp hdispatched.built
  obtain ⟨htext, hreaches⟩ := hreaches plan handler hdispatched.planned hhandler
  have hspec := dispatchedSpec_of_unified hhandler hdispatched.built
  have haccepts := ((exists_unified_iff hhandler).mp ⟨unified, hdispatched.built⟩).1
  have hchat := (wantsImage_of_spec hspec).trans (hreaches.chat haccepts)
  rw [hrequest]
  exact (userSays_sent_iff hspec htext hchat).mpr
    ⟨hreaches.rendered haccepts, fun hgiven => (hreaches.given haccepts hgiven).1⟩

end Sent

/-! ### A classification with a template and no prompt text of its own -/

/-- A prompt whose template has one variable. -/
def spamAuthorization : ExecutionAuthorizationResult where
  allowed := true
  reason := "ok"
  promptDefinition := .dict [("prompt_template", .str "Is this {{ label }}?"),
    ("system_prompt", .str "Answer yes or no.")]

/-- A node that authorizes it. -/
def spamEnv : ServiceEnv where
  authorization := some spamAuthorization
  context := { enabledProviders := [.str "local", .str "openai"] }
  registry := bothProviders

/-- A plan for a request of the family, resolved to the local provider. -/
def spamPlan (taskFamily : String) : Plan where
  request := { taskId := "t1", promptId := some "p1", taskFamily := taskFamily, requestedBy := "node"
               inputs := [("label", .str "spam")], traceId := "trace" }
  governance := []
  resolution := { allowed := true, providerId := some "local", modelId := some "llama"
                  providerOrder := ["local"], fallbackProviderIds := [], modelAllowlistByProvider := []
                  timeoutS := 60, retryCount := 0 }

/-- The classification handler refuses a request that has everything its template needs. -/
theorem spam_classification_refused :
    resolveHandler spamEnv "task.classification" = .ok .classification ∧
    renderPromptTemplate (promptDefinitionOf spamEnv.authorization) (spamPlan "task.classification").request.inputs =
      some "Is this spam?" ∧
    ¬GovernedPromptSent spamEnv (spamPlan "task.classification") .classification (.ofLocal {}) "Is this spam?" := by
  refine ⟨by decide, by decide +kernel, fun hsent => hsent.notRefused ?_⟩
  exact refusedForPrompt_iff.mpr ⟨by decide, ⟨_, rfl⟩, by decide +kernel, rfl⟩

/-- The default handler sends the same template. -/
theorem spam_extraction_sent :
    GovernedPromptSent spamEnv (spamPlan "task.structured_extraction") .provider (.ofLocal {}) "Is this spam?" :=
  (governed_prompt_sent_iff spamEnv (spamPlan "task.structured_extraction") .provider (.ofLocal {}) "Is this spam?"
    (by decide +kernel) (by decide +kernel)).mpr
    { own := fun h => absurd rfl h
      chat := fun _ => rfl
      rendered := fun _ _ => by decide
      given := fun _ h => absurd rfl h }

end Execution
end HexeAiNode
