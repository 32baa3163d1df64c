import HexeAiNode.Python.Coercion

/-!
# What the classification and summarization handlers read of the inputs

`validate_and_normalize_task_inputs`: messages, limits and the prompt text of the caller.  Everything up to the
last check is `readTaskInputs`; the last check, `requirePrompt`, refuses inputs that have neither a prompt text
nor messages.
-/

namespace HexeAiNode
namespace Execution

open Py

/-- `NormalizedTaskInputs`. -/
structure NormalizedTaskInputs where
  prompt : Option String
  messages : List Value
  systemPrompt : Option String
  maxTokens : Option Int := none
  temperature : Option FloatVal := none
  metadata : Dict := []

/-- `ValueError("invalid_input")`. -/
def invalidInput : Exc := ⟨.valueError, "invalid_input"⟩

/-- `_normalized_optional_string`. -/
def normalizedOptionalString : Value → Option String
  | .str s => if strip s = "" then none else some (strip s)
  | _ => none

/-- One message of `_normalized_messages`. -/
def normalizedMessage : Value → Except Exc Value
  | .dict kvs =>
    match normalizedOptionalString (Dict.get kvs "role"), normalizedOptionalString (Dict.get kvs "content") with
    | some role, some content =>
      let name : Dict :=
        match normalizedOptionalString (Dict.get kvs "name") with
        | some name => [("name", .str name)]
        | none => []
      .ok (.dict ([("role", .str role), ("content", .str content)] ++ name))
    | _, _ => .error invalidInput
  | _ => .error invalidInput

/-- `_normalized_messages`. -/
def normalizedMessages : Value → Except Exc (List Value)
  | .null => .ok []
  | .list entries => entries.mapM normalizedMessage
  | _ => .error invalidInput

/-- A temperature below 0 or above 2. -/
def isTemperatureOutside : FloatVal → Bool
  | .finite q => decide (q < 0 ∨ 2 < q)
  | .nan => false
  | _ => true

/-- `_normalized_temperature`. -/
def normalizedTemperature : Value → Except Exc (Option FloatVal)
  | .null => .ok none
  | .str _ | .list _ | .dict _ => .error invalidInput
  | value => do
    let normalized ← value.toFloat
    if isTemperatureOutside normalized then .error invalidInput else .ok (some normalized)

/-- `_normalized_max_tokens`. -/
def normalizedMaxTokens : Value → Except Exc (Option Int)
  | .null => .ok none
  | .int n => if n ≤ 0 then .error invalidInput else .ok (some n)
  | .bool true => .ok (some 1)
  | _ => .error invalidInput

/-! ## The prompt text of the caller -/

/-- `_prompt_from_text_like_inputs`. -/
def promptFromTextLikeInputs (inputs : Dict) : Option String :=
  ["prompt", "text", "content", "body", "input_text"].findSome? fun key =>
    normalizedOptionalString (Dict.get inputs key)

/-- `_prompt_from_email_inputs`. -/
def promptFromEmailInputs (inputs : Dict) : Option String × Dict :=
  let subject := normalizedOptionalString (Dict.get inputs "subject")
  let body := (normalizedOptionalString (Dict.get inputs "body")).or
    (normalizedOptionalString (Dict.get inputs "content"))
  if subject.isNone && body.isNone then (none, [])
  else
    (some (join "\n\n" ((subject.map fun s => "Subject: " ++ s).toList ++ body.toList)),
      [("email_subject", (subject.map Value.str).getD .null)])

/-- `_prompt_from_event_inputs`. -/
def promptFromEventInputs (inputs : Dict) : Option String :=
  match Dict.get inputs "event" with
  | .dict (entry :: event) => some (dumps { sortKeys := true } (.dict (entry :: event)))
  | _ => none

/-- `_prompt_from_image_inputs`. -/
def promptFromImageInputs (inputs : Dict) : Option String × Dict :=
  let imageUrl := normalizedOptionalString (Dict.get inputs "image_url")
  let imageBase64 := normalizedOptionalString (Dict.get inputs "image_base64")
  let imageCount :=
    match Dict.get inputs "images" with
    | .list images => images.length
    | _ => 0
  if imageUrl.isNone && imageBase64.isNone && imageCount == 0 then (none, [])
  else
    (some ((normalizedOptionalString (Dict.get inputs "instruction")).getD "Classify the provided image input."),
      [("image_url", (imageUrl.map Value.str).getD .null), ("image_base64_present", .bool imageBase64.isSome),
        ("image_count", .int imageCount)])

/-- The prompt text that a family makes of its own inputs, and the metadata that goes with it. -/
def promptFromFamilyInputs (family : String) (inputs : Dict) : Option String × Dict :=
  if endsWith family ".email" then promptFromEmailInputs inputs
  else if family = "task.summarization.event" then (promptFromEventInputs inputs, [])
  else if endsWith family ".image" then promptFromImageInputs inputs
  else (none, [])

/-- The prompt text of the caller: the family's own, or one of the text inputs. -/
def callerPrompt (taskFamily : String) (inputs : Dict) : Option String :=
  (promptFromFamilyInputs (stripLower taskFamily) inputs).1.or (promptFromTextLikeInputs inputs)

/-! ## The check -/

/-- `validate_and_normalize_task_inputs` up to its last check. -/
def readTaskInputs (taskFamily : String) (inputs : Dict) : Except Exc NormalizedTaskInputs := do
  let messages ← normalizedMessages (Dict.get inputs "messages")
  let maxTokens ← normalizedMaxTokens (Dict.get inputs "max_tokens")
  let temperature ← normalizedTemperature (Dict.get inputs "temperature")
  return {
    prompt := callerPrompt taskFamily inputs
    messages := messages
    systemPrompt := normalizedOptionalString (Dict.get inputs "system_prompt")
    maxTokens := maxTokens
    temperature := temperature
    metadata := (promptFromFamilyInputs (stripLower taskFamily) inputs).2 }

/-- The inputs have neither a prompt text nor messages. -/
def NormalizedTaskInputs.lacksPrompt (inputs : NormalizedTaskInputs) : Bool :=
  inputs.prompt.isNone && inputs.messages.isEmpty

/-- The last check of `validate_and_normalize_task_inputs`. -/
def requirePrompt (inputs : NormalizedTaskInputs) : Except Exc NormalizedTaskInputs :=
  if inputs.lacksPrompt then .error invalidInput else .ok inputs

/-- `validate_and_normalize_task_inputs`. -/
def validateAndNormalizeTaskInputs (taskFamily : String) (inputs : Dict) : Except Exc NormalizedTaskInputs := do
  requirePrompt (← readTaskInputs taskFamily inputs)

/-- What is read of the inputs. -/
theorem readTaskInputs_eq_ok {taskFamily : String} {inputs : Dict} {read : NormalizedTaskInputs}
    (h : readTaskInputs taskFamily inputs = .ok read) :
    normalizedMessages (Dict.get inputs "messages") = .ok read.messages ∧
      read.prompt = callerPrompt taskFamily inputs ∧
      read.systemPrompt = normalizedOptionalString (Dict.get inputs "system_prompt") := by
  obtain ⟨messages, hmessages, h⟩ := bind_eq_ok.mp h
  obtain ⟨maxTokens, -, h⟩ := bind_eq_ok.mp h
  obtain ⟨temperature, -, h⟩ := bind_eq_ok.mp h
  simp only [pure, Except.pure, Except.ok.injEq] at h
  subst h
  refine ⟨hmessages, ?_, ?_⟩
  · dsimp only
  · dsimp only

theorem requirePrompt_eq_ok {read validated : NormalizedTaskInputs} :
    requirePrompt read = .ok validated ↔ read.lacksPrompt = false ∧ validated = read := by
  unfold requirePrompt
  split
  · rename_i h
    simp [h]
  · rename_i h
    simp [h, eq_comm]

end Execution
end HexeAiNode
