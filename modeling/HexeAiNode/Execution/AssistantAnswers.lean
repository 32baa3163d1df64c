import HexeAiNode.Execution.AssistantReasoning

/-!
# Assistant reasoning answers

`normalize_assistant_execution_result` turns the payload of an execution into the answer of an assistant reasoning
request.  The text of the model is not trusted: it is parsed, checked against a fixed schema, checked for what
its outcome needs, and an intent's arguments are checked against the schema of the candidate it names.  What is
refused on the way becomes a `provider_error`.

## The packages

jsonschema decides validity, and `validates schema instance` is what iterating the errors of an instance does: it
says whether there are none, or it raises, as for a reference that cannot be resolved.  `json.loads` is `loads`.
`ReadsOutputSchema` says what Draft 2020-12 makes of the fixed schema; a bound is checked by comparison, which
`NaN` passes.

## What gets through

`normalize_inside_iff` says for which payloads an answer is given and stays inside its request.  Four things get
past the checks: a text whose parsing raises something else than a `ValueError` or a `TypeError`, an argument schema
whose checking raises, a confidence that is `NaN`, and the `intent_name` of a clarification, which nothing compares
with the candidates.
-/

namespace HexeAiNode
namespace Execution

open Py

/-! ## The fixed schema -/

/-- A property of type text or null with bounds on the length. -/
def textProperty (maxLength : ℕ) : Value :=
  .dict [("type", .list [.str "string", .str "null"]), ("minLength", .int 1), ("maxLength", .int maxLength)]

/-- `ASSISTANT_REASONING_OUTPUT_SCHEMA`. -/
def assistantReasoningOutputSchema : Dict := [
  ("$schema", .str "https://json-schema.org/draft/2020-12/schema"),
  ("type", .str "object"),
  ("additionalProperties", .bool false),
  ("required", .list (["outcome", "intent_name", "arguments", "confidence", "question", "candidate_names",
    "response", "reason_code", "message"].map Value.str)),
  ("properties", .dict [
    ("outcome", .dict [("enum", .list
      (["intent_candidate", "clarification", "no_match_chat", "refusal"].map Value.str))]),
    ("intent_name", textProperty 255),
    ("arguments", .dict [("type", .list [.str "object", .str "null"])]),
    ("confidence", .dict [("type", .list [.str "number", .str "null"]), ("minimum", .int 0),
      ("maximum", .int 1)]),
    ("question", textProperty 4000),
    ("candidate_names", .dict [("type", .list [.str "array", .str "null"]),
      ("items", .dict [("type", .str "string"), ("minLength", .int 1), ("maxLength", .int 255)]),
      ("uniqueItems", .bool true), ("maxItems", .int 128)]),
    ("response", textProperty 16000),
    ("reason_code", textProperty 255),
    ("message", textProperty 4000)])]

/-- The length of a text is within bounds. -/
def fitsLength (maxLength : ℕ) (s : String) : Bool := decide (1 ≤ s.length ∧ s.length ≤ maxLength)

/-- A text within bounds, or null. -/
def isTextOrNull (maxLength : ℕ) : Value → Bool
  | .str s => fitsLength maxLength s
  | .null => true
  | _ => false

/-- A number that is not below 0 and not above 1, or null.  Booleans are no numbers, and nothing is below or above
`NaN`. -/
def isConfidenceOrNull : Value → Bool
  | .int i => decide (0 ≤ i ∧ i ≤ 1)
  | .float (.finite q) _ => decide (0 ≤ q ∧ q ≤ 1)
  | .float .nan _ => true
  | .null => true
  | _ => false

/-- The text of an item. -/
def itemText? : Value → Option String
  | .str s => some s
  | _ => none

/-- A list of different texts, or null. -/
def isNameListOrNull : Value → Bool
  | .list items =>
    items.all (fun item => ((itemText? item).map (fitsLength 255)).getD false) &&
      decide (items.length ≤ 128) && decide (items.filterMap itemText?).Nodup
  | .null => true
  | _ => false

/-- The properties of the fixed schema, with the check of each. -/
def outputProperties : List (String × (Value → Bool)) := [
  ("outcome", fun v => ["intent_candidate", "clarification", "no_match_chat", "refusal"].any (itemText? v == some ·)),
  ("intent_name", isTextOrNull 255),
  ("arguments", fun v => v.isDict || v.isNull),
  ("confidence", isConfidenceOrNull),
  ("question", isTextOrNull 4000),
  ("candidate_names", isNameListOrNull),
  ("response", isTextOrNull 16000),
  ("reason_code", isTextOrNull 255),
  ("message", isTextOrNull 4000)]

/-- An object with exactly the properties of the fixed schema, each as its schema says. -/
def matchesOutputSchema (structured : Dict) : Bool :=
  structured.all (fun entry => (outputProperties.map Prod.fst).contains entry.1) &&
    outputProperties.all fun property =>
      match Assoc.get? structured property.1 with
      | some v => property.2 v
      | none => false

/-- What iterating the errors of an instance does: whether there are none, or an exception. -/
abbrev SchemaValidator := Dict → Value → Except Exc Bool

/-- jsonschema decides the fixed schema. -/
def ReadsOutputSchema (validates : SchemaValidator) : Prop :=
  ∀ structured, validates assistantReasoningOutputSchema (.dict structured) = .ok (matchesOutputSchema structured)

/-! ## The normalization -/

/-- `str(x or default)`. -/
def textOr (v : Value) (default : String) : String := if v.truthy then v.toStr else default

/-- `_provider_error`. -/
def providerError (request : AssistantReasoningRequest) (execution : Dict) (code : String) : Dict := [
  ("schema_version", .str "1.0"),
  ("request_id", .str request.requestId),
  ("turn_id", .str request.turnId),
  ("outcome", .str "provider_error"),
  ("error", .dict [
    ("code", .str code),
    ("message", .str (String.ofList ((textOr (Dict.get execution "error_message") code).toList.take 4000))),
    ("retryable", .bool (["failed", "degraded"].contains (lower (textOr (Dict.get execution "status") ""))))]),
  ("execution", .dict execution)]

/-- The candidate of a name in `{candidate.name: candidate for candidate in request.candidates}`. -/
def candidateNamed (candidates : List AssistantIntentCandidate) (name : String) :
    Option AssistantIntentCandidate :=
  candidates.reverse.find? fun candidate => candidate.name == name

/-- `structured`, before its type is checked. -/
def structuredOutput (loads : String → Except Exc Value) (execution : Dict) : Except Exc Value :=
  match Dict.get (Dict.get execution "output").asDict "text" with
  | .dict raw => .ok (.dict raw)
  | raw => loads (textOr raw "")

/-- Caught by `except (TypeError, ValueError, json.JSONDecodeError)`. -/
def isMalformedOutput (e : Exc) : Bool := e.cls == .typeError || e.isValueError

/-- The checks of an intent: the code of the error, or none. -/
def intentError (validates : SchemaValidator) (request : AssistantReasoningRequest) (structured : Dict) :
    Except Exc (Option String) :=
  if !(Dict.get structured "intent_name").truthy || !(Dict.get structured "arguments").isDict ||
      (Dict.get structured "confidence").isNull then
    .ok (some "assistant_malformed_output")
  else
    match candidateNamed request.candidates (textOr (Dict.get structured "intent_name") "") with
    | none => .ok (some "assistant_unknown_intent_candidate")
    | some candidate => do
      let valid ← validates candidate.argumentSchema (Dict.get structured "arguments")
      return if valid then none else some "assistant_invalid_intent_arguments"

/-- The candidate names of a clarification. -/
def clarificationNames (structured : Dict) : List Value :=
  match Dict.get structured "candidate_names" with
  | .list names => names
  | _ => []

/-- The checks of a clarification. -/
def clarificationError (request : AssistantReasoningRequest) (structured : Dict) : Option String :=
  if !(Dict.get structured "question").truthy || !(Dict.get structured "candidate_names").isList then
    some "assistant_malformed_output"
  else if (clarificationNames structured).any fun name => (candidateNamed request.candidates name.toStr).isNone then
    some "assistant_unknown_intent_candidate"
  else none

/-- The checks an outcome needs. -/
def outcomeError (validates : SchemaValidator) (request : AssistantReasoningRequest) (structured : Dict) :
    Except Exc (Option String) :=
  match itemText? (Dict.get structured "outcome") with
  | some "intent_candidate" => intentError validates request structured
  | some "clarification" => .ok (clarificationError request structured)
  | some "no_match_chat" =>
    .ok (if (Dict.get structured "response").truthy then none else some "assistant_malformed_output")
  | some "refusal" =>
    .ok (if (Dict.get structured "reason_code").truthy && (Dict.get structured "message").truthy then none
      else some "assistant_malformed_output")
  | _ => .ok none

/-- The answer of an accepted output, `structured` without its nulls spread over it. -/
def acceptedAnswer (request : AssistantReasoningRequest) (structured execution : Dict) : Dict :=
  let present := (structured.map Prod.fst).filter fun key => !(Dict.get structured key).isNull
  let answer := present.foldl (fun answer key => Dict.set answer key (Dict.get structured key)) [
    ("schema_version", .str "1.0"), ("request_id", .str request.requestId), ("turn_id", .str request.turnId)]
  answer.set "execution" (.dict execution)

/-- `status` says that the execution completed. -/
def isCompleted (execution : Dict) : Bool := (Dict.get execution "status").normalizeLower == "completed"

/-- `normalize_assistant_execution_result`. -/
def normalizeAssistantExecutionResult (validates : SchemaValidator) (loads : String → Except Exc Value)
    (request : AssistantReasoningRequest) (execution : Dict) : Except Exc Dict :=
  if isCompleted execution then
    match structuredOutput loads execution with
    | .error e =>
      if isMalformedOutput e then .ok (providerError request execution "assistant_malformed_output") else .error e
    | .ok (.dict structured) => do
      let valid ← validates assistantReasoningOutputSchema (.dict structured)
      if !valid then return providerError request execution "assistant_malformed_output"
      match ← outcomeError validates request structured with
      | some code => return providerError request execution code
      | none => return acceptedAnswer request structured execution
    | .ok _ => .ok (providerError request execution "assistant_malformed_output")
  else
    .ok (providerError request execution
      (textOr (Dict.get execution "error_code") "assistant_provider_error"))

/-! ## Staying inside the request -/

/-- A number between 0 and 1. -/
def InUnit (v : Value) : Prop := ∃ q : ℚ, v.number? = some (.finite q) ∧ 0 ≤ q ∧ q ≤ 1

/-- The name of a supplied candidate. -/
def Supplied (request : AssistantReasoningRequest) (name : Value) : Prop :=
  ∃ candidate ∈ request.candidates, name = .str candidate.name

/-- **An answer inside the request**: it answers the request, with one of the five outcomes, and names only supplied
candidates, an intent with arguments valid for the one it names and with a confidence. -/
structure AnswerInside (validates : SchemaValidator) (request : AssistantReasoningRequest) (answer : Dict) : Prop where
  outcome : ∃ outcome ∈ ["intent_candidate", "clarification", "no_match_chat", "refusal", "provider_error"],
    Dict.get answer "outcome" = .str outcome
  requestId : Dict.get answer "request_id" = .str request.requestId
  turnId : Dict.get answer "turn_id" = .str request.turnId
  intent : Dict.get answer "outcome" = .str "intent_candidate" → ∃ candidate ∈ request.candidates,
    Dict.get answer "intent_name" = .str candidate.name ∧ (Dict.get answer "arguments").isDict = true ∧
    validates candidate.argumentSchema (Dict.get answer "arguments") = .ok true ∧
    InUnit (Dict.get answer "confidence")
  clarification : Dict.get answer "outcome" = .str "clarification" →
    (∀ name ∈ clarificationNames answer, Supplied request name) ∧
    (Dict.get answer "intent_name" = .null ∨ Supplied request (Dict.get answer "intent_name"))

/-- The output proposes the intent of a candidate, with arguments and a confidence. -/
structure ProposesIntent (request : AssistantReasoningRequest) (structured : Dict)
    (candidate : AssistantIntentCandidate) : Prop where
  outcome : Dict.get structured "outcome" = .str "intent_candidate"
  supplied : candidateNamed request.candidates candidate.name = some candidate
  named : Dict.get structured "intent_name" = .str candidate.name
  arguments : (Dict.get structured "arguments").isDict = true
  confidence : Dict.get structured "confidence" ≠ .null

/-- The output asks a question about supplied candidates. -/
structure AsksBack (request : AssistantReasoningRequest) (structured : Dict) : Prop where
  outcome : Dict.get structured "outcome" = .str "clarification"
  question : (Dict.get structured "question").truthy = true
  names : (Dict.get structured "candidate_names").isList = true
  supplied : ∀ name ∈ clarificationNames structured, Supplied request name

/-- The value is `NaN`. -/
def IsNaN (v : Value) : Prop := v.number? = some .nan

/-- **What gets past none of the checks**: a completed execution whose text parses or is malformed, whose proposed
intent has an argument schema that can be checked and no `NaN` for a confidence, and whose clarification gives no
intent that was not supplied. -/
structure Checkable (validates : SchemaValidator) (loads : String → Except Exc Value)
    (request : AssistantReasoningRequest) (execution : Dict) : Prop where
  parses : ∀ e, structuredOutput loads execution = .error e → isMalformedOutput e = true
  checks : ∀ structured candidate, structuredOutput loads execution = .ok (.dict structured) →
    matchesOutputSchema structured = true → ProposesIntent request structured candidate →
    ∃ valid, validates candidate.argumentSchema (Dict.get structured "arguments") = .ok valid ∧
      (valid = true → ¬IsNaN (Dict.get structured "confidence"))
  names : ∀ structured, structuredOutput loads execution = .ok (.dict structured) →
    matchesOutputSchema structured = true → AsksBack request structured →
    Dict.get structured "intent_name" = .null ∨ Supplied request (Dict.get structured "intent_name")

section

variable {validates : SchemaValidator} {request : AssistantReasoningRequest} {structured execution : Dict}

/-! ## Looking up an answer -/

theorem get_foldl_set (d base : Dict) (keys : List String) (key : String) :
    Dict.get (keys.foldl (fun answer k => Dict.set answer k (Dict.get d k)) base) key =
      if key ∈ keys then Dict.get d key else Dict.get base key := by
  induction keys generalizing base with
  | nil => simp
  | cons k keys ih =>
    rw [List.foldl_cons, ih]
    by_cases hmem : key ∈ keys
    · rw [if_pos hmem, if_pos (List.mem_cons_of_mem k hmem)]
    · rw [if_neg hmem]
      by_cases hk : key = k
      · subst hk
        rw [if_pos List.mem_cons_self, Dict.get_set_self]
      · rw [if_neg (fun h => (List.mem_cons.mp h).elim hk hmem), Dict.get_set_of_ne _ _ hk]

theorem get_eq_null_of_not_mem {key : String} (h : key ∉ structured.map Prod.fst) :
    Dict.get structured key = .null := by
  have hnone : Assoc.get? structured key = none := Assoc.get?_eq_none_iff.mpr h
  rw [Dict.get, hnone]
  rfl

/-- Apart from the fields of the envelope an accepted answer holds what the output held. -/
theorem get_acceptedAnswer {key : String}
    (h : key ∉ ["schema_version", "request_id", "turn_id", "execution"]) :
    Dict.get (acceptedAnswer request structured execution) key = Dict.get structured key := by
  simp only [List.mem_cons, List.not_mem_nil, or_false, not_or] at h
  obtain ⟨hversion, hrequest, hturn, hexecution⟩ := h
  unfold acceptedAnswer
  dsimp only
  rw [Dict.get_set_of_ne _ _ hexecution, get_foldl_set]
  split
  · rfl
  · next hmem =>
    have hbase : Dict.get [("schema_version", .str "1.0"), ("request_id", .str request.requestId),
        ("turn_id", .str request.turnId)] key = .null := by
      simp [Dict.get, Assoc.get?, Ne.symm hversion, Ne.symm hrequest, Ne.symm hturn]
    rw [hbase]
    by_cases hkey : key ∈ structured.map Prod.fst
    · have hnull : (Dict.get structured key).isNull = true := by
        by_contra hnull
        exact hmem (List.mem_filter.mpr ⟨hkey, by simpa using hnull⟩)
      exact (Value.isNull_iff.mp hnull).symm
    · exact (get_eq_null_of_not_mem hkey).symm

/-- A field of the envelope that the output does not have stays. -/
theorem get_acceptedAnswer_envelope {key : String} {v : Value} (hkey : key ∉ structured.map Prod.fst)
    (hexecution : key ≠ "execution")
    (hbase : Dict.get [("schema_version", .str "1.0"), ("request_id", .str request.requestId),
      ("turn_id", .str request.turnId)] key = v) :
    Dict.get (acceptedAnswer request structured execution) key = v := by
  unfold acceptedAnswer
  dsimp only
  rw [Dict.get_set_of_ne _ _ hexecution, get_foldl_set, if_neg, hbase]
  exact fun hmem => hkey (List.mem_of_mem_filter hmem)

/-! ## The fixed schema -/

section Schema

variable (hmatches : matchesOutputSchema structured = true)
include hmatches

theorem mem_outputProperties_of_matches {key : String} (h : key ∈ structured.map Prod.fst) :
    key ∈ outputProperties.map Prod.fst := by
  rw [matchesOutputSchema, Bool.and_eq_true, List.all_eq_true] at hmatches
  obtain ⟨entry, hentry, rfl⟩ := List.mem_map.mp h
  exact List.contains_iff_mem.mp (hmatches.1 entry hentry)

/-- Each property is what its schema says. -/
theorem property_of_matches (key : String) (check : Value → Bool) (h : (key, check) ∈ outputProperties) :
    check (Dict.get structured key) = true := by
  rw [matchesOutputSchema, Bool.and_eq_true, List.all_eq_true, List.all_eq_true] at hmatches
  have hproperty := hmatches.2 _ h
  rcases hget : Assoc.get? structured key with _ | v
  · rw [hget] at hproperty
    cases hproperty
  · rw [hget] at hproperty
    rw [Dict.get, hget]
    exact hproperty

theorem outcome_of_matches :
    ∃ outcome ∈ ["intent_candidate", "clarification", "no_match_chat", "refusal"],
      Dict.get structured "outcome" = .str outcome := by
  have h := property_of_matches hmatches "outcome" _ List.mem_cons_self
  obtain ⟨outcome, houtcome, htext⟩ := List.any_eq_true.mp h
  refine ⟨outcome, houtcome, ?_⟩
  rcases hget : Dict.get structured "outcome" with _ | _ | _ | _ | text | _ | _
  case str =>
    rw [hget] at htext
    have htext : text = outcome := by simpa [itemText?] using htext
    rw [htext]
  all_goals
    rw [hget] at htext
    simp [itemText?] at htext

/-- A given intent name is a text that is not blank. -/
theorem intentName_of_matches :
    Dict.get structured "intent_name" = .null ∨
      ∃ name, Dict.get structured "intent_name" = .str name ∧ name ≠ "" := by
  have h := property_of_matches hmatches "intent_name" (isTextOrNull 255) (by simp [outputProperties])
  rcases hget : Dict.get structured "intent_name" with _ | _ | _ | _ | name | _ | _
  case null => exact .inl rfl
  case str =>
    refine .inr ⟨name, rfl, ?_⟩
    rintro rfl
    rw [hget] at h
    simp [isTextOrNull, fitsLength] at h
  all_goals
    rw [hget] at h
    cases h

/-- A given confidence is between 0 and 1, or `NaN`. -/
theorem confidence_of_matches (hgiven : Dict.get structured "confidence" ≠ .null) :
    InUnit (Dict.get structured "confidence") ∨ IsNaN (Dict.get structured "confidence") := by
  have h := property_of_matches hmatches "confidence" isConfidenceOrNull (by simp [outputProperties])
  rcases hget : Dict.get structured "confidence" with _ | _ | i | ⟨x, text⟩ | _ | _ | _
  case null => exact absurd hget hgiven
  case int =>
    rw [hget] at h
    obtain ⟨hlow, hhigh⟩ := of_decide_eq_true h
    exact .inl ⟨i, rfl, by exact_mod_cast hlow, by exact_mod_cast hhigh⟩
  case float =>
    rw [hget] at h
    rcases x with q | _ | _ | _
    · obtain ⟨hlow, hhigh⟩ := of_decide_eq_true h
      exact .inl ⟨q, rfl, hlow, hhigh⟩
    · cases h
    · cases h
    · exact .inr rfl
  all_goals
    rw [hget] at h
    cases h

/-- The names of a clarification are texts. -/
theorem text_of_mem_clarificationNames {name : Value} (hname : name ∈ clarificationNames structured) :
    ∃ text, name = .str text := by
  have h := property_of_matches hmatches "candidate_names" isNameListOrNull
    (by simp [outputProperties])
  unfold clarificationNames at hname
  rcases hget : Dict.get structured "candidate_names" with _ | _ | _ | _ | _ | names | _
  case list =>
    rw [hget] at h hname
    rw [isNameListOrNull, Bool.and_eq_true, Bool.and_eq_true, List.all_eq_true] at h
    have hitem := h.1.1 name hname
    rcases name with _ | _ | _ | _ | text | _ | _
    case str => exact ⟨text, rfl⟩
    all_goals cases hitem
  all_goals
    rw [hget] at hname
    cases hname

end Schema

theorem not_inUnit_of_isNaN {v : Value} (h : IsNaN v) : ¬InUnit v := by
  rintro ⟨q, hq, -⟩
  have hnan : some FloatVal.nan = some (.finite q) := h.symm.trans hq
  cases hnan

/-! ## The candidates -/

theorem candidateNamed_eq_some {candidates : List AssistantIntentCandidate} {name : String}
    {candidate : AssistantIntentCandidate} (h : candidateNamed candidates name = some candidate) :
    candidate ∈ candidates ∧ candidate.name = name := by
  have hmem := List.mem_of_find?_eq_some h
  have hname := List.find?_some h
  exact ⟨List.mem_reverse.mp hmem, by simpa using hname⟩

theorem candidateNamed_isSome_iff {name : String} :
    (candidateNamed request.candidates name).isSome = true ↔ Supplied request (.str name) := by
  unfold candidateNamed Supplied
  rw [List.find?_isSome]
  constructor
  · rintro ⟨candidate, hmem, hname⟩
    have hname : candidate.name = name := by simpa using hname
    exact ⟨candidate, List.mem_reverse.mp hmem, by rw [hname]⟩
  · rintro ⟨candidate, hmem, hname⟩
    have hname : name = candidate.name := Value.str.inj hname
    exact ⟨candidate, List.mem_reverse.mpr hmem, by simp [hname]⟩

/-! ## What the checks let through -/

/-- For a proposed intent the schema of its candidate decides. -/
theorem outcomeError_of_proposes {candidate : AssistantIntentCandidate}
    (h : ProposesIntent request structured candidate) (hne : candidate.name ≠ "") :
    outcomeError validates request structured =
      (validates candidate.argumentSchema (Dict.get structured "arguments") >>= fun valid =>
        pure (if valid then none else some "assistant_invalid_intent_arguments")) := by
  have hnull : (Dict.get structured "confidence").isNull = false := by
    rw [← Bool.not_eq_true]
    exact fun hnull => h.confidence (Value.isNull_iff.mp hnull)
  have htext : textOr (Value.str candidate.name) "" = candidate.name := by
    rw [textOr, Value.truthy_str.mpr hne]
    rfl
  unfold outcomeError intentError
  rw [h.outcome, h.named, h.arguments, hnull, Value.truthy_str.mpr hne, htext, h.supplied]
  rfl

/-- What an intent is refused for, or accepted with, other than malformed output and unknown candidates. -/
theorem intentError_cases (hmatches : matchesOutputSchema structured = true)
    (houtcome : Dict.get structured "outcome" = .str "intent_candidate") :
    (∃ code, intentError validates request structured = .ok (some code)) ∨
      ∃ candidate, ProposesIntent request structured candidate ∧ candidate.name ≠ "" := by
  rcases hgiven : !(Dict.get structured "intent_name").truthy || !(Dict.get structured "arguments").isDict ||
      (Dict.get structured "confidence").isNull with _ | _
  · rw [Bool.or_eq_false_iff, Bool.or_eq_false_iff, Bool.not_eq_false', Bool.not_eq_false'] at hgiven
    obtain ⟨⟨hname, harguments⟩, hconfidence⟩ := hgiven
    rcases intentName_of_matches hmatches with hnull | ⟨name, htext, hne⟩
    · rw [hnull] at hname
      cases hname
    rcases hcandidate : candidateNamed request.candidates name with _ | candidate
    · left
      have htextOr : textOr (Value.str name) "" = name := by
        rw [textOr, Value.truthy_str.mpr hne]
        rfl
      unfold intentError
      rw [htext, htextOr, hcandidate, Value.truthy_str.mpr hne, harguments, hconfidence]
      exact ⟨_, rfl⟩
    · right
      obtain ⟨-, hsame⟩ := candidateNamed_eq_some hcandidate
      refine ⟨candidate, ⟨houtcome, by rw [hsame, hcandidate], by rw [htext, hsame], harguments, ?_⟩, by rwa [hsame]⟩
      intro hnull
      rw [hnull] at hconfidence
      cases hconfidence
  · left
    unfold intentError
    rw [if_pos hgiven]
    exact ⟨_, rfl⟩

/-- The name of a proposed candidate is not blank. -/
theorem name_ne_of_proposes (hmatches : matchesOutputSchema structured = true)
    {candidate : AssistantIntentCandidate} (h : ProposesIntent request structured candidate) :
    candidate.name ≠ "" := by
  rcases intentName_of_matches hmatches with hnull | ⟨name, htext, hne⟩
  · rw [h.named] at hnull
    cases hnull
  · rw [h.named] at htext
    rwa [Value.str.inj htext]

theorem valid_of_accepted {candidate : AssistantIntentCandidate} (h : ProposesIntent request structured candidate)
    (hne : candidate.name ≠ "") (haccepted : outcomeError validates request structured = .ok none) :
    validates candidate.argumentSchema (Dict.get structured "arguments") = .ok true := by
  rw [outcomeError_of_proposes h hne] at haccepted
  obtain ⟨valid, hvalid, haccepted⟩ := bind_eq_ok.mp haccepted
  rcases valid with _ | _
  · cases haccepted
  · exact hvalid

/-- The checks raise only where an argument schema does. -/
theorem exists_proposes_of_error (hmatches : matchesOutputSchema structured = true) {e : Exc}
    (h : outcomeError validates request structured = .error e) : ∃ candidate,
      ProposesIntent request structured candidate ∧
      validates candidate.argumentSchema (Dict.get structured "arguments") = .error e := by
  obtain ⟨outcome, hmem, houtcome⟩ := outcome_of_matches hmatches
  simp only [List.mem_cons, List.not_mem_nil, or_false] at hmem
  rcases hmem with rfl | rfl | rfl | rfl
  · obtain ⟨code, hcode⟩ | ⟨candidate, hproposes, hne⟩ := @intentError_cases validates request structured hmatches houtcome
    · rw [outcomeError, houtcome] at h
      rw [show intentError validates request structured = _ from hcode] at h
      cases h
    · refine ⟨candidate, hproposes, ?_⟩
      rw [outcomeError_of_proposes hproposes hne] at h
      rcases hvalid : validates candidate.argumentSchema (Dict.get structured "arguments") with e' | valid
      · rw [hvalid] at h
        exact congrArg Except.error (Except.error.inj h)
      · rw [hvalid] at h
        cases h
  all_goals
    rw [outcomeError, houtcome] at h
    cases h

theorem clarificationError_eq_none_iff (hmatches : matchesOutputSchema structured = true)
    (houtcome : Dict.get structured "outcome" = .str "clarification") :
    clarificationError request structured = none ↔ AsksBack request structured := by
  have hsupplied : (clarificationNames structured).any
      (fun name => (candidateNamed request.candidates name.toStr).isNone) = false ↔
      ∀ name ∈ clarificationNames structured, Supplied request name := by
    rw [List.any_eq_false]
    refine forall₂_congr fun name hname => ?_
    obtain ⟨text, rfl⟩ := text_of_mem_clarificationNames hmatches hname
    rw [← candidateNamed_isSome_iff, Bool.not_eq_true, Option.isNone_eq_false_iff]
    rfl
  unfold clarificationError
  constructor
  · intro h
    split at h
    · cases h
    next hgiven =>
      split at h
      · cases h
      next hnames =>
        rw [Bool.or_eq_true, not_or, Bool.not_eq_true', Bool.not_eq_true', Bool.not_eq_false, Bool.not_eq_false] at hgiven
        exact ⟨houtcome, hgiven.1, hgiven.2, hsupplied.mp (Bool.eq_false_iff.mpr hnames)⟩
  · intro hasks
    rw [hasks.question, hasks.names, if_neg (by decide), hsupplied.mpr hasks.supplied]
    rfl

/-- An accepted output gives an answer inside the request unless its confidence is `NaN` or its clarification gives
an intent that was not supplied. -/
theorem accepted_inside_iff (hmatches : matchesOutputSchema structured = true)
    (haccepted : outcomeError validates request structured = .ok none) :
    AnswerInside validates request (acceptedAnswer request structured execution) ↔
      (∀ candidate, ProposesIntent request structured candidate → ¬IsNaN (Dict.get structured "confidence")) ∧
      (AsksBack request structured →
        Dict.get structured "intent_name" = .null ∨ Supplied request (Dict.get structured "intent_name")) := by
  have houter : ∀ {key}, key ∉ outputProperties.map Prod.fst → key ∉ structured.map Prod.fst :=
    fun hkey hmem => hkey (mem_outputProperties_of_matches hmatches hmem)
  have hget : ∀ {key}, key ∉ ["schema_version", "request_id", "turn_id", "execution"] →
      Dict.get (acceptedAnswer request structured execution) key = Dict.get structured key :=
    fun hkey => get_acceptedAnswer hkey
  have houtcome := @hget "outcome" (by decide)
  have hname := @hget "intent_name" (by decide)
  have harguments := @hget "arguments" (by decide)
  have hconfidence := @hget "confidence" (by decide)
  have hnames : clarificationNames (acceptedAnswer request structured execution) = clarificationNames structured := by
    unfold clarificationNames
    rw [@hget "candidate_names" (by decide)]
  constructor
  · intro hinside
    constructor
    · intro candidate hproposes hnan
      obtain ⟨-, -, -, -, -, hunit⟩ := hinside.intent (houtcome.trans hproposes.outcome)
      rw [hconfidence] at hunit
      exact not_inUnit_of_isNaN hnan hunit
    · intro hasks
      rw [← hname]
      exact (hinside.clarification (houtcome.trans hasks.outcome)).2
  · rintro ⟨hnan, hnamed⟩
    refine ⟨?_, ?_, ?_, fun hintent => ?_, fun hclarification => ?_⟩
    · obtain ⟨outcome, hmem, houtcome'⟩ := outcome_of_matches hmatches
      refine ⟨outcome, ?_, houtcome.trans houtcome'⟩
      simp only [List.mem_cons, List.not_mem_nil, or_false] at hmem ⊢
      tauto
    · exact get_acceptedAnswer_envelope (houter (by decide)) (by decide) rfl
    · exact get_acceptedAnswer_envelope (houter (by decide)) (by decide) rfl
    · rw [houtcome] at hintent
      rw [outcomeError, hintent] at haccepted
      obtain ⟨code, hcode⟩ | ⟨candidate, hproposes, hne⟩ := @intentError_cases validates request structured hmatches hintent
      · rw [hcode] at haccepted
        cases haccepted
      have hvalid := valid_of_accepted hproposes hne (by rwa [outcomeError, hintent])
      rw [hname, harguments, hconfidence]
      refine ⟨candidate, (candidateNamed_eq_some hproposes.supplied).1, hproposes.named, hproposes.arguments, hvalid, ?_⟩
      exact (confidence_of_matches hmatches hproposes.confidence).resolve_right (hnan candidate hproposes)
    · rw [houtcome] at hclarification
      rw [outcomeError, hclarification] at haccepted
      have hasks := (clarificationError_eq_none_iff hmatches hclarification).mp (Except.ok.inj haccepted)
      rw [hnames, hname]
      exact ⟨hasks.supplied, hnamed hasks⟩

theorem providerError_inside (code : String) :
    AnswerInside validates request (providerError request execution code) where
  outcome := ⟨"provider_error", by simp, rfl⟩
  requestId := rfl
  turnId := rfl
  intent := fun h => by
    have houtcome : "provider_error" = "intent_candidate" := Value.str.inj h
    exact absurd houtcome (by decide)
  clarification := fun h => by
    have houtcome : "provider_error" = "clarification" := Value.str.inj h
    exact absurd houtcome (by decide)

theorem outcomeError_of_asksBack (hmatches : matchesOutputSchema structured = true)
    (h : AsksBack request structured) : outcomeError validates request structured = .ok none := by
  rw [outcomeError, h.outcome]
  exact congrArg Except.ok ((clarificationError_eq_none_iff hmatches h.outcome).mpr h)

/-- The answer of an object that the model gave. -/
def assistantAnswer (validates : SchemaValidator) (request : AssistantReasoningRequest) (structured execution : Dict) :
    Except Exc Dict := do
  match ← outcomeError validates request structured with
  | some code => return providerError request execution code
  | none => return acceptedAnswer request structured execution

/-- An object that matches the fixed schema gives an answer inside the request exactly when the argument schema of
its intent can be checked, its confidence is no `NaN` and its clarification gives no other intent. -/
theorem assistantAnswer_inside_iff (hmatches : matchesOutputSchema structured = true) :
    (∃ answer, assistantAnswer validates request structured execution = .ok answer ∧
      AnswerInside validates request answer) ↔
    (∀ candidate, ProposesIntent request structured candidate →
      ∃ valid, validates candidate.argumentSchema (Dict.get structured "arguments") = .ok valid ∧
        (valid = true → ¬IsNaN (Dict.get structured "confidence"))) ∧
    (AsksBack request structured →
      Dict.get structured "intent_name" = .null ∨ Supplied request (Dict.get structured "intent_name")) := by
  unfold assistantAnswer
  rcases herror : outcomeError validates request structured with e | _ | code
  · -- the checks raise, so an argument schema does
    obtain ⟨candidate, hproposes, hraises⟩ := exists_proposes_of_error hmatches herror
    constructor
    · rintro ⟨answer, hanswer, -⟩
      cases hanswer
    · rintro ⟨hchecks, -⟩
      obtain ⟨valid, hvalid, -⟩ := hchecks candidate hproposes
      rw [hraises] at hvalid
      cases hvalid
  · have hiff := @accepted_inside_iff validates request structured execution hmatches herror
    constructor
    · rintro ⟨answer, hanswer, hinside⟩
      obtain rfl := Except.ok.inj hanswer
      obtain ⟨hnan, hnames⟩ := hiff.mp hinside
      refine ⟨fun candidate hproposes => ⟨true, ?_, fun _ => hnan candidate hproposes⟩, hnames⟩
      exact valid_of_accepted hproposes (name_ne_of_proposes hmatches hproposes) herror
    · rintro ⟨hchecks, hnames⟩
      refine ⟨_, rfl, hiff.mpr ⟨fun candidate hproposes => ?_, hnames⟩⟩
      obtain ⟨valid, hvalid, hnan⟩ := hchecks candidate hproposes
      have haccepted := valid_of_accepted hproposes (name_ne_of_proposes hmatches hproposes) herror
      exact hnan (Except.ok.inj (hvalid.symm.trans haccepted))
  · -- the output is refused, so it proposes no intent with valid arguments and asks nothing back
    refine ⟨fun _ => ⟨fun candidate hproposes => ?_, fun hasks => ?_⟩, fun _ => ⟨_, rfl, providerError_inside code⟩⟩
    · rw [outcomeError_of_proposes hproposes (name_ne_of_proposes hmatches hproposes)] at herror
      obtain ⟨valid, hvalid, herror⟩ := bind_eq_ok.mp herror
      refine ⟨valid, hvalid, fun htrue => ?_⟩
      rw [htrue] at herror
      cases herror
    · rw [outcomeError_of_asksBack hmatches hasks] at herror
      cases herror

theorem normalize_of_dict {loads : String → Except Exc Value} (hschema : ReadsOutputSchema validates)
    (hcompleted : isCompleted execution = true)
    (hstructured : structuredOutput loads execution = .ok (.dict structured)) :
    normalizeAssistantExecutionResult validates loads request execution =
      if matchesOutputSchema structured then assistantAnswer validates request structured execution
      else .ok (providerError request execution "assistant_malformed_output") := by
  rw [normalizeAssistantExecutionResult, if_pos hcompleted, hstructured]
  dsimp only
  rw [hschema structured]
  rcases matchesOutputSchema structured with _ | _
  · rfl
  · rfl

/-- **When an answer stays inside its request**: for every payload that is not completed, and for a completed one
exactly when it is checkable. -/
theorem normalize_inside_iff (validates : SchemaValidator) (loads : String → Except Exc Value)
    (request : AssistantReasoningRequest) (execution : Dict) (hschema : ReadsOutputSchema validates) :
    (∃ answer, normalizeAssistantExecutionResult validates loads request execution = .ok answer ∧
      AnswerInside validates request answer) ↔
    (isCompleted execution = true → Checkable validates loads request execution) := by
  by_cases hcompleted : isCompleted execution = true
  swap
  · rw [normalizeAssistantExecutionResult, if_neg hcompleted]
    exact ⟨fun _ h => absurd h hcompleted, fun _ => ⟨_, rfl, providerError_inside _⟩⟩
  rcases hstructured : structuredOutput loads execution with e | v
  · rw [normalizeAssistantExecutionResult, if_pos hcompleted, hstructured]
    dsimp only
    by_cases he : isMalformedOutput e = true
    · rw [if_pos he]
      refine ⟨fun _ _ => ⟨fun e' he' => ?_, fun _ _ h => ?_, fun _ h => ?_⟩, fun _ => ⟨_, rfl, providerError_inside _⟩⟩
      · obtain rfl := Except.error.inj (hstructured.symm.trans he')
        exact he
      · cases hstructured.symm.trans h
      · cases hstructured.symm.trans h
    · rw [if_neg he]
      constructor
      · rintro ⟨answer, hanswer, -⟩
        cases hanswer
      · exact fun h => absurd ((h hcompleted).parses e hstructured) he
  by_cases hdict : ∃ structured, v = .dict structured
  · obtain ⟨structured, rfl⟩ := hdict
    rw [normalize_of_dict hschema hcompleted hstructured]
    have hsame : ∀ {d}, structuredOutput loads execution = .ok (.dict d) → structured = d :=
      fun h => Value.dict.inj (Except.ok.inj (hstructured.symm.trans h))
    by_cases hmatches : matchesOutputSchema structured = true
    · rw [if_pos hmatches, assistantAnswer_inside_iff hmatches]
      constructor
      · rintro ⟨hchecks, hnames⟩ -
        refine ⟨fun e h => ?_, fun d candidate h _ hproposes => ?_, fun d h _ hasks => ?_⟩
        · cases hstructured.symm.trans h
        · obtain rfl := hsame h
          exact hchecks candidate hproposes
        · obtain rfl := hsame h
          exact hnames hasks
      · intro h
        exact ⟨fun candidate => (h hcompleted).checks structured candidate hstructured hmatches,
          (h hcompleted).names structured hstructured hmatches⟩
    · rw [if_neg hmatches]
      refine ⟨fun _ _ => ⟨fun e h => ?_, fun d candidate h hmatches' => ?_, fun d h hmatches' => ?_⟩,
        fun _ => ⟨_, rfl, providerError_inside _⟩⟩
      · cases hstructured.symm.trans h
      · obtain rfl := hsame h
        exact absurd hmatches' hmatches
      · obtain rfl := hsame h
        exact absurd hmatches' hmatches
  · have hmalformed : normalizeAssistantExecutionResult validates loads request execution =
        .ok (providerError request execution "assistant_malformed_output") := by
      rw [normalizeAssistantExecutionResult, if_pos hcompleted, hstructured]
      rcases v with _ | _ | _ | _ | _ | _ | d
      case dict => exact absurd ⟨d, rfl⟩ hdict
      all_goals rfl
    rw [hmalformed]
    refine ⟨fun _ _ => ⟨fun e h => ?_, fun d _ h => ?_, fun d h => ?_⟩, fun _ => ⟨_, rfl, providerError_inside _⟩⟩
    · cases hstructured.symm.trans h
    · exact absurd ⟨d, Except.ok.inj (hstructured.symm.trans h)⟩ hdict
    · exact absurd ⟨d, Except.ok.inj (hstructured.symm.trans h)⟩ hdict

end

/-! ### A schema with an unresolvable reference -/

/-- What jsonschema does with the fixed schema, with a reference into nothing and with a schema that says nothing. -/
def referencingValidator : SchemaValidator := fun schema value =>
  if (Dict.get schema "$schema").truthy then .ok (matchesOutputSchema value.asDict)
  else if (Dict.get schema "$ref").truthy then
    .error ⟨.other "_WrappedReferencingError", "PointerToNowhere: '/$defs/missing' does not exist"⟩
  else .ok true

/-- A request with one candidate that switches a lamp. -/
def lampRequest (argumentSchema : Dict) : AssistantReasoningRequest :=
  { requestId := "r", requestedBy := "service", serviceId := some "service", coreId := "core", sessionId := "session"
    turnId := "t", turnText := "light", actorContext := { identityState := .verified }
    candidates := [{ name := "lamp.on", description := "Switch the lamp on", argumentSchema := argumentSchema }]
    queue := {}, traceId := "trace" }

/-- A completed execution whose model answers with the intent of the lamp. -/
def lampExecution (confidence : Value) : Dict := [
  ("status", .str "completed"),
  ("output", .dict [("text", .dict [
    ("outcome", .str "intent_candidate"), ("intent_name", .str "lamp.on"), ("arguments", .dict []),
    ("confidence", confidence), ("question", .null), ("candidate_names", .null), ("response", .null),
    ("reason_code", .null), ("message", .null)])])]

theorem readsOutputSchema_referencingValidator : ReadsOutputSchema referencingValidator := fun _ => rfl

/-- A reference that cannot be resolved raises out of the normalization, and a confidence of `NaN` gets through. -/
theorem lamp_not_inside : ReadsOutputSchema referencingValidator ∧
    AssistantReasoningRequest.bindServiceIdentity (lampRequest [("$ref", .str "#/$defs/missing")]) =
      .ok (lampRequest [("$ref", .str "#/$defs/missing")]) ∧
    normalizeAssistantExecutionResult referencingValidator (fun _ => .ok .null)
      (lampRequest [("$ref", .str "#/$defs/missing")]) (lampExecution (.int 1)) =
      .error ⟨.other "_WrappedReferencingError", "PointerToNowhere: '/$defs/missing' does not exist"⟩ ∧
    ¬∃ answer, normalizeAssistantExecutionResult referencingValidator (fun _ => .ok .null) (lampRequest [])
      (lampExecution (.float .nan "nan")) = .ok answer ∧
      AnswerInside referencingValidator (lampRequest []) answer := by
  have hcatalog : ¬256 * 1024 < catalogSize (lampRequest [("$ref", .str "#/$defs/missing")]).candidates := by
    decide +kernel
  refine ⟨readsOutputSchema_referencingValidator, ?_, rfl, ?_⟩
  · unfold AssistantReasoningRequest.bindServiceIdentity
    dsimp only
    rw [if_neg (by decide), if_neg (by decide), if_neg hcatalog]
    rfl
  rintro ⟨answer, hanswer, hinside⟩
  obtain rfl := Except.ok.inj hanswer
  obtain ⟨-, -, -, -, -, q, hq, -⟩ := hinside.intent rfl
  cases hq

/-- The intent of the lamp with a confidence of 1 is inside the request. -/
theorem lamp_inside :
    ∃ answer, normalizeAssistantExecutionResult referencingValidator (fun _ => .ok .null) (lampRequest [])
      (lampExecution (.int 1)) = .ok answer ∧ AnswerInside referencingValidator (lampRequest []) answer := by
  refine (normalize_inside_iff referencingValidator (fun _ => .ok .null) (lampRequest []) (lampExecution (.int 1))
    readsOutputSchema_referencingValidator).mpr fun _ => ⟨fun e h => ?_, fun structured candidate h _ hproposes => ?_,
      fun structured h _ hasks => ?_⟩
  · cases h
  · obtain rfl := Value.dict.inj (Except.ok.inj h)
    obtain ⟨hmem, -⟩ := candidateNamed_eq_some hproposes.supplied
    obtain rfl := List.mem_singleton.mp hmem
    refine ⟨true, rfl, fun _ hnan => ?_⟩
    cases hnan
  · obtain rfl := Value.dict.inj (Except.ok.inj h)
    have houtcome : "intent_candidate" = "clarification" := Value.str.inj hasks.outcome
    exact absurd houtcome (by decide)

end Execution
end HexeAiNode
