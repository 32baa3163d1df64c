import HexeAiNode.Execution.RequestValidation
import HexeAiNode.Python.Serialize

/-!
# Assistant reasoning requests

`AssistantReasoningRequest`, which an execution request carries among its constraints as the contract of its
answer.  Two things are done by packages: pydantic reads the declared types and bounds of the fields
(`Contracts.fields`), and jsonschema says whether an argument schema is one (`Contracts.schemaError`).
-/

namespace HexeAiNode
namespace Execution

open Py

/-- The identity states of an actor. -/
inductive ActorIdentityState where
  | unknown
  | probable
  | conflicted
  | verified
  deriving DecidableEq, Repr

/-- `AssistantActorContext`. -/
structure AssistantActorContext where
  actorId : Option String := none
  userId : Option String := none
  personId : Option String := none
  deviceId : Option String := none
  roomId : Option String := none
  identityState : ActorIdentityState
  confidence : Option FloatVal := none
  roles : List String := []
  scopes : List String := []
  provenance : Option String := none

/-- `AssistantIntentCandidate`. -/
structure AssistantIntentCandidate where
  name : String
  description : String
  argumentSchema : Dict

/-- The fields of an `AssistantReasoningRequest` that pydantic has read; `queue` is the type of its queue
intent, before validation or after it. -/
structure AssistantReasoning (queue : Type) where
  requestId : String
  idempotencyKey : Option String := none
  requestedBy : String
  serviceId : Option String := none
  customerId : Option String := none
  coreId : String
  sessionId : String
  turnId : String
  turnText : String
  actorContext : AssistantActorContext
  candidates : List AssistantIntentCandidate := []
  requestedProvider : Option String := none
  requestedModel : Option String := none
  constraints : Dict := []
  timeoutS : ℕ := 60
  responseMode : ResponseMode := .sync
  queue : queue
  traceId : String

/-- `AssistantReasoningRequest`, validated. -/
abbrev AssistantReasoningRequest := AssistantReasoning QueueIntent

/-- What the packages do: the reading of the declared fields, and the error of an argument schema. -/
structure Contracts where
  fields : Dict → Except Exc (AssistantReasoning QueueIntentFields)
  schemaError : Dict → Option String

/-- `_normalize_policy_values`. -/
def normalizePolicyValues : List String → Except Exc (List String)
  | [] => .ok []
  | item :: items => do
    let text := strip item
    if text = "" ∨ 255 < text.length then .error ⟨.validationError, "actor_policy_value_invalid"⟩
    else
      let rest ← normalizePolicyValues items
      pure (text :: rest.filter (· ≠ text))

/-- `candidate.model_dump(mode="json")`. -/
def AssistantIntentCandidate.modelDump (candidate : AssistantIntentCandidate) : Value :=
  .dict [("name", .str candidate.name), ("description", .str candidate.description),
    ("argument_schema", (Value.dict candidate.argumentSchema).jsonMode)]

/-- `catalog_size`. -/
def catalogSize (candidates : List AssistantIntentCandidate) : ℕ :=
  utf8Len (dumps { ensureAscii := false, itemSep := ",", keySep := ":" }
    (.list (candidates.map AssistantIntentCandidate.modelDump)))

/-- `_bind_service_identity`. -/
def AssistantReasoningRequest.bindServiceIdentity (request : AssistantReasoningRequest) :
    Except Exc AssistantReasoningRequest :=
  let serviceId := request.serviceId.getD request.requestedBy
  if serviceId ≠ request.requestedBy then .error ⟨.validationError, "assistant_service_subject_mismatch"⟩
  else if ¬(request.candidates.map AssistantIntentCandidate.name).Nodup then
    .error ⟨.validationError, "assistant_candidate_name_duplicate"⟩
  else if 256 * 1024 < catalogSize request.candidates then
    .error ⟨.validationError, "assistant_candidate_catalog_too_large"⟩
  else .ok { request with serviceId := some serviceId }

/-- `AssistantReasoningRequest.model_validate`. -/
def AssistantReasoningRequest.modelValidate (contracts : Contracts) (now : ℤ) (contract : Dict) :
    Except Exc AssistantReasoningRequest := do
  let fields ← contracts.fields contract
  let roles ← normalizePolicyValues fields.actorContext.roles
  let scopes ← normalizePolicyValues fields.actorContext.scopes
  match fields.candidates.findSome? fun candidate => contracts.schemaError candidate.argumentSchema with
  | some error => .error ⟨.validationError, error⟩
  | none => do
    let queue ← QueueIntent.modelValidate now fields.queue
    bindServiceIdentity {
      fields with
      actorContext := { fields.actorContext with roles := roles, scopes := scopes }
      queue := queue }

end Execution
end HexeAiNode
