import HexeAiNode.Library.Raising
import HexeAiNode.Prompts.PromptServiceState
import HexeAiNode.Python.Json

/-!
# The prompt registry

`PromptRegistry` keeps the state of the registered prompts in memory and in a file.  Every operation finds the record
of a prompt, changes it, and saves: the state is normalised, kept, and written.  A registry that is started again reads
the file.

A record is changed in place, one field after the other.  A call that raises leaves the fields that it has set by then,
in memory; they are written by the next call that saves.

An operation reads the clock once.
-/

namespace HexeAiNode
namespace Prompts

open Py Governance Execution Raising

/-! ## Records -/

/-- `find_prompt_entry` on one record. -/
def PromptEntry.isNamed (promptId : Value) (entry : PromptEntry) : Bool :=
  strip entry.promptId == promptId.normalizeString

/-- `find_prompt_entry`. -/
def findEntry (state : PromptServiceState) (promptId : Value) : Option PromptEntry :=
  if promptId.normalizeString = "" then none else state.promptServices.find? (PromptEntry.isNamed promptId)

/-- The record that is found is replaced. -/
def replaceEntry (promptId : Value) (entry : PromptEntry) : List PromptEntry → List PromptEntry
  | [] => []
  | e :: entries => if e.isNamed promptId then entry :: entries else e :: replaceEntry promptId entry entries

/-- `transition_prompt_lifecycle`, to a state that is known. -/
def PromptEntry.moveTo (now : Timestamp) (entry : PromptEntry) (nextState : LifecycleState) (reason : Value) :
    PromptEntry :=
  if entry.status = nextState then entry
  else
    { entry with
      status := nextState
      updatedAt := now.text
      retiredAt := if nextState = .retired then .str now.text else entry.retiredAt
      lifecycleHistory := entry.lifecycleHistory ++
        [lifecycleEvent nextState ((optionalString reason).getD "manual_transition") now.text] }

/-- `transition_prompt_lifecycle`. -/
def transitionPromptLifecycle (now : Timestamp) (entry : PromptEntry) (state reason : Value) :
    Except (Failed Exc PromptEntry) PromptEntry := do
  let nextState ← attempt entry (normalizePromptLifecycleState state)
  .ok (entry.moveTo now nextState reason)

/-- Who has reviewed a record, when and why. -/
def PromptEntry.reviewed (now : Timestamp) (entry : PromptEntry) (reviewedBy : Value) (reason : String) :
    PromptEntry :=
  { entry with
    lastReviewedAt := some now.text
    reviewedBy := optionalString reviewedBy
    reviewReason := some reason }

/-- `record_prompt_review`: the review is noted before the state is read. -/
def recordPromptReview (now : Timestamp) (entry : PromptEntry) (reviewedBy reviewReason state : Value) :
    Except (Failed Exc PromptEntry) PromptEntry :=
  let reason := (optionalString reviewReason).getD "manual_review"
  let reviewed := entry.reviewed now reviewedBy reason
  if state.isNull then .ok reviewed
  else do
    let moved ← transitionPromptLifecycle now reviewed state (.str reason)
    .ok { moved with updatedAt := now.text }

/-- `apply_probation_transition`. -/
def applyProbationTransition (now : Timestamp) (entry : PromptEntry) (action reason : Value) :
    Except (Failed Exc PromptEntry) PromptEntry :=
  let actionValue := (action.orElse (.str "")).normalizeLower
  if actionValue = "start" then
    transitionPromptLifecycle now entry (.str "probation") (reason.orElse (.str "probation_started"))
  else if actionValue = "clear" then
    transitionPromptLifecycle now entry (.str "active") (reason.orElse (.str "probation_cleared"))
  else .error ⟨⟨.valueError, "unsupported probation action"⟩, entry⟩

/-! ## Updates -/

/-- The arguments of `update_prompt_service_definition`; those that are not given are `None`. -/
structure UpdateArgs where
  promptName : Value := .null
  ownerService : Value := .null
  ownerClientId : Value := .null
  taskFamily : Value := .null
  privacyClass : Value := .null
  accessScope : Value := .null
  allowedServices : Value := .null
  allowedClients : Value := .null
  allowedCustomers : Value := .null
  executionPolicy : Value := .null
  providerPreferences : Value := .null
  constraints : Value := .null
  metadata : Value := .null
  definition : Value := .null
  version : Value := .null

/-- A field that is given is normalised and set. -/
def setGiven {α : Type} (value : Value) (entry : PromptEntry) (normalize : Value → Except Exc α)
    (set : α → PromptEntry) : Except (Failed Exc PromptEntry) PromptEntry :=
  if value.isNull then .ok entry else set <$> attempt entry (normalize value)

/-- A value that is given, or the one of the record. -/
def givenOr (value stored : Value) : Value := if value.isNull then stored else value

/-- The access policy, if a part of it is given. -/
def updateAccess (entry : PromptEntry) (args : UpdateArgs) : Except (Failed Exc PromptEntry) PromptEntry :=
  if args.accessScope.isNull ∧ args.allowedServices.isNull ∧ args.allowedClients.isNull ∧
      args.allowedCustomers.isNull then .ok entry
  else do
    let policy ← attempt entry (normalizePromptAccessPolicy
      (givenOr args.accessScope (.str entry.accessScope.text)) (optStr entry.ownerClientId)
      (givenOr args.allowedServices (textList entry.allowedServices))
      (givenOr args.allowedClients (textList entry.allowedClients))
      (givenOr args.allowedCustomers (textList entry.allowedCustomers)))
    .ok
      { entry with
        accessScope := policy.accessScope
        allowedServices := policy.allowedServices
        allowedClients := policy.allowedClients
        allowedCustomers := policy.allowedCustomers }

/-- Whether a version is stored; one that cannot be read raises. -/
def hasVersion (version : String) : List PromptVersion → Except Exc Bool
  | [] => .ok false
  | item :: items => do
    let stored ← normalizePromptVersion (.str item.version) true
    if stored = version then .ok true else hasVersion version items

/-- The version that is asked for, or the next one. -/
def wantedVersion (entry : PromptEntry) (args : UpdateArgs) : Except Exc String :=
  match optionalString args.version with
  | some version => .ok version
  | none => nextPromptVersion entry.versions

/-- The version that an update adds, and its name. -/
def newVersion (now : Timestamp) (entry : PromptEntry) (args : UpdateArgs) :
    Except Exc (String × PromptVersion) := do
  let wanted ← wantedVersion entry args
  let version ← normalizePromptVersion (.str wanted) false
  let stored ← hasVersion version entry.versions
  if stored then .error ⟨.valueError, "duplicate_prompt_version"⟩
  else
    let added ← buildPromptVersion now (.str version) args.definition
      (givenOr args.metadata (.dict entry.metadata)) .null
    .ok (version, added)

/-- The version is added, if a definition or a version is given, and it is the current one then. -/
def addVersion (now : Timestamp) (entry : PromptEntry) (args : UpdateArgs) :
    Except (Failed Exc PromptEntry) PromptEntry :=
  if args.definition.isNull ∧ args.version.isNull then .ok entry
  else do
    let added ← attempt entry (newVersion now entry args)
    .ok { entry with versions := entry.versions ++ [added.2], currentVersion := added.1 }

/-- `update_prompt_service_definition`. -/
def updatePromptServiceDefinition (now : Timestamp) (entry : PromptEntry) (args : UpdateArgs) :
    Except (Failed Exc PromptEntry) PromptEntry := do
  let entry ← setGiven args.taskFamily entry registeredTaskFamily fun task => { entry with taskFamily := task }
  let entry ← setGiven args.promptName entry (nonEmpty · "prompt_name") fun name => { entry with promptName := name }
  let entry ← setGiven args.ownerService entry (nonEmpty · "owner_service") fun service =>
    { entry with ownerService := service }
  let entry ← setGiven args.ownerClientId entry (fun value => .ok (optionalString value)) fun owner =>
    { entry with ownerClientId := owner }
  let entry ← setGiven args.privacyClass entry normalizePromptPrivacyClass fun privacyClass =>
    { entry with privacyClass := privacyClass }
  let entry ← updateAccess entry args
  let entry ← setGiven args.executionPolicy entry (fun value => .ok (normalizeExecutionPolicy value)) fun policy =>
    { entry with executionPolicy := policy }
  let entry ← setGiven args.providerPreferences entry (fun value => .ok (normalizeProviderPreferences value))
    fun preferences => { entry with providerPreferences := preferences }
  let entry ← setGiven args.constraints entry normalizePromptConstraints fun constraints =>
    { entry with constraints := constraints }
  let entry ← setGiven args.metadata entry (fun value => .ok value.asDict) fun metadata =>
    { entry with metadata := metadata }
  let entry ← addVersion now entry args
  .ok { entry with updatedAt := now.text }

/-! ## Usage -/

/-- What an authorization leaves in the record. -/
def PromptEntry.authorized (entry : PromptEntry) (allowed : Bool) (reason : Value) (usedAt : String) : PromptEntry :=
  { entry with
    updatedAt := usedAt
    usage :=
      if allowed then { entry.usage with lastUsedAt := .str usedAt }
      else
        { entry.usage with
          denialCount := entry.usage.denialCount + 1
          lastDenialReason := reason
          lastDeniedAt := .str usedAt } }

/-- What an execution leaves in the record. -/
def PromptEntry.executed (entry : PromptEntry) (status recordedAt : String) (errorCode : Value) : PromptEntry :=
  let usage : Usage :=
    { entry.usage with
      executionCount := entry.usage.executionCount + 1
      lastUsedAt := .str recordedAt
      lastExecutionStatus := .str status }
  { entry with
    updatedAt := recordedAt
    usage :=
      if status = "completed" then { usage with successCount := usage.successCount + 1 }
      else
        { usage with
          failureCount := usage.failureCount + 1
          lastFailureReason := errorCode
          lastFailureAt := .str recordedAt } }

/-! ## The store -/

/-- `PromptServiceStateStore.save`: what is read back from what is written. -/
def saveState (now : Timestamp) (state : PromptServiceState) : Except Exc Value :=
  match normalizePromptServiceState now state.toValue with
  | .ok normalized => .ok normalized.toValue.sortKeys
  | .error e =>
    .error (if e.isValueError then ⟨.valueError, "cannot save invalid prompt service state: " ++ e.text⟩ else e)

/-- `PromptServiceStateStore.load`; only what is a `ValueError` is caught. -/
def loadState (now : Timestamp) : Option Value → Except Exc (Option PromptServiceState)
  | none => .ok none
  | some payload =>
    match normalizePromptServiceState now payload with
    | .ok state => .ok (some state)
    | .error e => if e.isValueError then .ok none else .error e

/-- `load_or_create`, with the file afterwards. -/
def loadOrCreate (now : Timestamp) (file : Option Value) : Except Exc (PromptServiceState × Option Value) := do
  match ← loadState now file with
  | some state => .ok (state, file)
  | none =>
    let written ← saveState now (createPromptServiceState now)
    .ok (createPromptServiceState now, some written)

/-! ## The registry -/

/-- The state in memory, and the file. -/
structure PromptRegistry where
  state : PromptServiceState
  file : Option Value

/-- `save`: the state is normalised first, and written then. -/
def saveRegistry (now : Timestamp) (file : Option Value) (state : PromptServiceState) :
    Except (Failed Exc PromptRegistry) PromptRegistry := do
  let normalized ← attempt { state := state, file := file } (normalizePromptServiceState now state.toValue)
  let written ← attempt { state := normalized, file := file } (saveState now normalized)
  .ok { state := normalized, file := some written }

/-- A registry that is started on a file. -/
def startRegistry (now : Timestamp) (file : Option Value) : Except Exc PromptRegistry := do
  let (loaded, file) ← loadOrCreate now file
  match saveRegistry now file loaded with
  | .ok registry => .ok registry
  | .error failed => .error failed.error

namespace PromptRegistry

/-- The registry with such a record of the prompt. -/
def withEntry (registry : PromptRegistry) (promptId : Value) (entry : PromptEntry) : PromptRegistry :=
  { registry with
    state :=
      { registry.state with promptServices := replaceEntry promptId entry registry.state.promptServices } }

/-- The record of a prompt is changed, and the state is saved. -/
def change (registry : PromptRegistry) (now : Timestamp) (promptId : Value)
    (f : PromptEntry → Except (Failed Exc PromptEntry) PromptEntry) :
    Except (Failed Exc PromptRegistry) PromptRegistry :=
  match findEntry registry.state promptId with
  | none => .error ⟨⟨.valueError, "prompt_id is not registered"⟩, registry⟩
  | some entry => do
    let changed ← within (registry.withEntry promptId) (f entry)
    saveRegistry now registry.file
      { (registry.withEntry promptId changed).state with updatedAt := changed.updatedAt }

/-- The same for what is recorded: without a record nothing is done. -/
def note (registry : PromptRegistry) (now : Timestamp) (promptId : Value) (f : PromptEntry → PromptEntry) :
    Except (Failed Exc PromptRegistry) PromptRegistry :=
  if (findEntry registry.state promptId).isNone then .ok registry
  else registry.change now promptId fun entry => .ok (f entry)

/-- The registration takes the place of the record of the prompt, or comes last. -/
def register (registry : PromptRegistry) (promptId : Value) (registration : PromptEntry) : PromptServiceState :=
  { registry.state with
    promptServices :=
      if (findEntry registry.state promptId).isSome then
        replaceEntry promptId registration registry.state.promptServices
      else registry.state.promptServices ++ [registration]
    updatedAt := registration.updatedAt }

/-- `create_prompt`: a retired prompt is registered again. -/
def createPrompt (registry : PromptRegistry) (now : Timestamp) (args : RegistrationArgs) :
    Except (Failed Exc PromptRegistry) PromptRegistry :=
  if (findEntry registry.state args.promptId).any fun entry => entry.status ≠ .retired then
    .error ⟨⟨.valueError, "duplicate_prompt_id"⟩, registry⟩
  else do
    let registration ← attempt registry (createPromptServiceRegistration now args)
    saveRegistry now registry.file (registry.register args.promptId registration)

/-- Whether the migration passes a record over. -/
def isClosed (entry : PromptEntry) : Bool := entry.status = .retired ∨ entry.status = .expired

/-- The migration of one record. -/
def migrateEntry (now : Timestamp) (reason : Value) (entry : PromptEntry) : PromptEntry :=
  if isClosed entry then entry
  else if entry.status ≠ .reviewDue then entry.moveTo now .reviewDue reason
  else entry

/-- The last time that the migration has seen. -/
def latestUpdate (entries : List PromptEntry) : Option String :=
  (entries.filter fun entry => !isClosed entry && entry.updatedAt != "").getLast?.map PromptEntry.updatedAt

/-- `migrate_all_to_review_due`. -/
def migrateAllToReviewDue (registry : PromptRegistry) (now : Timestamp) (reason : Value) :
    Except (Failed Exc PromptRegistry) PromptRegistry :=
  let migrated := registry.state.promptServices.map (migrateEntry now reason)
  saveRegistry now registry.file
    { registry.state with
      promptServices := migrated
      updatedAt := (latestUpdate migrated).getD registry.state.updatedAt }

end PromptRegistry

/-- The state that the migration sets is one that there is. -/
theorem transitionPromptLifecycle_reviewDue (now : Timestamp) (entry : PromptEntry) (reason : Value) :
    transitionPromptLifecycle now entry (.str "review_due") reason = .ok (entry.moveTo now .reviewDue reason) := rfl

/-- A call of the registry; `reload` starts it again on its file. -/
inductive RegistryCall where
  | create (args : RegistrationArgs)
  | update (promptId : Value) (args : UpdateArgs)
  | review (promptId reviewedBy reviewReason state : Value)
  | transition (promptId state reason : Value)
  | probation (promptId action reason : Value)
  | migrate (reason : Value)
  | recordAuthorization (promptId : Value) (allowed : Bool) (reason : Value) (usedAt : String)
  | recordExecution (promptId : Value) (status recordedAt : String) (errorCode : Value)
  | save
  | reload

/-- A call at some moment.  A start that raises is left with what there was. -/
def PromptRegistry.call (registry : PromptRegistry) (now : Timestamp) :
    RegistryCall → Except (Failed Exc PromptRegistry) PromptRegistry
  | .create args => registry.createPrompt now args
  | .update promptId args => registry.change now promptId fun entry => updatePromptServiceDefinition now entry args
  | .review promptId reviewedBy reviewReason state =>
    registry.change now promptId fun entry => recordPromptReview now entry reviewedBy reviewReason state
  | .transition promptId state reason =>
    registry.change now promptId fun entry => transitionPromptLifecycle now entry state reason
  | .probation promptId action reason =>
    registry.change now promptId fun entry => applyProbationTransition now entry action reason
  | .migrate reason => registry.migrateAllToReviewDue now reason
  | .recordAuthorization promptId allowed reason usedAt =>
    registry.note now promptId fun entry => entry.authorized allowed reason usedAt
  | .recordExecution promptId status recordedAt errorCode =>
    registry.note now promptId fun entry => entry.executed status recordedAt errorCode
  | .save => saveRegistry now registry.file registry.state
  | .reload => attempt registry (startRegistry now registry.file)

/-- The registry after a call, which may have raised. -/
def PromptRegistry.step (registry : PromptRegistry) (call : Timestamp × RegistryCall) : PromptRegistry :=
  leaves (registry.call call.1 call.2)

end Prompts
end HexeAiNode
