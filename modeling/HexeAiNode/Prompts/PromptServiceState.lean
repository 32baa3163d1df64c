import HexeAiNode.Prompts.Registration

/-!
# The state of the prompt registry

`normalizePromptServiceState` reads a document: it migrates what older schemas have stored, completes what is
missing, and refuses what it cannot read.  It is run on what a file holds, and by every save on the state itself.

Not all that it raises is a `ValueError`: `int` of a list, of an infinite number, the last of no versions and
the reason of a history that is not made of objects raise something else.

The order of the keys of a record is not kept: no code reads it, and a state is written with its keys in order.
-/

namespace HexeAiNode
namespace Prompts

open Py Governance Execution

/-! ## The parts of an entry -/

/-- `max(int(value or 0), 0)`. -/
def normalizeCount (value : Value) : Except Exc ℕ := Int.toNat <$> (value.orElse (.int 0)).toInt

/-- `_normalize_usage`. -/
def normalizeUsage (value : Value) : Except Exc Usage := do
  let payload := value.asDict
  let executionCount ← normalizeCount (payload.get "execution_count")
  let successCount ← normalizeCount (payload.get "success_count")
  let failureCount ← normalizeCount (payload.get "failure_count")
  let denialCount ← normalizeCount (payload.get "denial_count")
  .ok
    { executionCount := executionCount
      successCount := successCount
      failureCount := failureCount
      denialCount := denialCount
      lastUsedAt := payload.get "last_used_at"
      lastDenialReason := payload.get "last_denial_reason"
      lastDeniedAt := payload.get "last_denied_at"
      lastFailureReason := payload.get "last_failure_reason"
      lastFailureAt := payload.get "last_failure_at"
      lastExecutionStatus := payload.get "last_execution_status" }

/-- The definition of a stored version. -/
def storedDefinition (definition : Dict) : Except Exc PromptDefinition := do
  let templateVariables ← (definition.get "template_variables").toItems
  .ok
    { systemPrompt := definition.get "system_prompt"
      promptTemplate := definition.get "prompt_template"
      templateVariables := templateVariables
      defaultInputs := (definition.get "default_inputs").orElse (.dict []) }

/-- One stored version of an entry, after those that were normalised before it. -/
def normalizeVersionEntry (now : Timestamp) (entry : Dict) (normalized : List PromptVersion)
    (versionEntry : Dict) : Except Exc PromptVersion := do
  let version ← normalizePromptVersion (versionEntry.get "version") true
  if version ∈ normalized.map PromptVersion.version then
    .error ⟨.valueError, "prompt_version_alias_conflict"⟩
  else
    let definition ← storedDefinition (versionEntry.get "definition").asDict
    .ok
      { version := version
        definition := definition
        metadata := (versionEntry.get "metadata").asDict
        createdAt := ((versionEntry.get "created_at").orElse
          ((entry.get "updated_at").orElse (.str now.text))).toStr }

/-- The stored versions of an entry; what is not an object is passed over. -/
def normalizeVersionList (now : Timestamp) (entry : Dict) :
    List PromptVersion → List Value → Except Exc (List PromptVersion)
  | normalized, [] => .ok normalized
  | normalized, .dict versionEntry :: versions => do
    let version ← normalizeVersionEntry now entry normalized versionEntry
    normalizeVersionList now entry (normalized ++ [version]) versions
  | normalized, _ :: versions => normalizeVersionList now entry normalized versions

/-- `entry.get("registered_at") or entry.get("updated_at") or _now_iso()`. -/
def registrationTime (now : Timestamp) (entry : Dict) : String :=
  ((entry.get "registered_at").orElse ((entry.get "updated_at").orElse (.str now.text))).toStr

/-- `_normalize_versions`. -/
def normalizeVersions (now : Timestamp) (entry fallbackMetadata : Dict) : Except Exc (List PromptVersion) :=
  match entry.get "versions" with
  | .list (version :: versions) => normalizeVersionList now entry [] (version :: versions)
  | _ => do
    let currentVersion ← normalizePromptVersion
      ((entry.get "current_version").orElse ((entry.get "version").orElse (.str "v1"))) true
    .ok
      [{ version := currentVersion
         definition := {}
         metadata := fallbackMetadata
         createdAt := registrationTime now entry }]

/-- The current version: the one that is stored, else the last of the versions. -/
def normalizeCurrentVersion (value : Value) (versions : List PromptVersion) : Except Exc String :=
  let currentVersion := value.normalizeString
  if currentVersion ≠ "" then normalizePromptVersion (.str currentVersion) true
  else
    match versions.getLast? with
    | some version => .ok version.version
    | none => .error ⟨.other "IndexError", "list index out of range"⟩

/-- The lifecycle history: the one that is stored, else one that says that the entry was migrated. -/
def normalizeHistory (value : Value) (status : LifecycleState) (updatedAt : String) : List Value :=
  match value with
  | .list (event :: events) => event :: events
  | _ => [lifecycleEvent status "migrated" updatedAt]

/-- `str(value or default).strip() or default`. -/
def textOr (value : Value) (default : String) : String :=
  (optionalString (value.orElse (.str default))).getD default

/-- `_is_non_empty_string`. -/
def isNonEmptyString : Value → Bool
  | .str s => strip s != ""
  | _ => false

/-- An entry of the first schema. -/
def isFirstSchema (entry : Dict) : Bool :=
  (entry.get "schema_version").normalizeString == "1.0" && isNonEmptyString (entry.get "prompt_id")

/-- The registration of an entry of the first schema. -/
def firstSchemaArgs (entry : Dict) : RegistrationArgs where
  promptId := .str (entry.get "prompt_id").toStr
  serviceId := .str (entry.get "service_id").toStr
  taskFamily := .str (entry.get "task_family").toStr
  metadata := .dict (entry.get "metadata").asDict
  status := .str ((entry.get "status").orElse (.str "active")).toStr

/-- The entry that is read: one of the first schema is registered anew. -/
def migratedEntry (now : Timestamp) (entry : Dict) : Except Exc Dict :=
  if isFirstSchema entry then
    PromptEntry.fields <$> createPromptServiceRegistration now (firstSchemaArgs entry)
  else .ok entry

/-! ## Entries -/

/-- The keys that are kept although no code knows them. -/
def unknownKeys (entry : Dict) : Dict := entry.filter fun field => field.1 ∉ entryKeys

/-- The rest of `_normalize_entry`, after the migration. -/
def normalizeFields (now : Timestamp) (entry : Dict) : Except Exc PromptEntry := do
  let promptId := (entry.get "prompt_id").normalizeString
  let serviceId := (entry.get "service_id").normalizeString
  let taskFamily := (entry.get "task_family").normalizeString
  if promptId = "" ∨ serviceId = "" ∨ taskFamily = "" then
    .error ⟨.valueError, "invalid_prompt_service_entry"⟩
  else
    let accessPolicy ← normalizePromptAccessPolicy ((entry.get "access_scope").orElse (.str "service"))
      (entry.get "owner_client_id") (entry.get "allowed_services") (entry.get "allowed_clients")
      (entry.get "allowed_customers")
    let status ← normalizePromptLifecycleState ((entry.get "status").orElse (.str "active"))
    let privacyClass ← normalizePromptPrivacyClass ((entry.get "privacy_class").orElse (.str "internal"))
    let constraints ← normalizePromptConstraints (entry.get "constraints")
    let metadata := (entry.get "metadata").asDict
    let versions ← normalizeVersions now entry metadata
    let currentVersion ← normalizeCurrentVersion (entry.get "current_version") versions
    let registeredAt := registrationTime now entry
    let updatedAt := ((entry.get "updated_at").orElse (.str registeredAt)).toStr
    let usage ← normalizeUsage (entry.get "usage")
    .ok
      { promptId := promptId
        promptName := textOr (entry.get "prompt_name") promptId
        serviceId := serviceId
        ownerService := textOr (entry.get "owner_service") serviceId
        ownerClientId := accessPolicy.ownerClientId
        taskFamily := taskFamily
        status := status
        privacyClass := privacyClass
        accessScope := accessPolicy.accessScope
        allowedServices := accessPolicy.allowedServices
        allowedClients := accessPolicy.allowedClients
        allowedCustomers := accessPolicy.allowedCustomers
        executionPolicy := normalizeExecutionPolicy (entry.get "execution_policy")
        providerPreferences := normalizeProviderPreferences (entry.get "provider_preferences")
        constraints := constraints
        metadata := metadata
        currentVersion := currentVersion
        versions := versions
        lifecycleHistory := normalizeHistory (entry.get "lifecycle_history") status updatedAt
        usage := usage
        registeredAt := registeredAt
        updatedAt := updatedAt
        lastReviewedAt := optionalString (entry.get "last_reviewed_at")
        reviewedBy := optionalString (entry.get "reviewed_by")
        reviewReason := optionalString (entry.get "review_reason")
        retiredAt := entry.get "retired_at"
        extra := unknownKeys entry }

/-- `_normalize_entry`. -/
def normalizeEntry (now : Timestamp) : Value → Except Exc PromptEntry
  | .dict entry => migratedEntry now entry >>= normalizeFields now
  | _ => .error ⟨.valueError, "invalid_prompt_service_entry"⟩

/-! ## The state -/

/-- The index of the prompts on probation. -/
structure Probation where
  activePromptIds : List String
  reasons : List (String × String)
  updatedAt : String

/-- The state of the registry. -/
structure PromptServiceState where
  promptServices : List PromptEntry
  probation : Probation
  updatedAt : String

/-- The index as it is stored. -/
def Probation.toValue (probation : Probation) : Value :=
  .dict [("active_prompt_ids", textList probation.activePromptIds),
    ("reasons", .dict (probation.reasons.map fun reason => (reason.1, .str reason.2))),
    ("updated_at", .str probation.updatedAt)]

/-- The state as it is stored. -/
def PromptServiceState.toValue (state : PromptServiceState) : Value :=
  .dict [("schema_version", .str "2.0"),
    ("prompt_services", .list (state.promptServices.map PromptEntry.toValue)),
    ("probation", state.probation.toValue), ("updated_at", .str state.updatedAt)]

/-- The reason of the last event of a history; an event that is not an object has no `get`. -/
def latestReason (history : List Value) : Except Exc (Option String) :=
  match history.getLast? with
  | none => .ok none
  | some (.dict latest) => .ok (optionalString (Dict.get latest "reason"))
  | some latest => .error ⟨.attributeError, "'" ++ latest.typeName ++ "' object has no attribute 'get'"⟩

/-- The reasons of the prompts on probation. -/
def probationReasons : List (String × String) → List PromptEntry → Except Exc (List (String × String))
  | reasons, [] => .ok reasons
  | reasons, entry :: entries =>
    if entry.status = .probation then do
      let reason ← latestReason entry.lifecycleHistory
      probationReasons (reason.elim reasons (Assoc.set reasons entry.promptId)) entries
    else probationReasons reasons entries

/-- `sorted(set(texts))`. -/
def sortedSet (texts : List String) : List String :=
  texts.dedup.insertionSort fun a b => a.toList ≤ b.toList

/-- `_rebuild_probation_index`. -/
def rebuildProbationIndex (now : Timestamp) (entries : List PromptEntry) : Except Exc Probation := do
  let reasons ← probationReasons [] entries
  .ok
    { activePromptIds := sortedSet ((entries.filter (·.status = .probation)).map PromptEntry.promptId)
      reasons := reasons
      updatedAt := now.text }

/-- `create_prompt_service_state`. -/
def createPromptServiceState (now : Timestamp) : PromptServiceState where
  promptServices := []
  probation := { activePromptIds := [], reasons := [], updatedAt := now.text }
  updatedAt := now.text

/-- `normalize_prompt_service_state`. -/
def normalizePromptServiceState (now : Timestamp) : Value → Except Exc PromptServiceState
  | .dict payload =>
    if (Dict.get payload "schema_version").normalizeString ∈ ["1.0", "2.0"] then
      match Dict.get payload "prompt_services" with
      | .list entries => do
        let promptServices ← entries.mapM (normalizeEntry now)
        let probation ← rebuildProbationIndex now promptServices
        .ok
          { promptServices := promptServices
            probation := probation
            updatedAt := ((Dict.get payload "updated_at").orElse (.str now.text)).toStr }
      | _ => .error ⟨.valueError, "invalid_prompt_services"⟩
    else .error ⟨.valueError, "invalid_schema_version"⟩
  | _ => .error ⟨.valueError, "invalid_prompt_service_state_object"⟩

end Prompts
end HexeAiNode
