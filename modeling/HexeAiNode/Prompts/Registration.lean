import HexeAiNode.Execution.RequestValidation
import HexeAiNode.Prompts.Versioning

/-!
# Registered prompts

The record of a registered prompt, and the normalisations of `registration.py` that its fields go through.

A record is kept as data: what the code has normalised to a closed set of values is an inductive type, and the
free-form parts (metadata, definitions, the lifecycle history) stay values.  `PromptEntry.extra` are the keys of
a stored entry that no code reads.  `toValue` gives each part as the code stores it.

`now` is what `_now_iso` returns; an operation reads the clock once.
-/

namespace HexeAiNode
namespace Prompts

open Py Governance Execution

/-- A reading of the clock, which is not an empty text. -/
structure Timestamp where
  text : String
  ne_empty : text ≠ ""

/-! ## Texts and lists -/

/-- `_optional_string`. -/
def optionalString (value : Value) : Option String :=
  let text := value.normalizeString
  if text = "" then none else some text

/-- `_non_empty`. -/
def nonEmpty (value : Value) (name : String) : Except Exc String :=
  match optionalString value with
  | some text => .ok text
  | none => .error ⟨.valueError, name ++ " is required"⟩

/-- A list of texts as a value. -/
def textList (texts : List String) : Value := .list (texts.map .str)

/-- `payload.get(key, default)`. -/
def getOr (payload : Dict) (key : String) (default : Value) : Value := (Assoc.get? payload key).getD default

/-! ## Closed sets of values -/

/-- The member that a text names. -/
def memberOf {α : Type} (text : α → String) (members : List α) (s : String) : Option α :=
  members.find? fun member => text member == s

/-- `str(value or default).strip().lower()`, which has to name a member. -/
def normalizeMember {α : Type} (text : α → String) (members : List α) (default error : String)
    (value : Value) : Except Exc α :=
  match memberOf text members (value.orElse (.str default)).normalizeLower with
  | some member => .ok member
  | none => .error ⟨.valueError, error⟩

/-- `VALID_PROMPT_LIFECYCLE_STATES`. -/
inductive LifecycleState where
  | draft
  | probation
  | active
  | reviewDue
  | restricted
  | suspended
  | retired
  | expired
  deriving DecidableEq, Repr

namespace LifecycleState

/-- The text of a state. -/
def text : LifecycleState → String
  | draft => "draft"
  | probation => "probation"
  | active => "active"
  | reviewDue => "review_due"
  | restricted => "restricted"
  | suspended => "suspended"
  | retired => "retired"
  | expired => "expired"

/-- The states. -/
def all : List LifecycleState :=
  [draft, probation, active, reviewDue, restricted, suspended, retired, expired]

end LifecycleState

/-- `LEGACY_PROMPT_STATES`. -/
def legacyPromptStates : List (String × LifecycleState) := [("registered", .active), ("probation", .probation)]

/-- `normalize_prompt_lifecycle_state`. -/
def normalizePromptLifecycleState (value : Value) : Except Exc LifecycleState :=
  match Assoc.get? legacyPromptStates value.normalizeLower with
  | some state => .ok state
  | none => normalizeMember LifecycleState.text LifecycleState.all "" "invalid_prompt_state" value

/-- `VALID_PROMPT_PRIVACY_CLASSES`. -/
inductive PrivacyClass where
  | publicClass
  | internal
  | restricted
  | sensitive
  deriving DecidableEq, Repr

/-- The text of a class. -/
def PrivacyClass.text : PrivacyClass → String
  | .publicClass => "public"
  | .internal => "internal"
  | .restricted => "restricted"
  | .sensitive => "sensitive"

/-- `normalize_prompt_privacy_class`. -/
def normalizePromptPrivacyClass (value : Value) : Except Exc PrivacyClass :=
  normalizeMember PrivacyClass.text [.publicClass, .internal, .restricted, .sensitive] "internal"
    "invalid_privacy_class" value

/-- `VALID_PROMPT_ACCESS_SCOPES`. -/
inductive AccessScope where
  | privateScope
  | service
  | shared
  | publicScope
  deriving DecidableEq, Repr

/-- The text of a scope. -/
def AccessScope.text : AccessScope → String
  | .privateScope => "private"
  | .service => "service"
  | .shared => "shared"
  | .publicScope => "public"

/-- `normalize_prompt_access_scope`. -/
def normalizePromptAccessScope (value : Value) : Except Exc AccessScope :=
  normalizeMember AccessScope.text [.privateScope, .service, .shared, .publicScope] "service" "invalid_access_scope"
    value

/-- `VALID_PROMPT_IMPORTANCE_LEVELS`. -/
inductive ImportanceLevel where
  | background
  | normal
  | high
  | critical
  deriving DecidableEq, Repr

/-- The text of a level. -/
def ImportanceLevel.text : ImportanceLevel → String
  | .background => "background"
  | .normal => "normal"
  | .high => "high"
  | .critical => "critical"

/-- `VALID_IMAGE_TEMPLATE_RUNTIMES`. -/
inductive TemplateRuntime where
  | comfyuiGpu
  | comfyuiCpu
  deriving DecidableEq, Repr

/-- The text of a runtime. -/
def TemplateRuntime.text : TemplateRuntime → String
  | .comfyuiGpu => "comfyui_gpu"
  | .comfyuiCpu => "comfyui_cpu"

/-! ## Policies -/

/-- `normalize_execution_policy`. -/
structure ExecutionPolicy where
  allowDirectExecution : Bool
  allowVersionPinning : Bool
  deriving DecidableEq

/-- The policy as it is stored. -/
def ExecutionPolicy.toValue (policy : ExecutionPolicy) : Value :=
  .dict [("allow_direct_execution", .bool policy.allowDirectExecution),
    ("allow_version_pinning", .bool policy.allowVersionPinning)]

/-- `normalize_execution_policy`. -/
def normalizeExecutionPolicy (value : Value) : ExecutionPolicy where
  allowDirectExecution := (getOr value.asDict "allow_direct_execution" (.bool true)).truthy
  allowVersionPinning := (getOr value.asDict "allow_version_pinning" (.bool true)).truthy

/-- `normalize_prompt_routing_policy`. -/
def normalizePromptRoutingPolicy (value : Value) : Except Exc (Option RoutingMode) :=
  let mode := (value.asDict.get "mode").normalizeLower
  if mode = "" then .ok none
  else
    match RoutingMode.ofText mode with
    | some mode => .ok (some mode)
    | none => .error ⟨.valueError, "invalid_prompt_routing_policy_mode"⟩

/-- The policy as it is stored. -/
def routingPolicyValue : Option RoutingMode → Value
  | none => .null
  | some mode => .dict [("mode", .str mode.text)]

/-- `normalize_prompt_importance_policy`. -/
def normalizePromptImportancePolicy (value : Value) : Except Exc ImportanceLevel :=
  normalizeMember ImportanceLevel.text [.background, .normal, .high, .critical] "normal"
    "invalid_prompt_importance_level" (value.asDict.get "level")

/-- `normalize_prompt_capability_requirements`: the required features. -/
def normalizePromptCapabilityRequirements (value : Value) : List String :=
  (value.asDict.get "required_features").normalizeStringList

/-- The requirements as they are stored. -/
def capabilityRequirementsValue (features : List String) : Value :=
  if features = [] then .null else .dict [("required_features", textList features)]

/-- The reference of a prompt to an image template. -/
structure ImageTemplateReference where
  templateId : String
  templateVersion : Option String
  templateRuntime : Option TemplateRuntime
  allowedParameterOverrides : List String
  deriving DecidableEq

/-- The reference as it is stored. -/
def ImageTemplateReference.toValue (reference : ImageTemplateReference) : Value :=
  .dict [("template_id", .str reference.templateId), ("template_version", optStr reference.templateVersion),
    ("template_runtime", optStr (reference.templateRuntime.map TemplateRuntime.text)),
    ("allowed_parameter_overrides", textList reference.allowedParameterOverrides)]

/-- The check of `template_runtime`. -/
def normalizeTemplateRuntime (value : Value) : Except Exc (Option TemplateRuntime) :=
  match optionalString value with
  | none => .ok none
  | some runtime =>
    match memberOf TemplateRuntime.text [.comfyuiGpu, .comfyuiCpu] runtime with
    | some runtime => .ok (some runtime)
    | none => .error ⟨.valueError, "invalid_image_template_runtime"⟩

/-- `normalize_prompt_image_template`. -/
def normalizePromptImageTemplate (value : Value) : Except Exc (Option ImageTemplateReference) :=
  let payload := value.asDict
  match optionalString (payload.get "template_id") with
  | none => .ok none
  | some templateId => do
    let templateRuntime ← normalizeTemplateRuntime (payload.get "template_runtime")
    .ok (some
      { templateId := templateId
        templateVersion := optionalString (payload.get "template_version")
        templateRuntime := templateRuntime
        allowedParameterOverrides := (payload.get "allowed_parameter_overrides").normalizeStringList })

/-- The constraints of a prompt.  `capabilityRequirements` are its required features. -/
structure PromptConstraints where
  maxTimeoutS : Option ℤ
  structuredOutputRequired : Bool
  allowedModelOverrides : List String
  routingPolicy : Option RoutingMode
  importance : ImportanceLevel
  capabilityRequirements : List String
  imageTemplate : Option ImageTemplateReference
  deriving DecidableEq

/-- The constraints as they are stored. -/
def PromptConstraints.toValue (constraints : PromptConstraints) : Value :=
  .dict [("max_timeout_s", constraints.maxTimeoutS.elim .null .int),
    ("structured_output_required", .bool constraints.structuredOutputRequired),
    ("allowed_model_overrides", textList constraints.allowedModelOverrides),
    ("routing_policy", routingPolicyValue constraints.routingPolicy),
    ("importance", .dict [("level", .str constraints.importance.text)]),
    ("capability_requirements", capabilityRequirementsValue constraints.capabilityRequirements),
    ("image_template", constraints.imageTemplate.elim .null ImageTemplateReference.toValue)]

/-- `max(int(max_timeout_s), 1) if max_timeout_s is not None else None`. -/
def normalizeMaxTimeoutS (value : Value) : Except Exc (Option ℤ) :=
  if value.isNull then .ok none else (fun seconds => some (max seconds 1)) <$> value.toInt

/-- `normalize_prompt_constraints`. -/
def normalizePromptConstraints (value : Value) : Except Exc PromptConstraints := do
  let payload := value.asDict
  let maxTimeoutS ← normalizeMaxTimeoutS (payload.get "max_timeout_s")
  let routingPolicy ← normalizePromptRoutingPolicy (payload.get "routing_policy")
  let importance ← normalizePromptImportancePolicy (payload.get "importance")
  let imageTemplate ← normalizePromptImageTemplate (payload.get "image_template")
  .ok
    { maxTimeoutS := maxTimeoutS
      structuredOutputRequired := (payload.get "structured_output_required").truthy
      allowedModelOverrides := (payload.get "allowed_model_overrides").normalizeStringList
      routingPolicy := routingPolicy
      importance := importance
      capabilityRequirements := normalizePromptCapabilityRequirements (payload.get "capability_requirements")
      imageTemplate := imageTemplate }

/-- `normalize_provider_preferences`. -/
structure ProviderPreferences where
  preferredProviders : List String
  preferredModels : List String
  defaultProvider : Option String
  defaultModel : Option String
  deriving DecidableEq

/-- The preferences as they are stored. -/
def ProviderPreferences.toValue (preferences : ProviderPreferences) : Value :=
  .dict [("preferred_providers", textList preferences.preferredProviders),
    ("preferred_models", textList preferences.preferredModels),
    ("default_provider", optStr preferences.defaultProvider),
    ("default_model", optStr preferences.defaultModel)]

/-- `normalize_provider_preferences`. -/
def normalizeProviderPreferences (value : Value) : ProviderPreferences where
  preferredProviders := (value.asDict.get "preferred_providers").normalizeStringList.map lower
  preferredModels := (value.asDict.get "preferred_models").normalizeStringList.map lower
  defaultProvider := (optionalString (value.asDict.get "default_provider")).map lower
  defaultModel := (optionalString (value.asDict.get "default_model")).map lower

/-- `normalize_prompt_access_policy`. -/
structure AccessPolicy where
  accessScope : AccessScope
  ownerClientId : Option String
  allowedServices : List String
  allowedClients : List String
  allowedCustomers : List String

/-- `normalize_prompt_access_policy`. -/
def normalizePromptAccessPolicy (accessScope ownerClientId allowedServices allowedClients
    allowedCustomers : Value) : Except Exc AccessPolicy := do
  let scope ← normalizePromptAccessScope accessScope
  .ok
    { accessScope := scope
      ownerClientId := optionalString ownerClientId
      allowedServices := allowedServices.normalizeStringList
      allowedClients := allowedClients.normalizeStringList
      allowedCustomers := allowedCustomers.normalizeStringList }

/-! ## Versions -/

/-- The definition of a version. -/
structure PromptDefinition where
  systemPrompt : Value := .null
  promptTemplate : Value := .null
  templateVariables : List Value := []
  defaultInputs : Value := .dict []

/-- The definition as it is stored. -/
def PromptDefinition.toValue (definition : PromptDefinition) : Value :=
  .dict [("system_prompt", definition.systemPrompt), ("prompt_template", definition.promptTemplate),
    ("template_variables", .list definition.templateVariables), ("default_inputs", definition.defaultInputs)]

/-- `normalize_prompt_definition`. -/
def normalizePromptDefinition (value : Value) : PromptDefinition where
  systemPrompt := optStr (optionalString (value.asDict.get "system_prompt"))
  promptTemplate := optStr (optionalString (value.asDict.get "prompt_template"))
  templateVariables := (value.asDict.get "template_variables").normalizeStringList.map .str
  defaultInputs := .dict (value.asDict.get "default_inputs").asDict

/-- A version of a prompt. -/
structure PromptVersion where
  version : String
  definition : PromptDefinition
  metadata : Dict
  createdAt : String

/-- The version as it is stored. -/
def PromptVersion.toValue (version : PromptVersion) : Value :=
  .dict [("version", .str version.version), ("definition", version.definition.toValue),
    ("metadata", .dict version.metadata), ("created_at", .str version.createdAt)]

/-- `build_prompt_version`. -/
def buildPromptVersion (now : Timestamp) (version definition metadata createdAt : Value) :
    Except Exc PromptVersion := do
  let version ← normalizePromptVersion version false
  .ok
    { version := version
      definition := normalizePromptDefinition definition
      metadata := metadata.asDict
      createdAt := (optionalString createdAt).getD now.text }

/-- The greatest major number of the versions, from a number on. -/
def maxMajor (start : ℤ) : List PromptVersion → Except Exc ℤ
  | [] => .ok start
  | version :: versions => do
    let major ← promptVersionMajor (.str version.version)
    maxMajor (major.elim start (max start)) versions

/-- `next_prompt_version`. -/
def nextPromptVersion (versions : List PromptVersion) : Except Exc String := do
  let major ← maxMajor 0 versions
  .ok ("v" ++ toString (major + 1) ++ ".0")

/-! ## The record of a prompt -/

/-- An entry of the lifecycle history. -/
def lifecycleEvent (state : LifecycleState) (reason changedAt : String) : Value :=
  .dict [("state", .str state.text), ("reason", .str reason), ("changed_at", .str changedAt)]

/-- The usage of a prompt. -/
structure Usage where
  executionCount : ℕ := 0
  successCount : ℕ := 0
  failureCount : ℕ := 0
  denialCount : ℕ := 0
  lastUsedAt : Value := .null
  lastDenialReason : Value := .null
  lastDeniedAt : Value := .null
  lastFailureReason : Value := .null
  lastFailureAt : Value := .null
  lastExecutionStatus : Value := .null

/-- The usage as it is stored. -/
def Usage.toValue (usage : Usage) : Value :=
  .dict [("execution_count", .int usage.executionCount), ("success_count", .int usage.successCount),
    ("failure_count", .int usage.failureCount), ("denial_count", .int usage.denialCount),
    ("last_used_at", usage.lastUsedAt), ("last_denial_reason", usage.lastDenialReason),
    ("last_denied_at", usage.lastDeniedAt), ("last_failure_reason", usage.lastFailureReason),
    ("last_failure_at", usage.lastFailureAt), ("last_execution_status", usage.lastExecutionStatus)]

/-- The record of a registered prompt. -/
structure PromptEntry where
  promptId : String
  promptName : String
  serviceId : String
  ownerService : String
  ownerClientId : Option String
  taskFamily : String
  status : LifecycleState
  privacyClass : PrivacyClass
  accessScope : AccessScope
  allowedServices : List String
  allowedClients : List String
  allowedCustomers : List String
  executionPolicy : ExecutionPolicy
  providerPreferences : ProviderPreferences
  constraints : PromptConstraints
  metadata : Dict
  currentVersion : String
  versions : List PromptVersion
  lifecycleHistory : List Value
  usage : Usage
  registeredAt : String
  updatedAt : String
  lastReviewedAt : Option String
  reviewedBy : Option String
  reviewReason : Option String
  retiredAt : Value
  extra : Dict := []

/-- The fields of a record as they are stored. -/
def PromptEntry.fields (entry : PromptEntry) : Dict :=
  [("prompt_id", .str entry.promptId), ("prompt_name", .str entry.promptName),
    ("service_id", .str entry.serviceId), ("owner_service", .str entry.ownerService),
    ("owner_client_id", optStr entry.ownerClientId), ("task_family", .str entry.taskFamily),
    ("status", .str entry.status.text), ("privacy_class", .str entry.privacyClass.text),
    ("access_scope", .str entry.accessScope.text), ("allowed_services", textList entry.allowedServices),
    ("allowed_clients", textList entry.allowedClients), ("allowed_customers", textList entry.allowedCustomers),
    ("execution_policy", entry.executionPolicy.toValue),
    ("provider_preferences", entry.providerPreferences.toValue), ("constraints", entry.constraints.toValue),
    ("metadata", .dict entry.metadata), ("current_version", .str entry.currentVersion),
    ("versions", .list (entry.versions.map PromptVersion.toValue)),
    ("lifecycle_history", .list entry.lifecycleHistory), ("usage", entry.usage.toValue),
    ("registered_at", .str entry.registeredAt), ("updated_at", .str entry.updatedAt),
    ("last_reviewed_at", optStr entry.lastReviewedAt), ("reviewed_by", optStr entry.reviewedBy),
    ("review_reason", optStr entry.reviewReason), ("retired_at", entry.retiredAt)]

/-- The record as it is stored. -/
def PromptEntry.toValue (entry : PromptEntry) : Value := .dict (entry.fields ++ entry.extra)

/-- The keys the code knows. -/
def entryKeys : List String :=
  ["prompt_id", "prompt_name", "service_id", "owner_service", "owner_client_id", "task_family", "status",
    "privacy_class", "access_scope", "allowed_services", "allowed_clients", "allowed_customers",
    "execution_policy", "provider_preferences", "constraints", "metadata", "current_version", "versions",
    "lifecycle_history", "usage", "registered_at", "updated_at", "last_reviewed_at", "reviewed_by",
    "review_reason", "retired_at"]

/-! ## Registration -/

/-- The arguments of `create_prompt_service_registration`; those that are not given are `None`. -/
structure RegistrationArgs where
  promptId : Value
  serviceId : Value
  taskFamily : Value
  metadata : Value := .null
  promptName : Value := .null
  ownerService : Value := .null
  ownerClientId : Value := .null
  privacyClass : Value := .str "internal"
  accessScope : Value := .str "service"
  allowedServices : Value := .null
  allowedClients : Value := .null
  allowedCustomers : Value := .null
  executionPolicy : Value := .null
  providerPreferences : Value := .null
  constraints : Value := .null
  definition : Value := .null
  version : Value := .null
  status : Value := .str "active"

/-- The task family of a registration. -/
def registeredTaskFamily (taskFamily : Value) : Except Exc String := do
  let given ← nonEmpty taskFamily "task_family"
  let task := (canonicalizeTaskFamily (.str given)).getD given
  if task ∈ canonicalTaskFamilies then .ok task else .error ⟨.valueError, "unsupported task_family"⟩

/-- `create_prompt_service_registration`. -/
def createPromptServiceRegistration (now : Timestamp) (args : RegistrationArgs) : Except Exc PromptEntry := do
  let prompt ← nonEmpty args.promptId "prompt_id"
  let service ← nonEmpty args.serviceId "service_id"
  let task ← registeredTaskFamily args.taskFamily
  let versionValue ← normalizePromptVersion (.str ((optionalString args.version).getD "v1")) false
  let lifecycleState ← normalizePromptLifecycleState args.status
  let accessPolicy ← normalizePromptAccessPolicy args.accessScope args.ownerClientId args.allowedServices
    args.allowedClients args.allowedCustomers
  let versionEntry ← buildPromptVersion now (.str versionValue) args.definition args.metadata
    (.str now.text)
  let privacyClass ← normalizePromptPrivacyClass args.privacyClass
  let constraints ← normalizePromptConstraints args.constraints
  .ok
    { promptId := prompt
      promptName := (optionalString args.promptName).getD prompt
      serviceId := service
      ownerService := (optionalString args.ownerService).getD service
      ownerClientId := accessPolicy.ownerClientId
      taskFamily := task
      status := lifecycleState
      privacyClass := privacyClass
      accessScope := accessPolicy.accessScope
      allowedServices := accessPolicy.allowedServices
      allowedClients := accessPolicy.allowedClients
      allowedCustomers := accessPolicy.allowedCustomers
      executionPolicy := normalizeExecutionPolicy args.executionPolicy
      providerPreferences := normalizeProviderPreferences args.providerPreferences
      constraints := constraints
      metadata := args.metadata.asDict
      currentVersion := versionValue
      versions := [versionEntry]
      lifecycleHistory := [lifecycleEvent lifecycleState "created" now.text]
      usage := {}
      registeredAt := now.text
      updatedAt := now.text
      lastReviewedAt := if lifecycleState = .active then some now.text else none
      reviewedBy := accessPolicy.ownerClientId
      reviewReason := if lifecycleState = .active then some "created" else none
      retiredAt := .null }

end Prompts
end HexeAiNode
