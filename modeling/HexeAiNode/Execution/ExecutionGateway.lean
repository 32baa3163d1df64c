import HexeAiNode.Prompts.NormalForm

/-!
# The execution gateway

`ExecutionGateway.authorize` decides whether a prompt may be executed.  It reads the state of the registry as data,
finds the entry of the prompt and the version that is asked for, and then checks the entry against the caller.

The version is looked up before any check of the entry, and the lookup raises on a version in none of the three
spellings.  The flag `allow_version_pinning` is stored with every entry and read by nothing.

`registered_of_normalize` says what the gateway can rely on in a state that has been normalised.
-/

namespace HexeAiNode
namespace Execution

open Py Governance Prompts

/-! ## The lookup -/

/-- `find_prompt_entry`. -/
def findPromptEntry (promptServicesState : Value) (promptId : String) : Option Dict :=
  let promptValue := strip promptId
  match promptServicesState.asDict.get "prompt_services" with
  | .list entries =>
    if promptValue = "" then none
    else entries.findSome? fun
      | .dict entry => if (Dict.get entry "prompt_id").normalizeString = promptValue then some entry else none
      | _ => none
  | _ => none

/-- The loop of `find_prompt_version`: a stored version that cannot be read is passed over. -/
def findStoredVersion (target : String) : List Value → Option Dict
  | [] => none
  | .dict item :: items =>
    match normalizePromptVersion (Dict.get item "version") true with
    | .ok stored =>
      if stored = target then some (Dict.set item "version" (.str stored)) else findStoredVersion target items
    | .error _ => findStoredVersion target items
  | _ :: items => findStoredVersion target items

/-- The version that is named, when it is not blank. -/
def namedVersion (version : Option String) : Option String := optionalString (optStr version)

/-- The version that is looked for: first without the spelling that is accepted for stored versions. -/
def targetVersion (value : Value) : Except Exc String :=
  match normalizePromptVersion value false with
  | .ok target => .ok target
  | .error e => if e.isValueError then normalizePromptVersion value true else .error e

/-- `find_prompt_version`.  Without stored versions it makes one up. -/
def findPromptVersion (now : Timestamp) (entry : Dict) (version : Option String) : Except Exc (Option Dict) :=
  match entry.get "versions" with
  | .list (item :: items) => do
    let target ← targetVersion ((namedVersion version).elim (entry.get "current_version") .str)
    .ok (findStoredVersion target (item :: items))
  | _ => do
    let fallbackVersion ← normalizePromptVersion
      (.str (((namedVersion version).or (optionalString (entry.get "current_version"))).getD "v1")) true
    .ok (some
      [("version", .str fallbackVersion), ("definition", .dict []),
        ("metadata", .dict (entry.get "metadata").asDict),
        ("created_at", .str ((optionalString (entry.get "registered_at")).getD now.text))])

/-! ## The checks -/

/-- The arguments of `authorize`. -/
structure AuthorizationArgs where
  promptId : String
  taskFamily : String
  promptVersion : Option String := none
  requestedBy : Option String := none
  serviceId : Option String := none
  customerId : Option String := none
  requestedProvider : Option String := none
  requestedModel : Option String := none
  inputs : Dict := []

/-- `x is False`. -/
def isFalse : Value → Bool
  | .bool false => true
  | _ => false

/-- `_is_caller_allowed`. -/
def isCallerAllowed (matched : Dict) (requestedBy serviceId customerId : Option String) : Bool :=
  let scope := ((matched.get "access_scope").orElse (.str "service")).normalizeLower
  let accessScope := if scope = "" then "service" else scope
  let ownerService := ((matched.get "owner_service").orElse (matched.get "service_id")).normalizeString
  let ownerClientId := (matched.get "owner_client_id").normalizeString
  let callerClient := (optStr requestedBy).normalizeString
  let callerService := (namedVersion serviceId).getD callerClient
  let callerCustomer := (optStr customerId).normalizeString
  let allowedServices := (matched.get "allowed_services").normalizeStringList
  let allowedClients := (matched.get "allowed_clients").normalizeStringList
  let allowedCustomers := (matched.get "allowed_customers").normalizeStringList
  let ownerAllowed : Bool := (ownerClientId ≠ "" ∧ callerClient = ownerClientId) ∨
    (ownerService ≠ "" ∧ callerService = ownerService)
  if accessScope = "public" then true
  else if accessScope = "private" then ownerAllowed
  else if accessScope = "service" then ownerService = "" ∨ callerService = ownerService
  else if accessScope = "shared" then
    ownerAllowed ∨ (callerService ≠ "" ∧ callerService ∈ allowedServices) ∨
      (callerClient ≠ "" ∧ callerClient ∈ allowedClients) ∨
      (callerCustomer ≠ "" ∧ callerCustomer ∈ allowedCustomers)
  else ownerAllowed

/-- `[str(item).strip().lower() for item in list(value or []) if str(item).strip()]`. -/
def lowerTexts (value : Value) : Except Exc (List String) := do
  let items ← value.toItems
  .ok (((items.map fun item => strip item.toStr).filter (· ≠ "")).map lower)

/-- `_provider_scope`. -/
def providerScope (providerId : Value) : Option Side :=
  let provider := providerId.normalizeLower
  if provider = "" then none else some (if provider = "local" then .onNode else .cloud)

/-- `_routing_mode_allows_provider`. -/
def routingModeAllowsProvider (mode : Option RoutingMode) (providerId : Value) : Bool :=
  match providerScope providerId, mode with
  | some scope, some .localOnly => scope = .onNode
  | some scope, some .cloudOnly => scope = .cloud
  | _, _ => true

/-- `_privacy_routing_mode`. -/
def privacyRoutingMode (privacyClass : Value) : Option RoutingMode :=
  if privacyClass.normalizeLower = "restricted" ∨ privacyClass.normalizeLower = "sensitive" then some .localOnly
  else none

/-- The privacy class of an entry. -/
def privacyClassOf (matched : Dict) : String :=
  let privacyClass := ((matched.get "privacy_class").orElse (.str "internal")).normalizeLower
  if privacyClass = "" then "internal" else privacyClass

/-- A schema for structured output is among the inputs. -/
def hasSchema (inputs : Dict) : Bool :=
  (inputs.get "structured_output_schema").isDict || (inputs.get "json_schema").isDict

/-- The checks of `authorize` after the lookup: the reason of the first one that fails. -/
def denialReason (matched : Dict) (args : AuthorizationArgs) (promptState : LifecycleState) :
    Except Exc (Option String) :=
  if promptState = .probation then .ok (some "prompt_in_probation")
  else if promptState ≠ .active ∧ promptState ≠ .reviewDue then .ok (some "prompt_state_invalid")
  else if isCallerAllowed matched args.requestedBy args.serviceId args.customerId = false then
    .ok (some "prompt_access_denied")
  else if isFalse ((matched.get "execution_policy").asDict.get "allow_direct_execution") then
    .ok (some "prompt_state_invalid")
  else do
    let providerPreferences := (matched.get "provider_preferences").asDict
    let preferredProviders ← lowerTexts (providerPreferences.get "preferred_providers")
    let preferredModels ← lowerTexts (providerPreferences.get "preferred_models")
    let requestedProviderValue := (optStr args.requestedProvider).normalizeLower
    if requestedProviderValue ≠ "" ∧ preferredProviders ≠ [] ∧ requestedProviderValue ∉ preferredProviders then
      .ok (some "prompt_provider_not_allowed")
    else
      let promptConstraints := (matched.get "constraints").asDict
      let allowedModelOverrides ← lowerTexts (promptConstraints.get "allowed_model_overrides")
      let requestedModelValue := (optStr args.requestedModel).normalizeLower
      let routingMode := normalizeRoutingPolicyMode ((promptConstraints.get "routing_policy").asDict.get "mode")
      let effectiveRoutingMode := (privacyRoutingMode (.str (privacyClassOf matched))).or routingMode
      if requestedModelValue ≠ "" ∧ allowedModelOverrides ≠ [] ∧
          requestedModelValue ∉ allowedModelOverrides ++ preferredModels then
        .ok (some "prompt_model_override_not_allowed")
      else if requestedProviderValue ≠ "" ∧
          routingModeAllowsProvider effectiveRoutingMode (.str requestedProviderValue) = false then
        .ok (some "prompt_routing_policy_conflict")
      else if (promptConstraints.get "structured_output_required").truthy ∧ hasSchema args.inputs = false then
        .ok (some "prompt_structured_output_required")
      else .ok none

/-! ## The decision -/

/-- The answer of `authorize`: with the fields that are only shown to the caller. -/
structure AuthorizationAnswer extends ExecutionAuthorizationResult where
  promptId : String
  taskFamily : String
  promptState : Option LifecycleState := none
  executionPolicy : Value := .null

/-- A denial. -/
def denied (reason prompt task : String) (promptState : Option LifecycleState) : AuthorizationAnswer where
  allowed := false
  reason := reason
  promptId := prompt
  taskFamily := task
  promptState := promptState

/-- The answer when every check has passed. -/
def authorized (matched versionEntry : Dict) (prompt task : String) (promptState : LifecycleState) :
    AuthorizationAnswer where
  allowed := true
  reason := "authorized"
  promptId := prompt
  taskFamily := task
  promptVersion := optionalString (versionEntry.get "version")
  promptState := some promptState
  privacyClass := some (privacyClassOf matched)
  providerPreferences := .dict (matched.get "provider_preferences").asDict
  promptConstraints := .dict (matched.get "constraints").asDict
  executionPolicy := .dict (matched.get "execution_policy").asDict
  promptDefinition := .dict (versionEntry.get "definition").asDict

/-- The part of `authorize` after the entry is found. -/
def authorizeMatched (now : Timestamp) (matched : Dict) (args : AuthorizationArgs) (prompt task : String) :
    Except Exc AuthorizationAnswer := do
  let version ← findPromptVersion now matched args.promptVersion
  match version with
  | none => .ok (denied "invalid_prompt_version" prompt task none)
  | some versionEntry =>
    let promptState ← normalizePromptLifecycleState ((matched.get "status").orElse (.str "active"))
    let denial ← denialReason matched args promptState
    match denial with
    | some reason => .ok (denied reason prompt task (some promptState))
    | none => .ok (authorized matched versionEntry prompt task promptState)

/-- `authorize`. -/
def authorize (now : Timestamp) (promptServicesState : Value) (args : AuthorizationArgs) :
    Except Exc AuthorizationAnswer :=
  let prompt := strip args.promptId
  let task := strip args.taskFamily
  if prompt = "" then .ok (denied "missing_prompt_id" prompt task none)
  else if task = "" then .ok (denied "missing_task_family" prompt task none)
  else
    match findPromptEntry promptServicesState prompt with
    | none => .ok (denied "prompt_not_registered" prompt task none)
    | some matched =>
      if (matched.get "task_family").normalizeString ≠ task then
        .ok (denied "prompt_task_family_mismatch" prompt task none)
      else authorizeMatched now matched args prompt task

/-! ## Entries of a normalised state -/

/-- What normalising makes of the fields that the gateway reads. -/
structure Registered (entry : PromptEntry) : Prop where
  promptId : Clean entry.promptId
  taskFamily : Clean entry.taskFamily
  preferences : entry.providerPreferences.Normal
  modelOverrides : CleanList entry.constraints.allowedModelOverrides
  currentVersion : normalizePromptVersion (.str entry.currentVersion) true = .ok entry.currentVersion
  versions : ∀ v ∈ entry.versions, normalizePromptVersion (.str v.version) true = .ok v.version
  distinct : (entry.versions.map PromptVersion.version).Nodup

section Normalising

variable {now : Timestamp} {d : Dict} {entry : PromptEntry} {versions acc : List PromptVersion}

/-- A version that is normal in the state. -/
def NormalVersions (versions : List PromptVersion) : Prop :=
  (∀ v ∈ versions, normalizePromptVersion (.str v.version) true = .ok v.version) ∧
    (versions.map PromptVersion.version).Nodup

theorem NormalVersions.concat {version : PromptVersion} (h : NormalVersions acc)
    (hversion : normalizePromptVersion (.str version.version) true = .ok version.version)
    (hnew : version.version ∉ acc.map PromptVersion.version) : NormalVersions (acc ++ [version]) := by
  refine ⟨fun v hv => ?_, ?_⟩
  · rcases List.mem_append.mp hv with hv | hv
    · exact h.1 v hv
    · obtain rfl := List.mem_singleton.mp hv
      exact hversion
  · rw [List.map_append, List.nodup_append]
    refine ⟨h.2, List.nodup_singleton _, fun a ha b hb => ?_⟩
    rintro rfl
    obtain rfl := List.mem_singleton.mp hb
    exact hnew ha

theorem normalVersions_of_list {items : List Value} (hacc : NormalVersions acc)
    (h : normalizeVersionList now d acc items = .ok versions) : NormalVersions versions := by
  induction items generalizing acc with
  | nil =>
    obtain rfl := Except.ok.inj h
    exact hacc
  | cons item items ih =>
    cases item with
    | dict versionEntry =>
      obtain ⟨version, hversion, h⟩ := bind_eq_ok.mp h
      obtain ⟨text, htext, hversion⟩ := bind_eq_ok.mp hversion
      split at hversion
      · cases hversion
      · next hnew =>
        obtain ⟨definition, -, hversion⟩ := bind_eq_ok.mp hversion
        obtain rfl := Except.ok.inj hversion
        exact ih (hacc.concat (normalizePromptVersion_normalized htext) hnew) h
    | _ => exact ih hacc h

theorem normalVersions_of_normalizeVersions {metadata : Dict} (h : normalizeVersions now d metadata = .ok versions) :
    NormalVersions versions := by
  unfold normalizeVersions at h
  split at h
  · exact normalVersions_of_list ⟨fun _ hv => absurd hv List.not_mem_nil, List.nodup_nil⟩ h
  · obtain ⟨text, htext, h⟩ := bind_eq_ok.mp h
    obtain rfl := Except.ok.inj h
    refine ⟨fun v hv => ?_, List.nodup_singleton _⟩
    obtain rfl := List.mem_singleton.mp hv
    exact normalizePromptVersion_normalized htext

theorem normal_of_normalizeCurrentVersion {value : Value} {text : String} (hversions : NormalVersions versions)
    (h : normalizeCurrentVersion value versions = .ok text) : normalizePromptVersion (.str text) true = .ok text := by
  unfold normalizeCurrentVersion at h
  dsimp only at h
  split at h
  · exact normalizePromptVersion_normalized h
  · split at h
    · next version hlast =>
      obtain rfl := Except.ok.inj h
      exact hversions.1 version (List.mem_of_getLast? hlast)
    · cases h

theorem modelOverrides_of_normalizePromptConstraints {value : Value} {constraints : PromptConstraints}
    (h : normalizePromptConstraints value = .ok constraints) : CleanList constraints.allowedModelOverrides := by
  obtain ⟨maxTimeoutS, -, h⟩ := bind_eq_ok.mp h
  obtain ⟨routingPolicy, -, h⟩ := bind_eq_ok.mp h
  obtain ⟨importance, -, h⟩ := bind_eq_ok.mp h
  obtain ⟨imageTemplate, -, h⟩ := bind_eq_ok.mp h
  obtain rfl := Except.ok.inj h
  exact cleanList_normalizeStringList _

theorem registered_of_normalizeFields (h : normalizeFields now d = .ok entry) : Registered entry := by
  unfold normalizeFields at h
  dsimp only at h
  split at h
  · cases h
  · next hids =>
    obtain ⟨accessPolicy, -, h⟩ := bind_eq_ok.mp h
    obtain ⟨status, -, h⟩ := bind_eq_ok.mp h
    obtain ⟨privacyClass, -, h⟩ := bind_eq_ok.mp h
    obtain ⟨constraints, hconstraints, h⟩ := bind_eq_ok.mp h
    obtain ⟨versions, hversions, h⟩ := bind_eq_ok.mp h
    obtain ⟨currentVersion, hcurrent, h⟩ := bind_eq_ok.mp h
    obtain ⟨usage, -, h⟩ := bind_eq_ok.mp h
    obtain rfl := Except.ok.inj h
    have hnormal := normalVersions_of_normalizeVersions hversions
    push Not at hids
    exact
      { promptId := clean_normalizeString hids.1
        taskFamily := clean_normalizeString hids.2.2
        preferences := normal_normalizeProviderPreferences _
        modelOverrides := modelOverrides_of_normalizePromptConstraints hconstraints
        currentVersion := normal_of_normalizeCurrentVersion hnormal hcurrent
        versions := hnormal.1
        distinct := hnormal.2 }

/-- **The entries of a normalised state.** -/
theorem registered_of_normalize {document : Value} {state : PromptServiceState}
    (h : normalizePromptServiceState now document = .ok state) :
    ∀ entry ∈ state.promptServices, Registered entry := by
  unfold normalizePromptServiceState at h
  split at h
  · split at h
    · split at h
      · next entries _ =>
        obtain ⟨promptServices, hentries, h⟩ := bind_eq_ok.mp h
        obtain ⟨probation, -, h⟩ := bind_eq_ok.mp h
        obtain rfl := Except.ok.inj h
        intro entry hentry
        obtain ⟨value, -, hvalue⟩ := exists_of_mem_mapM_eq_ok hentries hentry
        unfold normalizeEntry at hvalue
        split at hvalue
        · obtain ⟨migrated, -, hfields⟩ := bind_eq_ok.mp hvalue
          exact registered_of_normalizeFields hfields
        · cases hvalue
      · cases h
    · cases h
  · cases h

end Normalising

end Execution
end HexeAiNode
