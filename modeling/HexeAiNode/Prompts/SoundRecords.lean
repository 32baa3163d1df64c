import HexeAiNode.Execution.VersionLaw
import HexeAiNode.Library.Pointwise
import HexeAiNode.Python.Copying

/-!
# Sound records

Every save of the registry normalises the whole state, and a registry that is started again normalises what was
written.  `PromptEntry.Sound` is what all of this keeps of a record: it has versions, no two with the same name, one of
them is current, the last event of its history names its state, and every execution has succeeded or failed.
`PromptEntry.Keeps` says that the versions of a record are still there.

`exists_normalizeEntry`: a sound record is normalised to a sound one that keeps its versions, whether it stayed in
memory or was written and read (`Copying`).  `exists_normalizeState` is the same for a state.
-/

namespace HexeAiNode
namespace Prompts

open Py Governance Execution

variable {now : Timestamp} {copy : Value → Value} {entry entry' : PromptEntry}

/-! ## Versions -/

/-- A version that the normaliser keeps. -/
structure PromptVersion.Sound (version : PromptVersion) : Prop where
  normal : normalizePromptVersion (.str version.version) true = .ok version.version
  defaultInputs : version.definition.defaultInputs.isDict = true
  createdAt : version.createdAt ≠ ""

/-- Two versions hold the same, up to the order of keys. -/
structure PromptVersion.Same (u v : PromptVersion) : Prop where
  version : v.version = u.version
  definition : v.definition.toValue.sortKeys = u.definition.toValue.sortKeys
  metadata : (Value.dict v.metadata).sortKeys = (Value.dict u.metadata).sortKeys
  createdAt : v.createdAt = u.createdAt

theorem PromptVersion.Same.refl (version : PromptVersion) : version.Same version := ⟨rfl, rfl, rfl, rfl⟩

theorem PromptVersion.Same.trans {u v w : PromptVersion} (huv : u.Same v) (hvw : v.Same w) : u.Same w where
  version := hvw.version.trans huv.version
  definition := hvw.definition.trans huv.definition
  metadata := hvw.metadata.trans huv.metadata
  createdAt := hvw.createdAt.trans huv.createdAt

/-- A dictionary that is one of the values a copy is made of. -/
theorem orElse_dict {value : Value} (h : value.isDict = true) : value.orElse (.dict []) = value := by
  cases value with
  | dict kvs => cases kvs <;> rfl
  | _ => cases h

/-- The definition of a copy. -/
theorem exists_storedDefinition (hcopy : Copying copy) {definition : PromptDefinition}
    (h : definition.defaultInputs.isDict = true) :
    ∃ definition', storedDefinition (copy definition.toValue).asDict = .ok definition' ∧
      definition'.defaultInputs.isDict = true ∧
      definition'.toValue.sortKeys = definition.toValue.sortKeys := by
  obtain ⟨systemPrompt, promptTemplate, templateVariables, defaultInputs⟩ := definition
  cases defaultInputs with
  | dict inputs =>
    have hdistinct : Assoc.Distinct [("system_prompt", systemPrompt), ("prompt_template", promptTemplate),
        ("template_variables", .list templateVariables), ("default_inputs", .dict inputs)] := by
      simp [Assoc.Distinct, Assoc.keys]
    have hget : ∀ {key : String} {v : Value}, (key, v) ∈ [("system_prompt", systemPrompt),
        ("prompt_template", promptTemplate), ("template_variables", .list templateVariables),
        ("default_inputs", .dict inputs)] → (copy (.dict [("system_prompt", systemPrompt),
        ("prompt_template", promptTemplate), ("template_variables", .list templateVariables),
        ("default_inputs", .dict inputs)])).asDict.get key = copy v := fun h => hcopy.get_of_mem hdistinct h
    have hsystem := hget (by simp : ("system_prompt", systemPrompt) ∈ _)
    have htemplate := hget (by simp : ("prompt_template", promptTemplate) ∈ _)
    have hvariables := hget (by simp : ("template_variables", Value.list templateVariables) ∈ _)
    have hinputs := hget (by simp : ("default_inputs", Value.dict inputs) ∈ _)
    unfold storedDefinition PromptDefinition.toValue
    dsimp only
    rw [hvariables, hcopy.list, hsystem, htemplate, hinputs, orElse_dict (hcopy.isDict inputs)]
    rw [Value.toItems_list]
    refine ⟨_, rfl, hcopy.isDict inputs, ?_⟩
    dsimp only
    rw [← hcopy.list]
    exact hcopy.sortKeys_map [("system_prompt", systemPrompt), ("prompt_template", promptTemplate),
      ("template_variables", .list templateVariables), ("default_inputs", .dict inputs)]
  | _ => cases h

/-- **A version** of a copy. -/
theorem exists_normalizeVersionEntry (now : Timestamp) (hcopy : Copying copy) {version : PromptVersion}
    (h : version.Sound) (d : Dict)
    {normalized : List PromptVersion} (hnew : version.version ∉ normalized.map PromptVersion.version) :
    ∃ version', normalizeVersionEntry now d normalized (copy version.toValue).asDict = .ok version' ∧
      version'.Sound ∧ version.Same version' := by
  have hdistinct : Assoc.Distinct [("version", Value.str version.version),
      ("definition", version.definition.toValue), ("metadata", .dict version.metadata),
      ("created_at", .str version.createdAt)] := by
    simp [Assoc.Distinct, Assoc.keys]
  have hversion : (copy version.toValue).asDict.get "version" = .str version.version :=
    (hcopy.get_of_mem hdistinct (by simp)).trans (hcopy.str _)
  have hdefinition : (copy version.toValue).asDict.get "definition" = copy version.definition.toValue :=
    hcopy.get_of_mem hdistinct (by simp)
  have hmetadata : (copy version.toValue).asDict.get "metadata" = copy (.dict version.metadata) :=
    hcopy.get_of_mem hdistinct (by simp)
  have hcreated : (copy version.toValue).asDict.get "created_at" = .str version.createdAt :=
    (hcopy.get_of_mem hdistinct (by simp)).trans (hcopy.str _)
  obtain ⟨definition, hok, hinputs, hsame⟩ := exists_storedDefinition hcopy h.defaultInputs
  have hcreatedAt : ∀ v, ((Value.str version.createdAt).orElse v).toStr = version.createdAt := fun v => by
    rw [orElse_str h.createdAt]
    rfl
  unfold normalizeVersionEntry
  rw [hversion, hdefinition, hmetadata, hcreated, h.normal]
  simp only [bind, Except.bind, if_neg hnew, hok, hcreatedAt]
  refine ⟨_, rfl, ⟨h.normal, hinputs, h.createdAt⟩, rfl, hsame, ?_, rfl⟩
  dsimp only
  rw [← hcopy.dict_eq, hcopy.sortKeys]

/-- The versions of a copy. -/
theorem exists_normalizeVersionList (now : Timestamp) (hcopy : Copying copy) (d : Dict) {versions : List PromptVersion}
    (h : ∀ version ∈ versions, version.Sound) {normalized : List PromptVersion}
    (hdistinct : ((normalized ++ versions).map PromptVersion.version).Nodup) :
    ∃ versions', normalizeVersionList now d normalized ((versions.map PromptVersion.toValue).map copy) =
        .ok (normalized ++ versions') ∧
      (∀ version ∈ versions', version.Sound) ∧ List.Forall₂ PromptVersion.Same versions versions' := by
  induction versions generalizing normalized with
  | nil => exact ⟨[], by rw [List.append_nil]; rfl, by simp, List.Forall₂.nil⟩
  | cons version versions ih =>
    have hnew : version.version ∉ normalized.map PromptVersion.version := by
      rw [List.map_append, List.map_cons] at hdistinct
      intro hmem
      exact (List.nodup_append.mp hdistinct).2.2 _ hmem _ List.mem_cons_self rfl
    obtain ⟨version', hversion, hsound, hsame⟩ :=
      exists_normalizeVersionEntry now hcopy (h version List.mem_cons_self) d hnew
    have hnodup : ((normalized ++ [version'] ++ versions).map PromptVersion.version).Nodup := by
      simpa [hsame.version] using hdistinct
    obtain ⟨versions', hversions, hsounds, hsames⟩ := ih (fun v hv => h v (List.mem_cons_of_mem _ hv)) hnodup
    refine ⟨version' :: versions', ?_, List.forall_mem_cons.mpr ⟨hsound, hsounds⟩, hsames.cons hsame⟩
    have hdict : copy version.toValue = .dict (copy version.toValue).asDict := hcopy.dict_eq _
    rw [List.map_cons, List.map_cons, hdict, normalizeVersionList, hversion]
    simp only [bind, Except.bind, hversions, List.append_assoc, List.singleton_append]
    
/-! ## The other parts of a record -/

theorem copy_optStr (hcopy : Copying copy) (s : Option String) : copy (optStr s) = optStr s := by
  rcases s with _ | s
  · exact hcopy.null
  · exact hcopy.str s

@[simp] theorem normalizeCount_nat (n : ℕ) : normalizeCount (.int n) = .ok n := by
  by_cases hn : n = 0
  · subst hn
    rfl
  · have htruthy : (Value.int n).truthy = true := by simp [Value.truthy, hn]
    rw [normalizeCount, orElse_of_truthy htruthy]
    rfl

/-- The usage of a copy. -/
theorem exists_normalizeUsage (hcopy : Copying copy) (usage : Usage) :
    ∃ usage', normalizeUsage (copy usage.toValue) = .ok usage' ∧ usage'.executionCount = usage.executionCount ∧
      usage'.successCount = usage.successCount ∧ usage'.failureCount = usage.failureCount ∧
      usage'.denialCount = usage.denialCount := by
  have hdistinct : Assoc.Distinct [("execution_count", Value.int usage.executionCount),
      ("success_count", .int usage.successCount), ("failure_count", .int usage.failureCount),
      ("denial_count", .int usage.denialCount), ("last_used_at", usage.lastUsedAt),
      ("last_denial_reason", usage.lastDenialReason), ("last_denied_at", usage.lastDeniedAt),
      ("last_failure_reason", usage.lastFailureReason), ("last_failure_at", usage.lastFailureAt),
      ("last_execution_status", usage.lastExecutionStatus)] := by
    simp [Assoc.Distinct, Assoc.keys]
  have hcount : ∀ {key : String} {n : ℕ}, (key, Value.int n) ∈ usage.toValue.asDict →
      normalizeCount ((copy usage.toValue).asDict.get key) = .ok n := by
    intro key n hmem
    rw [Usage.toValue, hcopy.get_of_mem hdistinct hmem, hcopy.int, normalizeCount_nat]
  unfold normalizeUsage
  dsimp only
  rw [hcount (by simp [Usage.toValue] : ("execution_count", Value.int usage.executionCount) ∈ _),
    hcount (by simp [Usage.toValue] : ("success_count", Value.int usage.successCount) ∈ _),
    hcount (by simp [Usage.toValue] : ("failure_count", Value.int usage.failureCount) ∈ _),
    hcount (by simp [Usage.toValue] : ("denial_count", Value.int usage.denialCount) ∈ _)]
  exact ⟨_, rfl, rfl, rfl, rfl, rfl⟩

theorem normalizePromptRoutingPolicy_copy (hcopy : Copying copy) (mode : Option RoutingMode) :
    normalizePromptRoutingPolicy (copy (routingPolicyValue mode)) = .ok mode := by
  rcases mode with _ | mode
  · rw [routingPolicyValue, hcopy.null]
    rfl
  · have hmode : (copy (routingPolicyValue (some mode))).asDict.get "mode" = .str mode.text :=
      (hcopy.get_of_mem (by simp [Assoc.Distinct, Assoc.keys]) (by simp)).trans (hcopy.str _)
    have hstored : (routingPolicyValue (some mode)).asDict.get "mode" = .str mode.text := rfl
    have hsame : normalizePromptRoutingPolicy (copy (routingPolicyValue (some mode))) =
        normalizePromptRoutingPolicy (routingPolicyValue (some mode)) := by
      rw [normalizePromptRoutingPolicy, normalizePromptRoutingPolicy, hmode, hstored]
    exact hsame.trans (normalizePromptRoutingPolicy_toValue (some mode))

theorem copy_textList (hcopy : Copying copy) (texts : List String) : copy (textList texts) = textList texts := by
  rw [textList, hcopy.list, List.map_map]
  exact congrArg Value.list (List.map_congr_left fun t _ => hcopy.str t)

theorem normalizePromptCapabilityRequirements_copy (hcopy : Copying copy) {features : List String}
    (h : CleanList features) :
    normalizePromptCapabilityRequirements (copy (capabilityRequirementsValue features)) = features := by
  have hsame : normalizePromptCapabilityRequirements (copy (capabilityRequirementsValue features)) =
      normalizePromptCapabilityRequirements (capabilityRequirementsValue features) := by
    unfold capabilityRequirementsValue
    split
    · rw [hcopy.null]
    · have hfeatures : (copy (.dict [("required_features", textList features)])).asDict.get "required_features" =
          textList features :=
        (hcopy.get_of_mem (by simp [Assoc.Distinct, Assoc.keys]) (by simp)).trans (copy_textList hcopy _)
      have hstored : (Value.dict [("required_features", textList features)]).asDict.get "required_features" =
          textList features := rfl
      rw [normalizePromptCapabilityRequirements, normalizePromptCapabilityRequirements, hfeatures, hstored]
  exact hsame.trans (normalizePromptCapabilityRequirements_toValue h)

theorem normalizePromptImageTemplate_copy (hcopy : Copying copy) {reference : Option ImageTemplateReference}
    (h : ∀ r ∈ reference, r.Normal) :
    normalizePromptImageTemplate (copy (reference.elim .null ImageTemplateReference.toValue)) = .ok reference := by
  rcases reference with _ | reference
  · rw [Option.elim_none, hcopy.null]
    rfl
  · have hnormal := h reference rfl
    have hdistinct : Assoc.Distinct [("template_id", Value.str reference.templateId),
        ("template_version", optStr reference.templateVersion),
        ("template_runtime", optStr (reference.templateRuntime.map TemplateRuntime.text)),
        ("allowed_parameter_overrides", textList reference.allowedParameterOverrides)] := by
      simp [Assoc.Distinct, Assoc.keys]
    have hget : ∀ {key : String} {v : Value}, (key, v) ∈ reference.toValue.asDict → copy v = v →
        (copy reference.toValue).asDict.get key = v := fun hmem hv => (hcopy.get_of_mem hdistinct hmem).trans hv
    have hid : (copy reference.toValue).asDict.get "template_id" = .str reference.templateId :=
      hget (by simp [ImageTemplateReference.toValue]) (hcopy.str _)
    have hversion : (copy reference.toValue).asDict.get "template_version" = optStr reference.templateVersion :=
      hget (by simp [ImageTemplateReference.toValue]) (copy_optStr hcopy _)
    have hruntime : (copy reference.toValue).asDict.get "template_runtime" =
        optStr (reference.templateRuntime.map TemplateRuntime.text) :=
      hget (by simp [ImageTemplateReference.toValue]) (copy_optStr hcopy _)
    have hoverrides : (copy reference.toValue).asDict.get "allowed_parameter_overrides" =
        textList reference.allowedParameterOverrides :=
      hget (by simp [ImageTemplateReference.toValue]) (copy_textList hcopy _)
    rw [Option.elim_some, normalizePromptImageTemplate, hid, optionalString_str hnormal.templateId]
    dsimp only
    rw [hruntime, normalizeTemplateRuntime_text, hversion, optionalString_optStr hnormal.templateVersion, hoverrides,
      hnormal.overrides.read]
    rfl

/-- **The constraints** of a copy. -/
theorem normalizePromptConstraints_copy (hcopy : Copying copy) {constraints : PromptConstraints}
    (h : constraints.Normal) : normalizePromptConstraints (copy constraints.toValue) = .ok constraints := by
  have hdistinct : Assoc.Distinct [("max_timeout_s", constraints.maxTimeoutS.elim .null .int),
      ("structured_output_required", .bool constraints.structuredOutputRequired),
      ("allowed_model_overrides", textList constraints.allowedModelOverrides),
      ("routing_policy", routingPolicyValue constraints.routingPolicy),
      ("importance", .dict [("level", .str constraints.importance.text)]),
      ("capability_requirements", capabilityRequirementsValue constraints.capabilityRequirements),
      ("image_template", constraints.imageTemplate.elim .null ImageTemplateReference.toValue)] := by
    simp [Assoc.Distinct, Assoc.keys]
  have hget : ∀ {key : String} {v : Value}, (key, v) ∈ constraints.toValue.asDict →
      (copy constraints.toValue).asDict.get key = copy v := fun hmem => hcopy.get_of_mem hdistinct hmem
  have hseconds : (copy constraints.toValue).asDict.get "max_timeout_s" = constraints.maxTimeoutS.elim .null .int := by
    rw [hget (by simp [PromptConstraints.toValue] : ("max_timeout_s", constraints.maxTimeoutS.elim .null .int) ∈ _)]
    rcases constraints.maxTimeoutS with _ | seconds
    · exact hcopy.null
    · exact hcopy.int seconds
  have hstructured : (copy constraints.toValue).asDict.get "structured_output_required" =
      .bool constraints.structuredOutputRequired :=
    (hget (by simp [PromptConstraints.toValue])).trans (hcopy.bool _)
  have hmodels : (copy constraints.toValue).asDict.get "allowed_model_overrides" =
      textList constraints.allowedModelOverrides :=
    (hget (by simp [PromptConstraints.toValue])).trans (copy_textList hcopy _)
  have hlevel : (copy (.dict [("level", .str constraints.importance.text)])).asDict.get "level" =
      .str constraints.importance.text :=
    (hcopy.get_of_mem (by simp [Assoc.Distinct, Assoc.keys]) (by simp)).trans (hcopy.str _)
  have himportance : normalizePromptImportancePolicy
      (copy (.dict [("level", .str constraints.importance.text)])) = .ok constraints.importance := by
    have hstored : (Value.dict [("level", .str constraints.importance.text)]).asDict.get "level" =
        .str constraints.importance.text := rfl
    have hsame : normalizePromptImportancePolicy (copy (.dict [("level", .str constraints.importance.text)])) =
        normalizePromptImportancePolicy (.dict [("level", .str constraints.importance.text)]) := by
      rw [normalizePromptImportancePolicy, normalizePromptImportancePolicy, hlevel, hstored]
    exact hsame.trans (normalizePromptImportancePolicy_toValue constraints.importance)
  unfold normalizePromptConstraints
  dsimp only
  rw [hseconds, hstructured, hmodels,
    hget (by simp [PromptConstraints.toValue] : ("routing_policy", routingPolicyValue constraints.routingPolicy) ∈ _),
    hget (by simp [PromptConstraints.toValue] :
      ("importance", Value.dict [("level", .str constraints.importance.text)]) ∈ _),
    hget (by simp [PromptConstraints.toValue] :
      ("capability_requirements", capabilityRequirementsValue constraints.capabilityRequirements) ∈ _),
    hget (by simp [PromptConstraints.toValue] :
      ("image_template", constraints.imageTemplate.elim .null ImageTemplateReference.toValue) ∈ _),
    normalizeMaxTimeoutS_toValue h.maxTimeoutS, normalizePromptRoutingPolicy_copy hcopy, himportance,
    normalizePromptImageTemplate_copy hcopy h.imageTemplate,
    normalizePromptCapabilityRequirements_copy hcopy h.requirements,
    h.modelOverrides.read]
  rfl

theorem clean_of_mem_optionalString {value : Value} : ∀ s ∈ optionalString value, Clean s :=
  fun _ hs => clean_of_optionalString (Option.mem_def.mp hs)

/-- What is accepted as constraints is normal. -/
theorem normal_of_normalizePromptConstraints {value : Value} {constraints : PromptConstraints}
    (h : normalizePromptConstraints value = .ok constraints) : constraints.Normal := by
  obtain ⟨maxTimeoutS, hseconds, h⟩ := bind_eq_ok.mp h
  obtain ⟨routingPolicy, -, h⟩ := bind_eq_ok.mp h
  obtain ⟨importance, -, h⟩ := bind_eq_ok.mp h
  obtain ⟨imageTemplate, hreference, h⟩ := bind_eq_ok.mp h
  obtain rfl := Except.ok.inj h
  refine ⟨?_, cleanList_normalizeStringList _, cleanList_normalizeStringList _, ?_⟩
  · rintro seconds rfl
    unfold normalizeMaxTimeoutS at hseconds
    split at hseconds
    · cases hseconds
    · obtain ⟨n, -, hn⟩ := bind_eq_ok.mp hseconds
      obtain rfl := Option.some.inj (Except.ok.inj hn)
      exact le_max_right n 1
  · rintro reference rfl
    unfold normalizePromptImageTemplate at hreference
    dsimp only at hreference
    split at hreference
    · cases hreference
    · next templateId hid =>
      obtain ⟨runtime, -, hreference⟩ := bind_eq_ok.mp hreference
      obtain rfl := Option.some.inj (Except.ok.inj hreference)
      constructor <;> dsimp only
      · exact clean_of_optionalString hid
      · exact clean_of_mem_optionalString
      · exact cleanList_normalizeStringList _

/-- The preferences of a copy: each name once. -/
theorem normalizeProviderPreferences_copy (hcopy : Copying copy) {preferences : ProviderPreferences}
    (h : preferences.Normal) : normalizeProviderPreferences (copy preferences.toValue) = preferences.settle := by
  have hdistinct : Assoc.Distinct [("preferred_providers", textList preferences.preferredProviders),
      ("preferred_models", textList preferences.preferredModels),
      ("default_provider", optStr preferences.defaultProvider),
      ("default_model", optStr preferences.defaultModel)] := by
    simp [Assoc.Distinct, Assoc.keys]
  have hget : ∀ {key : String} {v : Value}, (key, v) ∈ preferences.toValue.asDict → copy v = v →
      (copy preferences.toValue).asDict.get key = preferences.toValue.asDict.get key := by
    intro key v hmem hv
    rw [ProviderPreferences.toValue, Value.asDict_dict] at hmem ⊢
    rw [hcopy.get_of_mem hdistinct hmem, hv, Dict.get, Assoc.get?_of_mem hdistinct hmem, Option.getD_some]
  have hproviders : (copy preferences.toValue).asDict.get "preferred_providers" =
      preferences.toValue.asDict.get "preferred_providers" :=
    hget (by simp [ProviderPreferences.toValue]) (copy_textList hcopy preferences.preferredProviders)
  have hmodels : (copy preferences.toValue).asDict.get "preferred_models" =
      preferences.toValue.asDict.get "preferred_models" :=
    hget (by simp [ProviderPreferences.toValue]) (copy_textList hcopy preferences.preferredModels)
  have hprovider : (copy preferences.toValue).asDict.get "default_provider" =
      preferences.toValue.asDict.get "default_provider" :=
    hget (by simp [ProviderPreferences.toValue]) (copy_optStr hcopy preferences.defaultProvider)
  have hmodel : (copy preferences.toValue).asDict.get "default_model" = preferences.toValue.asDict.get "default_model" :=
    hget (by simp [ProviderPreferences.toValue]) (copy_optStr hcopy preferences.defaultModel)
  rw [← normalizeProviderPreferences_toValue h, normalizeProviderPreferences, normalizeProviderPreferences, hproviders,
    hmodels, hprovider, hmodel]

/-- The policy of a copy. -/
theorem normalizeExecutionPolicy_copy (hcopy : Copying copy) (policy : ExecutionPolicy) :
    normalizeExecutionPolicy (copy policy.toValue) = policy := by
  have hdistinct : Assoc.Distinct [("allow_direct_execution", Value.bool policy.allowDirectExecution),
      ("allow_version_pinning", .bool policy.allowVersionPinning)] := by
    simp [Assoc.Distinct, Assoc.keys]
  have hget : ∀ {key : String} {b : Bool}, (key, Value.bool b) ∈ policy.toValue.asDict →
      getOr (copy policy.toValue).asDict key (.bool true) = .bool b := by
    intro key b hmem
    rw [getOr, ExecutionPolicy.toValue, hcopy.get? hdistinct, Assoc.get?_of_mem hdistinct hmem, Option.map_some,
      hcopy.bool, Option.getD_some]
  rw [normalizeExecutionPolicy,
    hget (by simp [ExecutionPolicy.toValue] : ("allow_direct_execution", Value.bool policy.allowDirectExecution) ∈ _),
    hget (by simp [ExecutionPolicy.toValue] : ("allow_version_pinning", Value.bool policy.allowVersionPinning) ∈ _)]
  rfl

/-! ## The normaliser of a record -/

section Fields

variable {d : Dict}

/-- What `_normalize_entry` takes from the document. -/
structure ReadFrom (now : Timestamp) (d : Dict) (entry : PromptEntry) : Prop where
  promptId : entry.promptId = (d.get "prompt_id").normalizeString
  promptName : entry.promptName = textOr (d.get "prompt_name") entry.promptId
  serviceId : entry.serviceId = (d.get "service_id").normalizeString
  ownerService : entry.ownerService = textOr (d.get "owner_service") entry.serviceId
  ownerClientId : entry.ownerClientId = optionalString (d.get "owner_client_id")
  taskFamily : entry.taskFamily = (d.get "task_family").normalizeString
  status : normalizePromptLifecycleState ((d.get "status").orElse (.str "active")) = .ok entry.status
  privacyClass : normalizePromptPrivacyClass ((d.get "privacy_class").orElse (.str "internal")) = .ok entry.privacyClass
  accessScope : normalizePromptAccessScope ((d.get "access_scope").orElse (.str "service")) = .ok entry.accessScope
  allowedServices : entry.allowedServices = (d.get "allowed_services").normalizeStringList
  allowedClients : entry.allowedClients = (d.get "allowed_clients").normalizeStringList
  allowedCustomers : entry.allowedCustomers = (d.get "allowed_customers").normalizeStringList
  executionPolicy : entry.executionPolicy = normalizeExecutionPolicy (d.get "execution_policy")
  preferences : entry.providerPreferences = normalizeProviderPreferences (d.get "provider_preferences")
  constraints : normalizePromptConstraints (d.get "constraints") = .ok entry.constraints
  metadata : entry.metadata = (d.get "metadata").asDict
  versions : normalizeVersions now d (d.get "metadata").asDict = .ok entry.versions
  currentVersion : normalizeCurrentVersion (d.get "current_version") entry.versions = .ok entry.currentVersion
  lifecycleHistory : ∃ updatedAt, entry.lifecycleHistory =
    normalizeHistory (d.get "lifecycle_history") entry.status updatedAt
  usage : normalizeUsage (d.get "usage") = .ok entry.usage
  extra : entry.extra = unknownKeys d

theorem readFrom_of_normalizeFields (h : normalizeFields now d = .ok entry) : ReadFrom now d entry := by
  unfold normalizeFields at h
  dsimp only at h
  split at h
  · cases h
  · obtain ⟨accessPolicy, hpolicy, h⟩ := bind_eq_ok.mp h
    obtain ⟨scope, hscope, hpolicy⟩ := bind_eq_ok.mp hpolicy
    obtain rfl := Except.ok.inj hpolicy
    obtain ⟨status, hstatus, h⟩ := bind_eq_ok.mp h
    obtain ⟨privacyClass, hprivacy, h⟩ := bind_eq_ok.mp h
    obtain ⟨constraints, hconstraints, h⟩ := bind_eq_ok.mp h
    obtain ⟨versions, hversions, h⟩ := bind_eq_ok.mp h
    obtain ⟨currentVersion, hcurrent, h⟩ := bind_eq_ok.mp h
    obtain ⟨usage, husage, h⟩ := bind_eq_ok.mp h
    obtain rfl := Except.ok.inj h
    constructor <;> dsimp only
    · exact hstatus
    · exact hprivacy
    · exact hscope
    · exact hconstraints
    · exact hversions
    · exact hcurrent
    · exact ⟨_, rfl⟩
    · exact husage

/-- The record is accepted if its parts are. -/
theorem exists_normalizeFields (now : Timestamp) {policy : AccessPolicy} {status : LifecycleState}
    {privacyClass : PrivacyClass} {constraints : PromptConstraints} {versions : List PromptVersion} {current : String} {usage : Usage}
    (hpromptId : (d.get "prompt_id").normalizeString ≠ "") (hserviceId : (d.get "service_id").normalizeString ≠ "")
    (htaskFamily : (d.get "task_family").normalizeString ≠ "")
    (hpolicy : normalizePromptAccessPolicy ((d.get "access_scope").orElse (.str "service")) (d.get "owner_client_id")
      (d.get "allowed_services") (d.get "allowed_clients") (d.get "allowed_customers") = .ok policy)
    (hstatus : normalizePromptLifecycleState ((d.get "status").orElse (.str "active")) = .ok status)
    (hprivacy : normalizePromptPrivacyClass ((d.get "privacy_class").orElse (.str "internal")) = .ok privacyClass)
    (hconstraints : normalizePromptConstraints (d.get "constraints") = .ok constraints)
    (hversions : normalizeVersions now d (d.get "metadata").asDict = .ok versions)
    (hcurrent : normalizeCurrentVersion (d.get "current_version") versions = .ok current)
    (husage : normalizeUsage (d.get "usage") = .ok usage) : ∃ entry', normalizeFields now d = .ok entry' := by
  unfold normalizeFields
  dsimp only
  rw [if_neg (by simp [hpromptId, hserviceId, htaskFamily]), hpolicy, hstatus, hprivacy, hconstraints, hversions]
  simp only [bind, Except.bind, hcurrent, husage]
  exact ⟨_, rfl⟩

end Fields

/-! ## Sound records -/

/-- A record that the registry can hold. -/
structure PromptEntry.Sound (entry : PromptEntry) : Prop where
  promptId : Clean entry.promptId
  promptName : Clean entry.promptName
  serviceId : Clean entry.serviceId
  ownerService : Clean entry.ownerService
  ownerClientId : ∀ owner ∈ entry.ownerClientId, Clean owner
  taskFamily : Clean entry.taskFamily
  allowedServices : CleanList entry.allowedServices
  allowedClients : CleanList entry.allowedClients
  allowedCustomers : CleanList entry.allowedCustomers
  preferences : entry.providerPreferences.Normal
  constraints : entry.constraints.Normal
  versions_ne_nil : entry.versions ≠ []
  versions : ∀ version ∈ entry.versions, version.Sound
  distinct : (entry.versions.map PromptVersion.version).Nodup
  currentVersion : entry.currentVersion ∈ entry.versions.map PromptVersion.version
  lifecycle : ∃ event, entry.lifecycleHistory.getLast? = some (.dict event) ∧ Assoc.Distinct event ∧
    Dict.get event "state" = .str entry.status.text
  counts : entry.usage.executionCount = entry.usage.successCount + entry.usage.failureCount
  extra : entry.extra = []

/-- Two records say the same, up to the order of keys and to preferred names that are repeated. -/
structure PromptEntry.Same (e e' : PromptEntry) : Prop where
  promptId : e'.promptId = e.promptId
  promptName : e'.promptName = e.promptName
  serviceId : e'.serviceId = e.serviceId
  ownerService : e'.ownerService = e.ownerService
  ownerClientId : e'.ownerClientId = e.ownerClientId
  taskFamily : e'.taskFamily = e.taskFamily
  status : e'.status = e.status
  privacyClass : e'.privacyClass = e.privacyClass
  accessScope : e'.accessScope = e.accessScope
  allowedServices : e'.allowedServices = e.allowedServices
  allowedClients : e'.allowedClients = e.allowedClients
  allowedCustomers : e'.allowedCustomers = e.allowedCustomers
  executionPolicy : e'.executionPolicy = e.executionPolicy
  preferences : e'.providerPreferences.settle = e.providerPreferences.settle
  constraints : e'.constraints = e.constraints
  metadata : (Value.dict e'.metadata).sortKeys = (Value.dict e.metadata).sortKeys
  currentVersion : e'.currentVersion = e.currentVersion
  versions : List.Forall₂ PromptVersion.Same e.versions e'.versions
  executionCount : e'.usage.executionCount = e.usage.executionCount
  successCount : e'.usage.successCount = e.usage.successCount
  failureCount : e'.usage.failureCount = e.usage.failureCount
  denialCount : e'.usage.denialCount = e.usage.denialCount

theorem PromptEntry.Same.refl (e : PromptEntry) : e.Same e := by
  constructor <;> first | rfl | exact List.forall₂_same.mpr fun v _ => PromptVersion.Same.refl v

theorem PromptEntry.Same.trans {e e' e'' : PromptEntry} (h : e.Same e') (h' : e'.Same e'') : e.Same e'' where
  promptId := h'.promptId.trans h.promptId
  promptName := h'.promptName.trans h.promptName
  serviceId := h'.serviceId.trans h.serviceId
  ownerService := h'.ownerService.trans h.ownerService
  ownerClientId := h'.ownerClientId.trans h.ownerClientId
  taskFamily := h'.taskFamily.trans h.taskFamily
  status := h'.status.trans h.status
  privacyClass := h'.privacyClass.trans h.privacyClass
  accessScope := h'.accessScope.trans h.accessScope
  allowedServices := h'.allowedServices.trans h.allowedServices
  allowedClients := h'.allowedClients.trans h.allowedClients
  allowedCustomers := h'.allowedCustomers.trans h.allowedCustomers
  executionPolicy := h'.executionPolicy.trans h.executionPolicy
  preferences := h'.preferences.trans h.preferences
  constraints := h'.constraints.trans h.constraints
  metadata := h'.metadata.trans h.metadata
  currentVersion := h'.currentVersion.trans h.currentVersion
  versions := Pointwise.trans h.versions h'.versions fun _ _ _ => PromptVersion.Same.trans
  executionCount := h'.executionCount.trans h.executionCount
  successCount := h'.successCount.trans h.successCount
  failureCount := h'.failureCount.trans h.failureCount
  denialCount := h'.denialCount.trans h.denialCount

/-- The versions of a record are still there. -/
structure PromptEntry.Keeps (e e' : PromptEntry) : Prop where
  promptId : e'.promptId = e.promptId
  versions : ∀ u ∈ e.versions, ∃ v ∈ e'.versions, u.Same v

theorem PromptEntry.Keeps.refl (e : PromptEntry) : e.Keeps e :=
  ⟨rfl, fun u hu => ⟨u, hu, PromptVersion.Same.refl u⟩⟩

theorem PromptEntry.Keeps.trans {e e' e'' : PromptEntry} (h : e.Keeps e') (h' : e'.Keeps e'') : e.Keeps e'' := by
  refine ⟨h'.promptId.trans h.promptId, fun u hu => ?_⟩
  obtain ⟨v, hv, huv⟩ := h.versions u hu
  obtain ⟨w, hw, hvw⟩ := h'.versions v hv
  exact ⟨w, hw, huv.trans hvw⟩

theorem PromptEntry.Same.keeps {e e' : PromptEntry} (h : e.Same e') : e.Keeps e' :=
  ⟨h.promptId, fun _ hu => Pointwise.exists_of_mem h.versions hu⟩

/-- The last event of a copied history. -/
theorem lifecycle_copy (hcopy : Copying copy) {history : List Value} {state : LifecycleState}
    (h : ∃ event, history.getLast? = some (.dict event) ∧ Assoc.Distinct event ∧
      Dict.get event "state" = .str state.text) (status : LifecycleState) (updatedAt : String) :
    ∃ event, (normalizeHistory (.list (history.map copy)) status updatedAt).getLast? = some (.dict event) ∧
      Assoc.Distinct event ∧ Dict.get event "state" = .str state.text := by
  obtain ⟨event, hlast, hdistinct, hstate⟩ := h
  have hkept : normalizeHistory (.list (history.map copy)) status updatedAt = history.map copy := by
    cases history with
    | nil => cases hlast
    | cons first rest => rfl
  refine ⟨(copy (.dict event)).asDict, ?_, hcopy.distinct hdistinct, ?_⟩
  · rw [hkept, List.getLast?_map, hlast, Option.map_some, ← hcopy.dict_eq]
  · rw [hcopy.get hdistinct, hstate, hcopy.str]

section Copies

variable (hcopy : Copying copy) (h : entry.Sound)
include hcopy h

/-- A field of a copied record. -/
theorem get_copy_entry {key : String} {v : Value} (hmem : (key, v) ∈ entry.fields) :
    (copy entry.toValue).asDict.get key = copy v := by
  have hvalue : entry.toValue = .dict entry.fields := by rw [PromptEntry.toValue, h.extra, List.append_nil]
  rw [hvalue, hcopy.get_of_mem (distinct_fields entry) hmem]

theorem keys_copy_entry {key : String} (hmem : key ∈ Assoc.keys (copy entry.toValue).asDict) : key ∈ entryKeys := by
  have hvalue : entry.toValue = .dict entry.fields := by rw [PromptEntry.toValue, h.extra, List.append_nil]
  rw [hvalue, hcopy.mem_keys (distinct_fields entry)] at hmem
  exact hmem

/-- The versions are read back. -/
theorem exists_normalizeVersions_copy (now : Timestamp) (metadata : Dict) :
    ∃ versions', normalizeVersions now (copy entry.toValue).asDict metadata = .ok versions' ∧
      (∀ version ∈ versions', version.Sound) ∧ List.Forall₂ PromptVersion.Same entry.versions versions' := by
  have hget : (copy entry.toValue).asDict.get "versions" =
      .list ((entry.versions.map PromptVersion.toValue).map copy) := by
    rw [get_copy_entry hcopy h (by simp [PromptEntry.fields] :
      ("versions", .list (entry.versions.map PromptVersion.toValue)) ∈ entry.fields), hcopy.list]
  have hdistinct : ((([] : List PromptVersion) ++ entry.versions).map PromptVersion.version).Nodup := h.distinct
  obtain ⟨versions', hok, hsound, hsame⟩ :=
    exists_normalizeVersionList now hcopy (copy entry.toValue).asDict h.versions hdistinct
  refine ⟨versions', ?_, hsound, hsame⟩
  have hne := h.versions_ne_nil
  unfold normalizeVersions
  rw [hget]
  cases hversions : entry.versions with
  | nil => exact absurd hversions hne
  | cons version versions =>
    rw [hversions] at hok
    exact hok

/-- The current version is read back. -/
theorem normalizeCurrentVersion_copy (versions : List PromptVersion) :
    normalizeCurrentVersion ((copy entry.toValue).asDict.get "current_version") versions =
      .ok entry.currentVersion := by
  have hget : (copy entry.toValue).asDict.get "current_version" = .str entry.currentVersion :=
    (get_copy_entry hcopy h (by simp [PromptEntry.fields])).trans (hcopy.str _)
  obtain ⟨current, hmem, heq⟩ := List.mem_map.mp h.currentVersion
  have hnormal : normalizePromptVersion (.str entry.currentVersion) true = .ok entry.currentVersion :=
    heq ▸ (h.versions current hmem).normal
  have hstrip := strip_of_normalizePromptVersion hnormal
  have hne : entry.currentVersion ≠ "" := hstrip ▸ strip_ne_empty_of_normalizePromptVersion hnormal
  rw [hget, normalizeCurrentVersion, Value.normalizeString_str, hstrip, if_pos hne, hnormal]

/-- A record of the registry is not one of the first schema. -/
theorem normalizeEntry_of_normalizeFields (hfields : normalizeFields now (copy entry.toValue).asDict = .ok entry') :
    normalizeEntry now (copy entry.toValue) = .ok entry' := by
  have hnone : Assoc.get? (copy entry.toValue).asDict "schema_version" = none := by
    rw [Assoc.get?_eq_none_iff]
    intro hmem
    have hkey := keys_copy_entry hcopy h hmem
    simp [entryKeys] at hkey
  have hversion : (copy entry.toValue).asDict.get "schema_version" = .null := by rw [Dict.get, hnone, Option.getD_none]
  have hfirst : isFirstSchema (copy entry.toValue).asDict = false := by
    rw [isFirstSchema, hversion, Value.normalizeString_null]
    rfl
  have hdict : copy entry.toValue = .dict (copy entry.toValue).asDict := hcopy.dict_eq _
  rw [hdict, normalizeEntry, migratedEntry, hfirst, if_neg Bool.false_ne_true]
  exact bind_eq_ok.mpr ⟨_, rfl, hfields⟩

/-- **A record that is normalised**, also after it was written and read, is sound and says the same. -/
theorem exists_normalizeEntry (now : Timestamp) : ∃ entry', normalizeEntry now (copy entry.toValue) = .ok entry' ∧
    entry'.Sound ∧ entry.Same entry' := by
  have hget : ∀ {key : String} {v : Value}, (key, v) ∈ entry.fields →
      (copy entry.toValue).asDict.get key = copy v := fun hmem => get_copy_entry hcopy h hmem
  have htext : ∀ {key s : String}, (key, Value.str s) ∈ entry.fields → (copy entry.toValue).asDict.get key = .str s :=
    fun hmem => (hget hmem).trans (hcopy.str _)
  have hlist : ∀ {key : String} {texts : List String}, (key, textList texts) ∈ entry.fields →
      (copy entry.toValue).asDict.get key = textList texts := fun hmem => (hget hmem).trans (copy_textList hcopy _)
  have hclean : ∀ {s : String}, Clean s → (Value.str s).normalizeString = s := fun hs => by
    rw [Value.normalizeString_str, hs.strip_eq]
  have hpromptId : ((copy entry.toValue).asDict.get "prompt_id").normalizeString = entry.promptId := by
    rw [htext (by simp [PromptEntry.fields] : ("prompt_id", Value.str entry.promptId) ∈ _), hclean h.promptId]
  have hserviceId : ((copy entry.toValue).asDict.get "service_id").normalizeString = entry.serviceId := by
    rw [htext (by simp [PromptEntry.fields] : ("service_id", Value.str entry.serviceId) ∈ _), hclean h.serviceId]
  have htaskFamily : ((copy entry.toValue).asDict.get "task_family").normalizeString = entry.taskFamily := by
    rw [htext (by simp [PromptEntry.fields] : ("task_family", Value.str entry.taskFamily) ∈ _), hclean h.taskFamily]
  have hstatus : normalizePromptLifecycleState (((copy entry.toValue).asDict.get "status").orElse (.str "active")) =
      .ok entry.status := by
    rw [htext (by simp [PromptEntry.fields] : ("status", Value.str entry.status.text) ∈ _),
      orElse_str (LifecycleState.text_ne_empty _), normalizePromptLifecycleState_text]
  have hprivacy : normalizePromptPrivacyClass
      (((copy entry.toValue).asDict.get "privacy_class").orElse (.str "internal")) = .ok entry.privacyClass := by
    rw [htext (by simp [PromptEntry.fields] : ("privacy_class", Value.str entry.privacyClass.text) ∈ _),
      orElse_str (PrivacyClass.text_ne_empty _), normalizePromptPrivacyClass_text]
  have hscope : normalizePromptAccessScope (((copy entry.toValue).asDict.get "access_scope").orElse (.str "service")) =
      .ok entry.accessScope := by
    rw [htext (by simp [PromptEntry.fields] : ("access_scope", Value.str entry.accessScope.text) ∈ _),
      orElse_str (AccessScope.text_ne_empty _), normalizePromptAccessScope_text]
  have hconstraints : normalizePromptConstraints ((copy entry.toValue).asDict.get "constraints") =
      .ok entry.constraints := by
    rw [hget (by simp [PromptEntry.fields] : ("constraints", entry.constraints.toValue) ∈ _),
      normalizePromptConstraints_copy hcopy h.constraints]
  obtain ⟨versions, hversions, hsounds, hsames⟩ :=
    exists_normalizeVersions_copy hcopy h now ((copy entry.toValue).asDict.get "metadata").asDict
  have hcurrent := normalizeCurrentVersion_copy hcopy h versions
  obtain ⟨usage, husage, hexecutions, hsuccesses, hfailures, hdenials⟩ := exists_normalizeUsage hcopy entry.usage
  have husageOk : normalizeUsage ((copy entry.toValue).asDict.get "usage") = .ok usage := by
    rw [hget (by simp [PromptEntry.fields] : ("usage", entry.usage.toValue) ∈ _), husage]
  have hpolicy : ∀ owner services clients customers, ∃ policy, normalizePromptAccessPolicy
      (((copy entry.toValue).asDict.get "access_scope").orElse (.str "service")) owner services clients customers =
        .ok policy := by
    intro owner services clients customers
    rw [normalizePromptAccessPolicy, hscope]
    exact ⟨_, rfl⟩
  obtain ⟨policy, hpolicyOk⟩ := hpolicy _ _ _ _
  obtain ⟨entry', hentry'⟩ := exists_normalizeFields now (hpromptId ▸ h.promptId.ne_empty)
    (hserviceId ▸ h.serviceId.ne_empty) (htaskFamily ▸ h.taskFamily.ne_empty) hpolicyOk hstatus hprivacy hconstraints
    hversions hcurrent husageOk
  have hread := readFrom_of_normalizeFields hentry'
  have hid : entry'.promptId = entry.promptId := hread.promptId.trans hpromptId
  have hname : entry'.promptName = entry.promptName := by
    rw [hread.promptName, htext (by simp [PromptEntry.fields] : ("prompt_name", Value.str entry.promptName) ∈ _),
      textOr_str h.promptName]
  have hservice : entry'.serviceId = entry.serviceId := hread.serviceId.trans hserviceId
  have howner : entry'.ownerService = entry.ownerService := by
    rw [hread.ownerService, htext (by simp [PromptEntry.fields] : ("owner_service", Value.str entry.ownerService) ∈ _),
      textOr_str h.ownerService]
  have hclient : entry'.ownerClientId = entry.ownerClientId := by
    rw [hread.ownerClientId, hget (by simp [PromptEntry.fields] : ("owner_client_id", optStr entry.ownerClientId) ∈ _),
      copy_optStr hcopy, optionalString_optStr h.ownerClientId]
  have htask : entry'.taskFamily = entry.taskFamily := hread.taskFamily.trans htaskFamily
  have hservices : entry'.allowedServices = entry.allowedServices := by
    rw [hread.allowedServices,
      hlist (by simp [PromptEntry.fields] : ("allowed_services", textList entry.allowedServices) ∈ _),
      h.allowedServices.read]
  have hclients : entry'.allowedClients = entry.allowedClients := by
    rw [hread.allowedClients,
      hlist (by simp [PromptEntry.fields] : ("allowed_clients", textList entry.allowedClients) ∈ _),
      h.allowedClients.read]
  have hcustomers : entry'.allowedCustomers = entry.allowedCustomers := by
    rw [hread.allowedCustomers,
      hlist (by simp [PromptEntry.fields] : ("allowed_customers", textList entry.allowedCustomers) ∈ _),
      h.allowedCustomers.read]
  have hpolicyEq : entry'.executionPolicy = entry.executionPolicy := by
    rw [hread.executionPolicy, hget (by simp [PromptEntry.fields] :
      ("execution_policy", entry.executionPolicy.toValue) ∈ _), normalizeExecutionPolicy_copy hcopy]
  have hpreferences : entry'.providerPreferences = entry.providerPreferences.settle := by
    rw [hread.preferences, hget (by simp [PromptEntry.fields] :
      ("provider_preferences", entry.providerPreferences.toValue) ∈ _),
      normalizeProviderPreferences_copy hcopy h.preferences]
  have hmetadata : (Value.dict entry'.metadata).sortKeys = (Value.dict entry.metadata).sortKeys := by
    rw [hread.metadata, hget (by simp [PromptEntry.fields] : ("metadata", Value.dict entry.metadata) ∈ _),
      ← hcopy.dict_eq, hcopy.sortKeys]
  have hstatusEq := Except.ok.inj (hread.status.symm.trans hstatus)
  have hconstraintsEq := Except.ok.inj (hread.constraints.symm.trans hconstraints)
  have hversionsEq := Except.ok.inj (hread.versions.symm.trans hversions)
  have hcurrentEq := Except.ok.inj (hread.currentVersion.symm.trans (normalizeCurrentVersion_copy hcopy h _))
  have husageEq := Except.ok.inj (hread.usage.symm.trans husageOk)
  have hnames := Pointwise.map_eq_map hsames fun u v huv => huv.version.symm
  obtain ⟨updatedAt, hhistory⟩ := hread.lifecycleHistory
  refine ⟨entry', normalizeEntry_of_normalizeFields hcopy h hentry', ?_, ?_⟩
  · exact
      { promptId := hid ▸ h.promptId
        promptName := hname ▸ h.promptName
        serviceId := hservice ▸ h.serviceId
        ownerService := howner ▸ h.ownerService
        ownerClientId := hclient ▸ h.ownerClientId
        taskFamily := htask ▸ h.taskFamily
        allowedServices := hservices ▸ h.allowedServices
        allowedClients := hclients ▸ h.allowedClients
        allowedCustomers := hcustomers ▸ h.allowedCustomers
        preferences := hpreferences ▸ h.preferences.settle
        constraints := hconstraintsEq ▸ h.constraints
        versions_ne_nil := fun hnil =>
          h.versions_ne_nil (List.map_eq_nil_iff.mp (hnames.trans (by rw [← hversionsEq, hnil, List.map_nil])))
        versions := hversionsEq ▸ hsounds
        distinct := by
          rw [hversionsEq, ← hnames]
          exact h.distinct
        currentVersion := by
          rw [hversionsEq, ← hnames, hcurrentEq]
          exact h.currentVersion
        lifecycle := by
          rw [hhistory, hget (by simp [PromptEntry.fields] : ("lifecycle_history", Value.list entry.lifecycleHistory) ∈ _),
            hcopy.list, hstatusEq]
          exact lifecycle_copy hcopy h.lifecycle _ _
        counts := by
          rw [husageEq, hexecutions, hsuccesses, hfailures]
          exact h.counts
        extra := by
          rw [hread.extra, unknownKeys, List.filter_eq_nil_iff]
          intro field hfield
          simpa using keys_copy_entry hcopy h (List.mem_map_of_mem hfield) }
  · exact
      { promptId := hid
        promptName := hname
        serviceId := hservice
        ownerService := howner
        ownerClientId := hclient
        taskFamily := htask
        status := hstatusEq
        privacyClass := Except.ok.inj (hread.privacyClass.symm.trans hprivacy)
        accessScope := Except.ok.inj (hread.accessScope.symm.trans hscope)
        allowedServices := hservices
        allowedClients := hclients
        allowedCustomers := hcustomers
        executionPolicy := hpolicyEq
        preferences := by rw [hpreferences, ProviderPreferences.settle_settle]
        constraints := hconstraintsEq
        metadata := hmetadata
        currentVersion := hcurrentEq
        versions := hversionsEq ▸ hsames
        executionCount := by rw [husageEq, hexecutions]
        successCount := by rw [husageEq, hsuccesses]
        failureCount := by rw [husageEq, hfailures]
        denialCount := by rw [husageEq, hdenials] }

end Copies

/-! ## Sound states -/

/-- The records of a state are sound, and no two have the same id. -/
structure PromptServiceState.Sound (state : PromptServiceState) : Prop where
  entries : ∀ entry ∈ state.promptServices, entry.Sound
  distinct : (state.promptServices.map PromptEntry.promptId).Nodup

theorem PromptServiceState.Sound.of_same {state state' : PromptServiceState} (h : state.Sound)
    (hsound : ∀ entry ∈ state'.promptServices, entry.Sound)
    (hsame : List.Forall₂ PromptEntry.Same state.promptServices state'.promptServices) : state'.Sound := by
  refine ⟨hsound, ?_⟩
  rw [← Pointwise.map_eq_map hsame fun e e' hee' => hee'.promptId.symm]
  exact h.distinct

theorem exists_latestReason (h : entry.Sound) : ∃ reason, latestReason entry.lifecycleHistory = .ok reason := by
  obtain ⟨event, hlast, -⟩ := h.lifecycle
  rw [latestReason, hlast]
  exact ⟨_, rfl⟩

/-- The index of the prompts on probation can be built. -/
theorem exists_probationReasons {entries : List PromptEntry} (h : ∀ entry ∈ entries, entry.Sound)
    (reasons : List (String × String)) : ∃ reasons', probationReasons reasons entries = .ok reasons' := by
  induction entries generalizing reasons with
  | nil => exact ⟨reasons, rfl⟩
  | cons entry entries ih =>
    have hrest := ih fun e he => h e (List.mem_cons_of_mem entry he)
    rw [probationReasons]
    split
    · obtain ⟨reason, hreason⟩ := exists_latestReason (h entry List.mem_cons_self)
      rw [hreason]
      exact hrest _
    · exact hrest reasons

/-- **A state that is normalised**, also after it was written and read. -/
theorem exists_normalizeState (now : Timestamp) (hcopy : Copying copy) {state : PromptServiceState}
    (h : state.Sound) : ∃ state', normalizePromptServiceState now (copy state.toValue) = .ok state' ∧ state'.Sound ∧
      List.Forall₂ PromptEntry.Same state.promptServices state'.promptServices := by
  have hdistinct : Assoc.Distinct [("schema_version", Value.str "2.0"),
      ("prompt_services", .list (state.promptServices.map PromptEntry.toValue)),
      ("probation", state.probation.toValue), ("updated_at", .str state.updatedAt)] := by
    simp [Assoc.Distinct, Assoc.keys]
  have hschema : (copy state.toValue).asDict.get "schema_version" = .str "2.0" :=
    (hcopy.get_of_mem hdistinct (by simp)).trans (hcopy.str _)
  have hservices : (copy state.toValue).asDict.get "prompt_services" =
      .list ((state.promptServices.map PromptEntry.toValue).map copy) :=
    (hcopy.get_of_mem hdistinct (by simp)).trans (hcopy.list _)
  have hversion : (Value.str "2.0").normalizeString = "2.0" := by decide
  have hentry : ∀ entry ∈ state.promptServices, ∃ entry', normalizeEntry now (copy entry.toValue) = .ok entry' ∧
      (entry'.Sound ∧ entry.Same entry') := fun entry hentry =>
    exists_normalizeEntry hcopy (h.entries entry hentry) now
  obtain ⟨entries, hok, hrelated⟩ := Pointwise.exists_mapM (f := fun entry : PromptEntry =>
    normalizeEntry now (copy entry.toValue)) hentry
  have hmap : ((state.promptServices.map PromptEntry.toValue).map copy).mapM (normalizeEntry now) = .ok entries := by
    rw [List.map_map, List.mapM_map]
    exact hok
  have hsounds : ∀ entry ∈ entries, entry.Sound := by
    intro entry' hentry'
    obtain ⟨entry, -, hsound, -⟩ := Pointwise.exists_of_mem_right hrelated hentry'
    exact hsound
  obtain ⟨reasons, hreasons⟩ := exists_probationReasons hsounds []
  have hdict : copy state.toValue = .dict (copy state.toValue).asDict := hcopy.dict_eq _
  rw [hdict, normalizePromptServiceState, hschema, hversion, if_pos (by decide), hservices]
  dsimp only
  rw [hmap]
  simp only [bind, Except.bind, rebuildProbationIndex, hreasons]
  have hsame := hrelated.imp fun _ _ hee' => hee'.2
  exact ⟨_, rfl, h.of_same hsounds hsame, hsame⟩

end Prompts
end HexeAiNode
