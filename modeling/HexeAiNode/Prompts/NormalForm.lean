import HexeAiNode.Prompts.PromptServiceState

/-!
# Records that normalising keeps

Every record that the registry stores is normalised again by the next save.  `PromptEntry.Normal` is the form
of the records that this keeps, `normalizeEntry_toValue`, except for one list: preferred providers and models
are compared before they are lower-cased, so that two spellings of one name survive until the next time.
`PromptEntry.settle` drops the second.

* `Clean`: a text that is neither blank nor has anything to strip.
* `normalizeMember_text`: the text of a member names it.
* `normalizePromptConstraints_toValue`, `normalizeVersions_toValue`, `normalizeUsage_toValue`: the parts of a
  record, read back.
* `Stores`: a dictionary that holds a record, whatever the order of its keys.
-/

namespace HexeAiNode
namespace Prompts

open Py Governance Execution

/-! ## Texts -/

/-- A text that is stored as it is given. -/
structure Clean (s : String) : Prop where
  strip_eq : strip s = s
  ne_empty : s ≠ ""

theorem optionalString_str {s : String} (h : Clean s) : optionalString (.str s) = some s := by
  simp [optionalString, h.strip_eq, h.ne_empty]

theorem optionalString_optStr {s? : Option String} (h : ∀ s ∈ s?, Clean s) :
    optionalString (optStr s?) = s? := by
  rcases s? with _ | s
  · rfl
  · exact optionalString_str (h s rfl)

theorem clean_normalizeString {value : Value} (h : value.normalizeString ≠ "") :
    Clean value.normalizeString := ⟨Value.strip_normalizeString value, h⟩

theorem clean_of_optionalString {value : Value} {s : String} (h : optionalString value = some s) : Clean s := by
  simp only [optionalString] at h
  split at h
  · cases h
  · next hne =>
    obtain rfl := Option.some.inj h
    exact clean_normalizeString hne

theorem Clean.lower {s : String} (h : Clean s) : Clean (lower s) := by
  refine ⟨?_, fun hl => h.ne_empty (lower_eq_empty_iff.mp hl)⟩
  have hstrip := strip_lower_strip s
  rwa [h.strip_eq] at hstrip

/-- A truthy value is what `or` keeps. -/
theorem orElse_of_truthy {value default : Value} (h : value.truthy = true) : value.orElse default = value := by
  rw [Value.orElse, if_pos h]

theorem orElse_str {s : String} {default : Value} (h : s ≠ "") : (Value.str s).orElse default = .str s :=
  orElse_of_truthy (Value.truthy_str.mpr h)

theorem textOr_str {s default : String} (h : Clean s) : textOr (.str s) default = s := by
  rw [textOr, orElse_str h.ne_empty, optionalString_str h]
  rfl

theorem clean_textOr {value : Value} {default : String} (h : Clean default) : Clean (textOr value default) := by
  unfold textOr
  rcases hs : optionalString (value.orElse (.str default)) with _ | s
  · exact h
  · exact clean_of_optionalString hs

/-! ## Lists of texts -/

theorem dedupNonBlank_eq {acc ts : List String} (hblank : ∀ t ∈ ts, t ≠ "") (h : (acc ++ ts).Nodup) :
    Value.dedupNonBlank acc ts = acc ++ ts := by
  induction ts generalizing acc with
  | nil => rw [Value.dedupNonBlank, List.append_nil]
  | cons t ts ih =>
    have hnew : t ∉ acc := fun hmem => (List.nodup_append.mp h).2.2 t hmem t List.mem_cons_self rfl
    rw [Value.dedupNonBlank, if_pos ⟨hblank t List.mem_cons_self, hnew⟩,
      ih (fun u hu => hblank u (List.mem_cons_of_mem t hu)) (by rwa [List.append_assoc]), List.append_assoc]
    rfl

theorem nodup_dedupNonBlank {acc ts : List String} (h : acc.Nodup) : (Value.dedupNonBlank acc ts).Nodup := by
  induction ts generalizing acc with
  | nil => exact h
  | cons t ts ih =>
    rw [Value.dedupNonBlank]
    split
    · next hnew =>
      refine ih (List.nodup_append.mpr ⟨h, List.nodup_singleton t, fun a ha b hb => ?_⟩)
      rintro rfl
      obtain rfl := List.mem_singleton.mp hb
      exact hnew.2 ha
    · exact ih h

theorem map_normalizeString_textList {texts : List String} (h : ∀ t ∈ texts, Clean t) :
    (texts.map Value.str).map Value.normalizeString = texts := by
  rw [List.map_map]
  refine (List.map_congr_left fun t ht => ?_).trans (List.map_id texts)
  exact (Value.normalizeString_str t).trans (h t ht).strip_eq

/-- The texts of a list, the repeated ones dropped. -/
def firstTexts (texts : List String) : List String := Value.dedupNonBlank [] texts

theorem normalizeStringList_textList {texts : List String} (h : ∀ t ∈ texts, Clean t) :
    (textList texts).normalizeStringList = firstTexts texts := by
  rw [textList, Value.normalizeStringList, map_normalizeString_textList h, firstTexts]

theorem firstTexts_eq_self {texts : List String} (h : ∀ t ∈ texts, Clean t) (hnodup : texts.Nodup) :
    firstTexts texts = texts := by
  rw [firstTexts, dedupNonBlank_eq (fun t ht => (h t ht).ne_empty) (by rwa [List.nil_append]), List.nil_append]

theorem nodup_firstTexts (texts : List String) : (firstTexts texts).Nodup :=
  nodup_dedupNonBlank List.nodup_nil

theorem mem_of_mem_firstTexts {texts : List String} {t : String} (h : t ∈ firstTexts texts) : t ∈ texts := by
  rcases Value.mem_dedupNonBlank.mp h with hnil | hmem
  · cases hnil
  · exact hmem.1

/-- A list of distinct clean texts. -/
structure CleanList (texts : List String) : Prop where
  clean : ∀ t ∈ texts, Clean t
  nodup : texts.Nodup

theorem CleanList.read {texts : List String} (h : CleanList texts) :
    (textList texts).normalizeStringList = texts := by
  rw [normalizeStringList_textList h.clean, firstTexts_eq_self h.clean h.nodup]

theorem clean_of_mem_normalizeStringList {value : Value} {t : String} (h : t ∈ value.normalizeStringList) :
    Clean t := ⟨Value.strip_of_mem_normalizeStringList h, Value.ne_empty_of_mem_normalizeStringList h⟩

theorem cleanList_normalizeStringList (value : Value) : CleanList value.normalizeStringList := by
  refine ⟨fun t ht => clean_of_mem_normalizeStringList ht, ?_⟩
  cases value with
  | list xs => exact nodup_dedupNonBlank List.nodup_nil
  | _ => exact List.nodup_nil

/-! ## Members -/

theorem LifecycleState.text_ne_empty (state : LifecycleState) : state.text ≠ "" := by cases state <;> decide

@[simp] theorem normalizePromptLifecycleState_text (state : LifecycleState) :
    normalizePromptLifecycleState (.str state.text) = .ok state := by cases state <;> decide

@[simp] theorem normalizePromptPrivacyClass_text (privacyClass : PrivacyClass) :
    normalizePromptPrivacyClass (.str privacyClass.text) = .ok privacyClass := by cases privacyClass <;> decide

@[simp] theorem normalizePromptAccessScope_text (scope : AccessScope) :
    normalizePromptAccessScope (.str scope.text) = .ok scope := by cases scope <;> decide

theorem PrivacyClass.text_ne_empty (privacyClass : PrivacyClass) : privacyClass.text ≠ "" := by
  cases privacyClass <;> decide

theorem AccessScope.text_ne_empty (scope : AccessScope) : scope.text ≠ "" := by cases scope <;> decide

@[simp] theorem normalizePromptRoutingPolicy_toValue (mode : Option RoutingMode) :
    normalizePromptRoutingPolicy (routingPolicyValue mode) = .ok mode := by
  rcases mode with _ | mode
  · rfl
  · cases mode <;> decide

@[simp] theorem normalizePromptImportancePolicy_toValue (level : ImportanceLevel) :
    normalizePromptImportancePolicy (.dict [("level", .str level.text)]) = .ok level := by
  cases level <;> decide

@[simp] theorem normalizeTemplateRuntime_text (runtime : Option TemplateRuntime) :
    normalizeTemplateRuntime (optStr (runtime.map TemplateRuntime.text)) = .ok runtime := by
  rcases runtime with _ | runtime
  · rfl
  · cases runtime <;> decide

@[simp] theorem normalizeExecutionPolicy_toValue (policy : ExecutionPolicy) :
    normalizeExecutionPolicy policy.toValue = policy := rfl

/-! ## Constraints and preferences -/

/-- A reference to an image template that is stored as it is given. -/
structure ImageTemplateReference.Normal (reference : ImageTemplateReference) : Prop where
  templateId : Clean reference.templateId
  templateVersion : ∀ s ∈ reference.templateVersion, Clean s
  overrides : CleanList reference.allowedParameterOverrides

theorem normalizePromptImageTemplate_toValue {reference : Option ImageTemplateReference}
    (h : ∀ r ∈ reference, r.Normal) :
    normalizePromptImageTemplate (reference.elim .null ImageTemplateReference.toValue) = .ok reference := by
  rcases reference with _ | reference
  · rfl
  · have hnormal := h reference rfl
    simp [normalizePromptImageTemplate, ImageTemplateReference.toValue, Dict.get, Assoc.get?_cons,
      optionalString_str hnormal.templateId, optionalString_optStr hnormal.templateVersion,
      hnormal.overrides.read, bind, Except.bind]

/-- Constraints that are stored as they are given. -/
structure PromptConstraints.Normal (constraints : PromptConstraints) : Prop where
  maxTimeoutS : ∀ seconds ∈ constraints.maxTimeoutS, 1 ≤ seconds
  modelOverrides : CleanList constraints.allowedModelOverrides
  requirements : CleanList constraints.capabilityRequirements
  imageTemplate : ∀ r ∈ constraints.imageTemplate, r.Normal

theorem normalizeMaxTimeoutS_toValue {seconds : Option ℤ} (h : ∀ s ∈ seconds, 1 ≤ s) :
    normalizeMaxTimeoutS (seconds.elim .null .int) = .ok seconds := by
  rcases seconds with _ | seconds
  · rfl
  · have hmax : max seconds 1 = seconds := max_eq_left (h seconds rfl)
    simp [normalizeMaxTimeoutS, Value.isNull, Functor.map, Except.map, hmax]

theorem normalizePromptCapabilityRequirements_toValue {features : List String} (h : CleanList features) :
    normalizePromptCapabilityRequirements (capabilityRequirementsValue features) = features := by
  unfold capabilityRequirementsValue
  split
  · next hnil =>
    rw [hnil]
    rfl
  · exact h.read

theorem normalizePromptConstraints_toValue {constraints : PromptConstraints} (h : constraints.Normal) :
    normalizePromptConstraints constraints.toValue = .ok constraints := by
  simp [normalizePromptConstraints, PromptConstraints.toValue, Dict.get, Assoc.get?_cons,
    normalizeMaxTimeoutS_toValue h.maxTimeoutS, normalizePromptImageTemplate_toValue h.imageTemplate,
    normalizePromptCapabilityRequirements_toValue h.requirements, h.modelOverrides.read, bind, Except.bind]

/-- Preferences that are stored as they are given, up to repeated names. -/
structure ProviderPreferences.Normal (preferences : ProviderPreferences) : Prop where
  providers : ∀ t ∈ preferences.preferredProviders, Clean t ∧ lower t = t
  models : ∀ t ∈ preferences.preferredModels, Clean t ∧ lower t = t
  defaultProvider : ∀ t ∈ preferences.defaultProvider, Clean t ∧ lower t = t
  defaultModel : ∀ t ∈ preferences.defaultModel, Clean t ∧ lower t = t

/-- The preferences with each name once. -/
def ProviderPreferences.settle (preferences : ProviderPreferences) : ProviderPreferences :=
  { preferences with
    preferredProviders := firstTexts preferences.preferredProviders
    preferredModels := firstTexts preferences.preferredModels }

theorem lower_normalizeStringList {texts : List String} (h : ∀ t ∈ texts, Clean t ∧ lower t = t) :
    (textList texts).normalizeStringList.map lower = firstTexts texts := by
  rw [normalizeStringList_textList fun t ht => (h t ht).1]
  refine (List.map_congr_left fun t ht => ?_).trans (List.map_id _)
  exact (h t (mem_of_mem_firstTexts ht)).2

theorem lower_optionalString {text : Option String} (h : ∀ t ∈ text, Clean t ∧ lower t = t) :
    (optionalString (optStr text)).map lower = text := by
  rw [optionalString_optStr fun t ht => (h t ht).1]
  rcases text with _ | t
  · rfl
  · exact congrArg some (h t rfl).2

theorem normalizeProviderPreferences_toValue {preferences : ProviderPreferences} (h : preferences.Normal) :
    normalizeProviderPreferences preferences.toValue = preferences.settle := by
  simp [normalizeProviderPreferences, ProviderPreferences.toValue, ProviderPreferences.settle, Dict.get,
    Assoc.get?_cons, lower_normalizeStringList h.providers, lower_normalizeStringList h.models,
    lower_optionalString h.defaultProvider, lower_optionalString h.defaultModel]

theorem lowered_list {value : Value} {t : String} (h : t ∈ value.normalizeStringList.map lower) :
    Clean t ∧ lower t = t := by
  obtain ⟨s, hs, rfl⟩ := List.mem_map.mp h
  exact ⟨(clean_of_mem_normalizeStringList hs).lower, lower_lower s⟩

theorem lowered_text {value : Value} {t : String} (h : (optionalString value).map lower = some t) :
    Clean t ∧ lower t = t := by
  obtain ⟨s, hs, rfl⟩ := Option.map_eq_some_iff.mp h
  exact ⟨(clean_of_optionalString hs).lower, lower_lower s⟩

/-- Normalising makes preferences normal. -/
theorem normal_normalizeProviderPreferences (value : Value) : (normalizeProviderPreferences value).Normal := by
  unfold normalizeProviderPreferences
  constructor
  · intro t ht
    exact lowered_list ht
  · intro t ht
    exact lowered_list ht
  · intro t ht
    exact lowered_text (Option.mem_def.mp ht)
  · intro t ht
    exact lowered_text (Option.mem_def.mp ht)

theorem ProviderPreferences.Normal.settle {preferences : ProviderPreferences} (h : preferences.Normal) :
    preferences.settle.Normal :=
  { h with
    providers := fun t ht => h.providers t (mem_of_mem_firstTexts ht)
    models := fun t ht => h.models t (mem_of_mem_firstTexts ht) }

/-- **Preferences settle** exactly when each name is listed once. -/
theorem ProviderPreferences.settle_eq_self_iff {preferences : ProviderPreferences} (h : preferences.Normal) :
    preferences.settle = preferences ↔
      preferences.preferredProviders.Nodup ∧ preferences.preferredModels.Nodup := by
  constructor
  · intro heq
    rw [← heq]
    exact ⟨nodup_firstTexts _, nodup_firstTexts _⟩
  · rintro ⟨hproviders, hmodels⟩
    unfold ProviderPreferences.settle
    rw [firstTexts_eq_self (fun t ht => (h.providers t ht).1) hproviders,
      firstTexts_eq_self (fun t ht => (h.models t ht).1) hmodels]

@[simp] theorem ProviderPreferences.settle_settle (preferences : ProviderPreferences) :
    preferences.settle.settle = preferences.settle := by
  have hfirst : ∀ texts, firstTexts (firstTexts texts) = firstTexts texts := fun texts =>
    (dedupNonBlank_eq (fun t ht => by
      rcases Value.mem_dedupNonBlank.mp ht with hnil | hmem
      · cases hnil
      · exact hmem.2) (by rw [List.nil_append]; exact nodup_firstTexts texts)).trans (List.nil_append _)
  simp only [ProviderPreferences.settle, hfirst]

end Prompts
end HexeAiNode
