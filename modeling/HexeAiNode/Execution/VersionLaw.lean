import HexeAiNode.Execution.ExecutionGateway

/-!
# The version a prompt is executed with

A caller may name a version of a prompt.  `VersionLaw` says what the gateway owes to it: an answer, whatever is
named; with an answer that allows the execution, the definition that is stored under the version named, or under the
current one when none is named; and another version than the current one only where the prompt allows pinning.

The gateway keeps the second part wherever it finds a stored version.  It raises on a version in none of the
spellings, it makes a version up for an entry that has none, and it does not read the flag of the third part.

`version_law_iff` puts this together: `Settled` is the condition on the record of the prompt and on the request.
-/

namespace HexeAiNode
namespace Execution

open Py Governance Prompts

variable {now : Timestamp} {state : PromptServiceState} {entry : PromptEntry} {args : AuthorizationArgs}

/-! ## Reading a stored entry -/

/-- An entry of the state, as the gateway reads it. -/
def stored (entry : PromptEntry) : Dict := entry.fields ++ entry.extra

theorem distinct_fields (entry : PromptEntry) : Assoc.Distinct entry.fields := by
  have hkeys : Assoc.keys entry.fields = entryKeys := rfl
  rw [Assoc.Distinct, hkeys]
  decide

/-- The fields of an entry are read as they are stored. -/
theorem get_stored {key : String} {value : Value} (h : (key, value) ∈ entry.fields) :
    Dict.get (stored entry) key = value := by
  have hfirst : ∀ d e : Dict, Assoc.get? d key = some value → Assoc.get? (d ++ e) key = some value := by
    intro d e hd
    induction d with
    | nil => cases hd
    | cons field d ih =>
      rw [List.cons_append, Assoc.get?_cons]
      rw [Assoc.get?_cons] at hd
      split
      · next hkey => rwa [if_pos hkey] at hd
      · next hkey =>
        rw [if_neg hkey] at hd
        exact ih hd
  rw [Dict.get, stored, hfirst _ _ (Assoc.get?_of_mem (distinct_fields entry) h), Option.getD_some]

/-- The entry of a prompt. -/
def registeredPrompt (state : PromptServiceState) (promptId : String) : Option PromptEntry :=
  state.promptServices.find? fun entry => entry.promptId = promptId

theorem findPromptEntry_toValue (h : ∀ entry ∈ state.promptServices, Registered entry) {prompt : String}
    (hprompt : strip prompt = prompt) (hne : prompt ≠ "") :
    findPromptEntry state.toValue prompt = (registeredPrompt state prompt).map stored := by
  have hentries : state.toValue.asDict.get "prompt_services" =
      .list (state.promptServices.map PromptEntry.toValue) := by
    simp [PromptServiceState.toValue, Dict.get, Assoc.get?_cons]
  unfold findPromptEntry registeredPrompt
  dsimp only
  rw [hentries, hprompt]
  dsimp only
  rw [if_neg hne]
  generalize state.promptServices = entries at h
  induction entries with
  | nil => rfl
  | cons entry entries ih =>
    have hid : (Dict.get (stored entry) "prompt_id").normalizeString = entry.promptId := by
      rw [get_stored (by simp [PromptEntry.fields] : ("prompt_id", .str entry.promptId) ∈ entry.fields),
        Value.normalizeString_str, (h entry List.mem_cons_self).promptId.strip_eq]
    have hvalue : entry.toValue = .dict (stored entry) := rfl
    rw [List.map_cons, List.findSome?_cons, List.find?_cons, hvalue]
    dsimp only
    rw [hid]
    by_cases heq : entry.promptId = prompt
    · simp [heq]
    · simp only [heq, if_false, decide_false]
      exact ih fun e he => h e (List.mem_cons_of_mem entry he)

/-! ## The version -/

/-- The version that is asked for. -/
def askedVersion (entry : PromptEntry) (args : AuthorizationArgs) : String :=
  (namedVersion args.promptVersion).getD entry.currentVersion

/-- The spelling of stored versions is accepted from the caller, too. -/
theorem targetVersion_eq (value : Value) : targetVersion value = normalizePromptVersion value true := by
  unfold targetVersion normalizePromptVersion
  by_cases hmajor : isMajorOnly value.normalizeString.toList = true
  · simp [hmajor]
  · by_cases hcanonical : isCanonical value.normalizeString.toList = true
    · simp [hmajor, hcanonical]
    · simp [hmajor, hcanonical, Exc.isValueError]

@[simp] theorem normalizePromptVersion_strip (s : String) (legacy : Bool) :
    normalizePromptVersion (.str (strip s)) legacy = normalizePromptVersion (.str s) legacy := by
  simp [normalizePromptVersion]

theorem strip_ne_empty_of_normalizePromptVersion {s version : String} {legacy : Bool}
    (h : normalizePromptVersion (.str s) legacy = .ok version) : strip s ≠ "" := by
  intro hblank
  rw [← normalizePromptVersion_strip, hblank] at h
  simp [normalizePromptVersion, isMajorOnly, isCanonical, isLegacyStored] at h

/-- A version that is normal has nothing to strip. -/
theorem strip_of_normalizePromptVersion {version : String} {legacy : Bool}
    (h : normalizePromptVersion (.str version) legacy = .ok version) : strip version = version := by
  unfold normalizePromptVersion at h
  rw [Value.normalizeString_str] at h
  dsimp only at h
  split at h
  · next hmajor =>
    have hversion := Except.ok.inj h
    rw [← hversion, strip_append_of_isMajorOnly hmajor]
  · split at h
    · exact Except.ok.inj h
    · split at h
      · exact Except.ok.inj h
      · cases h

theorem get_toValue_version (v : PromptVersion) : Dict.get v.toValue.asDict "version" = .str v.version := by
  simp [PromptVersion.toValue, Dict.get, Assoc.get?_cons]

theorem get_toValue_definition (v : PromptVersion) :
    Dict.get v.toValue.asDict "definition" = v.definition.toValue := by
  simp [PromptVersion.toValue, Dict.get, Assoc.get?_cons]

theorem set_toValue_version (v : PromptVersion) :
    Dict.set v.toValue.asDict "version" (.str v.version) = v.toValue.asDict := by
  simp [PromptVersion.toValue, Dict.set, Assoc.set]

/-- The loop finds the version with the text that is looked for. -/
theorem findStoredVersion_toValue {versions : List PromptVersion} (target : String)
    (h : ∀ v ∈ versions, normalizePromptVersion (.str v.version) true = .ok v.version) :
    findStoredVersion target (versions.map PromptVersion.toValue) =
      (versions.find? fun v => v.version = target).map fun v => v.toValue.asDict := by
  induction versions with
  | nil => rfl
  | cons v versions ih =>
    have hcons : (v :: versions).map PromptVersion.toValue =
        .dict v.toValue.asDict :: versions.map PromptVersion.toValue := rfl
    rw [hcons, findStoredVersion, get_toValue_version, h v List.mem_cons_self, List.find?_cons]
    dsimp only
    by_cases heq : v.version = target
    · rw [if_pos heq, set_toValue_version]
      simp [heq]
    · rw [if_neg heq, ih fun u hu => h u (List.mem_cons_of_mem v hu)]
      simp [heq]

section Lookup

variable (h : Registered entry)
include h

/-- **The lookup** in an entry that has versions. -/
theorem findPromptVersion_stored (hne : entry.versions ≠ []) :
    findPromptVersion now (stored entry) args.promptVersion =
      (fun target => (entry.versions.find? fun v => v.version = target).map fun v => v.toValue.asDict) <$>
        normalizePromptVersion (.str (askedVersion entry args)) true := by
  have hcurrent : Dict.get (stored entry) "current_version" = .str entry.currentVersion :=
    get_stored (by simp [PromptEntry.fields])
  have hversions : Dict.get (stored entry) "versions" = .list (entry.versions.map PromptVersion.toValue) :=
    get_stored (by simp [PromptEntry.fields])
  have hasked : (namedVersion args.promptVersion).elim (.str entry.currentVersion) .str =
      Value.str (askedVersion entry args) := by
    unfold askedVersion
    rcases namedVersion args.promptVersion with _ | named <;> rfl
  unfold findPromptVersion
  rw [hversions, hcurrent, hasked, targetVersion_eq]
  obtain ⟨v, versions, hcons⟩ := List.exists_cons_of_ne_nil hne
  have hloop := fun target => findStoredVersion_toValue target h.versions
  rw [hcons, List.map_cons] at hloop ⊢
  dsimp only
  rcases normalizePromptVersion (.str (askedVersion entry args)) true with e | target
  · rfl
  · exact congrArg Except.ok (hloop target)

/-- **The lookup** in an entry without versions makes one up. -/
theorem findPromptVersion_of_nil (hnil : entry.versions = []) :
    ∃ rest : Dict, findPromptVersion now (stored entry) args.promptVersion =
      (fun target => some (("version", .str target) :: ("definition", .dict []) :: rest)) <$>
        normalizePromptVersion (.str (askedVersion entry args)) true := by
  have hcurrent : Dict.get (stored entry) "current_version" = .str entry.currentVersion :=
    get_stored (by simp [PromptEntry.fields])
  have hversions : Dict.get (stored entry) "versions" = .list [] :=
    get_stored (by simp [PromptEntry.fields, hnil])
  have hblank := strip_ne_empty_of_normalizePromptVersion h.currentVersion
  unfold findPromptVersion askedVersion
  rw [hversions, hcurrent]
  dsimp only
  refine ⟨[("metadata", .dict ((stored entry).get "metadata").asDict),
    ("created_at", .str ((optionalString ((stored entry).get "registered_at")).getD now.text))], ?_⟩
  have hasked : normalizePromptVersion (.str (((namedVersion args.promptVersion).or
      (optionalString (.str entry.currentVersion))).getD "v1")) true =
      normalizePromptVersion (.str ((namedVersion args.promptVersion).getD entry.currentVersion)) true := by
    rcases namedVersion args.promptVersion with _ | named
    · simp [optionalString, hblank]
    · rfl
  rw [hasked]
  rcases normalizePromptVersion (.str ((namedVersion args.promptVersion).getD entry.currentVersion)) true with e | t
  · rfl
  · rfl

end Lookup

/-! ## The other checks -/

/-- The routing mode of an entry: its privacy class overrides its policy. -/
def entryRoutingMode (entry : PromptEntry) : Option RoutingMode :=
  (privacyRoutingMode (.str entry.privacyClass.text)).or entry.constraints.routingPolicy

/-- What the gateway asks of an entry and a caller besides the version. -/
structure Admits (entry : PromptEntry) (args : AuthorizationArgs) : Prop where
  executable : entry.status = .active ∨ entry.status = .reviewDue
  caller : isCallerAllowed (stored entry) args.requestedBy args.serviceId args.customerId = true
  direct : entry.executionPolicy.allowDirectExecution = true
  provider : (optStr args.requestedProvider).normalizeLower ≠ "" → entry.providerPreferences.preferredProviders ≠ [] →
    (optStr args.requestedProvider).normalizeLower ∈ entry.providerPreferences.preferredProviders
  model : (optStr args.requestedModel).normalizeLower ≠ "" → entry.constraints.allowedModelOverrides ≠ [] →
    (optStr args.requestedModel).normalizeLower ∈
      entry.constraints.allowedModelOverrides.map lower ++ entry.providerPreferences.preferredModels
  routing : (optStr args.requestedProvider).normalizeLower ≠ "" →
    routingModeAllowsProvider (entryRoutingMode entry)
      (.str (optStr args.requestedProvider).normalizeLower) = true
  structured : entry.constraints.structuredOutputRequired = true → hasSchema args.inputs = true

theorem lowerTexts_textList {texts : List String} (h : ∀ t ∈ texts, Clean t) :
    lowerTexts (textList texts) = .ok (texts.map lower) := by
  have hstrip : ((texts.map Value.str).map fun item => strip item.toStr) = texts := by
    rw [List.map_map]
    exact (List.map_congr_left fun t ht => (h t ht).strip_eq).trans (List.map_id texts)
  have hfilter : texts.filter (fun t => decide (t ≠ "")) = texts :=
    List.filter_eq_self.mpr fun t ht => decide_eq_true (h t ht).ne_empty
  rw [lowerTexts, textList, Value.toItems_list]
  show Except.ok ((((texts.map Value.str).map fun item => strip item.toStr).filter _).map lower) = _
  rw [hstrip, hfilter]

theorem lowerTexts_lowered {texts : List String} (h : ∀ t ∈ texts, Clean t ∧ lower t = t) :
    lowerTexts (textList texts) = .ok texts := by
  rw [lowerTexts_textList fun t ht => (h t ht).1]
  exact congrArg Except.ok ((List.map_congr_left fun t ht => (h t ht).2).trans (List.map_id texts))

theorem privacyClassOf_stored : privacyClassOf (stored entry) = entry.privacyClass.text := by
  rw [privacyClassOf, get_stored (by simp [PromptEntry.fields] :
    ("privacy_class", .str entry.privacyClass.text) ∈ entry.fields)]
  cases entry.privacyClass <;> decide

theorem mode_routingPolicyValue (mode : Option RoutingMode) :
    normalizeRoutingPolicyMode ((routingPolicyValue mode).asDict.get "mode") = mode := by
  rcases mode with _ | mode
  · rfl
  · cases mode <;> decide

theorem isFalse_bool (b : Bool) : isFalse (.bool b) = true ↔ b = false := by cases b <;> decide

/-- One check in front of others. -/
theorem check_then {failed : Prop} [Decidable failed] {reason : String} {rest : Except Exc (Option String)} {P : Prop}
    (hfailed : failed → ¬P) (hrest : ¬failed → ∃ denial, rest = .ok denial ∧ (denial = none ↔ P)) :
    ∃ denial, (if failed then .ok (some reason) else rest) = .ok denial ∧ (denial = none ↔ P) := by
  by_cases h : failed
  · rw [if_pos h]
    exact ⟨_, rfl, iff_of_false (Option.some_ne_none reason) (hfailed h)⟩
  · rw [if_neg h]
    exact hrest h

/-- **The checks** pass exactly for an entry that admits the caller. -/
theorem denialReason_stored (h : Registered entry) :
    ∃ denial, denialReason (stored entry) args entry.status = .ok denial ∧ (denial = none ↔ Admits entry args) := by
  have hpolicy : Dict.get (stored entry) "execution_policy" = entry.executionPolicy.toValue :=
    get_stored (by simp [PromptEntry.fields])
  have hpreferences : Dict.get (stored entry) "provider_preferences" = entry.providerPreferences.toValue :=
    get_stored (by simp [PromptEntry.fields])
  have hconstraints : Dict.get (stored entry) "constraints" = entry.constraints.toValue :=
    get_stored (by simp [PromptEntry.fields])
  have hdirect : entry.executionPolicy.toValue.asDict.get "allow_direct_execution" =
      .bool entry.executionPolicy.allowDirectExecution := rfl
  have hproviders : entry.providerPreferences.toValue.asDict.get "preferred_providers" =
      textList entry.providerPreferences.preferredProviders := rfl
  have hmodels : entry.providerPreferences.toValue.asDict.get "preferred_models" =
      textList entry.providerPreferences.preferredModels := rfl
  have hoverrides : entry.constraints.toValue.asDict.get "allowed_model_overrides" =
      textList entry.constraints.allowedModelOverrides := rfl
  have hrouting : entry.constraints.toValue.asDict.get "routing_policy" =
      routingPolicyValue entry.constraints.routingPolicy := rfl
  have hstructured : entry.constraints.toValue.asDict.get "structured_output_required" =
      .bool entry.constraints.structuredOutputRequired := rfl
  unfold denialReason
  dsimp only
  rw [hpolicy, hpreferences, hconstraints, hdirect, hproviders, hmodels, hoverrides, hrouting, hstructured,
    privacyClassOf_stored, mode_routingPolicyValue, lowerTexts_lowered h.preferences.providers,
    lowerTexts_lowered h.preferences.models, lowerTexts_textList h.modelOverrides.clean]
  simp only [bind, Except.bind]
  refine check_then (fun hprobation hadmits => ?_) fun hprobation => ?_
  · simpa [hprobation] using hadmits.executable
  refine check_then (fun hneither hadmits => hadmits.executable.elim hneither.1 hneither.2) fun hexecutable => ?_
  refine check_then (fun hcaller hadmits => ?_) fun hcaller => ?_
  · rw [hadmits.caller] at hcaller
    cases hcaller
  refine check_then (fun hfalse hadmits => ?_) fun hdirect => ?_
  · rw [isFalse_bool, hadmits.direct] at hfalse
    cases hfalse
  refine check_then (fun hlisted hadmits => hlisted.2.2 (hadmits.provider hlisted.1 hlisted.2.1)) fun hprovider => ?_
  refine check_then (fun hlisted hadmits => ?_) fun hmodel => ?_
  · exact hlisted.2.2 (hadmits.model hlisted.1 fun hnil => hlisted.2.1 (by rw [hnil]; rfl))
  refine check_then (fun hroute hadmits => ?_) fun hroute => ?_
  · rw [← entryRoutingMode, hadmits.routing hroute.1] at hroute
    cases hroute.2
  refine check_then (fun hschema hadmits => ?_) fun hschema => ?_
  · rw [hadmits.structured hschema.1] at hschema
    cases hschema.2
  refine ⟨none, rfl, iff_of_true rfl ?_⟩
  exact
    { executable := by
        by_contra hneither
        exact hexecutable (not_or.mp hneither)
      caller := Bool.eq_true_of_not_eq_false hcaller
      direct := Bool.eq_true_of_not_eq_false fun hfalse => hdirect ((isFalse_bool _).mpr hfalse)
      provider := fun hnamed hlisted => by_contra fun hmem => hprovider ⟨hnamed, hlisted, hmem⟩
      model := fun hnamed hlisted => by_contra fun hmem =>
        hmodel ⟨hnamed, fun hnil => hlisted (List.map_eq_nil_iff.mp hnil), hmem⟩
      routing := fun hnamed => Bool.eq_true_of_not_eq_false fun hno => hroute ⟨hnamed, hno⟩
      structured := fun hrequired => Bool.eq_true_of_not_eq_false fun hno => hschema ⟨hrequired, hno⟩ }

/-! ## The law -/

/-- An answer that allows the execution honours the version that is named. -/
structure Honours (entry : PromptEntry) (args : AuthorizationArgs) (answer : AuthorizationAnswer) : Prop where
  returned : ∃ v ∈ entry.versions,
    normalizePromptVersion (.str v.version) true = normalizePromptVersion (.str (askedVersion entry args)) true ∧
      answer.promptVersion = some v.version ∧ answer.promptDefinition = v.definition.toValue
  pinned : ∀ named version, namedVersion args.promptVersion = some named →
    normalizePromptVersion (.str named) true = .ok version → version ≠ entry.currentVersion →
      entry.executionPolicy.allowVersionPinning = true

/-- **The law**: there is an answer, and one that allows the execution honours the version. -/
def VersionLaw (now : Timestamp) (state : PromptServiceState) (args : AuthorizationArgs) : Prop :=
  ∃ answer, authorize now state.toValue args = .ok answer ∧
    (answer.allowed = true → ∃ entry, registeredPrompt state (strip args.promptId) = some entry ∧
      Honours entry args answer)

/-- The law for an entry that is found. -/
def EntryLaw (now : Timestamp) (entry : PromptEntry) (args : AuthorizationArgs) (prompt task : String) : Prop :=
  ∃ answer, authorizeMatched now (stored entry) args prompt task = .ok answer ∧
    (answer.allowed = true → Honours entry args answer)

/-- The version that is named is one of the spellings, and where the entry admits the caller it has versions, and
pins another one than the current one only if it allows that. -/
structure Settled (entry : PromptEntry) (args : AuthorizationArgs) : Prop where
  spelled : ∀ named, namedVersion args.promptVersion = some named →
    ∃ version, normalizePromptVersion (.str named) true = .ok version
  versions : Admits entry args → entry.versions ≠ []
  pinning : Admits entry args → ∀ named version, namedVersion args.promptVersion = some named →
    normalizePromptVersion (.str named) true = .ok version →
    version ∈ entry.versions.map PromptVersion.version → version ≠ entry.currentVersion →
    entry.executionPolicy.allowVersionPinning = true

section Cases

variable (h : Registered entry) {prompt task : String}
include h

/-- A version that cannot be read raises. -/
theorem authorizeMatched_of_error {e : Exc}
    (hasked : normalizePromptVersion (.str (askedVersion entry args)) true = .error e) :
    authorizeMatched now (stored entry) args prompt task = .error e := by
  unfold authorizeMatched
  by_cases hnil : entry.versions = []
  · obtain ⟨rest, hfind⟩ := findPromptVersion_of_nil h hnil
    rw [hfind, hasked]
    rfl
  · rw [findPromptVersion_stored h hnil, hasked]
    rfl

/-- Once a version is found, the other checks decide. -/
theorem authorizeMatched_of_found {versionEntry : Dict}
    (hfound : findPromptVersion now (stored entry) args.promptVersion = .ok (some versionEntry)) :
    ∃ answer, authorizeMatched now (stored entry) args prompt task = .ok answer ∧
      (answer.allowed = true ↔ Admits entry args) ∧ (answer.allowed = true →
        answer = authorized (stored entry) versionEntry prompt task entry.status) := by
  have hstatus : Dict.get (stored entry) "status" = .str entry.status.text :=
    get_stored (by simp [PromptEntry.fields])
  obtain ⟨denial, hdenial, hadmits⟩ := denialReason_stored h
  unfold authorizeMatched
  rw [hfound, hstatus, orElse_str entry.status.text_ne_empty, normalizePromptLifecycleState_text]
  simp only [bind, Except.bind]
  rw [hdenial, ← hadmits]
  cases denial with
  | none => exact ⟨_, rfl, iff_of_true rfl rfl, fun _ => rfl⟩
  | some reason =>
    exact ⟨_, rfl, iff_of_false Bool.false_ne_true (Option.some_ne_none reason), fun hallowed => (nomatch hallowed)⟩

end Cases

section State

variable (hstate : ∀ entry ∈ state.promptServices, Registered entry)
include hstate

/-- A registered prompt of the right family is decided by its entry. -/
theorem authorize_of_registered (hentry : registeredPrompt state (strip args.promptId) = some entry)
    (htask : entry.taskFamily = strip args.taskFamily) :
    authorize now state.toValue args =
      authorizeMatched now (stored entry) args (strip args.promptId) (strip args.taskFamily) := by
  have hregistered := hstate entry (List.mem_of_find?_eq_some hentry)
  have hid : entry.promptId = strip args.promptId := by
    rw [registeredPrompt] at hentry
    simpa using List.find?_some hentry
  have hprompt : strip args.promptId ≠ "" := hid ▸ hregistered.promptId.ne_empty
  have hfamily : strip args.taskFamily ≠ "" := htask ▸ hregistered.taskFamily.ne_empty
  have hget : (Dict.get (stored entry) "task_family").normalizeString = strip args.taskFamily := by
    rw [get_stored (by simp [PromptEntry.fields] : ("task_family", .str entry.taskFamily) ∈ entry.fields),
      Value.normalizeString_str, hregistered.taskFamily.strip_eq, htask]
  unfold authorize
  dsimp only
  rw [if_neg hprompt, if_neg hfamily, findPromptEntry_toValue hstate (strip_strip _) hprompt, hentry]
  exact if_neg (not_not.mpr hget)

/-- A prompt that is not registered for the family is denied. -/
theorem authorize_of_unregistered (h : ∀ entry, registeredPrompt state (strip args.promptId) = some entry →
    entry.taskFamily ≠ strip args.taskFamily) :
    ∃ answer, authorize now state.toValue args = .ok answer ∧ answer.allowed = false := by
  unfold authorize
  dsimp only
  by_cases hprompt : strip args.promptId = ""
  · rw [if_pos hprompt]
    exact ⟨_, rfl, rfl⟩
  · rw [if_neg hprompt]
    by_cases hfamily : strip args.taskFamily = ""
    · rw [if_pos hfamily]
      exact ⟨_, rfl, rfl⟩
    · rw [if_neg hfamily, findPromptEntry_toValue hstate (strip_strip _) hprompt]
      rcases hentry : registeredPrompt state (strip args.promptId) with _ | entry
      · exact ⟨_, rfl, rfl⟩
      · have hregistered := hstate entry (List.mem_of_find?_eq_some hentry)
        have hget : (Dict.get (stored entry) "task_family").normalizeString = entry.taskFamily := by
          rw [get_stored (by simp [PromptEntry.fields] : ("task_family", .str entry.taskFamily) ∈ entry.fields),
            Value.normalizeString_str, hregistered.taskFamily.strip_eq]
        refine ⟨_, if_pos ?_, rfl⟩
        rw [hget]
        exact h entry hentry

end State

/-! ## When the law holds -/

section Entry

variable (h : Registered entry)
include h

/-- A version is asked for in one of the spellings exactly if the one that is named is. -/
theorem spelled_iff : (∃ version, normalizePromptVersion (.str (askedVersion entry args)) true = .ok version) ↔
    ∀ named, namedVersion args.promptVersion = some named →
      ∃ version, normalizePromptVersion (.str named) true = .ok version := by
  unfold askedVersion
  rcases namedVersion args.promptVersion with _ | named
  · exact iff_of_true ⟨_, h.currentVersion⟩ fun _ hnone => (nomatch hnone)
  · constructor
    · intro hversion other hother
      obtain rfl := Option.some.inj hother
      exact hversion
    · intro hversion
      exact hversion named rfl

/-- The answer on a stored version honours it unless the prompt forbids to pin it. -/
theorem honours_authorized {v : PromptVersion} {prompt task target : String} (hv : v ∈ entry.versions)
    (hasked : normalizePromptVersion (.str (askedVersion entry args)) true = .ok target)
    (htarget : v.version = target) :
    Honours entry args (authorized (stored entry) v.toValue.asDict prompt task entry.status) ↔
      ∀ named version, namedVersion args.promptVersion = some named →
        normalizePromptVersion (.str named) true = .ok version → version ≠ entry.currentVersion →
        entry.executionPolicy.allowVersionPinning = true := by
  refine ⟨fun hhonours => hhonours.pinned, fun hpinned => ⟨⟨v, hv, ?_, ?_, ?_⟩, hpinned⟩⟩
  · rw [h.versions v hv, hasked, htarget]
  · have hclean : optionalString (.str v.version) = some v.version := by
      have hblank := strip_ne_empty_of_normalizePromptVersion (h.versions v hv)
      have hstrip := strip_of_normalizePromptVersion (h.versions v hv)
      simp [optionalString, hstrip ▸ hblank, hstrip]
    rw [authorized, get_toValue_version, hclean]
  · rw [authorized, get_toValue_definition]
    rfl

/-- **With versions**, the flag decides. -/
theorem entryLaw_iff_of_versions {prompt task target : String} (hne : entry.versions ≠ [])
    (hasked : normalizePromptVersion (.str (askedVersion entry args)) true = .ok target) :
    EntryLaw now entry args prompt task ↔ Settled entry args := by
  have hspelled := (spelled_iff h).mp ⟨target, hasked⟩
  have hfind : findPromptVersion now (stored entry) args.promptVersion =
      .ok ((entry.versions.find? fun v => v.version = target).map fun v => v.toValue.asDict) := by
    rw [findPromptVersion_stored h hne, hasked]
    rfl
  -- a version that is named is the one that is looked for
  have hnamed : ∀ named version, namedVersion args.promptVersion = some named →
      normalizePromptVersion (.str named) true = .ok version → version = target := by
    intro named version hsome hversion
    rw [askedVersion, hsome, Option.getD_some, hversion] at hasked
    exact Except.ok.inj hasked
  rcases hstored : entry.versions.find? (fun v => v.version = target) with _ | v
  · rw [hstored] at hfind
    refine iff_of_true ⟨denied "invalid_prompt_version" prompt task none, ?_, fun hallowed => (nomatch hallowed)⟩
      ⟨hspelled, fun _ => hne, fun _ named version hsome hversion hmem => ?_⟩
    · rw [authorizeMatched, hfind]
      rfl
    · obtain ⟨u, hu, rfl⟩ := List.mem_map.mp hmem
      have hnone := List.find?_eq_none.mp hstored u hu
      exact absurd (decide_eq_true (hnamed named u.version hsome hversion)) hnone
  · rw [hstored] at hfind
    have hv := List.mem_of_find?_eq_some hstored
    have htarget : v.version = target := by simpa using List.find?_some hstored
    obtain ⟨answer, hanswer, hallowed, heq⟩ := authorizeMatched_of_found h hfind
    constructor
    · rintro ⟨other, hother, hlaw⟩
      obtain rfl := Except.ok.inj (hother.symm.trans hanswer)
      refine ⟨hspelled, fun _ => hne, fun hadmits named version hsome hversion _ => ?_⟩
      exact (hlaw (hallowed.mpr hadmits)).pinned named version hsome hversion
    · intro hsettled
      refine ⟨answer, hanswer, fun hyes => ?_⟩
      rw [heq hyes]
      refine (honours_authorized h hv hasked htarget).mpr fun named version hsome hversion => ?_
      refine hsettled.pinning (hallowed.mp hyes) named version hsome hversion ?_
      rw [hnamed named version hsome hversion, ← htarget]
      exact List.mem_map_of_mem hv

/-- **Without versions**, one is made up that is stored nowhere. -/
theorem entryLaw_iff_of_nil {prompt task target : String} (hnil : entry.versions = [])
    (hasked : normalizePromptVersion (.str (askedVersion entry args)) true = .ok target) :
    EntryLaw now entry args prompt task ↔ Settled entry args := by
  have hspelled := (spelled_iff h).mp ⟨target, hasked⟩
  obtain ⟨rest, hfind⟩ := findPromptVersion_of_nil h hnil
  rw [hasked] at hfind
  obtain ⟨answer, hanswer, hallowed, -⟩ := authorizeMatched_of_found h hfind
  constructor
  · rintro ⟨other, hother, hlaw⟩
    obtain rfl := Except.ok.inj (hother.symm.trans hanswer)
    have hnot : ¬Admits entry args := by
      intro hadmits
      obtain ⟨v, hv, -⟩ := (hlaw (hallowed.mpr hadmits)).returned
      rw [hnil] at hv
      cases hv
    exact ⟨hspelled, fun hadmits => absurd hadmits hnot, fun hadmits => absurd hadmits hnot⟩
  · intro hsettled
    exact ⟨answer, hanswer, fun hyes => absurd hnil (hsettled.versions (hallowed.mp hyes))⟩

/-- **The law for an entry.** -/
theorem entryLaw_iff {prompt task : String} : EntryLaw now entry args prompt task ↔ Settled entry args := by
  rcases hasked : normalizePromptVersion (.str (askedVersion entry args)) true with e | target
  · -- a version in none of the spellings raises
    rw [EntryLaw, authorizeMatched_of_error h hasked]
    refine iff_of_false (fun ⟨_, hanswer, _⟩ => (nomatch hanswer)) fun hsettled => ?_
    obtain ⟨version, hversion⟩ := (spelled_iff h).mpr hsettled.spelled
    rw [hasked] at hversion
    cases hversion
  · by_cases hnil : entry.versions = []
    · exact entryLaw_iff_of_nil h hnil hasked
    · exact entryLaw_iff_of_versions h hnil hasked

end Entry

/-- **When the gateway keeps the law**: the entry of the prompt settles the version that is named. -/
theorem version_law_iff (now now₀ : Timestamp) (document : Value) (state : PromptServiceState)
    (args : AuthorizationArgs) (h : normalizePromptServiceState now₀ document = .ok state) :
    VersionLaw now state args ↔ ∀ entry, registeredPrompt state (strip args.promptId) = some entry →
      entry.taskFamily = strip args.taskFamily → Settled entry args := by
  have hstate := registered_of_normalize h
  by_cases hfound : ∃ entry, registeredPrompt state (strip args.promptId) = some entry ∧
      entry.taskFamily = strip args.taskFamily
  case neg =>
    -- without an entry there is a denial, and nothing to settle
    obtain ⟨answer, hanswer, hdenied⟩ := authorize_of_unregistered hstate
      fun entry hentry htask => hfound ⟨entry, hentry, htask⟩
    refine iff_of_true ⟨answer, hanswer, fun hallowed => ?_⟩ fun entry hentry htask =>
      absurd ⟨entry, hentry, htask⟩ hfound
    rw [hdenied] at hallowed
    cases hallowed
  obtain ⟨entry, hentry, htask⟩ := hfound
  have hregistered := hstate entry (List.mem_of_find?_eq_some hentry)
  have hauthorize : authorize now state.toValue args =
      authorizeMatched now (stored entry) args (strip args.promptId) (strip args.taskFamily) :=
    authorize_of_registered hstate hentry htask
  have hsettled : (∀ e, registeredPrompt state (strip args.promptId) = some e →
      e.taskFamily = strip args.taskFamily → Settled e args) ↔ Settled entry args := by
    refine ⟨fun hall => hall entry hentry htask, fun hsettled e he _ => ?_⟩
    rw [hentry] at he
    obtain rfl := Option.some.inj he
    exact hsettled
  rw [hsettled, ← entryLaw_iff hregistered, VersionLaw, hauthorize, hentry]
  constructor
  · rintro ⟨answer, hanswer, hlaw⟩
    refine ⟨answer, hanswer, fun hallowed => ?_⟩
    obtain ⟨e, he, hhonours⟩ := hlaw hallowed
    exact Option.some.inj he ▸ hhonours
  · rintro ⟨answer, hanswer, hlaw⟩
    exact ⟨answer, hanswer, fun hallowed => ⟨entry, rfl, hlaw hallowed⟩⟩

/-! ## A prompt that forbids pinning -/

/-- Noon. -/
def noon : Timestamp where
  text := "2026-01-05T12:00:00+00:00"
  ne_empty := by decide

/-- A registry with one prompt, which has two versions and forbids to pin one. -/
def mailRegistry : Value :=
  .dict [("schema_version", .str "2.0"), ("prompt_services", .list [.dict
    [("prompt_id", .str "prompt.mail"), ("service_id", .str "svc-mail"), ("task_family", .str "task.classification"),
      ("access_scope", .str "public"), ("execution_policy", .dict [("allow_version_pinning", .bool false)]),
      ("versions", .list [.dict [("version", .str "v1.0")], .dict [("version", .str "v2.0")]]),
      ("current_version", .str "v2.0")]])]

/-- A request for a version of the prompt. -/
def mailArgs (version : String) : AuthorizationArgs where
  promptId := "prompt.mail"
  taskFamily := "task.classification"
  promptVersion := some version

theorem exists_mailState : ∃ state, normalizePromptServiceState noon mailRegistry = .ok state := ⟨_, rfl⟩

/-- The gateway raises on `latest`, and allows `v1`, which the prompt forbids to pin. -/
theorem version_law_fails : ∃ state, normalizePromptServiceState noon mailRegistry = .ok state ∧
    (authorize noon state.toValue (mailArgs "latest") = .error ⟨.valueError, "invalid_prompt_version"⟩ ∧
      (authorize noon state.toValue (mailArgs "v1")).map (fun answer => (answer.allowed, answer.promptVersion)) =
        .ok (true, some "v1.0")) ∧
    ¬VersionLaw noon state (mailArgs "latest") := by
  obtain ⟨state, hstate⟩ := exists_mailState
  have hlatest : (normalizePromptServiceState noon mailRegistry).bind
      (fun state => authorize noon state.toValue (mailArgs "latest")) =
      .error ⟨.valueError, "invalid_prompt_version"⟩ := rfl
  have hpinned : (normalizePromptServiceState noon mailRegistry).bind
      (fun state => (authorize noon state.toValue (mailArgs "v1")).map
        fun answer => (answer.allowed, answer.promptVersion)) = .ok (true, some "v1.0") := rfl
  rw [hstate] at hlatest hpinned
  have hraises : authorize noon state.toValue (mailArgs "latest") = .error ⟨.valueError, "invalid_prompt_version"⟩ :=
    hlatest
  refine ⟨state, hstate, ⟨hraises, hpinned⟩, ?_⟩
  rintro ⟨answer, hanswer, -⟩
  rw [hraises] at hanswer
  cases hanswer

/-- The registry is normalised, so that its entry decides. -/
theorem mail_version_law_iff : ∃ state, normalizePromptServiceState noon mailRegistry = .ok state ∧
    (VersionLaw noon state (mailArgs "v1") ↔ ∀ entry, registeredPrompt state (strip "prompt.mail") = some entry →
      entry.taskFamily = strip "task.classification" → Settled entry (mailArgs "v1")) := by
  obtain ⟨state, hstate⟩ := exists_mailState
  exact ⟨state, hstate, version_law_iff noon noon mailRegistry state (mailArgs "v1") hstate⟩

end Execution
end HexeAiNode
