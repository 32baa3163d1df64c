import HexeAiNode.Execution.TaskExecutionService

/-!
# The default provider of a prompt

A request that names no provider is given its prompt's default provider when the routing mode permits it as the
first choice.  The routing mode is computed twice:

* `effectiveRequestedProvider` merges the prompt's mode with that of the request's `routing_policy`;
* `mergePromptGovernanceConstraints` merges the mode of the privacy class, the prompt's, and that of the request's
  governance constraints, into which a mode of `routing_policy` was written.

The second merge knows two things that the first does not: the privacy class, and a mode that only the governance
constraints name.  `default_provider_fits_routing_iff` says when the two agree about a default provider.  For the
provider `local` it is enough that the governance constraints do not send the request to the cloud; for every other
one the privacy class matters as well.

Both comparisons read a merge through the lemmas `merge_permits_local_iff` and `merge_permits_cloud_iff`.
-/

namespace HexeAiNode
namespace Execution

open Py Governance

variable {p r g m : Option RoutingMode} {request : TaskExecutionRequest}
  {authorization : ExecutionAuthorizationResult} {governance merged : Dict} {provider : Value}

/-! ## Modes that permit a first choice -/

/-- The mode permits the provider as the first choice. -/
def PermitsFirst (mode : Option RoutingMode) (provider : Value) : Prop :=
  (mode = some .localOnly ∨ mode = some .localPreferred → provider.normalizeLower = "local") ∧
    (mode = some .cloudOnly → provider.normalizeLower ≠ "local")

/-- The check of a default provider, for a provider that is not blank. -/
theorem defaultProviderAllowedByRouting_iff :
    defaultProviderAllowedByRouting provider m = true ↔
      provider.normalizeLower ≠ "" ∧ PermitsFirst m provider := by
  unfold defaultProviderAllowedByRouting PermitsFirst
  dsimp only
  by_cases hblank : provider.normalizeLower = ""
  · simp [hblank]
  by_cases hlocal : provider.normalizeLower = "local"
  · simp [hlocal]
  · simp [hblank, hlocal]

/-- `local` may come first unless the mode is `cloud_only`. -/
theorem permitsFirst_local_iff (h : provider.normalizeLower = "local") :
    PermitsFirst m provider ↔ m ≠ some .cloudOnly := by
  simp [PermitsFirst, h]

/-- Another provider may come first unless the mode prefers the node. -/
theorem permitsFirst_cloud_iff (h : provider.normalizeLower ≠ "local") :
    PermitsFirst m provider ↔ m ≠ some .localOnly ∧ m ≠ some .localPreferred := by
  simp [PermitsFirst, h]

/-- Merged modes permit `local` first when neither is `cloud_only`. -/
theorem merge_permits_local_iff :
    (mergeRoutingPolicyModes p r).2 = false ∧ (mergeRoutingPolicyModes p r).1 ≠ some .cloudOnly ↔
      p ≠ some .cloudOnly ∧ r ≠ some .cloudOnly := by
  rcases p with _ | _ | _ | _ | _ <;> rcases r with _ | _ | _ | _ | _ <;> decide

/-- Merged modes permit another provider first when neither is `local_only`, and the one that counts is not
`local_preferred` unless the other is `cloud_only`. -/
theorem merge_permits_cloud_iff :
    ((mergeRoutingPolicyModes p r).2 = false ∧ (mergeRoutingPolicyModes p r).1 ≠ some .localOnly ∧
        (mergeRoutingPolicyModes p r).1 ≠ some .localPreferred) ↔
      p ≠ some .localOnly ∧ r ≠ some .localOnly ∧
        (r.or p = some .localPreferred → p = some .cloudOnly ∨ r = some .cloudOnly) := by
  rcases p with _ | _ | _ | _ | _ <;> rcases r with _ | _ | _ | _ | _ <;> decide

/-- Without a mode of its own, a side leaves the other's mode. -/
theorem merge_none_left : mergeRoutingPolicyModes none r = (r, false) := by
  rcases r with _ | _ | _ | _ | _ <;> rfl

theorem authorizationPrivacyRoutingMode_cases (authorization : ExecutionAuthorizationResult) :
    authorizationPrivacyRoutingMode authorization = none ∨
      authorizationPrivacyRoutingMode authorization = some .localOnly := by
  unfold authorizationPrivacyRoutingMode
  dsimp only
  split
  · exact Or.inr rfl
  · exact Or.inl rfl

/-! ## The merged constraints -/

/-- The governance constraints of the request. -/
def requestGovernance (request : TaskExecutionRequest) : Dict := (request.constraints.get "governance").asDict

/-- The constraints are marked with a conflict of routing modes. -/
def MarkedConflict (governance : Dict) : Prop :=
  (routingPolicyOf governance).get "routing_policy_conflict" = .bool true

/-- A mode of `routing_policy` is written into the governance constraints, and nothing else. -/
theorem safeGovernanceConstraints_cases (request : TaskExecutionRequest) :
    (routingPolicyMode request.constraints = none ∧
      safeGovernanceConstraints request = requestGovernance request) ∨
    ∃ mode, routingPolicyMode request.constraints = some mode ∧
      safeGovernanceConstraints request = (requestGovernance request).set "routing_policy_constraints"
        (.dict ((routingPolicyOf (requestGovernance request)).set "mode" (.str mode.text))) := by
  unfold safeGovernanceConstraints routingPolicyMode requestGovernance routingPolicyOf
  dsimp only
  generalize normalizeRoutingPolicyMode (((request.constraints.get "routing_policy").asDict).get "mode") = found
  rcases found with _ | mode
  · exact Or.inl ⟨rfl, rfl⟩
  · exact Or.inr ⟨mode, rfl, rfl⟩

/-- The request's mode: that of its `routing_policy`, else that of its governance constraints. -/
theorem routingModeOf_safeGovernanceConstraints :
    routingModeOf (safeGovernanceConstraints request) =
      (routingPolicyMode request.constraints).or (routingModeOf (requestGovernance request)) := by
  rcases safeGovernanceConstraints_cases request with ⟨hmode, hsafe⟩ | ⟨mode, hmode, hsafe⟩
  · rw [hmode, hsafe, Option.none_or]
  · rw [hmode, hsafe, Option.some_or, routingModeOf, routingPolicyOf, Dict.get_set_self, Value.asDict_dict,
      Dict.get_set_self, normalizeRoutingPolicyMode_text]

/-- A mode that is written leaves the mark alone. -/
theorem markedConflict_safeGovernanceConstraints :
    MarkedConflict (safeGovernanceConstraints request) ↔ MarkedConflict (requestGovernance request) := by
  unfold MarkedConflict
  rcases safeGovernanceConstraints_cases request with ⟨-, hsafe⟩ | ⟨mode, -, hsafe⟩
  · rw [hsafe]
  · rw [hsafe, routingPolicyOf, Dict.get_set_self, Value.asDict_dict, Dict.get_set_of_ne _ _ (by decide)]

theorem markedConflict_writeRouting {routing : Dict} (h : routing.get "routing_policy_conflict" =
    (routingPolicyOf merged).get "routing_policy_conflict") :
    MarkedConflict (writeRouting routing merged) ↔ MarkedConflict merged := by
  unfold MarkedConflict
  by_cases hempty : routing = []
  · rw [hempty, writeRouting_nil]
  · rw [routingPolicyOf, routing_writeRouting hempty, h]

/-- The last step of the merge marks a conflict, and leaves a mark that is there. -/
theorem markedConflict_mergeRoutingModes :
    MarkedConflict (mergeRoutingModes authorization.promptConstraints.asDict merged authorization) ↔
      routingConflict merged authorization = true ∨ MarkedConflict merged := by
  by_cases hconflict : routingConflict merged authorization = true
  · obtain ⟨routing, hrouting, hmark⟩ := routingPolicy_mergeRoutingModes hconflict
    refine iff_of_true ?_ (Or.inl hconflict)
    unfold MarkedConflict routingPolicyOf
    rw [hrouting]
    exact hmark
  · rw [or_iff_right hconflict]
    unfold routingConflict promptRoutingMode routingModeOf routingPolicyOf at hconflict
    unfold mergeRoutingModes
    dsimp only
    rw [if_neg hconflict]
    split
    · exact markedConflict_writeRouting (Dict.get_set_of_ne _ _ (by decide))
    · exact markedConflict_writeRouting rfl

/-- The timeout step leaves the mark alone. -/
theorem markedConflict_mergeTimeout {promptConstraints : Dict}
    (h : mergeTimeout promptConstraints governance = .ok merged) :
    MarkedConflict merged ↔ MarkedConflict governance := by
  unfold mergeTimeout at h
  split at h
  · rw [pure_eq_ok.mp h]
  · obtain ⟨promptTimeout, -, h⟩ := bind_eq_ok.mp h
    obtain ⟨timeout, -, h⟩ := bind_eq_ok.mp h
    unfold MarkedConflict routingPolicyOf
    rw [← pure_eq_ok.mp h, Dict.get_set_self, Value.asDict_dict, Dict.get_set_of_ne _ _ (by decide)]

/-- **The merged constraints are marked** when the modes conflict or the request's constraints are. -/
theorem markedConflict_merge (h : mergePromptGovernanceConstraints governance authorization = .ok merged) :
    MarkedConflict merged ↔ routingConflict governance authorization = true ∨ MarkedConflict governance := by
  unfold mergePromptGovernanceConstraints at h
  obtain ⟨preferred, -, h⟩ := bind_eq_ok.mp h
  obtain ⟨preferredModels, -, h⟩ := bind_eq_ok.mp h
  obtain ⟨first, hfirst, h⟩ := bind_eq_ok.mp h
  obtain ⟨second, hsecond, h⟩ := bind_eq_ok.mp h
  obtain ⟨third, hthird, h⟩ := bind_eq_ok.mp h
  obtain ⟨fourth, hfourth, h⟩ := bind_eq_ok.mp h
  obtain rfl := pure_eq_ok.mp h
  have hsame : second.get "routing_policy_constraints" = governance.get "routing_policy_constraints" := by
    rw [get_of_mergePreferredModels hsecond (by decide), get_of_mergePreferredProviders hfirst (by decide)]
  have hmark : MarkedConflict fourth ↔ MarkedConflict governance := by
    have hsecondMark : MarkedConflict second ↔ MarkedConflict governance := by
      unfold MarkedConflict routingPolicyOf
      rw [hsame]
    rw [← hsecondMark, ← markedConflict_mergeTimeout hthird]
    unfold MarkedConflict routingPolicyOf
    rw [get_of_mergeRequiredFeatures hfourth (by decide)]
  have hmode : routingModeOf fourth = routingModeOf governance := by
    unfold routingModeOf routingPolicyOf
    rw [get_of_mergeRequiredFeatures hfourth (by decide), mode_of_mergeTimeout hthird, hsame]
  rw [markedConflict_mergeRoutingModes, hmark]
  unfold routingConflict
  rw [hmode]

/-! ## Proposing a default provider -/

section Proposing

variable (request : TaskExecutionRequest) (authorization : ExecutionAuthorizationResult)

/-- The default provider of the prompt. -/
def defaultProviderOf : Value := authorization.providerPreferences.asDict.get "default_provider"

/-- The routing mode of the prompt. -/
def promptMode : Option RoutingMode := routingPolicyMode authorization.promptConstraints.asDict

/-- The default provider passes the check against the prompt's mode and that of `routing_policy`. -/
def ProposesDefault : Prop :=
  authorization.providerPreferences.isDict = true ∧
    (mergeRoutingPolicyModes (promptMode authorization) (routingPolicyMode request.constraints)).2 = false ∧
    defaultProviderAllowedByRouting (defaultProviderOf authorization)
      (mergeRoutingPolicyModes (promptMode authorization) (routingPolicyMode request.constraints)).1 = true

instance : Decidable (ProposesDefault request authorization) := inferInstanceAs (Decidable (_ ∧ _ ∧ _))

/-- A default provider that is given fits the merged constraints, and the default model is given with it only. -/
structure DefaultFitsRouting : Prop where
  provider : ∀ merged,
    mergePromptGovernanceConstraints (safeGovernanceConstraints request) authorization = .ok merged →
    effectiveRequestedProvider request (some authorization) ≠ .null →
    ¬MarkedConflict merged ∧
      PermitsFirst (routingModeOf merged) (effectiveRequestedProvider request (some authorization))
  model : (optStr request.requestedModel).truthy = false →
    effectiveRequestedModel request (some authorization) ≠ .null →
    effectiveRequestedProvider request (some authorization) ≠ .null ∧
      effectiveRequestedProvider request (some authorization) = defaultProviderOf authorization ∧
      effectiveRequestedModel request (some authorization) =
        authorization.providerPreferences.asDict.get "default_model"

/-- The sources that only the merged constraints know leave the default provider its place. -/
structure SourcesAgree : Prop where
  unmarked : ¬MarkedConflict (requestGovernance request)
  onNode : (defaultProviderOf authorization).normalizeLower = "local" →
    routingPolicyMode request.constraints = none →
    routingModeOf (requestGovernance request) ≠ some .cloudOnly
  offNode : (defaultProviderOf authorization).normalizeLower ≠ "local" →
    authorizationPrivacyRoutingMode authorization = none ∧
      (routingPolicyMode request.constraints = none →
        routingModeOf (requestGovernance request) ≠ some .localOnly ∧
          (routingModeOf (requestGovernance request) = some .localPreferred →
            promptMode authorization = some .cloudOnly))

end Proposing

variable (hrequest : (optStr request.requestedProvider).truthy = false)

include hrequest

/-- Without a requested provider, the default one is given when it passes the check. -/
theorem effectiveRequestedProvider_of_proposes (h : ProposesDefault request authorization) :
    effectiveRequestedProvider request (some authorization) = defaultProviderOf authorization := by
  obtain ⟨hdict, hconflict, hallowed⟩ := h
  unfold promptMode defaultProviderOf at *
  unfold effectiveRequestedProvider
  dsimp only
  rw [if_neg (by simp [hrequest]), if_pos hdict, hconflict, hallowed]
  rfl

/-- And none otherwise. -/
theorem effectiveRequestedProvider_of_not_proposes (h : ¬ProposesDefault request authorization) :
    effectiveRequestedProvider request (some authorization) = .null := by
  unfold ProposesDefault promptMode defaultProviderOf at h
  unfold effectiveRequestedProvider
  dsimp only
  rw [if_neg (by simp [hrequest])]
  split
  · next hdict =>
    refine if_pos ?_
    by_contra hcheck
    rw [Bool.or_eq_true, not_or, Bool.not_eq_true, Bool.not_eq_true, Bool.not_eq_false'] at hcheck
    exact h ⟨hdict, hcheck⟩
  · rfl

omit hrequest

theorem ne_null_of_proposes (h : ProposesDefault request authorization) : defaultProviderOf authorization ≠ .null := by
  intro hnull
  have hblank := (defaultProviderAllowedByRouting_iff.mp h.2.2).1
  rw [hnull] at hblank
  exact hblank rfl

/-! ## The four sources -/

theorem mergedRoutingMode_of_not_conflict (h : routingConflict governance authorization = false) :
    mergedRoutingMode governance authorization =
      (mergeRoutingPolicyModes (promptRoutingMode authorization).1 (routingModeOf governance)).1 := by
  unfold routingConflict at h
  unfold mergedRoutingMode
  dsimp only
  rw [h, if_neg Bool.false_ne_true]

theorem routingConflict_eq_false_iff : routingConflict governance authorization = false ↔
    (promptRoutingMode authorization).2 = false ∧
      (mergeRoutingPolicyModes (promptRoutingMode authorization).1 (routingModeOf governance)).2 = false := by
  unfold routingConflict
  exact Bool.or_eq_false_iff

theorem promptRoutingMode_eq : promptRoutingMode authorization =
    mergeRoutingPolicyModes (authorizationPrivacyRoutingMode authorization) (promptMode authorization) := rfl

/-- The merged mode permits `local` first when no source is `cloud_only`. -/
theorem mergedRoutingMode_permits_local_iff :
    routingConflict governance authorization = false ∧
        mergedRoutingMode governance authorization ≠ some .cloudOnly ↔
      promptMode authorization ≠ some .cloudOnly ∧ routingModeOf governance ≠ some .cloudOnly := by
  have hprivacy : authorizationPrivacyRoutingMode authorization ≠ some .cloudOnly := by
    rcases authorizationPrivacyRoutingMode_cases authorization with h | h <;> rw [h] <;> decide
  have hprompt : (promptRoutingMode authorization).2 = false ∧ (promptRoutingMode authorization).1 ≠ some .cloudOnly ↔
      promptMode authorization ≠ some .cloudOnly := by
    rw [promptRoutingMode_eq, merge_permits_local_iff, and_iff_right hprivacy]
  constructor
  · rintro ⟨hconflict, hmode⟩
    rw [mergedRoutingMode_of_not_conflict hconflict] at hmode
    obtain ⟨hpromptConflict, hmerge⟩ := routingConflict_eq_false_iff.mp hconflict
    obtain ⟨hpromptMode, hrequest⟩ := merge_permits_local_iff.mp ⟨hmerge, hmode⟩
    exact ⟨hprompt.mp ⟨hpromptConflict, hpromptMode⟩, hrequest⟩
  · rintro ⟨hpromptMode, hrequest⟩
    obtain ⟨hpromptConflict, hpromptMode⟩ := hprompt.mpr hpromptMode
    obtain ⟨hmerge, hmode⟩ := merge_permits_local_iff.mpr ⟨hpromptMode, hrequest⟩
    have hconflict : routingConflict governance authorization = false :=
      routingConflict_eq_false_iff.mpr ⟨hpromptConflict, hmerge⟩
    exact ⟨hconflict, by rwa [mergedRoutingMode_of_not_conflict hconflict]⟩

/-- It permits another provider first when the prompt is not private and the prompt's mode and the request's, merged,
do. -/
theorem mergedRoutingMode_permits_cloud_iff :
    (routingConflict governance authorization = false ∧ mergedRoutingMode governance authorization ≠ some .localOnly ∧
        mergedRoutingMode governance authorization ≠ some .localPreferred) ↔
      authorizationPrivacyRoutingMode authorization = none ∧
        (mergeRoutingPolicyModes (promptMode authorization) (routingModeOf governance)).2 = false ∧
        (mergeRoutingPolicyModes (promptMode authorization) (routingModeOf governance)).1 ≠ some .localOnly ∧
        (mergeRoutingPolicyModes (promptMode authorization) (routingModeOf governance)).1 ≠ some .localPreferred := by
  rcases authorizationPrivacyRoutingMode_cases authorization with hprivacy | hprivacy
  · have hprompt : promptRoutingMode authorization = (promptMode authorization, false) := by
      rw [promptRoutingMode_eq, hprivacy, merge_none_left]
    rw [and_iff_right hprivacy]
    by_cases hconflict : routingConflict governance authorization = false
    · have hmerge := (routingConflict_eq_false_iff.mp hconflict).2
      have hmode := mergedRoutingMode_of_not_conflict hconflict
      rw [hprompt] at hmerge hmode
      rw [and_iff_right hconflict, and_iff_right hmerge, hmode]
    · refine iff_of_false (fun h => hconflict h.1) fun h => hconflict ?_
      rw [routingConflict_eq_false_iff, hprompt]
      dsimp only
      exact ⟨rfl, h.1⟩
  · refine iff_of_false ?_ ?_
    · rintro ⟨hconflict, hmode, -⟩
      exact hmode (mergedRoutingMode_of_privacy hprivacy hconflict)
    · rintro ⟨hnone, -⟩
      rw [hprivacy] at hnone
      cases hnone

/-- **A proposed default provider fits the merged constraints** when the other sources agree. -/
theorem fits_iff_sourcesAgree (h : ProposesDefault request authorization)
    (hmerged : mergePromptGovernanceConstraints (safeGovernanceConstraints request) authorization = .ok merged) :
    (¬MarkedConflict merged ∧ PermitsFirst (routingModeOf merged) (defaultProviderOf authorization)) ↔
      SourcesAgree request authorization := by
  obtain ⟨-, hconflict, hallowed⟩ := h
  obtain ⟨-, hpermits⟩ := defaultProviderAllowedByRouting_iff.mp hallowed
  obtain ⟨-, -, -, -, -, hmode, -⟩ := merge_spec hmerged
  rw [markedConflict_merge hmerged, hmode, markedConflict_safeGovernanceConstraints, not_or, Bool.not_eq_true]
  have hrequest := @routingModeOf_safeGovernanceConstraints request
  by_cases hlocal : (defaultProviderOf authorization).normalizeLower = "local"
  · rw [permitsFirst_local_iff hlocal] at hpermits ⊢
    obtain ⟨hprompt, hrouting⟩ := merge_permits_local_iff.mp ⟨hconflict, hpermits⟩
    have hsources : (routingConflict (safeGovernanceConstraints request) authorization = false ∧
        mergedRoutingMode (safeGovernanceConstraints request) authorization ≠ some .cloudOnly) ↔
          (routingPolicyMode request.constraints = none →
            routingModeOf (requestGovernance request) ≠ some .cloudOnly) := by
      rw [mergedRoutingMode_permits_local_iff, and_iff_right hprompt, hrequest]
      rcases hpolicy : routingPolicyMode request.constraints with _ | mode
      · rw [Option.none_or]
        exact ⟨fun hgovernance _ => hgovernance, fun hgovernance => hgovernance rfl⟩
      · rw [hpolicy] at hrouting
        rw [Option.some_or]
        exact iff_of_true hrouting fun hnone => absurd hnone (by simp)
    rw [and_right_comm, hsources]
    constructor
    · rintro ⟨hagree, hmark⟩
      exact ⟨hmark, fun _ => hagree, fun hcloud => absurd hlocal hcloud⟩
    · rintro ⟨hmark, hagree, -⟩
      exact ⟨hagree hlocal, hmark⟩
  · rw [permitsFirst_cloud_iff hlocal] at hpermits ⊢
    have hsources : (routingConflict (safeGovernanceConstraints request) authorization = false ∧
        mergedRoutingMode (safeGovernanceConstraints request) authorization ≠ some .localOnly ∧
        mergedRoutingMode (safeGovernanceConstraints request) authorization ≠ some .localPreferred) ↔
          authorizationPrivacyRoutingMode authorization = none ∧ (routingPolicyMode request.constraints = none →
            routingModeOf (requestGovernance request) ≠ some .localOnly ∧
              (routingModeOf (requestGovernance request) = some .localPreferred →
                promptMode authorization = some .cloudOnly)) := by
      rw [mergedRoutingMode_permits_cloud_iff, hrequest]
      refine and_congr_right fun _ => ?_
      rcases hpolicy : routingPolicyMode request.constraints with _ | mode
      · rw [hpolicy] at hconflict hpermits
        have hprompt := merge_permits_cloud_iff.mp ⟨hconflict, hpermits⟩
        rw [Option.none_or, merge_permits_cloud_iff]
        rcases hgovernance : routingModeOf (requestGovernance request) with _ | mode
        · simpa using hprompt
        · cases mode <;> simp [hprompt.1]
      · rw [hpolicy] at hconflict hpermits
        rw [Option.some_or]
        simp [hconflict, hpermits]
    rw [and_right_comm, hsources]
    constructor
    · rintro ⟨hagree, hmark⟩
      exact ⟨hmark, fun hnode => absurd hnode hlocal, fun _ => hagree⟩
    · rintro ⟨hmark, -, hagree⟩
      exact ⟨hagree hlocal, hmark⟩

/-- **The default provider fits the merged routing mode** when the sources of the two computations agree about it. -/
theorem default_provider_fits_routing_iff (hrequest : (optStr request.requestedProvider).truthy = false) :
    DefaultFitsRouting request authorization ↔
      (ProposesDefault request authorization →
        (∃ merged, mergePromptGovernanceConstraints (safeGovernanceConstraints request) authorization = .ok merged) →
        SourcesAgree request authorization) := by
  constructor
  · rintro hfits hproposes ⟨merged, hmerged⟩
    rw [← fits_iff_sourcesAgree hproposes hmerged]
    have hgiven := effectiveRequestedProvider_of_proposes hrequest hproposes
    rw [← hgiven]
    refine hfits.provider merged hmerged ?_
    rw [hgiven]
    exact ne_null_of_proposes hproposes
  · intro hagree
    by_cases hproposes : ProposesDefault request authorization
    · have hgiven := effectiveRequestedProvider_of_proposes hrequest hproposes
      have hnotNull := ne_null_of_proposes hproposes
      refine ⟨fun merged hmerged _ => ?_, fun hmodel _ => ?_⟩
      · rw [hgiven, fits_iff_sourcesAgree hproposes hmerged]
        exact hagree hproposes ⟨merged, hmerged⟩
      · rw [hgiven]
        refine ⟨hnotNull, rfl, ?_⟩
        unfold effectiveRequestedModel
        dsimp only
        rw [if_neg (by simp [hmodel]), if_pos hproposes.1, hgiven, if_neg]
        intro hnull
        exact hnotNull (Value.isNull_iff.mp hnull)
    · have hnone := effectiveRequestedProvider_of_not_proposes hrequest hproposes
      refine ⟨fun _ _ hgiven => absurd hnone hgiven, fun hmodel hgiven => absurd ?_ hgiven⟩
      unfold effectiveRequestedModel
      dsimp only
      rw [if_neg (by simp [hmodel]), hnone, if_pos (Value.isNull_iff.mpr rfl), ite_self]

/-! ## A restricted prompt with a cloud default -/

/-- A prompt for a cloud provider. -/
def cloudPrompt (privacyClass : Option String) : ExecutionAuthorizationResult where
  allowed := true
  reason := "ok"
  privacyClass := privacyClass
  providerPreferences := .dict [("default_provider", .str "openai"), ("default_model", .str "gpt-4o")]

/-- A request for a prompt that names neither a provider nor a routing mode. -/
def plainRequest : TaskExecutionRequest where
  taskId := "t1"
  taskFamily := "task.chat"
  requestedBy := "ai.inference"
  traceId := "trace-1"

theorem exists_merged (privacyClass : Option String) : ∃ merged,
    mergePromptGovernanceConstraints (safeGovernanceConstraints plainRequest) (cloudPrompt privacyClass) = .ok merged :=
  ⟨_, rfl⟩

theorem default_provider_fits_routing_public :
    DefaultFitsRouting plainRequest (cloudPrompt (some "public")) := by
  refine (default_provider_fits_routing_iff rfl).mpr fun _ _ => ⟨?_, ?_, ?_⟩
  · unfold MarkedConflict
    rw [show (routingPolicyOf (requestGovernance plainRequest)).get "routing_policy_conflict" = .null from rfl]
    simp
  · decide +kernel
  · decide +kernel

/-- The default provider of a restricted prompt is given, and the merged constraints keep the request on the node. -/
theorem restricted_default_not_local :
    ¬∀ (request : TaskExecutionRequest) (authorization : ExecutionAuthorizationResult),
      (optStr request.requestedProvider).truthy = false → DefaultFitsRouting request authorization := by
  intro h
  have hproposes : ProposesDefault plainRequest (cloudPrompt (some "restricted")) := by decide +kernel
  have hgiven : effectiveRequestedProvider plainRequest (some (cloudPrompt (some "restricted"))) = .str "openai" :=
    effectiveRequestedProvider_of_proposes rfl hproposes
  obtain ⟨merged, hmerged⟩ := exists_merged (some "restricted")
  have hfits := (h plainRequest (cloudPrompt (some "restricted")) rfl).provider merged hmerged
  rw [hgiven] at hfits
  have hagree := (fits_iff_sourcesAgree hproposes hmerged).mp (hfits (by simp))
  exact absurd (hagree.offNode (by decide +kernel)).1 (by decide +kernel)

end Execution
end HexeAiNode
