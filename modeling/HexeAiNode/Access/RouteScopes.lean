import HexeAiNode.Python.Text

/-!
# The scopes of a route

Two tables say which scopes a request needs: `serviceScopeForRoute` for the token of a service,
`managementScopeForRoute` for the token of a manager.  They are written independently, over prefixes
and suffixes of the path.

`managementScope_of_serviceScope` is what the two tables have in common: a route that asks for a
service scope also asks for a management scope.  The proof compares prefixes only: every service
route lies under one of `serviceRoots`, and no root meets a public or an execution path.
-/

namespace HexeAiNode
namespace Access

open Py

/-! ## The source functions -/

/-- `ASSISTANT_PROMPT_ID`. -/
def assistantPromptId : String := "prompt.hexeinteraction.assistant"

/-- `MANAGEMENT_PUBLIC_PATHS`. -/
def managementPublicPaths : List String := ["/", "/api/health"]

/-- `MANAGEMENT_PUBLIC_PREFIXES`. -/
def managementPublicPrefixes : List String := ["/api/schemas/client-node/v2", "/api/onboarding/"]

/-- `SERVICE_EXECUTION_PATHS`. -/
def serviceExecutionPaths : List String :=
  ["/api/assistant/reasoning/v1", "/api/execution/authorize", "/api/execution/direct",
    "/api/execution/route-preview"]

/-- `MANAGEMENT_ASSET_PREFIXES`. -/
def managementAssetPrefixes : List String :=
  ["/api/prompts/", "/api/image-templates", "/api/manual-image-generation", "/api/image-studio/",
    "/api/avatar-generation", "/api/comfyui/"]

/-- `MANAGEMENT_OPERATION_PREFIXES`. -/
def managementOperationPrefixes : List String := ["/api/execution/", "/api/local-scheduler/"]

/-- `MANAGEMENT_LIFECYCLE_PATHS`. -/
def managementLifecyclePaths : List String :=
  ["/api/node/recover", "/api/node/retrust", "/api/services/start", "/api/services/stop",
    "/api/services/restart"]

/-- `str(path or "").rstrip("/") or "/"`. -/
def normalizePath (path : String) : String :=
  let stripped := rstripChar path '/'
  if stripped = "" then "/" else stripped

/-- The methods that only read. -/
def reads (method : String) : Bool := ["GET", "HEAD"].contains (upper method)

/-- `service_scope_for_route`. -/
def serviceScopeForRoute (method path : String) : Option String :=
  let path := normalizePath path
  let readOr (read write : String) : String := if reads method then read else write
  if upper method = "OPTIONS" then none
  else if path = "/api/prompts/services" then some (readOr "ai.prompts.read" "ai.prompts.write")
  else if path = "/api/prompts/services/migrations/review-due" then none
  else if startsWith path "/api/prompts/services/" then
    if endsWith path "/review" then some "ai.prompts.review"
    else if endsWith path "/lifecycle" || endsWith path "/probation" then
      some "ai.prompts.lifecycle"
    else some (readOr "ai.prompts.read" "ai.prompts.write")
  else if path = "/api/image-templates" then
    some (readOr "ai.image_templates.read" "ai.image_templates.write")
  else if startsWith path "/api/image-templates/" then
    if endsWith path "/review" then some "ai.image_templates.review"
    else if endsWith path "/lifecycle" then some "ai.image_templates.lifecycle"
    else some (readOr "ai.image_templates.read" "ai.image_templates.write")
  else if startsWith path "/api/execution/jobs/" then some (readOr "ai.jobs.read" "ai.jobs.cancel")
  else if path = "/api/execution/artifacts/ack" then some "ai.artifacts.ack"
  else if startsWith path "/api/manual-image-generation/outputs/" then some "ai.artifacts.read"
  else if path = "/api/services/status" ∧ reads method = true then some "ai.services.read"
  else none

/-- `service_scope_alternatives_for_route`. -/
def serviceScopeAlternativesForRoute (method path : String) : List String :=
  match serviceScopeForRoute method path with
  | none => []
  | some primary =>
    let path := normalizePath path
    if path = "/api/prompts/services/" ++ assistantPromptId ∧ reads method = true then
      [primary, "service.execute:task.chat"]
    else if path = "/api/prompts/services" ∧ upper method = "POST" then
      [primary, "service.execute:task.chat"]
    else [primary]

/-- `_matches_route_prefix`. -/
def matchesRoutePrefix (path routePrefix : String) : Bool :=
  let normalized := rstripChar routePrefix '/'
  path == normalized || startsWith path (normalized ++ "/")

/-- `management_scope_for_route`. -/
def managementScopeForRoute (method path : String) : Option String :=
  let path := normalizePath path
  if upper method = "OPTIONS" then none
  else if path ∈ managementPublicPaths ∨
      managementPublicPrefixes.any (matchesRoutePrefix path) = true then none
  else if path ∈ serviceExecutionPaths then none
  else if startsWith path "/debug/" ∨ path = "/api/capabilities/diagnostics" then
    some "node.manage.diagnostics"
  else if startsWith path "/api/providers/openai/credentials" then some "node.manage.credentials"
  else if path ∈ managementLifecyclePaths then some "node.manage.lifecycle"
  else if managementAssetPrefixes.any (matchesRoutePrefix path) then some "node.manage.assets"
  else if managementOperationPrefixes.any (matchesRoutePrefix path) then
    some "node.manage.operations"
  else if reads method then some "node.manage.read"
  else if ["/api/providers/", "/api/capabilities/", "/api/governance/", "/api/budgets/"].any
      (startsWith path) then some "node.manage.configuration"
  else some "node.manage.operations"

/-! ## The two tables -/

/-- The paths under which the routes with a service scope lie. -/
def serviceRoots : List String :=
  ["/api/prompts/services", "/api/image-templates", "/api/execution/jobs/",
    "/api/execution/artifacts/ack", "/api/manual-image-generation/outputs/", "/api/services/status"]

theorem of_ite_eq_some {c : Prop} [Decidable c] {a b : Option String} {scope : String}
    (h : (if c then a else b) = some scope) : (c ∧ a = some scope) ∨ (¬c ∧ b = some scope) := by
  by_cases hc : c
  · exact Or.inl ⟨hc, (if_pos hc).symm.trans h⟩
  · exact Or.inr ⟨hc, (if_neg hc).symm.trans h⟩

/-- A route with a service scope is not an `OPTIONS` request, and lies under a root. -/
theorem under_serviceRoot {method path scope : String}
    (h : serviceScopeForRoute method path = some scope) :
    upper method ≠ "OPTIONS" ∧ ∃ root ∈ serviceRoots, startsWith (normalizePath path) root = true := by
  have hat : ∀ p, normalizePath path = p → p ∈ serviceRoots →
      ∃ root ∈ serviceRoots, startsWith (normalizePath path) root = true := by
    intro p hp hroot
    exact ⟨p, hroot, hp ▸ startsWith_iff.mpr List.prefix_rfl⟩
  have hunder : ∀ p root, startsWith (normalizePath path) p = true → startsWith p root = true →
      root ∈ serviceRoots → ∃ root ∈ serviceRoots, startsWith (normalizePath path) root = true :=
    fun p root hp hroot hmem => ⟨root, hmem, startsWith_trans hp hroot⟩
  unfold serviceScopeForRoute at h
  dsimp only at h
  rcases of_ite_eq_some h with ⟨-, h⟩ | ⟨hoptions, h⟩
  · cases h
  refine ⟨hoptions, ?_⟩
  rcases of_ite_eq_some h with ⟨hp, -⟩ | ⟨-, h⟩
  · exact hat _ hp (by decide)
  rcases of_ite_eq_some h with ⟨-, h⟩ | ⟨-, h⟩
  · cases h
  rcases of_ite_eq_some h with ⟨hp, -⟩ | ⟨-, h⟩
  · exact hunder _ "/api/prompts/services" hp (by decide +kernel) (by decide)
  rcases of_ite_eq_some h with ⟨hp, -⟩ | ⟨-, h⟩
  · exact hat _ hp (by decide)
  rcases of_ite_eq_some h with ⟨hp, -⟩ | ⟨-, h⟩
  · exact hunder _ "/api/image-templates" hp (by decide +kernel) (by decide)
  rcases of_ite_eq_some h with ⟨hp, -⟩ | ⟨-, h⟩
  · exact hunder _ _ hp (startsWith_iff.mpr List.prefix_rfl) (by decide)
  rcases of_ite_eq_some h with ⟨hp, -⟩ | ⟨-, h⟩
  · exact hat _ hp (by decide)
  rcases of_ite_eq_some h with ⟨hp, -⟩ | ⟨-, h⟩
  · exact hunder _ _ hp (startsWith_iff.mpr List.prefix_rfl) (by decide)
  rcases of_ite_eq_some h with ⟨hp, -⟩ | ⟨-, h⟩
  · exact hat _ hp.1 (by decide)
  · cases h

theorem isSome_ite {c : Prop} [Decidable c] {scope : String} {other : Option String}
    (h : other.isSome = true) : (if c then some scope else other).isSome = true := by
  split
  · rfl
  · exact h

/-- Only `OPTIONS` requests and public and execution paths have no management scope. -/
theorem managementScope_isSome {method path : String} (hoptions : upper method ≠ "OPTIONS")
    (hpublic : ¬(normalizePath path ∈ managementPublicPaths ∨
      managementPublicPrefixes.any (matchesRoutePrefix (normalizePath path)) = true))
    (hexecution : normalizePath path ∉ serviceExecutionPaths) :
    (managementScopeForRoute method path).isSome = true := by
  unfold managementScopeForRoute
  dsimp only
  rw [if_neg hoptions, if_neg hpublic, if_neg hexecution]
  -- every branch that is left names a scope
  repeat refine isSome_ite ?_
  rfl

theorem startsWith_of_matchesRoutePrefix {path routePrefix : String}
    (h : matchesRoutePrefix path routePrefix = true) :
    startsWith path (rstripChar routePrefix '/') = true := by
  rw [matchesRoutePrefix, Bool.or_eq_true, beq_iff_eq] at h
  rcases h with h | h
  · rw [h]
    exact startsWith_iff.mpr List.prefix_rfl
  · refine startsWith_trans h (startsWith_iff.mpr ?_)
    rw [String.toList_append]
    exact List.prefix_append _ _

/-- **A service scope implies a management scope.** -/
theorem managementScope_of_serviceScope {method path scope : String}
    (h : serviceScopeForRoute method path = some scope) :
    (managementScopeForRoute method path).isSome = true := by
  obtain ⟨hoptions, root, hroot, hunder⟩ := under_serviceRoot h
  have hother : ∀ p ∈ managementPublicPaths ++ serviceExecutionPaths, normalizePath path ≠ p := by
    intro p hp heq
    have hclosed : ∀ root ∈ serviceRoots, ∀ p ∈ managementPublicPaths ++ serviceExecutionPaths,
        startsWith p root = false := by
      decide +kernel
    rw [heq, hclosed root hroot p hp] at hunder
    cases hunder
  refine managementScope_isSome hoptions ?_ fun hmem =>
    hother _ (List.mem_append_right _ hmem) rfl
  rintro (hmem | hany)
  · exact hother _ (List.mem_append_left _ hmem) rfl
  · obtain ⟨routePrefix, hprefix, hmatch⟩ := List.any_eq_true.mp hany
    have hapart : ∀ root ∈ serviceRoots, ∀ routePrefix ∈ managementPublicPrefixes,
        ¬(startsWith root (rstripChar routePrefix '/') = true ∨
          startsWith (rstripChar routePrefix '/') root = true) := by
      decide +kernel
    exact hapart root hroot routePrefix hprefix
      (startsWith_or_startsWith hunder (startsWith_of_matchesRoutePrefix hmatch))

theorem serviceScopeAlternatives_eq_nil_iff {method path : String} :
    serviceScopeAlternativesForRoute method path = [] ↔
      serviceScopeForRoute method path = none := by
  unfold serviceScopeAlternativesForRoute
  cases serviceScopeForRoute method path with
  | none => exact ⟨fun _ => rfl, fun _ => rfl⟩
  | some primary =>
    refine iff_of_false ?_ (Option.some_ne_none primary)
    dsimp only
    split
    · exact List.cons_ne_nil _ _
    · split
      · exact List.cons_ne_nil _ _
      · exact List.cons_ne_nil _ _

end Access
end HexeAiNode
