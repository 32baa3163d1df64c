import HexeAiNode.Python.Value

/-!
# Routing modes

A routing mode says on which side of the node a request may run.  `scope` is its meaning, a subset of
the two sides; modes are merged by intersecting scopes, and an empty intersection is a conflict.

`merge_scope` is the whole story of `mergeRoutingPolicyModes`: whenever the merge succeeds, the
scope of the result is the intersection of the scopes, so a merge never admits a side that one of the
two modes excludes (`localOnly_of_merge`).
-/

namespace HexeAiNode
namespace Governance

open Py

/-- `local_only`, `local_preferred`, `cloud_only`, `cloud_fallback`. -/
inductive RoutingMode where
  | localOnly
  | localPreferred
  | cloudOnly
  | cloudFallback
  deriving DecidableEq, Repr

/-- The text of a mode. -/
def RoutingMode.text : RoutingMode → String
  | .localOnly => "local_only"
  | .localPreferred => "local_preferred"
  | .cloudOnly => "cloud_only"
  | .cloudFallback => "cloud_fallback"

/-- The mode a lower-case text names. -/
def RoutingMode.ofText (s : String) : Option RoutingMode :=
  if s = "local_only" then some .localOnly
  else if s = "local_preferred" then some .localPreferred
  else if s = "cloud_only" then some .cloudOnly
  else if s = "cloud_fallback" then some .cloudFallback
  else none

@[simp] theorem RoutingMode.ofText_text (m : RoutingMode) :
    RoutingMode.ofText m.text = some m := by
  cases m <;> decide

/-- `_normalize_routing_policy_mode`. -/
def normalizeRoutingPolicyMode (value : Value) : Option RoutingMode :=
  RoutingMode.ofText value.normalizeLower

@[simp] theorem normalizeRoutingPolicyMode_null : normalizeRoutingPolicyMode .null = none := rfl

@[simp] theorem normalizeRoutingPolicyMode_text (m : RoutingMode) :
    normalizeRoutingPolicyMode (.str m.text) = some m := by
  cases m <;> decide

/-- The routing policy of governance constraints. -/
def routingPolicyOf (governance : Dict) : Dict :=
  (governance.get "routing_policy_constraints").asDict

/-- The routing mode of governance constraints. -/
def routingModeOf (governance : Dict) : Option RoutingMode :=
  normalizeRoutingPolicyMode ((routingPolicyOf governance).get "mode")

/-- Where a request can run. -/
inductive Side where
  | onNode
  | cloud
  deriving DecidableEq, Repr

/-- `_routing_mode_scope`: the sides a mode admits; no mode admits both. -/
def routingModeScope : Option RoutingMode → Side → Bool
  | some .localOnly, .onNode => true
  | some .localOnly, .cloud => false
  | some .cloudOnly, .onNode => false
  | some .cloudOnly, .cloud => true
  | _, _ => true

/-- `_merge_routing_policy_modes`: the merged mode and whether the two modes conflict. -/
def mergeRoutingPolicyModes (promptMode requestMode : Option RoutingMode) :
    Option RoutingMode × Bool :=
  let onNode := routingModeScope promptMode .onNode && routingModeScope requestMode .onNode
  let cloud := routingModeScope promptMode .cloud && routingModeScope requestMode .cloud
  if !onNode && !cloud then (none, true)
  else if onNode && !cloud then (some .localOnly, false)
  else if !onNode && cloud then (some .cloudOnly, false)
  else (requestMode.or promptMode, false)

/-- **A merge intersects.** -/
theorem merge_scope {p r m : Option RoutingMode}
    (h : mergeRoutingPolicyModes p r = (m, false)) (s : Side) :
    routingModeScope m s = (routingModeScope p s && routingModeScope r s) := by
  rcases p with _ | _ | _ | _ | _ <;> rcases r with _ | _ | _ | _ | _ <;>
    simp_all [mergeRoutingPolicyModes, routingModeScope] <;>
    subst h <;> cases s <;> rfl

/-- Two modes conflict exactly when no side is in both scopes. -/
theorem merge_conflict_iff {p r : Option RoutingMode} :
    (mergeRoutingPolicyModes p r).2 = true ↔
      ∀ s, routingModeScope p s = false ∨ routingModeScope r s = false := by
  constructor
  · intro h s
    rcases p with _ | _ | _ | _ | _ <;> rcases r with _ | _ | _ | _ | _ <;>
      simp_all [mergeRoutingPolicyModes, routingModeScope] <;> cases s <;> simp
  · intro h
    have hl := h .onNode
    have hc := h .cloud
    rcases p with _ | _ | _ | _ | _ <;> rcases r with _ | _ | _ | _ | _ <;>
      simp_all [mergeRoutingPolicyModes, routingModeScope]

/-- A mode excludes the cloud exactly when it is `local_only`. -/
theorem scope_cloud_eq_false_iff {m : Option RoutingMode} :
    routingModeScope m .cloud = false ↔ m = some .localOnly := by
  rcases m with _ | _ | _ | _ | _ <;> simp [routingModeScope]

/-- A mode merged with `local_only` is `local_only`, from either side. -/
theorem localOnly_of_merge {p r : Option RoutingMode}
    (h : (mergeRoutingPolicyModes p r).2 = false)
    (hlocal : p = some .localOnly ∨ r = some .localOnly) :
    (mergeRoutingPolicyModes p r).1 = some .localOnly := by
  have hmerge : mergeRoutingPolicyModes p r = ((mergeRoutingPolicyModes p r).1, false) := by
    rw [← h]
  rw [← scope_cloud_eq_false_iff, merge_scope hmerge]
  rcases hlocal with rfl | rfl <;> simp [routingModeScope]

end Governance
end HexeAiNode
