import HexeAiNode.Python.Value

/-!
# Node ids

`normalize_node_id` and `is_valid_canonical_node_id`.  A canonical node id is `node-` and a UUID of version 4 in
lower case (`isValidCanonicalNodeId_iff`); a UUID alone is completed, and what has been normalised stays as it is
(`normalizeNodeId_normalizeNodeId`).
-/

namespace HexeAiNode
namespace Onboarding

open Py

/-! ## Patterns -/

/-- `[0-9a-f]`. -/
def isHexChar (c : Char) : Bool := ('0' ≤ c && c ≤ '9') || ('a' ≤ c && c ≤ 'f')

/-- `[89ab]`. -/
def isVariantChar (c : Char) : Bool := c == '8' || c == '9' || c == 'a' || c == 'b'

/-- One character of each class, and nothing more. -/
def matchesClasses : List (Char → Bool) → List Char → Bool
  | [], [] => true
  | p :: ps, c :: cs => p c && matchesClasses ps cs
  | _, _ => false

/-- The classes of a UUID up to its version. -/
def uuidHead : List (Char → Bool) :=
  List.replicate 8 isHexChar ++ [(· == '-')] ++ List.replicate 4 isHexChar ++ [(· == '-')]

/-- The classes of a UUID after its version. -/
def uuidTail : List (Char → Bool) :=
  List.replicate 3 isHexChar ++ [(· == '-'), isVariantChar] ++ List.replicate 3 isHexChar ++ [(· == '-')] ++
    List.replicate 12 isHexChar

/-- The text `node-`. -/
def nodePrefix : List Char := ['n', 'o', 'd', 'e', '-']

/-- `_UUID_V4_RE`.  A text that has been stripped does not end in a line break, so that `$` is its end. -/
def isUuidV4 (s : String) : Bool := matchesClasses (uuidHead ++ (· == '4') :: uuidTail) s.toList

/-- `_NODE_UUID_RE`. -/
def isNodeUuid (s : String) : Bool :=
  nodePrefix.isPrefixOf s.toList &&
    matchesClasses (uuidHead ++ (fun c => '1' ≤ c && c ≤ '5') :: uuidTail) (s.toList.drop 5)

/-! ## Node ids -/

/-- `normalize_node_id`. -/
def normalizeNodeId (value : Value) : String :=
  let normalized := value.normalizeLower
  if normalized = "" then ""
  else if isUuidV4 normalized then String.ofList (nodePrefix ++ normalized.toList)
  else normalized

/-- `is_valid_canonical_node_id`.  That the id starts with `node-` is part of the pattern.  The pattern allows the
versions 1 to 5; `uuid.UUID` reads the version off its digit, and prints the UUID as it stands, since the pattern
allows no upper case. -/
def isValidCanonicalNodeId (value : Value) : Bool :=
  let normalized := normalizeNodeId value
  isNodeUuid normalized && (normalized.toList.drop 5)[14]? == some '4'

/-- `derive_operational_mqtt_identity`. -/
def deriveOperationalMqttIdentity (value : Value) : String :=
  let normalized := normalizeNodeId value
  if normalized = "" then "" else "hn_" ++ normalized

/-! ## Matching -/

theorem matchesClasses_append {ps qs : List (Char → Bool)} {cs : List Char} :
    matchesClasses (ps ++ qs) cs =
      (matchesClasses ps (cs.take ps.length) && matchesClasses qs (cs.drop ps.length)) := by
  induction ps generalizing cs with
  | nil => cases qs <;> simp [matchesClasses]
  | cons p ps ih =>
    cases cs with
    | nil => simp [matchesClasses]
    | cons c cs => simp [matchesClasses, ih, Bool.and_assoc]

theorem matchesClasses_mono {p q : Char → Bool} {ps qs : List (Char → Bool)} {cs : List Char}
    (h : matchesClasses (ps ++ p :: qs) cs = true) (hq : ∀ c, cs[ps.length]? = some c → q c = true) :
    matchesClasses (ps ++ q :: qs) cs = true := by
  rw [matchesClasses_append, Bool.and_eq_true] at h ⊢
  refine ⟨h.1, ?_⟩
  obtain ⟨-, h⟩ := h
  rcases hdrop : cs.drop ps.length with _ | ⟨c, rest⟩
  · rw [hdrop] at h
    cases h
  · rw [hdrop, matchesClasses, Bool.and_eq_true] at h
    rw [matchesClasses, Bool.and_eq_true]
    refine ⟨hq c ?_, h.2⟩
    rw [← Nat.add_zero ps.length, ← List.getElem?_drop, hdrop]
    rfl

theorem matchesClasses_getElem {p : Char → Bool} {ps qs : List (Char → Bool)} {cs : List Char}
    (h : matchesClasses (ps ++ p :: qs) cs = true) : ∃ c, cs[ps.length]? = some c ∧ p c = true := by
  rw [matchesClasses_append, Bool.and_eq_true] at h
  obtain ⟨-, h⟩ := h
  rcases hdrop : cs.drop ps.length with _ | ⟨c, rest⟩
  · rw [hdrop] at h
    cases h
  · rw [hdrop, matchesClasses, Bool.and_eq_true] at h
    refine ⟨c, ?_, h.1⟩
    rw [← Nat.add_zero ps.length, ← List.getElem?_drop, hdrop]
    rfl

/-- **A canonical node id** is `node-` and a UUID of version 4 in lower case. -/
theorem isValidCanonicalNodeId_iff {value : Value} :
    isValidCanonicalNodeId value = true ↔
      ∃ u, isUuidV4 u = true ∧ normalizeNodeId value = String.ofList (nodePrefix ++ u.toList) := by
  unfold isValidCanonicalNodeId isNodeUuid
  dsimp only
  constructor
  · intro h
    simp only [Bool.and_eq_true, beq_iff_eq, List.isPrefixOf_iff_prefix] at h
    obtain ⟨⟨⟨u, hu⟩, hmatch⟩, hversion⟩ := h
    have hdrop : (normalizeNodeId value).toList.drop 5 = u := by
      rw [← hu]
      rfl
    refine ⟨String.ofList u, ?_, ?_⟩
    · rw [isUuidV4, String.toList_ofList, ← hdrop]
      refine matchesClasses_mono hmatch fun c hc => ?_
      rw [hversion.symm.trans hc |> Option.some.inj |>.symm]
      rfl
    · rw [String.toList_ofList, hu, String.ofList_toList]
  · rintro ⟨u, hu, hvalue⟩
    have hlist : (normalizeNodeId value).toList = nodePrefix ++ u.toList := by
      rw [hvalue, String.toList_ofList]
    have hdrop : (normalizeNodeId value).toList.drop 5 = u.toList := by
      rw [hlist]
      rfl
    simp only [Bool.and_eq_true, beq_iff_eq, List.isPrefixOf_iff_prefix, hdrop]
    rw [isUuidV4] at hu
    obtain ⟨c, hc, hfour⟩ := matchesClasses_getElem hu
    obtain rfl : c = '4' := by simpa using hfour
    refine ⟨⟨⟨u.toList, hlist.symm⟩, matchesClasses_mono hu fun d hd => ?_⟩, hc⟩
    rw [hc] at hd
    obtain rfl := Option.some.inj hd
    decide

/-! ## Normal forms -/

/-- A text that starts with `node-` is no UUID. -/
theorem isUuidV4_nodePrefix (cs : List Char) : isUuidV4 (String.ofList (nodePrefix ++ cs)) = false := by
  rw [isUuidV4, String.toList_ofList]
  rfl

theorem normalizeLower_of_fixed {s : String} (hstrip : strip s = s) (hlower : lower s = s) :
    Value.normalizeLower (.str s) = s := by
  rw [Value.normalizeLower, Value.normalizeString_str, hstrip, hlower]

/-- **Normalising twice** is normalising once. -/
theorem normalizeNodeId_normalizeNodeId (value : Value) :
    normalizeNodeId (.str (normalizeNodeId value)) = normalizeNodeId value := by
  have hstrip : strip value.normalizeLower = value.normalizeLower := Value.strip_normalizeLower value
  have hlower : lower value.normalizeLower = value.normalizeLower := lower_lower _
  by_cases hempty : value.normalizeLower = ""
  · have hvalue : normalizeNodeId value = "" := by rw [normalizeNodeId, if_pos hempty]
    rw [hvalue]
    rfl
  by_cases huuid : isUuidV4 value.normalizeLower = true
  · have hvalue : normalizeNodeId value = String.ofList (nodePrefix ++ value.normalizeLower.toList) := by
      rw [normalizeNodeId, if_neg hempty, if_pos huuid]
    have hne : value.normalizeLower.toList ≠ [] := fun h => hempty (String.toList_eq_nil_iff.mp h)
    have htrimmed := trimmed_strip value.normalizeLower
    rw [hstrip] at htrimmed
    have hfixed : Value.normalizeLower (.str (normalizeNodeId value)) = normalizeNodeId value := by
      refine normalizeLower_of_fixed ?_ ?_
      · rw [hvalue]
        refine strip_eq_self ⟨fun c hc => ?_, fun c hc => ?_⟩
        · rw [String.toList_ofList] at hc
          obtain rfl : 'n' = c := Option.some.inj hc
          decide
        · rw [String.toList_ofList, List.getLast?_append_of_ne_nil _ hne] at hc
          exact htrimmed.2 c hc
      · rw [hvalue, lower, String.toList_ofList, List.flatMap_append]
        have htail : value.normalizeLower.toList.flatMap lowerChar = value.normalizeLower.toList := by
          have h := congrArg String.toList hlower
          rwa [lower, String.toList_ofList] at h
        rw [htail]
        rfl
    rw [normalizeNodeId, hfixed, hvalue, isUuidV4_nodePrefix]
    refine (if_neg fun h => ?_).trans (if_neg Bool.false_ne_true)
    have h := congrArg String.toList h
    rw [String.toList_ofList] at h
    cases h
  · have hvalue : normalizeNodeId value = value.normalizeLower := by
      rw [normalizeNodeId, if_neg hempty, if_neg huuid]
    rw [normalizeNodeId, hvalue, normalizeLower_of_fixed hstrip hlower, if_neg hempty, if_neg huuid]

end Onboarding
end HexeAiNode
