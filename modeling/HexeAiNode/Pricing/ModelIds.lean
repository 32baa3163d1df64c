import HexeAiNode.Python.Coercion
import HexeAiNode.Python.Substring

/-!
# The model ids of a price list

`resolve_openai_base_model_id` takes a date at the end of an id away, again and again, and then one of the tags
`-latest` and `-preview`.  It is not idempotent: what is in front of the tag may end in a date or a tag again.

Its values are lower-case texts without white space in front (`lowered_resolve`), and resolving one once more
takes a part of it (`sublist_resolve`).
-/

namespace HexeAiNode
namespace Pricing

open Py

/-! ## Dates at the end of an id -/

/-- `\d`. -/
def isDecimal (c : Char) : Bool := (digitVal c).isSome

/-- A text of this shape: a digit where the shape says nothing, else the character it says. -/
def fitsShape : List (Option Char) → List Char → Bool
  | [], [] => true
  | shape :: shapes, c :: cs => (shape.elim (isDecimal c) (· == c)) && fitsShape shapes cs
  | _, _ => false

/-- `_DATE_SUFFIX_PATTERNS`: `-2024-05-13` and `-20240513`. -/
def dateSuffixPatterns : List (List (Option Char)) :=
  [some '-' :: List.replicate 4 none ++ some '-' :: List.replicate 2 none ++ some '-' :: List.replicate 2 none,
    some '-' :: List.replicate 8 none]

/-- What stands in front of a suffix of this shape: one line, and not nothing. -/
def baseBefore (shape : List (Option Char)) (cs : List Char) : Option (List Char) :=
  let base := cs.take (cs.length - shape.length)
  if fitsShape shape (cs.drop (cs.length - shape.length)) ∧ base ≠ [] ∧ '\n' ∉ base then some base else none

/-- What stands in front of a date. -/
@[irreducible] def datedBase (cs : List Char) : Option (List Char) :=
  dateSuffixPatterns.findSome? fun shape => baseBefore shape cs

/-- The id without one tag. -/
@[irreducible] def withoutTag (normalized : String) : String :=
  (["-latest", "-preview"].findSome? fun suffix =>
    let base := String.ofList (normalized.toList.take (normalized.length - suffix.length))
    if endsWith normalized suffix ∧ base ≠ "" then some base else none).getD normalized

/-- `resolve_openai_base_model_id`, with a bound on the number of dates. -/
def resolveFrom : ℕ → String → String
  | 0, _ => ""
  | fuel + 1, modelId =>
    if stripLower modelId = "" then ""
    else
      match datedBase (stripLower modelId).toList with
      | some base => resolveFrom fuel (String.ofList base)
      | none => withoutTag (stripLower modelId)

/-- `resolve_openai_base_model_id`. -/
@[irreducible] def resolveOpenaiBaseModelId (modelId : String) : String := resolveFrom ((stripLower modelId).length + 1) modelId

example : resolveOpenaiBaseModelId " GPT-4o-2024-05-13 " = "gpt-4o" := by decide +kernel
example : resolveOpenaiBaseModelId "gpt-x-latest-preview" = "gpt-x-latest" := by decide +kernel

/-- `is_openai_date_versioned_model_id`. -/
def isOpenaiDateVersionedModelId (modelId : String) : Bool :=
  let cs := (stripLower modelId).toList
  cs != [] && ((datedBase cs).isSome ||
    fitsShape (some '-' :: List.replicate 4 none) (cs.drop (cs.length - 5)))

/-- `_is_ai_extraction_target_model_id`. -/
def isAiExtractionTargetModelId (modelId : String) : Bool :=
  let normalized := stripLower modelId
  normalized != "" && !(isOpenaiDateVersionedModelId normalized && !startsWith normalized "omni-moderation-") &&
    !(contains normalized "latest" || contains normalized "preview")

/-! ## Families -/

/-- `_CANONICAL_FAMILIES`. -/
def canonicalFamilies : List String :=
  ["llm", "embeddings", "realtime_voice", "text_to_speech", "speech_to_text", "image_generation",
    "video_generation", "moderation"]

/-- `_CANONICAL_PRICING_BASIS`. -/
def canonicalPricingBasis : List String :=
  ["per_1m_tokens", "per_1m_characters", "per_image", "per_second", "per_minute"]

/-- `_classify_family_from_model_id`. -/
def classifyFamilyFromModelId (modelId : String) : Option String :=
  let normalized := stripLower modelId
  if normalized ∈ ["gpt-image-1", "gpt-image-1-mini", "gpt-image-1.5", "gpt-image-2"] then some "image_generation"
  else if startsWith normalized "sora-" then some "video_generation"
  else if startsWith normalized "gpt-realtime-" then some "realtime_voice"
  else if startsWith normalized "whisper-" then some "speech_to_text"
  else if startsWith normalized "tts-" then some "text_to_speech"
  else if startsWith normalized "text-embedding-" then some "embeddings"
  else if startsWith normalized "omni-moderation-" then some "moderation"
  else if startsWith normalized "gpt-" then some "llm"
  else none

/-- `_normalize_family`. -/
def normalizeFamily (value : Value) (modelId : String) : String :=
  let raw := value.normalizeLower
  let raw := if raw = "realtime" then "realtime_voice" else raw
  if raw ∈ canonicalFamilies then raw
  else
    match classifyFamilyFromModelId modelId with
    | some derived => if derived ∈ canonicalFamilies then derived else "llm"
    | none => "llm"

/-- The family of an id. -/
def familyOf (modelId : String) : String := normalizeFamily .null modelId

/-- `_default_pricing_basis_for_family`. -/
def defaultPricingBasisForFamily (family : String) : String :=
  if family ∈ ["llm", "embeddings", "realtime_voice", "moderation"] then "per_1m_tokens"
  else if family = "text_to_speech" then "per_1m_characters"
  else if family = "speech_to_text" then "per_minute"
  else if family = "image_generation" then "per_image"
  else if family = "video_generation" then "per_second"
  else "per_1m_tokens"

/-- `_default_normalized_unit`. -/
def defaultNormalizedUnit (basis : String) : String :=
  if basis = "per_image" then "medium_1024x1536_per_image"
  else if basis ∈ canonicalPricingBasis then basis
  else "unknown"

/-- Every family is canonical. -/
theorem normalizeFamily_mem (value : Value) (modelId : String) :
    normalizeFamily value modelId ∈ canonicalFamilies := by
  unfold normalizeFamily
  dsimp only
  generalize (if value.normalizeLower = "realtime" then "realtime_voice" else value.normalizeLower) = raw
  split
  · assumption
  · split
    · split
      · assumption
      · decide
    · decide

/-! ## Resolving -/

section Resolve

variable {cs base : List Char} {modelId : String}

theorem baseBefore_spec {shape : List (Option Char)} (h : baseBefore shape cs = some base) :
    base ≠ [] ∧ base = cs.take (cs.length - shape.length) := by
  unfold baseBefore at h
  dsimp only at h
  split at h
  · rename_i hfits
    obtain rfl := Option.some.inj h
    exact ⟨hfits.2.1, rfl⟩
  · cases h

/-- What stands in front of a date is a shorter prefix. -/
theorem datedBase_spec (h : datedBase cs = some base) : base ≠ [] ∧ base <+: cs ∧ base.length < cs.length := by
  unfold datedBase at h
  obtain ⟨shape, hshape, h⟩ := List.exists_of_findSome?_eq_some h
  obtain ⟨hne, rfl⟩ := baseBefore_spec h
  refine ⟨hne, List.take_prefix _ _, ?_⟩
  have hpos : 0 < cs.length := List.length_pos_iff.mpr fun hnil => hne (by simp [hnil])
  have hshapePos : 0 < shape.length := by
    rcases List.mem_cons.mp hshape with rfl | hshape
    · decide
    · obtain rfl := List.mem_singleton.mp hshape
      decide
  rw [List.length_take]
  omega

/-- Characters that `lower` leaves alone. -/
def Lowered (cs : List Char) : Prop := ∀ c ∈ cs, lowerChar c = [c]

theorem Lowered.flatMap_eq (h : Lowered cs) : cs.flatMap lowerChar = cs := by
  induction cs with
  | nil => rfl
  | cons c cs ih =>
      rw [List.flatMap_cons, h c List.mem_cons_self, ih fun d hd => h d (List.mem_cons_of_mem _ hd)]
      rfl

theorem lowered_stripLower (s : String) : Lowered (stripLower s).toList := by
  intro c hc
  rw [stripLower, lower, String.toList_ofList] at hc
  obtain ⟨d, -, hd⟩ := List.mem_flatMap.mp hc
  exact lowerChar_of_mem_lowerChar hd

theorem Lowered.sublist (h : Lowered cs) (hsub : base.Sublist cs) : Lowered base := fun c hc => h c (hsub.subset hc)

theorem strip_sublist (s : String) : (strip s).toList.Sublist s.toList := by
  rw [toList_strip]
  exact (List.rdropWhile_prefix _ _).sublist.trans (List.dropWhile_suffix _).sublist

/-- A lower-case text is only stripped. -/
theorem stripLower_of_lowered {s : String} (h : Lowered s.toList) : stripLower s = strip s := by
  rw [stripLower, lower, (h.sublist (strip_sublist s)).flatMap_eq, String.ofList_toList]

/-- Normalizing what stands in front of a date makes it shorter than the normalized id. -/
theorem length_stripLower_base (h : datedBase (stripLower modelId).toList = some base) :
    (stripLower (String.ofList base)).length < (stripLower modelId).length := by
  obtain ⟨-, hprefix, hlength⟩ := datedBase_spec h
  have hlowered : Lowered (String.ofList base).toList := by
    rw [String.toList_ofList]
    exact (lowered_stripLower modelId).sublist hprefix.sublist
  rw [stripLower_of_lowered hlowered, ← String.length_toList, ← String.length_toList]
  refine (strip_sublist _).length_le.trans_lt ?_
  rwa [String.toList_ofList]

theorem resolveFrom_succ (fuel : ℕ) (modelId : String) : resolveFrom (fuel + 1) modelId =
    if stripLower modelId = "" then ""
    else
      match datedBase (stripLower modelId).toList with
      | some base => resolveFrom fuel (String.ofList base)
      | none => withoutTag (stripLower modelId) := rfl

/-- The fuel does not matter when there is enough of it. -/
theorem resolveFrom_eq_resolveFrom {fuel fuel' : ℕ} (h : (stripLower modelId).length < fuel)
    (h' : (stripLower modelId).length < fuel') : resolveFrom fuel modelId = resolveFrom fuel' modelId := by
  induction fuel generalizing modelId fuel' with
  | zero => omega
  | succ fuel ih =>
      obtain _ | fuel' := fuel'
      · omega
      · simp only [resolveFrom_succ]
        rcases hbase : datedBase (stripLower modelId).toList with _ | base
        · rfl
        · have hlength := length_stripLower_base hbase
          dsimp only
          rw [ih (by omega) (by omega : _ < fuel')]

/-- **The equation of `resolve_openai_base_model_id`.** -/
theorem resolve_eq (modelId : String) : resolveOpenaiBaseModelId modelId =
    if stripLower modelId = "" then ""
    else
      match datedBase (stripLower modelId).toList with
      | some base => resolveOpenaiBaseModelId (String.ofList base)
      | none => withoutTag (stripLower modelId) := by
  have hunfold (s : String) : resolveOpenaiBaseModelId s = resolveFrom ((stripLower s).length + 1) s := by
    unfold resolveOpenaiBaseModelId
    rfl
  rw [hunfold, resolveFrom_succ]
  rcases hbase : datedBase (stripLower modelId).toList with _ | base
  · rfl
  · have hlength := length_stripLower_base hbase
    dsimp only
    rw [resolveFrom_eq_resolveFrom hlength (Nat.lt_add_one _), hunfold]

theorem prefix_withoutTag (normalized : String) : (withoutTag normalized).toList <+: normalized.toList := by
  unfold withoutTag
  generalize hfound : List.findSome? _ _ = found
  rcases found with _ | base
  · exact List.prefix_rfl
  · obtain ⟨suffix, -, hbase⟩ := List.exists_of_findSome?_eq_some hfound
    dsimp only at hbase
    split at hbase
    · obtain rfl := Option.some.inj hbase
      rw [Option.getD_some, String.toList_ofList]
      exact List.take_prefix _ _
    · cases hbase

theorem sublist_resolveFrom (fuel : ℕ) (modelId : String) :
    (resolveFrom fuel modelId).toList.Sublist (stripLower modelId).toList := by
  induction fuel generalizing modelId with
  | zero => exact List.nil_sublist _
  | succ fuel ih =>
      rw [resolveFrom_succ]
      split
      · exact List.nil_sublist _
      · rcases hbase : datedBase (stripLower modelId).toList with _ | base
        · exact (prefix_withoutTag _).sublist
        · obtain ⟨-, hprefix, -⟩ := datedBase_spec hbase
          have hlowered : Lowered (String.ofList base).toList := by
            rw [String.toList_ofList]
            exact (lowered_stripLower modelId).sublist hprefix.sublist
          have hstrip := strip_sublist (String.ofList base)
          rw [String.toList_ofList] at hstrip
          refine (ih (String.ofList base)).trans ?_
          rw [stripLower_of_lowered hlowered]
          exact hstrip.trans hprefix.sublist

/-- An id is resolved to a part of its normal form. -/
theorem sublist_resolve (modelId : String) :
    (resolveOpenaiBaseModelId modelId).toList.Sublist (stripLower modelId).toList := by
  unfold resolveOpenaiBaseModelId
  exact sublist_resolveFrom _ _

/-- **A resolved id is in lower case.** -/
theorem lowered_resolve (modelId : String) : Lowered (resolveOpenaiBaseModelId modelId).toList :=
  (lowered_stripLower modelId).sublist (sublist_resolve modelId)

/-- Resolving a lower-case text takes a part of it. -/
theorem Lowered.sublist_resolve {s : String} (h : Lowered s.toList) :
    (resolveOpenaiBaseModelId s).toList.Sublist s.toList := by
  refine (Pricing.sublist_resolve s).trans ?_
  rw [stripLower_of_lowered h]
  exact strip_sublist s

end Resolve

end Pricing
end HexeAiNode
