import HexeAiNode.Python.Coercion

/-!
# Prompt versions

Three spellings of a version are in use.  The canonical one, `v2.0` or `v2.0.1`, is the one that is stored.
A major number alone, `v2`, is short for the canonical one that ends in `.0`.  The dated one,
`2026-01-05.v2`, is found in stored prompts and is accepted where the caller asks for it.

`normalizePromptVersion_normalized` says that a normalized version is normalized again as it is.
-/

namespace HexeAiNode
namespace Prompts

open Py

/-! ## The spellings -/

/-- `[0-9]`. -/
def isDigit (c : Char) : Bool := decide (48 ≤ c.toNat ∧ c.toNat ≤ 57)

/-- `[1-9][0-9]*`. -/
def isPositiveNumeral : List Char → Bool
  | [] => false
  | c :: cs => isDigit c && c != '0' && cs.all isDigit

/-- `0|[1-9][0-9]*`. -/
def isNumeral (cs : List Char) : Bool := cs == ['0'] || isPositiveNumeral cs

/-- `LEGACY_MAJOR_ONLY_PROMPT_VERSION_PATTERN`. -/
def isMajorOnly : List Char → Bool
  | 'v' :: cs => isPositiveNumeral cs
  | _ => false

/-- `(?:\.(?:0|[1-9][0-9]*))?`. -/
def isPatch : List Char → Bool
  | [] => true
  | '.' :: cs => isNumeral cs
  | _ => false

/-- `\.(?:0|[1-9][0-9]*)`, followed by what `isPatch` accepts. -/
def isMinor : List Char → Bool
  | '.' :: cs => isNumeral (cs.takeWhile isDigit) && isPatch (cs.dropWhile isDigit)
  | _ => false

/-- `CANONICAL_PROMPT_VERSION_PATTERN`. -/
def isCanonical : List Char → Bool
  | 'v' :: cs => isPositiveNumeral (cs.takeWhile isDigit) && isMinor (cs.dropWhile isDigit)
  | _ => false

/-- `LEGACY_STORED_PROMPT_VERSION_PATTERN`. -/
def isLegacyStored : List Char → Bool
  | y₁ :: y₂ :: y₃ :: y₄ :: '-' :: m₁ :: m₂ :: '-' :: d₁ :: d₂ :: '.' :: 'v' :: n =>
    [y₁, y₂, y₃, y₄, m₁, m₂, d₁, d₂].all isDigit && isPositiveNumeral n
  | _ => false

/-- `normalize_prompt_version`. -/
def normalizePromptVersion (value : Value) (allowLegacyStored : Bool) : Except Exc String :=
  let version := value.normalizeString
  if isMajorOnly version.toList then .ok (version ++ ".0")
  else if isCanonical version.toList then .ok version
  else if allowLegacyStored && isLegacyStored version.toList then .ok version
  else .error ⟨.valueError, "invalid_prompt_version"⟩

/-- `prompt_version_major`: the text up to the first dot, read by `int`. -/
def promptVersionMajor (value : Value) : Except Exc (Option ℤ) :=
  match normalizePromptVersion value false with
  | .error _ => pure none
  | .ok version => do
    let major ← (Value.str (String.ofList ((version.toList.drop 1).takeWhile (· != '.')))).toInt
    pure (some major)

/-! ## Normalizing twice -/

theorem isSpace_of_isDigit {c : Char} (h : isDigit c = true) : isSpace c = false := by
  have h := of_decide_eq_true h
  simp [isSpace]
  omega

theorem isDigit_of_isPositiveNumeral {cs : List Char} (h : isPositiveNumeral cs = true) :
    cs ≠ [] ∧ ∀ c ∈ cs, isDigit c = true := by
  cases cs with
  | nil => simp [isPositiveNumeral] at h
  | cons c cs =>
    simp only [isPositiveNumeral, Bool.and_eq_true] at h
    exact ⟨List.cons_ne_nil _ _, List.forall_mem_cons.mpr ⟨h.1.1, List.all_eq_true.mp h.2⟩⟩

theorem isMajorOnly_iff {cs : List Char} :
    isMajorOnly cs = true ↔ ∃ n, cs = 'v' :: n ∧ isPositiveNumeral n = true := by
  constructor
  · intro h
    unfold isMajorOnly at h
    split at h
    · exact ⟨_, rfl, h⟩
    · cases h
  · rintro ⟨n, rfl, h⟩
    exact h

/-- The short form of a version is not a long one. -/
theorem not_isMajorOnly_append (cs : List Char) : isMajorOnly (cs ++ ['.', '0']) = false := by
  rw [← Bool.not_eq_true, isMajorOnly_iff]
  rintro ⟨n, hn, h⟩
  have hdot : '.' ∈ 'v' :: n := hn ▸ by simp
  rcases List.mem_cons.mp hdot with hv | hdot
  · cases hv
  · have := (isDigit_of_isPositiveNumeral h).2 _ hdot
    revert this
    decide

/-- **The long form of a major number is canonical.** -/
theorem isCanonical_of_isMajorOnly {cs : List Char} (h : isMajorOnly cs = true) :
    isCanonical (cs ++ ['.', '0']) = true := by
  obtain ⟨n, rfl, hn⟩ := isMajorOnly_iff.mp h
  have hdigits := (isDigit_of_isPositiveNumeral hn).2
  have htake : (n ++ ['.', '0']).takeWhile isDigit = n := by
    rw [List.takeWhile_append_of_pos hdigits]
    simp [isDigit]
  have hdrop : (n ++ ['.', '0']).dropWhile isDigit = ['.', '0'] := by
    rw [List.dropWhile_append_of_pos hdigits]
    rfl
  show (isPositiveNumeral ((n ++ ['.', '0']).takeWhile isDigit) &&
    isMinor ((n ++ ['.', '0']).dropWhile isDigit)) = true
  rw [htake, hdrop, hn]
  rfl

/-- The long form of a major number has nothing to strip. -/
theorem strip_append_of_isMajorOnly {version : String} (h : isMajorOnly version.toList = true) :
    strip (version ++ ".0") = version ++ ".0" := by
  obtain ⟨n, hn, -⟩ := isMajorOnly_iff.mp h
  refine strip_eq_self ⟨fun c hc => ?_, fun c hc => ?_⟩
  · rw [String.toList_append, hn] at hc
    obtain rfl := Option.some.inj hc
    decide
  · rw [String.toList_append, List.getLast?_append] at hc
    obtain rfl := Option.some.inj hc
    decide

/-- **A normalized version stays as it is.** -/
theorem normalizePromptVersion_normalized {value : Value} {legacy : Bool} {version : String}
    (h : normalizePromptVersion value legacy = .ok version) :
    normalizePromptVersion (.str version) legacy = .ok version := by
  unfold normalizePromptVersion at h
  dsimp only at h
  split at h
  · next hmajor =>
    obtain rfl := Except.ok.inj h
    have hcanonical := isCanonical_of_isMajorOnly hmajor
    unfold normalizePromptVersion
    rw [Value.normalizeString_str, strip_append_of_isMajorOnly hmajor]
    simp [String.toList_append, not_isMajorOnly_append, hcanonical]
  · next hmajor =>
    split at h
    · next hcanonical =>
      obtain rfl := Except.ok.inj h
      simp [normalizePromptVersion, hmajor, hcanonical]
    · next hcanonical =>
      split at h
      · next hlegacy =>
        obtain rfl := Except.ok.inj h
        simp only [Bool.and_eq_true] at hlegacy
        simp [normalizePromptVersion, hmajor, hcanonical, hlegacy]
      · cases h

/-- What a normalized version is. -/
theorem normalizePromptVersion_spec {value : Value} {legacy : Bool} {version : String}
    (h : normalizePromptVersion value legacy = .ok version) :
    isCanonical version.toList = true ∨ legacy = true ∧ isLegacyStored version.toList = true := by
  unfold normalizePromptVersion at h
  dsimp only at h
  split at h
  · next hmajor =>
    obtain rfl := Except.ok.inj h
    left
    rw [String.toList_append]
    exact isCanonical_of_isMajorOnly hmajor
  · split at h
    · next hcanonical =>
      obtain rfl := Except.ok.inj h
      exact Or.inl hcanonical
    · split at h
      · next hlegacy =>
        obtain rfl := Except.ok.inj h
        exact Or.inr ((Bool.and_eq_true _ _).mp hlegacy)
      · cases h

example : normalizePromptVersion (.str " v2 ") false = .ok "v2.0" := by decide
example : normalizePromptVersion (.str "2026-01-05.v2") true = .ok "2026-01-05.v2" := by decide

end Prompts
end HexeAiNode
