import Mathlib.Algebra.Order.Floor.Ring
import Mathlib.Data.Rat.Floor
import HexeAiNode.Python.Assoc
import HexeAiNode.Python.Text

/-!
# Python values

The dynamically typed values that reach request handling code through JSON, and the coercions that
code applies to them.  A `Value` is what `json.loads` builds: `None`, a boolean, an integer, a float,
a text, a list, or a dictionary with text keys in insertion order.

A float carries its exact value (or one of the three non-finite ones) together with its `repr`, so
no rounding has to be reproduced: the code below only truncates floats, compares them and prints
them.

The coercions follow the interpreter, including the ways they fail:

* `truthy`, `str` and `normalizeString` are `bool(x)`, `str(x)` and `str(x or "").strip()`;
* `toInt` is `int(x)` with its `TypeError`, `ValueError` and `OverflowError`;
* `toItems` is `list(x or [])`, which iterates a dictionary by its keys and a text by its characters;
* `setContains` is `x in set(xs)`, which fails on a list or a dictionary.
-/

namespace Py

/-! ## Exceptions -/

/-- The exception classes the code distinguishes.  Everything except `cancelledError` derives from
`Exception`; a pydantic `ValidationError` is a `ValueError`. -/
inductive ExcClass where
  | valueError
  | validationError
  | typeError
  | overflowError
  | attributeError
  | runtimeError
  | osError
  | other (name : String)
  | cancelledError
  deriving DecidableEq, Repr

/-- A raised exception: its class and its text. -/
structure Exc where
  cls : ExcClass
  text : String
  deriving DecidableEq, Repr

namespace Exc

/-- Caught by `except ValueError`. -/
def isValueError (e : Exc) : Bool :=
  match e.cls with
  | .valueError | .validationError => true
  | _ => false

/-- Caught by `except Exception`: `asyncio.CancelledError` is a `BaseException` only. -/
def isException (e : Exc) : Bool :=
  match e.cls with
  | .cancelledError => false
  | _ => true

@[simp] theorem isException_mk_cancelled (t : String) :
    (Exc.mk .cancelledError t).isException = false := rfl

theorem isException_eq_false_iff {e : Exc} :
    e.isException = false ↔ e.cls = .cancelledError := by
  rcases e with ⟨cls, text⟩
  cases cls <;> simp [isException]

theorem isException_of_isValueError {e : Exc} (h : e.isValueError = true) :
    e.isException = true := by
  rcases e with ⟨cls, text⟩
  cases cls <;> simp_all [isValueError, isException]

end Exc

/-- A computation that succeeds after a first step made that step succeed. -/
theorem bind_eq_ok {α β : Type} {x : Except Exc α} {f : α → Except Exc β} {b : β} :
    (x >>= f) = .ok b ↔ ∃ a, x = .ok a ∧ f a = .ok b := by
  cases x <;> simp [bind, Except.bind]

@[simp] theorem pure_eq_ok {α : Type} {a b : α} :
    (pure a : Except Exc α) = .ok b ↔ a = b := by
  simp [pure, Except.pure]

/-- Every element of a list that is mapped without an exception has a value in the result. -/
theorem exists_mem_of_mapM_eq_ok {α β : Type} {f : α → Except Exc β} {l : List α} {ys : List β} {x : α}
    (h : l.mapM f = .ok ys) (hx : x ∈ l) : ∃ y ∈ ys, f x = .ok y := by
  induction l generalizing ys with
  | nil => cases hx
  | cons a l ih =>
    rw [List.mapM_cons] at h
    obtain ⟨y, hy, h⟩ := bind_eq_ok.mp h
    obtain ⟨ys', hys, h⟩ := bind_eq_ok.mp h
    obtain rfl := pure_eq_ok.mp h
    rcases List.mem_cons.mp hx with rfl | hx
    · exact ⟨y, List.mem_cons_self, hy⟩
    · obtain ⟨z, hz, hfx⟩ := ih hys hx
      exact ⟨z, List.mem_cons_of_mem y hz, hfx⟩

theorem exists_of_mapM_eq_ok {α β : Type} {f : α → Except Exc β} {l : List α} {ys : List β} {x : α}
    (h : l.mapM f = .ok ys) (hx : x ∈ l) : ∃ y, f x = .ok y :=
  have ⟨y, _, hy⟩ := exists_mem_of_mapM_eq_ok h hx
  ⟨y, hy⟩

/-- Every value of such a map is that of an element. -/
theorem exists_of_mem_mapM_eq_ok {α β : Type} {f : α → Except Exc β} {l : List α} {ys : List β} {y : β}
    (h : l.mapM f = .ok ys) (hy : y ∈ ys) : ∃ x ∈ l, f x = .ok y := by
  induction l generalizing ys with
  | nil =>
    obtain rfl := pure_eq_ok.mp h
    cases hy
  | cons a l ih =>
    rw [List.mapM_cons] at h
    obtain ⟨z, hz, h⟩ := bind_eq_ok.mp h
    obtain ⟨zs, hzs, h⟩ := bind_eq_ok.mp h
    obtain rfl := pure_eq_ok.mp h
    rcases List.mem_cons.mp hy with rfl | hy
    · exact ⟨a, List.mem_cons_self, hz⟩
    · obtain ⟨x, hx, hfx⟩ := ih hzs hy
      exact ⟨x, List.mem_cons_of_mem a hx, hfx⟩

/-- An exception of such a map is one of an element. -/
theorem exists_of_mapM_eq_error {α β : Type} {f : α → Except Exc β} {l : List α} {e : Exc}
    (h : l.mapM f = .error e) : ∃ x ∈ l, f x = .error e := by
  induction l with
  | nil => cases h
  | cons a l ih =>
    rw [List.mapM_cons] at h
    rcases ha : f a with e' | y
    · rw [ha] at h
      obtain rfl := Except.error.inj h
      exact ⟨a, List.mem_cons_self, ha⟩
    · rw [ha] at h
      rcases hl : l.mapM f with e' | ys
      · rw [hl] at h
        obtain rfl := Except.error.inj h
        obtain ⟨x, hx, hfx⟩ := ih hl
        exact ⟨x, List.mem_cons_of_mem a hx, hfx⟩
      · rw [hl] at h
        cases h

/-! ## Values -/

/-- The value of a Python float. -/
inductive FloatVal where
  | finite (q : ℚ)
  | posInf
  | negInf
  | nan
  deriving DecidableEq

/-- A value as `json.loads` builds it. -/
inductive Value where
  | null
  | bool (b : Bool)
  | int (i : Int)
  | float (x : FloatVal) (text : String)
  | str (s : String)
  | list (xs : List Value)
  | dict (kvs : List (String × Value))

/-- The entries of a dictionary in insertion order. -/
abbrev Dict := List (String × Value)

namespace Value

/-- `bool(x)`. -/
def truthy : Value → Bool
  | null => false
  | bool b => b
  | int i => i != 0
  | float (.finite q) _ => q != 0
  | float _ _ => true
  | str s => s != ""
  | list xs => !xs.isEmpty
  | dict kvs => !kvs.isEmpty

@[simp] theorem truthy_null : truthy null = false := rfl
@[simp] theorem truthy_bool (b : Bool) : truthy (bool b) = b := rfl

@[simp] theorem truthy_str {s : String} : truthy (str s) = true ↔ s ≠ "" := by
  simp [truthy]

@[simp] theorem truthy_list {xs : List Value} : truthy (list xs) = true ↔ xs ≠ [] := by
  cases xs <;> simp [truthy]

/-- `x or y`. -/
def orElse (x y : Value) : Value := if x.truthy then x else y

/-- `x if isinstance(x, dict) else {}`. -/
def asDict : Value → Dict
  | dict kvs => kvs
  | _ => []

/-- `isinstance(x, dict)`. -/
def isDict : Value → Bool
  | dict _ => true
  | _ => false

/-- `isinstance(x, list)`. -/
def isList : Value → Bool
  | list _ => true
  | _ => false

/-- `x is True`. -/
def isTrue : Value → Bool
  | bool true => true
  | _ => false

/-- `x is None`. -/
def isNull : Value → Bool
  | null => true
  | _ => false

@[simp] theorem asDict_null : asDict null = [] := rfl
@[simp] theorem asDict_dict (kvs : Dict) : asDict (dict kvs) = kvs := rfl
@[simp] theorem isDict_dict (kvs : Dict) : isDict (dict kvs) = true := rfl

theorem isNull_iff {v : Value} : v.isNull = true ↔ v = null := by
  cases v <;> simp [isNull]

/-- The value of a number; booleans are numbers. -/
def number? : Value → Option FloatVal
  | bool b => some (.finite (if b then 1 else 0))
  | int i => some (.finite i)
  | float x _ => some x
  | _ => none

mutual

/-- `x == y`: numbers compare by value, dictionaries without regard to order. -/
def same : Value → Value → Bool
  | null, null => true
  | str s, str t => s == t
  | list xs, list ys => sameList xs ys
  | dict kvs, dict kvs' => kvs.length == kvs'.length && sameEntries kvs kvs'
  | x, y =>
    match x.number?, y.number? with
    | some a, some b => a != .nan && a == b
    | _, _ => false

/-- Elementwise equality. -/
def sameList : List Value → List Value → Bool
  | [], [] => true
  | x :: xs, y :: ys => same x y && sameList xs ys
  | _, _ => false

/-- Every entry occurs in the other dictionary. -/
def sameEntries : List (String × Value) → Dict → Bool
  | [], _ => true
  | (k, v) :: kvs, d =>
    (match Assoc.get? d k with
      | some w => same v w
      | none => false) && sameEntries kvs d

end

end Value

/-! ## Dictionaries of values -/

namespace Dict

/-- `d.get(key)`, with `None` for a missing key. -/
def get (d : Dict) (key : String) : Value := (Assoc.get? d key).getD .null

/-- `d[key] = v`. -/
def set (d : Dict) (key : String) (v : Value) : Dict := Assoc.set d key v

@[simp] theorem get_nil (key : String) : get [] key = .null := rfl

@[simp] theorem get_set_self (d : Dict) (key : String) (v : Value) :
    get (set d key v) key = v := by
  simp [get, set]

theorem get_set_of_ne (d : Dict) {key key' : String} (v : Value) (h : key' ≠ key) :
    get (set d key v) key' = get d key' := by
  simp [get, set, Assoc.get?_set_of_ne d v h]

theorem set_ne_nil (d : Dict) (key : String) (v : Value) : set d key v ≠ [] :=
  Assoc.set_ne_nil d key v

end Dict

/-! ## Printing -/

/-- One hexadecimal digit. -/
def hexDigit (n : Nat) : Char :=
  if n < 10 then Char.ofNat (48 + n) else Char.ofNat (87 + n)

/-- The last `w` hexadecimal digits of a number. -/
def hexDigits : Nat → Nat → List Char
  | 0, _ => []
  | w + 1, n => hexDigits w (n / 16) ++ [hexDigit (n % 16)]

/-- One character inside a text's `repr` between quotes `q`.  Characters outside ASCII are taken as
printable. -/
def reprChar (q c : Char) : List Char :=
  let n := c.toNat
  if c = q ∨ n = 92 then [Char.ofNat 92, c]
  else if n = 9 then [Char.ofNat 92, 't']
  else if n = 10 then [Char.ofNat 92, 'n']
  else if n = 13 then [Char.ofNat 92, 'r']
  else if n < 32 ∨ n = 127 then [Char.ofNat 92, 'x'] ++ hexDigits 2 n
  else [c]

/-- `repr` of a text: single quotes unless the text has a single quote and no double quote. -/
def reprStr (s : String) : String :=
  let single := Char.ofNat 39
  let double := Char.ofNat 34
  let q := if s.toList.contains single && !s.toList.contains double then double else single
  String.ofList ([q] ++ s.toList.flatMap (reprChar q) ++ [q])

/-- Join with a separator. -/
def join (sep : String) : List String → String
  | [] => ""
  | [x] => x
  | x :: xs => x ++ sep ++ join sep xs

mutual

/-- `repr(x)`. -/
def Value.repr : Value → String
  | .null => "None"
  | .bool true => "True"
  | .bool false => "False"
  | .int i => toString i
  | .float _ text => text
  | .str s => reprStr s
  | .list xs => "[" ++ join ", " (Value.reprList xs) ++ "]"
  | .dict kvs => "\x7b" ++ join ", " (Value.reprDict kvs) ++ "\x7d"

/-- The `repr` of every element. -/
def Value.reprList : List Value → List String
  | [] => []
  | x :: xs => x.repr :: Value.reprList xs

/-- The `repr` of every entry. -/
def Value.reprDict : List (String × Value) → List String
  | [] => []
  | (k, v) :: kvs => (reprStr k ++ ": " ++ v.repr) :: Value.reprDict kvs

end

namespace Value

/-- `str(x)`: a text is itself, anything else its `repr`. -/
def toStr : Value → String
  | str s => s
  | v => v.repr

/-- `str(x or "").strip()`. -/
def normalizeString (v : Value) : String :=
  strip (if v.truthy then v.toStr else "")

@[simp] theorem normalizeString_null : normalizeString null = "" := rfl

@[simp] theorem normalizeString_str (s : String) : normalizeString (str s) = strip s := by
  by_cases h : s = ""
  · simp [normalizeString, truthy, h]
  · simp [normalizeString, truthy, toStr, h]

/-- `str(x or "").strip().lower()`. -/
def normalizeLower (v : Value) : String := lower (normalizeString v)

@[simp] theorem normalizeLower_null : normalizeLower null = "" := rfl

@[simp] theorem strip_normalizeString (v : Value) : strip (normalizeString v) = normalizeString v :=
  strip_strip _

@[simp] theorem strip_normalizeLower (v : Value) : strip (normalizeLower v) = normalizeLower v :=
  strip_lower_strip _

/-- The non-blank normalized texts of a list, without repetitions, in order of first occurrence. -/
def dedupNonBlank : List String → List String → List String
  | acc, [] => acc
  | acc, t :: ts =>
    if t ≠ "" ∧ t ∉ acc then dedupNonBlank (acc ++ [t]) ts else dedupNonBlank acc ts

theorem mem_dedupNonBlank {acc ts : List String} {t : String} :
    t ∈ dedupNonBlank acc ts ↔ t ∈ acc ∨ (t ∈ ts ∧ t ≠ "") := by
  induction ts generalizing acc with
  | nil => simp [dedupNonBlank]
  | cons u ts ih =>
    by_cases h : u ≠ "" ∧ u ∉ acc
    · rw [dedupNonBlank, if_pos h, ih]
      constructor
      · rintro (hm | ⟨hm, hne⟩)
        · rcases List.mem_append.mp hm with hm | hm
          · exact Or.inl hm
          · obtain rfl := List.mem_singleton.mp hm
            exact Or.inr ⟨List.mem_cons_self, h.1⟩
        · exact Or.inr ⟨List.mem_cons_of_mem _ hm, hne⟩
      · rintro (hm | ⟨hm, hne⟩)
        · exact Or.inl (List.mem_append_left _ hm)
        · rcases List.mem_cons.mp hm with rfl | hm
          · exact Or.inl (by simp)
          · exact Or.inr ⟨hm, hne⟩
    · rw [dedupNonBlank, if_neg h, ih]
      constructor
      · rintro (hm | ⟨hm, hne⟩)
        · exact Or.inl hm
        · exact Or.inr ⟨List.mem_cons_of_mem _ hm, hne⟩
      · rintro (hm | ⟨hm, hne⟩)
        · exact Or.inl hm
        · rcases List.mem_cons.mp hm with rfl | hm
          · exact Or.inl (by by_contra hacc; exact h ⟨hne, hacc⟩)
          · exact Or.inr ⟨hm, hne⟩

/-- `_normalize_string_list`: the normalized entries of a list, blanks and repetitions dropped; `[]`
for anything that is not a list. -/
def normalizeStringList : Value → List String
  | list xs => dedupNonBlank [] (xs.map normalizeString)
  | _ => []

@[simp] theorem normalizeStringList_null : normalizeStringList null = [] := rfl

theorem mem_normalizeStringList_list {xs : List Value} {t : String} :
    t ∈ normalizeStringList (list xs) ↔ t ≠ "" ∧ ∃ x ∈ xs, normalizeString x = t := by
  simp only [normalizeStringList, mem_dedupNonBlank, List.not_mem_nil, false_or, List.mem_map]
  exact and_comm

/-- Every entry of a normalized list is stripped. -/
theorem strip_of_mem_normalizeStringList {v : Value} {t : String}
    (h : t ∈ normalizeStringList v) : strip t = t := by
  rcases v with _ | _ | _ | _ | _ | xs | _
  case list =>
    obtain ⟨-, x, -, rfl⟩ := mem_normalizeStringList_list.mp h
    exact strip_normalizeString x
  all_goals simp [normalizeStringList] at h

/-- No entry of a normalized list is blank. -/
theorem ne_empty_of_mem_normalizeStringList {v : Value} {t : String}
    (h : t ∈ normalizeStringList v) : t ≠ "" := by
  cases v <;> simp_all [normalizeStringList, mem_dedupNonBlank]

end Value

end Py
