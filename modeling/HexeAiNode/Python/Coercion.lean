import Mathlib.Data.List.Sort
import HexeAiNode.Python.Value

/-!
# Conversions that can fail, and `json.dumps`

`int(x)`, `float(x)`, `list(x or [])`, membership in `set(xs)` and the JSON printer, over `Value`.

* `toInt` parses a text the way `int` does: surrounding white space, a sign, decimal digits of any
  script, single underscores between digits, and at most `maxIntDigits` digits.
* `toFloat` gives a decimal literal its exact value, where the interpreter rounds to a double.
* `hashKey` is the identity a hashable value has inside a set: `1`, `1.0` and `True` share one.
* `dumps` is parameterized by the separators and flags the callers choose.
-/

namespace Py

/-! ## `int` -/

/-- The zeros of the decimal digit blocks of Unicode; each block has ten consecutive digits. -/
def digitZeros : List Nat := [
  48, 1632, 1776, 1984, 2406, 2534, 2662, 2790, 2918, 3046, 3174, 3302, 3430, 3558, 3664, 3792,
  3872, 4160, 4240, 6112, 6160, 6470, 6608, 6784, 6800, 6992, 7088, 7232, 7248, 42528, 43216,
  43264, 43472, 43504, 43600, 44016, 65296, 66720, 68912, 69734, 69872, 69942, 70096, 70384,
  70736, 70864, 71248, 71360, 71472, 71904, 72016, 72784, 73040, 73120, 92768, 92864, 93008,
  120782, 120792, 120802, 120812, 120822, 123200, 123632, 125264, 130032]

/-- The value of a decimal digit. -/
def digitVal (c : Char) : Option Nat :=
  (digitZeros.find? fun z => z ≤ c.toNat && c.toNat < z + 10).map fun z => c.toNat - z

/-- The digits of a literal with single underscores between them; `afterDigit` says whether the
previous character was a digit. -/
def digitsOf (afterDigit : Bool) : List Char → Option (List Nat)
  | [] => if afterDigit then some [] else none
  | c :: cs =>
    if c = '_' then
      if afterDigit then digitsOf false cs else none
    else
      match digitVal c with
      | some d => (digitsOf true cs).map (d :: ·)
      | none => none

/-- The number a list of digits writes. -/
def digitsValue (ds : List Nat) : Nat := ds.foldl (fun n d => 10 * n + d) 0

/-- `sys.int_info.default_max_str_digits`. -/
def maxIntDigits : Nat := 4300

/-- The integer a text denotes. -/
def parseInt (s : String) : Option Int :=
  let parse (cs : List Char) : Option Nat :=
    match digitsOf false cs with
    | some ds => if ds.length ≤ maxIntDigits then some (digitsValue ds) else none
    | none => none
  match (strip s).toList with
  | '-' :: cs => (parse cs).map fun n => -(n : Int)
  | '+' :: cs => (parse cs).map fun n => (n : Int)
  | cs => (parse cs).map fun n => (n : Int)

namespace Value

/-- The name of a value's type. -/
def typeName : Value → String
  | null => "NoneType"
  | bool _ => "bool"
  | int _ => "int"
  | float _ _ => "float"
  | str _ => "str"
  | list _ => "list"
  | dict _ => "dict"

/-- `int(x)`. -/
def toInt : Value → Except Exc Int
  | bool b => .ok (if b then 1 else 0)
  | int i => .ok i
  | float (.finite q) _ => .ok (q.num.tdiv q.den)
  | float .nan _ => .error ⟨.valueError, "cannot convert float NaN to integer"⟩
  | float _ _ => .error ⟨.overflowError, "cannot convert float infinity to integer"⟩
  | str s =>
    match parseInt s with
    | some i => .ok i
    | none =>
      .error ⟨.valueError, "invalid literal for int() with base 10: " ++ reprStr s⟩
  | v =>
    .error ⟨.typeError, "int() argument must be a string, a bytes-like object or a real number, not '"
      ++ v.typeName ++ "'"⟩

@[simp] theorem toInt_int (i : Int) : toInt (int i) = .ok i := rfl
@[simp] theorem toInt_null : ∃ e, toInt null = .error e := ⟨_, rfl⟩

/-- `try: int(x)`, with a default for a `TypeError` or a `ValueError`. -/
def toIntOr (v : Value) (default : Int) : Except Exc Int :=
  match v.toInt with
  | .ok i => .ok i
  | .error e => if e.cls = .typeError ∨ e.cls = .valueError then .ok default else .error e

/-! ## `float` -/

/-- The least value that rounds to an infinite float. -/
def floatOverflow : ℚ := 2 ^ 1024 - 2 ^ 970

/-- A rational as a float: infinite from `floatOverflow` on. -/
def floatOfRat (q : ℚ) : FloatVal :=
  if floatOverflow ≤ q then .posInf else if q ≤ -floatOverflow then .negInf else .finite q

/-- Digits with single underscores, or nothing at all. -/
def optDigits (cs : List Char) : Option (List Nat) := if cs = [] then some [] else digitsOf false cs

/-- An exponent: nothing, or an optional sign and digits. -/
def parseExponent : List Char → Option Int
  | [] => some 0
  | '-' :: cs => (digitsOf false cs).map fun ds => -(digitsValue ds : Int)
  | '+' :: cs => (digitsOf false cs).map fun ds => (digitsValue ds : Int)
  | cs => (digitsOf false cs).map fun ds => (digitsValue ds : Int)

/-- An unsigned decimal literal. -/
def parseDecimal (cs : List Char) : Option ℚ :=
  let isExp (c : Char) : Bool := c == 'e' || c == 'E'
  let mantissa := cs.takeWhile fun c => !isExp c
  let exponent := cs.dropWhile fun c => !isExp c
  let whole := mantissa.takeWhile (· != '.')
  let fraction := (mantissa.dropWhile (· != '.')).drop 1
  match optDigits whole, optDigits fraction, parseExponent (exponent.drop 1) with
  | some w, some f, some e =>
    if w = [] ∧ f = [] ∨ exponent.length = 1 then none
    else some ((digitsValue (w ++ f) : ℚ) / 10 ^ f.length * (10 : ℚ) ^ e)
  | _, _, _ => none

/-- The float a text denotes, with the exact value of its decimal literal. -/
def parseFloat (s : String) : Option FloatVal :=
  let unsigned (cs : List Char) : Option FloatVal :=
    let word := lower (String.ofList cs)
    if word = "inf" ∨ word = "infinity" then some .posInf
    else if word = "nan" then some .nan
    else (parseDecimal cs).map floatOfRat
  let negate : FloatVal → FloatVal
    | .finite q => .finite (-q)
    | .posInf => .negInf
    | x => x
  match (strip s).toList with
  | '-' :: cs => (unsigned cs).map negate
  | '+' :: cs => unsigned cs
  | cs => unsigned cs

/-- `float(x)`. -/
def toFloat : Value → Except Exc FloatVal
  | bool b => .ok (.finite (if b then 1 else 0))
  | int i =>
    match floatOfRat i with
    | .finite q => .ok (.finite q)
    | _ => .error ⟨.overflowError, "int too large to convert to float"⟩
  | float x _ => .ok x
  | str s =>
    match parseFloat s with
    | some x => .ok x
    | none => .error ⟨.valueError, "could not convert string to float: " ++ reprStr s⟩
  | v => .error ⟨.typeError, "float() argument must be a string or a real number, not '"
      ++ v.typeName ++ "'"⟩

/-! ## `list` -/

/-- `list(x or [])`. -/
def toItems (v : Value) : Except Exc (List Value) :=
  if v.truthy then
    match v with
    | list xs => .ok xs
    | dict kvs => .ok (kvs.map fun kv => str kv.1)
    | str s => .ok (s.toList.map fun c => str (String.ofList [c]))
    | w => .error ⟨.typeError, "'" ++ w.typeName ++ "' object is not iterable"⟩
  else .ok []

@[simp] theorem toItems_list (xs : List Value) : toItems (list xs) = .ok xs := by
  cases xs <;> rfl

@[simp] theorem toItems_null : toItems null = .ok [] := rfl

/-! ## `dict` -/

/-- What iterating a value gives; `none` for a value that is not iterable. -/
def items? : Value → Option (List Value)
  | list xs => some xs
  | dict kvs => some (kvs.map fun kv => str kv.1)
  | str s => some (s.toList.map fun c => str (String.ofList [c]))
  | _ => none

/-- The entry that `dict` makes of the element number `i`.  A key that is not a text is refused: the
dictionaries here are those of JSON. -/
def toEntry (i : ℕ) (x : Value) : Except Exc (String × Value) :=
  match x.items? with
  | some [str k, v] => .ok (k, v)
  | some [_, _] => .error ⟨.typeError, "keys must be str"⟩
  | some xs => .error ⟨.valueError, "dictionary update sequence element #" ++ toString i ++ " has length " ++
      toString xs.length ++ "; 2 is required"⟩
  | none => .error ⟨.typeError, "cannot convert dictionary update sequence element #" ++ toString i ++
      " to a sequence"⟩

/-- The entries of a sequence of pairs, from the element number `i` on. -/
def toEntries (i : ℕ) (d : Dict) : List Value → Except Exc Dict
  | [] => .ok d
  | x :: xs => do
    let (k, v) ← toEntry i x
    toEntries (i + 1) (d.set k v) xs

/-- `dict(x or {})`. -/
def toDict (v : Value) : Except Exc Dict :=
  if v.truthy then
    match v with
    | dict kvs => .ok kvs
    | w =>
      match w.items? with
      | some xs => toEntries 0 [] xs
      | none => .error ⟨.typeError, "'" ++ w.typeName ++ "' object is not iterable"⟩
  else .ok []

/-! ## Sets -/

/-- The identity of a hashable value inside a set: numbers by value, texts by content. -/
inductive Key where
  | none
  | num (q : ℚ)
  | posInf
  | negInf
  | nan
  | text (s : String)
  deriving DecidableEq

/-- The key of a value; lists and dictionaries are unhashable. -/
def hashKey : Value → Except Exc Key
  | null => .ok .none
  | bool b => .ok (.num (if b then 1 else 0))
  | int i => .ok (.num i)
  | float (.finite q) _ => .ok (.num q)
  | float .posInf _ => .ok .posInf
  | float .negInf _ => .ok .negInf
  | float .nan _ => .ok .nan
  | str s => .ok (.text s)
  | v => .error ⟨.typeError, "unhashable type: '" ++ v.typeName ++ "'"⟩

@[simp] theorem hashKey_str (s : String) : hashKey (str s) = .ok (.text s) := rfl

/-- Two keys are equal as values: `nan` differs from everything. -/
def Key.same (a b : Key) : Bool := a != .nan && a == b

/-- `set(xs)`. -/
def toSet : List Value → Except Exc (List Key)
  | [] => .ok []
  | x :: xs => do
    let k ← hashKey x
    let ks ← toSet xs
    return k :: ks

/-- `x in ks`. -/
def setContains (ks : List Key) (x : Value) : Except Exc Bool := do
  let k ← hashKey x
  return ks.any (Key.same k)

end Value

/-! ## Rounding -/

/-- `math.ceil(x)`. -/
def FloatVal.ceil : FloatVal → Except Exc Int
  | .finite q => .ok ⌈q⌉
  | .nan => .error ⟨.valueError, "cannot convert float NaN to integer"⟩
  | _ => .error ⟨.overflowError, "cannot convert float infinity to integer"⟩

/-- `x * q` for a positive rational `q`. -/
def FloatVal.scale (q : ℚ) : FloatVal → FloatVal
  | .finite x => Value.floatOfRat (x * q)
  | x => x

/-- `x + y`. -/
def FloatVal.add : FloatVal → FloatVal → FloatVal
  | .finite a, .finite b => Value.floatOfRat (a + b)
  | .nan, _ | _, .nan | .posInf, .negInf | .negInf, .posInf => .nan
  | .posInf, _ | _, .posInf => .posInf
  | .negInf, _ | _, .negInf => .negInf

/-- `x >= 0`. -/
def FloatVal.isNonneg : FloatVal → Bool
  | .finite q => decide (0 ≤ q)
  | .posInf => true
  | _ => false

/-- `x > 0`. -/
def FloatVal.isPos : FloatVal → Bool
  | .finite q => decide (0 < q)
  | .posInf => true
  | _ => false

/-- `round(x, 10)`: to the nearest multiple of `10 ^ -10`, ties to even. -/
def round10 (q : ℚ) : ℚ :=
  let scaled : ℚ := q * 10 ^ 10
  let below : ℤ := ⌊scaled⌋
  let rest : ℚ := scaled - below
  let nearest : ℤ :=
    if rest < 1 / 2 ∨ (rest = 1 / 2 ∧ below % 2 = 0) then below else below + 1
  (nearest : ℚ) / 10 ^ 10

/-- `round(x, 10)` on a float. -/
def FloatVal.round10 : FloatVal → FloatVal
  | .finite q => .finite (Py.round10 q)
  | x => x

/-! ## `json.dumps` -/

/-- One character of a JSON text. -/
def jsonChar (ensureAscii : Bool) (c : Char) : List Char :=
  let n := c.toNat
  let bs := Char.ofNat 92
  let unit (m : Nat) : List Char := [bs, 'u'] ++ hexDigits 4 m
  if n = 34 ∨ n = 92 then [bs, c]
  else if n = 10 then [bs, 'n']
  else if n = 13 then [bs, 'r']
  else if n = 9 then [bs, 't']
  else if n = 12 then [bs, 'f']
  else if n = 8 then [bs, 'b']
  else if n < 32 then unit n
  else if n < 127 then [c]
  else if !ensureAscii then [c]
  else if n < 0x10000 then unit n
  else unit (0xD800 + (n - 0x10000) / 0x400) ++ unit (0xDC00 + (n - 0x10000) % 0x400)

/-- A JSON text literal. -/
def jsonStr (ensureAscii : Bool) (s : String) : String :=
  let q := Char.ofNat 34
  String.ofList ([q] ++ s.toList.flatMap (jsonChar ensureAscii) ++ [q])

/-- The arguments of `json.dumps` that the callers set. -/
structure DumpsStyle where
  sortKeys : Bool := false
  ensureAscii : Bool := true
  itemSep : String := ", "
  keySep : String := ": "

/-- Entries in the order of their keys. -/
def sortByKey (kvs : List (String × String)) : List (String × String) :=
  kvs.insertionSort fun a b => a.1.toList ≤ b.1.toList

mutual

/-- `json.dumps(x, …)`. -/
def dumps (st : DumpsStyle) : Value → String
  | .null => "null"
  | .bool true => "true"
  | .bool false => "false"
  | .int i => toString i
  | .float .posInf _ => "Infinity"
  | .float .negInf _ => "-Infinity"
  | .float .nan _ => "NaN"
  | .float (.finite _) text => text
  | .str s => jsonStr st.ensureAscii s
  | .list xs => "[" ++ join st.itemSep (dumpsList st xs) ++ "]"
  | .dict kvs =>
    let entries := dumpsDict st kvs
    let entries := if st.sortKeys then sortByKey entries else entries
    "\x7b" ++ join st.itemSep (entries.map fun e => jsonStr st.ensureAscii e.1 ++ st.keySep ++ e.2)
      ++ "\x7d"

/-- The JSON of every element. -/
def dumpsList (st : DumpsStyle) : List Value → List String
  | [] => []
  | x :: xs => dumps st x :: dumpsList st xs

/-- The key and the JSON of every entry. -/
def dumpsDict (st : DumpsStyle) : List (String × Value) → List (String × String)
  | [] => []
  | (k, v) :: kvs => (k, dumps st v) :: dumpsDict st kvs

end

/-- `len(s.encode("utf-8"))`. -/
def utf8Len (s : String) : Nat := (s.toList.map fun c => c.utf8Size).sum

example : (Value.str " -1_000 ").toInt = .ok (-1000) := by decide
example : (Value.str "1.5e1").toFloat = .ok (.finite 15) := by decide +kernel
example : dumps { sortKeys := true } (.dict [("b", .list [.int 1, .null]), ("a", .str "é")])
    = "\x7b\"a\": \"\\u00e9\", \"b\": [1, null]\x7d" := by decide

end Py
