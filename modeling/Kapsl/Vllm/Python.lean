import Mathlib.Data.Rat.Defs
import Mathlib.Data.List.Basic

/-!
# Vllm/Python — the Python values and exceptions the connector is written over

The connector is Python: a call either returns or raises, and what it did before raising stays
done.  `Outcome σ α` is that reading of a call — its result together with the state it leaves.
`Json` is what `json.loads` can return, kept apart from the typed records the validators of
`Vllm/Contract` read out of it.
-/

namespace Kapsl.Vllm

/-- The exceptions the connector raises or lets through, with their messages.  `osError` stands for
`OSError` and its subclass `TimeoutError`, which every handler of the connector treats alike. -/
inductive PyError
  | osError (message : String)
  | unicodeDecodeError (message : String)
  | unicodeEncodeError (message : String)
  | jsonDecodeError (message : String)
  | contractValidationError (message : String)
  | kapslKvControlError (message : String) (kind : Option String)
  | sharedPoolImportError (message : String)
  | planningError (message : String)
  | runtimeError (message : String)
  | valueError (message : String)
  | typeError (message : String)
  | keyError (message : String)
  | assertionError (message : String)
  | recursionError (message : String)
  deriving DecidableEq, Repr

/-- `str(error)`. -/
def PyError.message : PyError → String
  | .osError m | .unicodeDecodeError m | .unicodeEncodeError m | .jsonDecodeError m
  | .contractValidationError m
  | .kapslKvControlError m _ | .sharedPoolImportError m | .planningError m | .runtimeError m
  | .valueError m | .typeError m | .keyError m | .assertionError m | .recursionError m => m

/-- Whether `except KapslKvControlError` catches it. -/
def PyError.isControlError : PyError → Bool
  | .kapslKvControlError _ _ => true
  | _ => false

/-- `error.kind`, which only `KapslKvControlError` has. -/
def PyError.kind : PyError → Option String
  | .kapslKvControlError _ kind => kind
  | _ => none

/-- What a call did: the value it returned or the exception it raised, and the state it left. -/
abbrev Outcome (σ α : Type*) := Except PyError α × σ

/-! ## JSON values -/

/-- A Python float as the JSON decoder builds it, `NaN` and the infinities included. -/
inductive JsonFloat
  | nan
  | infinity (negative : Bool)
  | finite (value : ℚ)
  deriving DecidableEq

/-- A value returned by `json.loads`.  `obj` is a `dict` in insertion order. -/
inductive Json
  | null
  | bool (b : Bool)
  | int (n : Int)
  | float (x : JsonFloat)
  | str (s : String)
  | list (items : List Json)
  | obj (fields : List (String × Json))

namespace Json

/-- `key in mapping` together with the value found there. -/
def get? : Json → String → Option Json
  | .obj fields, key => fields.lookup key
  | _, _ => none

/-- `mapping.get(key)`: a missing key reads as `None`, which JSON spells `null`. -/
def get (value : Json) (key : String) : Json := (value.get? key).getD .null

/-- `mapping.get(key, default)`. -/
def getD (value : Json) (key : String) (default : Json) : Json := (value.get? key).getD default

/-- `isinstance(value, Mapping)`. -/
def isMapping : Json → Bool
  | .obj _ => true
  | _ => false

/-- `value == text` for a string literal `text`. -/
def eqStr : Json → String → Bool
  | .str s, text => s == text
  | _, _ => false

/-- `value == n` for an integer literal `n`: Python compares `int`, `bool` and `float` by value. -/
def eqInt : Json → Int → Bool
  | .int m, n => m == n
  | .bool b, n => (if b then 1 else 0) == n
  | .float (.finite q), n => q == (n : ℚ)
  | _, _ => false

/-- `isinstance(value, int)` with the integer's value — `bool` is a subclass of `int`. -/
def asInt? : Json → Option Int
  | .int n => some n
  | .bool b => some (if b then 1 else 0)
  | _ => none

/-- Lists and dicts cannot be hashed, so testing them for set membership raises `TypeError`. -/
def hashable : Json → Bool
  | .list _ | .obj _ => false
  | _ => true

/-- `value is None`. -/
def isNull : Json → Bool
  | .null => true
  | _ => false

/-- `bool(value)`. -/
def truthy : Json → Bool
  | .null => false
  | .bool b => b
  | .int n => n ≠ 0
  | .float (.finite q) => q ≠ 0
  | .float _ => true
  | .str s => s ≠ ""
  | .list items => !items.isEmpty
  | .obj fields => !fields.isEmpty

/-- `int(value)` of a value already known to be a non-negative integer. -/
def toNat : Json → ℕ
  | .int n => n.toNat
  | _ => 0

/-- `str(value)` of a value already known to be a string. -/
def toStr : Json → String
  | .str s => s
  | _ => ""

/-- The items of a value already known to be a list. -/
def items : Json → List Json
  | .list xs => xs
  | _ => []

/-- `len(mapping)`, the number of keys. -/
def size : Json → ℕ
  | .obj fields => fields.length
  | _ => 0

/-- `value == {"kind": kind}`. -/
def isKind (value : Json) (kind : String) : Bool :=
  value.size == 1 && (value.get "kind").eqStr kind

/-- The numeric value Python compares `int`, `bool` and `float` by. -/
def asNumber? : Json → Option JsonFloat
  | .int n => some (.finite n)
  | .bool b => some (.finite (if b then 1 else 0))
  | .float x => some x
  | _ => none

mutual

/-- `left == right`. -/
def pyEq : Json → Json → Bool
  | .null, .null => true
  | .str a, .str b => a == b
  | .list xs, .list ys => pyEqList xs ys
  | .obj fs, .obj gs => fs.length == gs.length && pyEqFields fs gs
  | a, b =>
    match a.asNumber?, b.asNumber? with
    | some x, some y => x != .nan && x == y
    | _, _ => false

/-- `left == right` for lists. -/
def pyEqList : List Json → List Json → Bool
  | [], [] => true
  | x :: xs, y :: ys => pyEq x y && pyEqList xs ys
  | _, _ => false

/-- Every key of the one dict has an equal value in the other. -/
def pyEqFields : List (String × Json) → List (String × Json) → Bool
  | [], _ => true
  | (key, value) :: rest, gs =>
    (match gs.lookup key with
      | some other => pyEq value other
      | none => false) && pyEqFields rest gs

end

/-- `value in {…}` for a set of strings: hashing a list or a dict raises. -/
def inSet (value : Json) (names : List String) : Except PyError Bool :=
  match value with
  | .list _ => .error (.typeError "unhashable type: 'list'")
  | .obj _ => .error (.typeError "unhashable type: 'dict'")
  | .str s => .ok (names.contains s)
  | _ => .ok false

end Json

/-! ## The interpreter

What the standard library does with a value that depends on the interpreter's own limits: decoding
and encoding JSON, copying and printing deeply nested values. -/

/-- The parts of the Python runtime the connector calls on data it received. -/
structure Interpreter where
  /-- `json.loads(frame)`. -/
  loads : List UInt8 → Except PyError Json
  /-- The decoder knows nothing of the control protocol's exception. -/
  loads_raises : ∀ frame error, loads frame = .error error → error.isControlError = false
  /-- `json.dumps(value, separators=(",", ":"), sort_keys=True).encode("utf-8")`. -/
  dumps : Json → Except PyError (List UInt8)
  /-- Whether `deepcopy` walks the value within the recursion limit. -/
  copies : Json → Bool
  /-- `str(value)`, unless it exceeds the recursion limit. -/
  renders : Json → Option String
  /-- `str` of a string is the string. -/
  renders_str : ∀ text, renders (.str text) = some text
  /-- `repr(text)`. -/
  repr : String → String

namespace Interpreter

/-- The exception of a computation that nests too deeply. -/
def tooDeep : PyError := .recursionError "maximum recursion depth exceeded"

/-- `deepcopy(value)`. -/
def deepcopy (I : Interpreter) (value : Json) : Except PyError Json :=
  if I.copies value then .ok value else .error tooDeep

/-- `str(value)`. -/
def str (I : Interpreter) (value : Json) : Except PyError String :=
  match I.renders value with
  | some text => .ok text
  | none => .error tooDeep

end Interpreter

/-! ## `str.strip` -/

/-- The code points `str.strip()` removes. -/
def isPySpace (c : Char) : Bool :=
  let n := c.toNat
  (9 ≤ n && n ≤ 13) || (28 ≤ n && n ≤ 32) || n = 0x85 || n = 0xa0 || n = 0x1680 ||
    (0x2000 ≤ n && n ≤ 0x200a) || n = 0x2028 || n = 0x2029 || n = 0x202f || n = 0x205f ||
    n = 0x3000

/-- `text.strip()`. -/
def strip (text : String) : String :=
  .ofList ((text.toList.dropWhile isPySpace).reverse.dropWhile isPySpace).reverse

/-- `not text.strip()`. -/
def isBlank (text : String) : Bool := text.toList.all isPySpace

end Kapsl.Vllm
