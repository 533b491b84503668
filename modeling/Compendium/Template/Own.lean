import Compendium.Fields
import Compendium.Json.Basic

/-!
# What values have of their own

Beside its fields a value has parts and operations under names that its type gives it. A number has
parts that are numbers; all else is an operation, which a template may name and so call, but of
which it cannot see anything.
-/

namespace Compendium.Template

/-- The parts of a number: itself as the real part, an imaginary part of nought, and a whole number
as a fraction. -/
def ownPart? : Json → String → Option Json
  | .int n, "real" | .int n, "numerator" => some (.int n)
  | .int _, "imag" => some (.int 0)
  | .int _, "denominator" => some (.int 1)
  | .bool b, "real" | .bool b, "numerator" => some (.int (if b then 1 else 0))
  | .bool _, "imag" => some (.int 0)
  | .bool _, "denominator" => some (.int 1)
  | .float x, "real" => some (.float x)
  | .float _, "imag" => some (.float (.finite false 0))
  | _, _ => none

/-! ## Names of operations -/

/-- The comparisons, which every value has. -/
def comparisons : List String :=
  ["__eq__", "__ge__", "__gt__", "__le__", "__lt__", "__ne__", "__subclasshook__"]

/-- What every value has beside comparisons. -/
def commonOperations : List String :=
  ["__class__", "__delattr__", "__dir__", "__format__", "__getattribute__", "__getstate__",
   "__init__", "__init_subclass__", "__new__", "__reduce__", "__reduce_ex__", "__repr__",
   "__setattr__", "__sizeof__", "__str__"]

/-- What values with a size have. -/
def sizedOperations : List String := ["__contains__", "__getitem__", "__iter__", "__len__"]

def objectOperations : List String :=
  ["__delitem__", "__ior__", "__reversed__", "__setitem__", "clear", "copy", "fromkeys", "get",
   "items", "keys", "pop", "popitem", "setdefault", "update", "values"]

def listOperations : List String :=
  ["__add__", "__delitem__", "__iadd__", "__imul__", "__mul__", "__reversed__", "__rmul__",
   "__setitem__", "append", "clear", "copy", "count", "extend", "index", "insert", "pop", "remove",
   "reverse", "sort"]

def textOperations : List String :=
  ["__add__", "__getnewargs__", "__hash__", "__mod__", "__mul__", "__rmul__", "capitalize",
   "casefold", "center", "count", "encode", "endswith", "expandtabs", "find", "format",
   "format_map", "index", "isalnum", "isalpha", "isascii", "isdecimal", "isdigit", "isidentifier",
   "islower", "isnumeric", "isprintable", "isspace", "istitle", "isupper", "join", "ljust", "lower",
   "lstrip", "maketrans", "partition", "removeprefix", "removesuffix", "replace", "rfind",
   "rindex", "rjust", "rpartition", "rsplit", "rstrip", "split", "splitlines", "startswith",
   "strip", "swapcase", "title", "translate", "upper", "zfill"]

/-- The arithmetic of numbers. -/
def arithmetic : List String :=
  ["__add__", "__divmod__", "__floordiv__", "__mod__", "__mul__", "__pow__", "__radd__",
   "__rdivmod__", "__rfloordiv__", "__rmod__", "__rmul__", "__rpow__", "__rsub__", "__rtruediv__",
   "__sub__", "__truediv__"]

def digitArithmetic : List String :=
  ["__and__", "__lshift__", "__or__", "__rand__", "__rlshift__", "__ror__", "__rrshift__",
   "__rshift__", "__rxor__", "__xor__"]

/-- What numbers have beside arithmetic. -/
def numberOperations : List String :=
  ["__abs__", "__bool__", "__ceil__", "__float__", "__floor__", "__getnewargs__", "__hash__",
   "__int__", "__neg__", "__pos__", "__round__", "__trunc__", "as_integer_ratio", "conjugate"]

def wholeOperations : List String :=
  ["__index__", "__invert__", "bit_count", "bit_length", "from_bytes", "to_bytes"]

def doubleOperations : List String := ["__getformat__", "fromhex", "hex", "is_integer"]

/-- The unions of objects. -/
def unions : List String := ["__or__", "__ror__"]

/-- The names of the operations that a value has of its own. -/
def ownOperations (v : Json) : List String :=
  comparisons ++ commonOperations ++
    match v with
    | .obj _ => sizedOperations ++ objectOperations ++ unions
    | .arr _ => sizedOperations ++ listOperations
    | .str _ => sizedOperations ++ "__rmod__" :: textOperations
    | .int _ | .bool _ => arithmetic ++ digitArithmetic ++ numberOperations ++ wholeOperations
    | .float _ => arithmetic ++ numberOperations ++ doubleOperations
    | .null => ["__bool__", "__hash__"]

/-- The operations of a value that take another value of its type, and leave any other alone. -/
def leavesAlone (v : Json) : List String :=
  comparisons ++
    match v with
    | .obj _ => unions
    | .str _ => ["__rmod__"]
    | .int _ | .bool _ => arithmetic ++ digitArithmetic
    | .float _ => arithmetic
    | _ => []

end Compendium.Template
