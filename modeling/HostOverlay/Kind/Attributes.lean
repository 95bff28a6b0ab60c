import HostOverlay.Misfit

/-!
# Attributes of values

A value that is no record has the attributes of its kind and no others, and none of them can be
assigned. Most are fixed. A few are computed from the value, and each of those belongs to one kind,
by whose name a refusal calls it: the truth values share those of the whole numbers.
-/

namespace HostOverlay.Kind

/-- The attribute that holds the class of a value. -/
def classAttribute : String := "__class__"

/-- The fixed attributes that the values of every kind have. -/
def commonAttributes : List String :=
  ["__delattr__", "__dir__", "__doc__", "__eq__", "__format__", "__ge__", "__getattribute__",
    "__getstate__", "__gt__", "__hash__", "__init__", "__init_subclass__", "__le__", "__lt__",
    "__ne__", "__new__", "__reduce__", "__reduce_ex__", "__repr__", "__setattr__", "__sizeof__",
    "__str__", "__subclasshook__"]

/-- The fixed attributes that all numbers have. -/
def numberAttributes : List String :=
  ["__abs__", "__add__", "__bool__", "__ceil__", "__divmod__", "__float__", "__floor__",
    "__floordiv__", "__getnewargs__", "__int__", "__mod__", "__mul__", "__neg__", "__pos__",
    "__pow__", "__radd__", "__rdivmod__", "__rfloordiv__", "__rmod__", "__rmul__", "__round__",
    "__rpow__", "__rsub__", "__rtruediv__", "__sub__", "__truediv__", "__trunc__",
    "as_integer_ratio", "conjugate"]

/-- The fixed attributes that only whole numbers have. -/
def wholeAttributes : List String :=
  ["__and__", "__index__", "__invert__", "__lshift__", "__or__", "__rand__", "__rlshift__",
    "__ror__", "__rrshift__", "__rshift__", "__rxor__", "__xor__", "bit_count", "bit_length",
    "from_bytes", "to_bytes"]

/-- The fixed attributes that only numbers with decimal places have. -/
def decimalAttributes : List String := ["__getformat__", "fromhex", "hex", "is_integer"]

/-- The fixed attributes of texts. -/
def textAttributes : List String :=
  ["__add__", "__contains__", "__getitem__", "__getnewargs__", "__iter__", "__len__", "__mod__",
    "__mul__", "__rmod__", "__rmul__", "capitalize", "casefold", "center", "count", "encode",
    "endswith", "expandtabs", "find", "format", "format_map", "index", "isalnum", "isalpha",
    "isascii", "isdecimal", "isdigit", "isidentifier", "islower", "isnumeric", "isprintable",
    "isspace", "istitle", "isupper", "join", "ljust", "lower", "lstrip", "maketrans", "partition",
    "removeprefix", "removesuffix", "replace", "rfind", "rindex", "rjust", "rpartition", "rsplit",
    "rstrip", "split", "splitlines", "startswith", "strip", "swapcase", "title", "translate",
    "upper", "zfill"]

/-- The fixed attributes of lists. -/
def listAttributes : List String :=
  ["__add__", "__class_getitem__", "__contains__", "__delitem__", "__getitem__", "__iadd__",
    "__imul__", "__iter__", "__len__", "__mul__", "__reversed__", "__rmul__", "__setitem__",
    "append", "clear", "copy", "count", "extend", "index", "insert", "pop", "remove", "reverse",
    "sort"]

/-- The fixed attributes of dictionaries. -/
def dictionaryAttributes : List String :=
  ["__class_getitem__", "__contains__", "__delitem__", "__getitem__", "__ior__", "__iter__",
    "__len__", "__or__", "__reversed__", "__ror__", "__setitem__", "clear", "copy", "fromkeys",
    "get", "items", "keys", "pop", "popitem", "setdefault", "update", "values"]

/-- The fixed attributes of a kind besides the common ones. -/
def fixedAttributes : Kind → List String
  | absent => ["__bool__"]
  | truth | whole => numberAttributes ++ wholeAttributes
  | decimal => numberAttributes ++ decimalAttributes
  | text => textAttributes
  | list => listAttributes
  | dictionary => dictionaryAttributes
  | record _ => []

/-- The computed attributes of a kind, and the kind to which they belong. -/
def computedAttributes : Kind → Kind × List String
  | truth | whole => (whole, ["denominator", "imag", "numerator", "real"])
  | decimal => (decimal, ["imag", "real"])
  | kind => (kind, [])

/-- Why an attribute of a value of this kind cannot be assigned a value of another kind. -/
def attributeMisfit (kind : Kind) (name : String) (assigned : Kind) : Misfit :=
  if name = classAttribute then .notClass assigned
  else if name ∈ kind.computedAttributes.2 then
    .computed kind.computedAttributes.1 name
  else if name ∈ commonAttributes ++ kind.fixedAttributes then .fixed kind name
  else .noMember kind name

end HostOverlay.Kind
