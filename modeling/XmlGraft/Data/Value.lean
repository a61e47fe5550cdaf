import XmlGraft.Data.Entries
import XmlGraft.Decimal.Layout
import XmlGraft.Fault

/-!
# Values — the nested data that trees are built from

A value is plain data or structured data. Plain data is what callers have: nothing, truth values,
numbers, texts, lists, tuples and dictionaries. Structured data is what a tree is built from, and
has three kinds:

- a *scalar* is one text;
- a *mapping* has named entries in order, where a name that begins with `@` stands for an attribute
  and must hold a scalar, and any other for child elements;
- a *sequence* holds the values of repeated siblings, and never another sequence.

The two live in one type because a mapping or sequence made by hand may hold plain data that was
never wrapped; such data is met, and refused, only where it is used.
-/

namespace XmlGraft.Data

/-- Plain or structured data. -/
inductive Value
  | null
  | bool (b : Bool)
  | int (i : Int)
  | float (x : Float)
  | text (s : String)
  | list (items : List Value)
  | tuple (items : List Value)
  | dict (entries : List (Value × Value))
  | scalar (text : String)
  | mapping (entries : List (String × Value))
  | sequence (items : List Value)
deriving Inhabited

/-- Whether a key names an attribute. -/
def marksAttribute (key : String) : Bool := key.toList.head? == some '@'

/-- The name of the attribute that a key stands for: the key without its mark. -/
def attributeName (key : String) : String := String.ofList (key.toList.drop 1)

namespace Value

/-- What a kind of value is called where it is shown. -/
def kind : Value → String
  | null => "NoneType"
  | bool _ => "bool"
  | int _ => "int"
  | float _ => "float"
  | text _ => "str"
  | list _ => "list"
  | tuple _ => "tuple"
  | dict _ => "dict"
  | scalar _ => "Scalar"
  | mapping _ => "Mapping"
  | sequence _ => "Sequence"

/-- Whether a value is a scalar. -/
def isScalar : Value → Bool
  | scalar _ => true
  | _ => false

/-- Whether a value is a sequence. -/
def isSequence : Value → Bool
  | sequence _ => true
  | _ => false

/-- The attribute entries of a mapping, under the names of the attributes. -/
def attributesOf (entries : List (String × Value)) : List (String × Value) :=
  (entries.filter fun entry => marksAttribute entry.1).map fun entry =>
    (attributeName entry.1, entry.2)

/-- The element entries of a mapping. -/
def elementsOf (entries : List (String × Value)) : List (String × Value) :=
  entries.filter fun entry => !marksAttribute entry.1

end Value

end XmlGraft.Data
