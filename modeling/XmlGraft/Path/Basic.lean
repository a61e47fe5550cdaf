/-!
# Paths — the parts that a path is made of

A path leads from a document to one element or attribute. It is a list of steps: each but the last
names a child element, and the last may name an attribute instead. An element step may carry one
predicate, which picks among the children of that name: by position, by the value of an attribute,
or by the text of a child element.

Steps and predicates are one type here, `Path.Part`, because the predicate of a step is given as
any part, and only the operation that meets it decides whether it can be used. A path that was read
from text has nothing but the three predicates in that place.
-/

namespace XmlGraft.Path

/-- A step of a path, or a predicate of a step. -/
inductive Part
  /-- An element step without a predicate. -/
  | element (name : String)
  /-- An element step with a predicate. -/
  | filtered (name : String) (predicate : Part)
  /-- An attribute of the element reached so far. -/
  | attribute (name : String)
  /-- The predicate that holds of the n-th candidate, counted from one. -/
  | position (index : Int)
  /-- The predicate that holds where an attribute has a value. -/
  | attributeIs (name value : String)
  /-- The predicate that holds where a child element has a text. -/
  | childIs (name value : String)
deriving DecidableEq, Repr, Inhabited

/-- What a part is called where its kind is shown. -/
def Part.kind : Part → String
  | .element _ | .filtered _ _ => "Step"
  | .attribute _ => "AttributeStep"
  | .position _ => "IndexPredicate"
  | .attributeIs _ _ => "AttributePredicate"
  | .childIs _ _ => "ChildPredicate"

/-- Whether a part is an attribute step. -/
def Part.isAttribute : Part → Bool
  | .attribute _ => true
  | _ => false

end XmlGraft.Path
