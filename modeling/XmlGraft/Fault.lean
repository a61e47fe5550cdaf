import XmlGraft.Text.Quoted

/-!
# Faults — every cause for which an operation refuses

A fault is a cause, not a sentence: the constructors below say what was wrong and carry what the
sentence needs. The wording is in one place, `Fault.message`.

The causes fall into six families: a path that is not one, data that has no tree, a document that
would get a second root, names and texts that markup cannot hold, a number or literal that cannot
be written, and values or steps of a kind that the operation does not know.
-/

namespace XmlGraft

/-- Why an operation refused. -/
inductive Fault
  -- paths
  /-- The expression is not a path of the supported kind. -/
  | invalidPath (expression : String)
  /-- No token begins here; the rest of the expression is kept. -/
  | unknownText (rest : String)
  /-- A token that no path continues with at this offset. -/
  | unexpectedToken (shown : String) (offset : Nat)
  /-- The expression ends inside a path. -/
  | unexpectedEnd
  /-- A position predicate counts from one. -/
  | zeroPosition
  /-- A numeral in an expression has more digits than are ever read. -/
  | longNumeral (digits : Nat)
  -- data without a tree
  | nonTextKey (shown : String)
  | attributeNotScalar (key shown : String)
  | nestedSequence
  | notAMapping (shown : String)
  | severalRoots (keys : List String)
  | attributeAsRoot (key : String)
  | repeatedRoot (key : String)
  | noElement (tag shown : String)
  -- the document
  /-- A document has one root, and this step asks for another. -/
  | secondRoot (added present : String)
  /-- Markup that is not a well-formed document. -/
  | malformedMarkup
  -- names and texts
  | forbiddenText
  | emptyName
  | unclosedNamespace
  | badElementName (name : String)
  | badAttributeName (name : String)
  | badNamespace (uri : String)
  -- writing
  | bothQuotes (literal : String)
  | longInteger
  -- kinds
  | unsupportedPredicate (shown : String)
  | noSuchCandidate
  /-- A comment or an instruction cannot be given a child. -/
  | noChildren
  | noMember (kind member : String)
deriving DecidableEq, Repr

namespace Fault

private def digitAdvice : String := "use sys.set_int_max_str_digits() to increase the limit"

/-- The wording of a fault. Malformed markup has none. -/
def message : Fault → String
  | invalidPath expression => "XPath " ++ expression ++ " is not valid."
  | unknownText rest => "Unknown text '" ++ rest ++ "'"
  | unexpectedToken shown offset =>
    "unexpected '" ++ shown ++ "' at position " ++ toString offset
  | unexpectedEnd => "unexpected end of expression"
  | zeroPosition => "positions are 1-based, got 0"
  | longNumeral digits =>
    "Exceeds the limit (4300 digits) for integer string conversion: value has " ++
      toString digits ++ " digits; " ++ digitAdvice
  | nonTextKey shown => "Keys must be strings, not " ++ shown
  | attributeNotScalar key shown =>
    "Attribute " ++ key ++ " must hold a scalar, not " ++ shown
  | nestedSequence => "Sequences cannot be nested directly"
  | notAMapping shown => "Top-level value must be a mapping, not " ++ shown
  | severalRoots keys => "A document has a single root element; got " ++ ", ".intercalate keys
  | attributeAsRoot key => "The root entry " ++ key ++ " is not an element key"
  | repeatedRoot key => "The root element " ++ key ++ " cannot be repeated"
  | noElement tag shown => "Cannot build element " ++ tag ++ " from " ++ shown
  | secondRoot added present =>
    "Cannot add <" ++ added ++ "> to a document that already has root <" ++ present ++ ">"
  | malformedMarkup => ""
  | forbiddenText =>
    "All strings must be XML compatible: Unicode or ASCII, no NULL bytes or control characters"
  | emptyName => "Empty tag name"
  | unclosedNamespace => "Invalid tag name"
  | badElementName name => "Invalid tag name " ++ Text.quoted name
  | badAttributeName name => "Invalid attribute name " ++ Text.quoted name
  | badNamespace uri => "Invalid namespace URI " ++ Text.quoted uri
  | bothQuotes literal => "Literal " ++ Text.quoted literal ++ " contains both quote characters"
  | longInteger => "Exceeds the limit (4300 digits) for integer string conversion; " ++ digitAdvice
  | unsupportedPredicate shown => "Unsupported predicate " ++ shown
  | noSuchCandidate => "list index out of range"
  | noChildren => "this element does not have children or attributes"
  | noMember kind member =>
    "'" ++ kind ++ "' object has no attribute '" ++ member ++ "'"

end Fault

end XmlGraft
