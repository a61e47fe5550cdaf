import XmlGraft.Path.Printer
import XmlGraft.Path.Token

/-!
# The path grammar — tokens to steps

    path      := ('/' step)+
    step      := NAME | NAME '[' predicate ']' | '@' NAME
    predicate := INTEGER | '@' NAME '=' LITERAL | NAME '=' LITERAL

The language is regular, so a path is read by a finite automaton: `Expecting` says what has been
read of the step at hand, and `advance` takes one token. The automaton refuses a token as soon as no
path goes on with it, and a position below one as soon as the numeral is read.

`parseSteps` reads the bare grammar. `parse` reads a path for use: the expression begins with `/` at
its very first character, and an attribute step is the last step and not the only one.
-/

namespace XmlGraft.Path

/-- What has been read of the step at hand. -/
inductive Expecting
  /-- Nothing of the path at all. -/
  | start
  /-- The separator before a step. -/
  | step
  /-- The mark of an attribute step. -/
  | attributeName
  /-- The name of an element step, which a bracket may follow. -/
  | afterName (name : String)
  /-- An element step up to its opening bracket. -/
  | predicate (name : String)
  /-- An element step up to the mark of an attribute predicate. -/
  | predicateName (name : String)
  /-- An element step up to the name in its predicate. -/
  | predicateEquals (name : String) (onAttribute : Bool) (key : String)
  /-- An element step up to the sign of equality in its predicate. -/
  | predicateLiteral (name : String) (onAttribute : Bool) (key : String)
  /-- An element step up to the end of its predicate. -/
  | closing (name : String) (predicate : Part)
  /-- A whole step. -/
  | complete (part : Part)
deriving DecidableEq, Repr

/-- The step that ends here, if the path may end here. -/
def Expecting.finished? : Expecting → Option Part
  | .afterName name => some (.element name)
  | .complete part => some part
  | _ => none

/-- The comparison that a predicate with a literal makes. -/
def comparison (onAttribute : Bool) (key value : String) : Part :=
  if onAttribute then .attributeIs key value else .childIs key value

/-- What is expected after one more token, and the step that the token shows to be finished, if it
does. -/
def Expecting.advance (e : Expecting) (lexeme : Lexeme) : Except Fault (Option Part × Expecting) :=
  match e, lexeme.token with
  | .start, .separator => .ok (none, .step)
  | .step, .name text => .ok (none, .afterName text)
  | .step, .at => .ok (none, .attributeName)
  | .attributeName, .name text => .ok (none, .complete (.attribute text))
  | .afterName name, .openBracket => .ok (none, .predicate name)
  | .afterName name, .separator => .ok (some (.element name), .step)
  | .predicate name, .integer value =>
    if value < 1 then .error .zeroPosition else .ok (none, .closing name (.position value))
  | .predicate name, .at => .ok (none, .predicateName name)
  | .predicate name, .name key => .ok (none, .predicateEquals name false key)
  | .predicateName name, .name key => .ok (none, .predicateEquals name true key)
  | .predicateEquals name onAttribute key, .equals =>
    .ok (none, .predicateLiteral name onAttribute key)
  | .predicateLiteral name onAttribute key, .literal value =>
    .ok (none, .closing name (comparison onAttribute key value))
  | .closing name inner, .closeBracket => .ok (none, .complete (.filtered name inner))
  | .complete part, .separator => .ok (some part, .step)
  | _, token => .error (.unexpectedToken token.shown lexeme.offset)

/-- The steps that tokens finish, read to their end. The fault at which the scan stopped, if any, is
met only there. -/
def Expecting.run (fault : Option Fault) : List Lexeme → Expecting → Except Fault (List Part)
  | [], e =>
    match fault, e.finished? with
    | some stopped, _ => .error stopped
    | none, some part => .ok [part]
    | none, none => .error .unexpectedEnd
  | lexeme :: rest, e =>
    match e.advance lexeme with
    | .error refused => .error refused
    | .ok (done, next) => (next.run fault rest).map (done.toList ++ ·)

/-- The steps of an expression of the bare grammar. -/
def parseSteps (expression : String) : Except Fault (List Part) :=
  let s := scan expression
  Expecting.start.run s.fault s.lexemes

/-- Whether attribute steps stand only where a path can use them: at the end, after another step. -/
def attributesLast : List Part → Bool
  | [] => true
  | [part] => !part.isAttribute
  | parts => parts.dropLast.all fun part => !part.isAttribute

/-- The steps of a path. A numeral that is too long to be read keeps its own fault; everything else
that is wrong with the expression makes it no path. -/
def parse (expression : String) : Except Fault (List Part) :=
  match expression.toList with
  | '/' :: _ =>
    match parseSteps expression with
    | .ok steps => if attributesLast steps then .ok steps else .error (.invalidPath expression)
    | .error (.longNumeral digits) => .error (.longNumeral digits)
    | .error _ => .error (.invalidPath expression)
  | _ => .error (.invalidPath expression)

/-- The canonical text of a path. -/
def canonical (expression : String) : Except Fault String :=
  parse expression >>= print

end XmlGraft.Path
