import XmlGraft.Xml.Scanner

/-!
# Blanks — which blank characters are layout

When a document is read for its data alone, blank characters that look like layout are left out.
They are judged in *stretches*, and a stretch is layout by what stands around it: it is blank, a tag
or a line break comes next, and no text stands just before it or at the start of its element. A
stretch that is all there is between a start tag and its end tag is not layout.

A run of characters between two tags is mostly one stretch. It is cut before each line break that is
written with a carriage return. From the first character outside ASCII on, or from the first line
break that is a carriage return by itself or is followed by something like that, the run is cut by
size alone. No character is lost (`flatten_stretches`).

`xml:space` can ask to keep everything. An element that has kept a stretch has shown itself to be
mixed and keeps all that follow, unless it was asked to judge each.
-/

namespace XmlGraft.Xml

open Text

/-- What becomes of blank stretches inside an element. -/
inductive BlankPolicy
  /-- Judged by what stands around them. -/
  | judged
  /-- Judged likewise, under an explicit request. -/
  | requested
  /-- Kept, since the element has shown itself to be mixed. -/
  | mixed
  /-- Kept on request. -/
  | preserved
deriving DecidableEq, Repr

namespace BlankPolicy

/-- The policy that an element takes over from the one around it. -/
def inherited : BlankPolicy → BlankPolicy
  | .mixed => .judged
  | policy => policy

/-- The policy in an element with some attributes. -/
def inside (policy : BlankPolicy) (entries : List (String × String)) : BlankPolicy :=
  match entries.find? fun entry => entry.1 == "xml:space" with
  | some (_, "preserve") => .preserved
  | some (_, "default") => .requested
  | _ => policy.inherited

/-- The policy after a stretch was kept. -/
def afterText : BlankPolicy → BlankPolicy
  | .judged => .mixed
  | policy => policy

/-- Whether blank stretches are judged one by one. -/
def judges : BlankPolicy → Bool
  | .judged | .requested => true
  | .mixed | .preserved => false

end BlankPolicy

/-- What comes after a stretch. -/
inductive Ahead
  /-- The end tag of the element. -/
  | closing
  /-- A tag of another kind, a comment, an instruction, or a CDATA section. -/
  | markup
  /-- A line break that is written with a carriage return. -/
  | lineBreak
  /-- Other characters, a reference, or nothing. -/
  | text
deriving DecidableEq, Repr

/-- What a piece of markup is to the stretch before it. -/
def Ahead.ofPiece : Option Markup → Ahead
  | some (.closing _) => .closing
  | some (.chars _) | some (.reference _) | none => .text
  | some _ => .markup

/-- What a run of characters is to the stretch before it. -/
def Ahead.ofChars (run : List Char) : Ahead := if run.head? = some '\r' then .lineBreak else .text

/-- Whether a character leaves a run simple: printable ASCII, a tab or a line feed. -/
def isSimple (c : Char) : Bool := (0x20 ≤ c.toNat && c.toNat ≤ 0x7F) || c = '\t' || c = '\n'

/-- The size that ends a stretch of a run that is not simple, in bytes. -/
def stretchSize : Nat := 300

/-- The size of a character before some others, in bytes; a line break has one. -/
def sizeBefore (rest : List Char) (c : Char) : Nat :=
  if c = '\r' && rest.head? = some '\n' then 0 else c.utf8Size

/-- A list of stretches with another before them, unless that is empty. -/
def putStretch (first : List Char) (others : List (List Char)) : List (List Char) :=
  if first.isEmpty then others else first :: others

/-- Cuts a run by size: the rest of a stretch that has some size already, and the stretches after
it. -/
def cutBySize : (size : Nat) → List Char → List Char × List (List Char)
  | _, [] => ([], [])
  | size, c :: rest =>
    let size := size + sizeBefore rest c
    if stretchSize ≤ size then
      let (first, others) := cutBySize 0 rest
      ([c], putStretch first others)
    else
      let (first, others) := cutBySize size rest
      (c :: first, others)

/-- Cuts a run that is simple so far: the rest of its first stretch, and the stretches after it. -/
def cutRun : List Char → List Char × List (List Char)
  | [] => ([], [])
  | c :: rest =>
    if isSimple c then
      let (first, others) := cutRun rest
      (c :: first, others)
    else if c = '\r' && rest.head? = some '\n' && (rest.drop 1).head?.all isSimple then
      let (first, others) := cutRun rest
      ([], (c :: first) :: others)
    else
      let (first, others) := cutBySize 0 (c :: rest)
      ([], putStretch first others)

/-- The stretches of a run of characters as they are written. -/
def stretches (run : List Char) : List (List Char) :=
  let (first, others) := cutRun run
  putStretch first others

theorem flatten_putStretch (first : List Char) (others : List (List Char)) :
    (putStretch first others).flatten = first ++ others.flatten := by
  cases first <;> simp [putStretch]

theorem cutBySize_append_flatten (size : Nat) (run : List Char) :
    (cutBySize size run).1 ++ (cutBySize size run).2.flatten = run := by
  induction run generalizing size with
  | nil => rfl
  | cons c rest ih =>
    simp only [cutBySize]
    split
    · simp [flatten_putStretch, ih]
    · simp [ih]

theorem cutRun_append_flatten (run : List Char) :
    (cutRun run).1 ++ (cutRun run).2.flatten = run := by
  induction run with
  | nil => rfl
  | cons c rest ih =>
    simp only [cutRun]
    split
    · simp [ih]
    · split
      · simp [ih]
      · simp [flatten_putStretch, cutBySize_append_flatten]

theorem flatten_stretches (run : List Char) : (stretches run).flatten = run := by
  simp [stretches, flatten_putStretch, cutRun_append_flatten]

end XmlGraft.Xml
