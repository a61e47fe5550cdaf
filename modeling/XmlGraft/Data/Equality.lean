import XmlGraft.Data.Value

/-!
# Equal values — when two values are the same data

Numbers are equal when they denote the same number, whatever their kind, so a truth value equals
one or zero and a float may equal an integer; what is not a number equals nothing. A list never
equals a tuple. Dictionaries are equal when they have the same keys with equal values, in any order.

Scalars are equal by their text and sequences item by item. Mappings are compared like dictionaries:
the order of entries does not matter, and of entries with one key only the last counts. Structured
and plain data are never equal.
-/

namespace XmlGraft.Data

/-- The number that a numeric value denotes: an infinity, or `mantissa · 2 ^ exponent`. -/
inductive Magnitude
  | notANumber
  | infinite (negative : Bool)
  | dyadic (mantissa exponent : Int)
deriving DecidableEq, Repr

/-- Whether two magnitudes are the same number. -/
def Magnitude.same : Magnitude → Magnitude → Bool
  | .infinite a, .infinite b => a == b
  | .dyadic m e, .dyadic n f =>
    let base := min e f
    m * Int.pow 2 (e - base).toNat == n * Int.pow 2 (f - base).toNat
  | _, _ => false

/-- The magnitude of a floating-point number. -/
def Magnitude.ofFloat (x : Float) : Magnitude :=
  match Decimal.Reading.ofFloat x with
  | .nan => .notANumber
  | .infinite negative => .infinite negative
  | .zero _ => .dyadic 0 0
  | .finite negative b => .dyadic (if negative then -b.mantissa else b.mantissa) b.exponent

/-- The magnitude of a numeric value. -/
def Value.magnitude? : Value → Option Magnitude
  | .bool b => some (.dyadic (if b then 1 else 0) 0)
  | .int i => some (.dyadic i 0)
  | .float x => some (.ofFloat x)
  | _ => none

/-- How many different keys a run of entries has. -/
def keyCount (entries : List (String × Value)) : Nat := (entries.map (·.1)).eraseDups.length

mutual

/-- Whether two values are the same data. -/
def Value.same : Value → Value → Bool
  | .null, .null => true
  | .text a, .text b => a == b
  | .list xs, .list ys => sameItems xs ys
  | .tuple xs, .tuple ys => sameItems xs ys
  | .dict xs, .dict ys => xs.length == ys.length && sameEntries xs ys
  | .scalar a, .scalar b => a == b
  | .mapping xs, .mapping ys => keyCount xs == keyCount ys && sameMembers xs ys
  | .sequence xs, .sequence ys => sameItems xs ys
  | a, b =>
    match a.magnitude?, b.magnitude? with
    | some x, some y => x.same y
    | _, _ => false
termination_by structural x => x

/-- Whether two lists hold the same data item by item. -/
def sameItems : List Value → List Value → Bool
  | [], [] => true
  | x :: xs, y :: ys => x.same y && sameItems xs ys
  | _, _ => false
termination_by structural x => x

/-- Whether each entry has an equal entry among others. -/
def sameEntries : List (Value × Value) → List (Value × Value) → Bool
  | [], _ => true
  | (key, value) :: rest, ys =>
    (match ys.find? fun y => key.same y.1 with
      | some y => value.same y.2
      | none => false) && sameEntries rest ys
termination_by structural x => x

/-- Whether each entry that no later entry overrides has the last value of its key in others. -/
def sameMembers : List (String × Value) → List (String × Value) → Bool
  | [], _ => true
  | (key, value) :: rest, ys =>
    (Entries.has key rest ||
      match Entries.last? key ys with
      | some other => value.same other
      | none => false) && sameMembers rest ys
termination_by structural x => x

end

instance : BEq Value := ⟨Value.same⟩

/-- The dictionary of some pairs: a key given again keeps its place and takes the new value. -/
def Value.dictOf (pairs : List (Value × Value)) : Value := .dict (Entries.ofPairs pairs)

end XmlGraft.Data
