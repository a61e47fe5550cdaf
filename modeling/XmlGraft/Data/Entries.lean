/-!
# Entries — pairs in order, one per key

A record is a list of key and value pairs in the order in which its keys were first given. Giving a
key again keeps its place and its first spelling and replaces the value.
-/

namespace XmlGraft.Data.Entries

variable {α : Type _} {β : Type _} [BEq α]

/-- The entries after a key is given a value. -/
def put (key : α) (value : β) : List (α × β) → List (α × β)
  | [] => [(key, value)]
  | (k, v) :: rest => if k == key then (k, value) :: rest else (k, v) :: put key value rest

/-- The entries that a run of pairs leaves, one per key. -/
def ofPairs (pairs : List (α × β)) : List (α × β) :=
  pairs.foldl (fun entries pair => put pair.1 pair.2 entries) []

/-- The value of a key. -/
def get? (key : α) : List (α × β) → Option β
  | [] => none
  | (k, v) :: rest => if k == key then some v else get? key rest

/-- The last value that a run of pairs gives to a key. -/
def last? (key : α) : List (α × β) → Option β
  | [] => none
  | (k, v) :: rest => (last? key rest).or (if k == key then some v else none)

/-- Whether a key is given in a run of pairs. -/
def has (key : α) (pairs : List (α × β)) : Bool := pairs.any fun pair => pair.1 == key

end XmlGraft.Data.Entries
