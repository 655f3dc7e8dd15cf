/-! Values of a data format: what settings and reports are read from and written to. -/
namespace SourceReducer

inductive Value
  | null
  | bool (b : Bool)
  | int (i : Int)
  /-- A number that is not written as an integer. -/
  | fractional
  | text (s : String)
  /-- A date or a time of day. -/
  | moment
  | list (items : List Value)
  | table (fields : List (String × Value))
  deriving Inhabited

namespace Value

def ofNat (n : Nat) : Value :=
  .int n

/-- An absent value is null. -/
def ofOption {α : Type} (f : α → Value) : Option α → Value
  | none => .null
  | some a => f a

/-- A value that does not have the shape that is asked for. -/
structure Mismatch where

abbrev Reader (α : Type) := Value → Except Mismatch α

def readBool : Reader Bool
  | .bool b => .ok b
  | _ => .error {}

def readText : Reader String
  | .text s => .ok s
  | _ => .error {}

/-- An integer between two bounds, both included. -/
def readInt (low high : Int) : Reader Int
  | .int i => if low ≤ i && i ≤ high then .ok i else .error {}
  | _ => .error {}

/-- A natural number of at most 64 bits. -/
def readNat : Reader Nat
  | v => (readInt 0 (Int.pow 2 64 - 1) v).map Int.toNat

/-- Null, or a value that is read. -/
def readOption {α : Type} (read : Reader α) : Reader (Option α)
  | .null => .ok none
  | v => (read v).map some

def readList {α : Type} (read : Reader α) : Reader (List α)
  | .list items => items.mapM read
  | _ => .error {}

/-- The fields of a record: the table itself, or a list that gives the fields in their order. Where
`exact` says so, the list has to give every field and nothing more. A date or a time is a record
that has no field with a name. -/
def readFields (exact : Bool) (names : List String) : Reader (List (String × Value))
  | .table fields => .ok fields
  | .moment => .ok []
  | .list items =>
      if exact && names.length != items.length then .error {} else .ok (names.zip items)
  | _ => .error {}

/-- A field that has to be there. -/
def field {α : Type} (fields : List (String × Value)) (name : String) (read : Reader α) :
    Except Mismatch α :=
  match fields.lookup name with
  | some v => read v
  | none => .error {}

/-- A field that has a value of its own where it is not there. -/
def fieldOr {α : Type} (fields : List (String × Value)) (name : String) (read : Reader α) (a : α) :
    Except Mismatch α :=
  match fields.lookup name with
  | some v => read v
  | none => .ok a

end Value

end SourceReducer
