import SourceReducer.Text.CharSet

/-! Sets of characters with names. Names are compared in a loose form, without regard to case,
blanks, dashes and underscores. -/
namespace SourceReducer

structure NamedSet where
  names : List String
  table : List String

/-- The loose form of a name. A leading `is` does not count, and neither does what is not ASCII. -/
def looseName (name : String) : String :=
  let (start, rest) := match name.toList with
    | a :: b :: rest =>
        if (a == 'i' || a == 'I') && (b == 's' || b == 'S') then ([a, b], rest)
        else ([], a :: b :: rest)
    | cs => ([], cs)
  let kept :=
    (rest.filter fun c => c.toNat < 128 && c != ' ' && c != '_' && c != '-').map Char.toLower
  -- This one is a name of its own.
  if kept == ['c'] && !start.isEmpty then "isc" else String.ofList kept

def NamedSet.set (s : NamedSet) : CharSet :=
  .ofTable s.table

/-- Whether a loose name is one of the set. -/
def NamedSet.isCalled (s : NamedSet) (name : String) : Bool :=
  s.names.any fun own => looseName own == name

/-- The set with a loose name. -/
def findNamed? (sets : List NamedSet) (name : String) : Option CharSet :=
  (sets.find? fun s => s.isCalled name).map NamedSet.set

end SourceReducer
