import SourceReducer.Command.Basic
import SourceReducer.Command.Options
import SourceReducer.Command.Wildcard

/-! Listing what stands in directories. -/
namespace SourceReducer.Listing

def table : OptionTable where
  letters :=
    ['1', 'a', 'A', 'B', 'c', 'C', 'd', 'f', 'F', 'g', 'G', 'h', 'H', 'i', 'k', 'l', 'L', 'm', 'n',
      'N', 'o', 'p', 'q', 'Q', 'r', 'R', 's', 'S', 't', 'u', 'U', 'v', 'x', 'X', 'Z'].map
        fun c => (c, .none)
  names := [("all", .none, 'a'), ("almost-all", .none, 'A'), ("directory", .none, 'd'),
    ("classify", .optional, 'F'), ("quote-name", .none, 'Q'), ("reverse", .none, 'r'),
    ("recursive", .none, 'R'), ("color", .optional, 'N'), ("literal", .none, 'N')]

/-- What stands at a path: its mark, and its place if it is a directory. -/
structure Item where
  name : String
  mark : String := ""
  directory : Option Location := none

/-- The item at a path. A link stands for what it leads to only if that is a directory. -/
def itemAt (files : Files) (follow : Bool) (path : String) : Except FileFault Item :=
  match files.resolve (ByteText.toText path) false with
  | .error fault => .error fault
  | .ok (.missing ..) => .error .notFound
  | .ok (.directory loc) => .ok { name := path, mark := "/", directory := some loc }
  | .ok (.file ..) => .ok { name := path }
  | .ok (.link ..) =>
      match follow, files.find (ByteText.toText path) with
      | true, .ok (.directory loc) => .ok { name := path, mark := "@", directory := some loc }
      | _, _ => .ok { name := path, mark := "@" }

/-- Whether a name is shown. -/
def isShown (g : GivenOptions) (name : String) : Bool :=
  if g.has 'a' || g.has 'f' then true
  else if g.has 'A' then name != "." && name != ".."
  else !name.startsWith "."

def order (g : GivenOptions) (items : List Item) : List Item :=
  let sorted := items.mergeSort fun a b => a.name ≤ b.name
  if g.has 'r' then sorted.reverse else sorted

def showName (g : GivenOptions) (item : Item) : String :=
  let mark := if g.has 'F' then item.mark
    else if g.has 'p' && item.mark == "/" then "/" else ""
  let name := if g.has 'Q' then "\"" ++ item.name ++ "\"" else item.name
  name ++ mark

/-- Items as they are printed, one a line or in one line. -/
def showItems (g : GivenOptions) (items : List Item) : String :=
  let names := items.map (showName g)
  if names.isEmpty then ""
  else if g.has 'm' then ", ".intercalate names ++ "\n"
  else if (g.has 'C' || g.has 'x') && !g.has '1' then "  ".intercalate names ++ "\n"
  else String.join (names.map (· ++ "\n"))

/-- What stands in a directory. -/
def itemsIn (g : GivenOptions) (files : Files) (path : String) (loc : Location) : List Item :=
  let names := (Wildcard.namesIn files loc).filter (isShown g)
  let items := names.map fun name =>
    let item := (itemAt files false (path ++ "/" ++ name)).toOption.getD { name }
    { item with name }
  order g items

/-- The parts of the listing of a directory and, if asked for, of those below it. -/
def sections (g : GivenOptions) (files : Files) : Nat → Item → List (String × String)
  | 0, _ => []
  | depth + 1, item =>
      match item.directory with
      | none => []
      | some loc =>
          let items := itemsIn g files item.name loc
          let below := if g.has 'R' then
              items.flatMap fun inner =>
                if inner.name == "." || inner.name == ".." || inner.mark != "/" then []
                else
                  sections g files depth
                    { inner with name := item.name ++ "/" ++ inner.name }
            else []
          (item.name, showItems g items) :: below

/-- How many directories inside each other are listed at most. -/
def maxDepth : Nat := 64

def run (call : Call) : CallResult :=
  match GivenOptions.read table call.args {} with
  | .error fault =>
      .fail 2 s!"{call.name}: {fault.message}\nTry '{call.name} --help' for more information."
  | .ok g =>
      let names := if g.operands.isEmpty then ["."] else g.operands
      let found := names.map fun name => (name, itemAt call.files (!g.has 'd') name)
      let faults := found.filterMap fun (name, item) => match item with
        | .error fault => some s!"{call.name}: cannot access '{name}': {fault.reason}\n"
        | .ok _ => none
      let items := order g (found.filterMap fun (_, item) => item.toOption)
      let (directories, others) := items.partition fun item => item.directory.isSome && !g.has 'd'
      let parts := directories.flatMap (sections g call.files maxDepth)
      let titled := 1 < names.length || g.has 'R'
      let texts := parts.map fun (title, text) => if titled then s!"{title}:\n{text}" else text
      let shown := showItems g others
      let all := if shown.isEmpty then texts else shown :: texts
      { code := if faults.isEmpty then 0 else 2
        said := faults.map (fun f => (.err, f)) ++ [(.out, "\n".intercalate all)] }

end SourceReducer.Listing
