import SourceReducer.Document.Value

/-! Tables of a settings file while it is read. How a table came about decides what may still be
added to it. -/
namespace SourceReducer.Toml

/-- How a table came about. -/
inductive Making
  /-- By the header of a table inside of it. -/
  | implied
  /-- By a key with dots. -/
  | dotted
  /-- By a header of its own. -/
  | headed
  deriving DecidableEq

inductive Node
  | leaf (v : Value)
  | table (made : Making) (fields : List (String × Node))
  /-- Tables that share one header, the newest last. -/
  | tables (items : List (List (String × Node)))

abbrev Fields := List (String × Node)

mutual

def Node.toValue : Node → Value
  | .leaf v => v
  | .table _ fields => .table (valuesOf fields)
  | .tables items => .list (tablesOf items)

/-- The values of fields. -/
def valuesOf : List (String × Node) → List (String × Value)
  | [] => []
  | (key, node) :: rest => (key, node.toValue) :: valuesOf rest

def tablesOf : List (List (String × Node)) → List Value
  | [] => []
  | fields :: rest => .table (valuesOf fields) :: tablesOf rest

end

/-- Puts a node at a key, in place of what stood there. -/
def Fields.put (fields : Fields) (key : String) (node : Node) : Fields :=
  match fields with
  | [] => [(key, node)]
  | (k, n) :: rest => if k = key then (key, node) :: rest else (k, n) :: Fields.put rest key node

/-- Changes the table at the end of a path. Tables that are missing on the way are made; `dotted`
says that the path is that of a key, which does not lead into a table with a header. -/
def changeAt (dotted : Bool) (change : Making → Fields → Option Fields) :
    List String → Making → Fields → Option Fields
  | [], made, fields => change made fields
  | key :: path, _, fields =>
      match fields.lookup key with
      | none =>
          let made := if dotted then .dotted else .implied
          (changeAt dotted change path made []).map fun inner =>
            Fields.put fields key (.table made inner)
      | some (.table made inner) =>
          if dotted && made = .headed then none
          else
            (changeAt dotted change path made inner).map fun inner =>
              Fields.put fields key (.table made inner)
      | some (.tables items) =>
          match items.getLast? with
          | none => none
          | some last =>
              (changeAt dotted change path .headed last).map fun inner =>
                Fields.put fields key (.tables (items.dropLast ++ [inner]))
      | some (.leaf _) => none

/-- Adds a value under a key with a path before it. No key comes twice, and a key with dots does not
reach into a table that another form has made. -/
def addValue (path : List String) (key : String) (v : Value) (fields : Fields) : Option Fields :=
  changeAt true (fun made inner =>
    if (made == .dotted) == path.isEmpty then none
    else if (inner.lookup key).isSome then none
    else some (inner ++ [(key, .leaf v)])) path .headed fields

/-- A file on its way: what is closed, and the table that is open with its header. -/
structure Draft where
  root : Fields := []
  path : List String := []
  /-- Whether the open table is one of several with its header. -/
  listed : Bool := false
  fields : Fields := []

namespace Draft

/-- Puts the open table into its place. -/
def close (d : Draft) : Option Fields :=
  match d.path.getLast? with
  | none => some d.fields
  | some key =>
      changeAt false (fun _ inner =>
        if d.listed then
          match inner.lookup key with
          | none => some (Fields.put inner key (.tables [d.fields]))
          | some (.tables items) => some (Fields.put inner key (.tables (items ++ [d.fields])))
          | some _ => none
        else
          match inner.lookup key with
          | none | some (.table .implied _) | some (.table .dotted _) =>
              some (Fields.put inner key (.table .headed d.fields))
          | some _ => none) d.path.dropLast .headed d.root

/-- What stands below the last key of a path. -/
def fieldsAt (path : List String) (root : Fields) : Option (Option Node × Fields) :=
  match path.getLast? with
  | none => none
  | some key =>
      let found := fieldsFrom path.dropLast root
      found.map fun inner => (inner.lookup key, inner)
where
  /-- The fields of the table at the end of a path, of which parts may be missing. -/
  fieldsFrom : List String → Fields → Option Fields
    | [], fields => some fields
    | key :: path, fields =>
        match fields.lookup key with
        | none => some []
        | some (.table _ inner) => fieldsFrom path inner
        | some (.tables items) => items.getLast?.bind (fieldsFrom path)
        | some (.leaf _) => none

/-- Closes the open table and opens one by its header. One that was only implied keeps what it
has. -/
def openTable (d : Draft) (path : List String) : Option Draft := do
  let root ← d.close
  match ← fieldsAt path root with
  | (none, _) => some { root, path }
  | (some (.table .implied fields), _) => some { root, path, fields }
  | _ => none

/-- Closes the open table and opens another one of those with a header. -/
def openListed (d : Draft) (path : List String) : Option Draft := do
  let root ← d.close
  match ← fieldsAt path root with
  | (none, _) | (some (.tables _), _) => some { root, path, listed := true }
  | _ => none

end Draft

end SourceReducer.Toml
