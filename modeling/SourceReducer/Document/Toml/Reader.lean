import SourceReducer.Document.Toml.Number
import SourceReducer.Document.Toml.Table

/-! Reading a settings file. -/
namespace SourceReducer.Toml

/-- How deep lists and tables may stand inside each other, and how many keys a path may have. -/
def depthLimit : Nat := 80

/-- Reads the items of a list from behind its opening bracket. -/
def readItems (readOne : Read Value) : Nat → Read (List Value)
  | 0, _ => none
  | fuel + 1, cs =>
      match skipTrivia cs with
      | ']' :: rest => some ([], rest)
      | cs => do
          let (v, rest) ← readOne cs
          match skipTrivia rest with
          | ',' :: rest =>
              let (others, rest) ← readItems readOne fuel rest
              some (v :: others, rest)
          | ']' :: rest => some ([v], rest)
          | _ => none

/-- Reads a key with its path, the equals sign and the value. -/
def readPair (readOne : Read Value) : Read (List String × Value) := fun cs => do
  let (keys, rest) ← readKeys (depthLimit - 1) cs
  match dropGaps rest with
  | '=' :: rest =>
      let (v, rest) ← readOne (dropGaps rest)
      some ((keys, v), rest)
  | _ => none

/-- Adds a value under keys with dots between them. -/
def addPair (fields : Fields) (pair : List String × Value) : Option Fields := do
  let key ← pair.1.getLast?
  addValue pair.1.dropLast key pair.2 fields

/-- Reads the pairs of a table in braces, after the first comma or brace. -/
def readPairs (readOne : Read Value) : Nat → Fields → Read Fields
  | 0, _, _ => none
  | fuel + 1, fields, cs => do
      let (pair, rest) ← readPair readOne cs
      let fields ← addPair fields pair
      match dropGaps rest with
      | ',' :: rest => readPairs readOne fuel fields rest
      | '\x7d' :: rest => some (fields, rest)
      | _ => none

/-- Reads a value in which lists and tables are at most `depth` deep. -/
def readValue : Nat → Read Value
  | depth, cs =>
      match cs with
      | [] => none
      | 't' :: 'r' :: 'u' :: 'e' :: rest => some (.bool true, rest)
      | 'f' :: 'a' :: 'l' :: 's' :: 'e' :: rest => some (.bool false, rest)
      | '[' :: rest =>
          match depth with
          | 0 => none
          | depth + 1 =>
              (readItems (readValue depth) (rest.length + 1) rest).map fun (items, rest) =>
                (.list items, rest)
      | '\x7b' :: rest =>
          match depth with
          | 0 => none
          | depth + 1 =>
              match dropGaps rest with
              | '\x7d' :: rest => some (.table [], rest)
              | cs =>
                  (readPairs (readValue depth) (cs.length + 1) [] cs).map fun (fields, rest) =>
                    (.table (valuesOf fields), rest)
      | c :: rest =>
          if c == '"' || c == '\'' then
            (readText (c :: rest)).map fun (s, rest) => (.text s, rest)
          else readNumber (c :: rest)

/-- Reads a header from behind its brackets up to the end of its line. -/
def readHeader (closing : List Char) : Read (List String) := fun cs => do
  let (keys, rest) ← readKeys (depthLimit - 1) cs
  let rest := dropGaps rest
  if closing.isPrefixOf rest then
    let rest ← finishLine? (rest.drop closing.length)
    some (keys, rest)
  else none

/-- Reads one line after the other. -/
def readLines : Nat → Draft → List Char → Option Draft
  | 0, _, _ => none
  | fuel + 1, draft, cs =>
      match skipTrivia cs with
      | [] => some draft
      | '[' :: '[' :: rest => do
          let (path, rest) ← readHeader [']', ']'] rest
          readLines fuel (← draft.openListed path) rest
      | '[' :: rest => do
          let (path, rest) ← readHeader [']'] rest
          readLines fuel (← draft.openTable path) rest
      | cs => do
          let (pair, rest) ← readPair (readValue (depthLimit - 1)) cs
          let fields ← addPair draft.fields pair
          readLines fuel { draft with fields } (← finishLine? rest)

/-- The table that a settings file holds. -/
def parse? (text : String) : Option Value := do
  let cs := match text.toList with
    | '\uFEFF' :: rest => rest
    | cs => cs
  let draft ← readLines (cs.length + 1) {} cs
  some (.table (valuesOf (← draft.close)))

end SourceReducer.Toml
