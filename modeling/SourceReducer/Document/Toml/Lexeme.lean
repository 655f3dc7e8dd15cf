import SourceReducer.Text.Hex

/-! The smallest parts of a settings file: blanks, comments, texts and keys. A reader gives what it
read and what is left, or nothing where the text does not fit. -/
namespace SourceReducer.Toml

/-- Reads something from the front of a text. -/
abbrev Read (α : Type) := List Char → Option (α × List Char)

def isGap (c : Char) : Bool :=
  c == ' ' || c == '\t'

def dropGaps (cs : List Char) : List Char :=
  cs.dropWhile isGap

/-- What follows the end of a line, if the line ends here. -/
def lineEnd? : List Char → Option (List Char)
  | '\n' :: rest => some rest
  | '\r' :: '\n' :: rest => some rest
  | _ => none

/-- Characters that may stand in a line. -/
def isPlainChar (c : Char) : Bool :=
  c == '\t' || (' ' ≤ c && c != '\x7f')

/-- Drops a comment up to the end of its line. -/
def dropComment : List Char → List Char
  | '#' :: rest => rest.dropWhile isPlainChar
  | cs => cs

/-- What follows the end of a line of which only blanks and a comment are left. -/
def finishLine? (cs : List Char) : Option (List Char) :=
  match dropComment (dropGaps cs) with
  | [] => some []
  | rest => lineEnd? rest

/-- Drops blanks, comments and line ends, `fuel` lines at most. -/
def dropTrivia : Nat → List Char → List Char
  | 0, cs => cs
  | fuel + 1, cs =>
      let cs := dropComment (dropGaps cs)
      match lineEnd? cs with
      | some rest => dropTrivia fuel rest
      | none => cs

def skipTrivia (cs : List Char) : List Char :=
  dropTrivia (cs.length + 1) cs

/-- The character with a number of exactly `width` hexadecimal digits. -/
def readCodePoint (width : Nat) : Read Char := fun cs => do
  let digits := cs.take width
  if digits.length < width then none
  else
    let values ← digits.mapM hexValue?
    let n := values.foldl (fun n d => n * 16 + d) 0
    if n.isValidChar then some (Char.ofNat n, cs.drop width) else none

/-- The character that a backslash and what follows it stand for. -/
def readEscape : Read Char
  | 'b' :: rest => some ('\x08', rest)
  | 't' :: rest => some ('\t', rest)
  | 'n' :: rest => some ('\n', rest)
  | 'f' :: rest => some ('\x0c', rest)
  | 'r' :: rest => some ('\r', rest)
  | '"' :: rest => some ('"', rest)
  | '\\' :: rest => some ('\\', rest)
  | 'u' :: rest => readCodePoint 4 rest
  | 'U' :: rest => readCodePoint 8 rest
  | _ => none

/-- Puts a character in front of what a reader gives. -/
def prepend (c : Char) (result : Option (List Char × List Char)) : Option (List Char × List Char) :=
  result.map fun (read, rest) => (c :: read, rest)

/-- The rest of a text between double quotes on one line. -/
def readBasic : Nat → Read (List Char)
  | 0, _ => none
  | _ + 1, [] => none
  | _ + 1, '"' :: rest => some ([], rest)
  | fuel + 1, '\\' :: rest =>
      match readEscape rest with
      | none => none
      | some (c, rest) => prepend c (readBasic fuel rest)
  | fuel + 1, c :: rest => if isPlainChar c then prepend c (readBasic fuel rest) else none

/-- The rest of a text between single quotes on one line. -/
def readLiteral : Read (List Char)
  | [] => none
  | '\'' :: rest => some ([], rest)
  | c :: rest => if isPlainChar c then prepend c (readLiteral rest) else none

/-- A line that ends in a backslash goes on with the next character that is no blank. -/
def continued? (cs : List Char) : Option (List Char) :=
  (lineEnd? (dropGaps cs)).map fun rest =>
    rest.dropWhile fun c => isGap c || c == '\n' || c == '\r'

/-- The rest of a text over several lines. Three quotes end it, and up to two more belong to it. -/
def readLong (quote : Char) (escapes : Bool) : Nat → Read (List Char)
  | 0, _ => none
  | _ + 1, [] => none
  | fuel + 1, c :: rest =>
      if c == quote then
        let quotes := (c :: rest).takeWhile (· == quote)
        if quotes.length < 3 then prepend c (readLong quote escapes fuel rest)
        else if quotes.length < 6 then some (quotes.drop 3, (c :: rest).drop quotes.length)
        else none
      else if escapes && c == '\\' then
        match continued? rest with
        | some rest => readLong quote escapes fuel rest
        | none =>
            match readEscape rest with
            | none => none
            | some (c, rest) => prepend c (readLong quote escapes fuel rest)
      else
        match lineEnd? (c :: rest) with
        | some rest => prepend '\n' (readLong quote escapes fuel rest)
        | none => if isPlainChar c then prepend c (readLong quote escapes fuel rest) else none

/-- The rest of a text over several lines. A line end right after the opening quotes is dropped. -/
def readLongText (quote : Char) (escapes : Bool) : Read (List Char) := fun cs =>
  readLong quote escapes (cs.length + 1) ((lineEnd? cs).getD cs)

/-- A text in one of the four forms. -/
def readText : Read String := fun cs =>
  let read := match cs with
    | '"' :: '"' :: '"' :: rest => readLongText '"' true rest
    | '"' :: rest => readBasic (rest.length + 1) rest
    | '\'' :: '\'' :: '\'' :: rest => readLongText '\'' false rest
    | '\'' :: rest => readLiteral rest
    | _ => none
  read.map fun (chars, rest) => (String.ofList chars, rest)

def isKeyChar (c : Char) : Bool :=
  c.isAlphanum || c == '_' || c == '-'

def readKey : Read String
  | '"' :: rest =>
      (readBasic (rest.length + 1) rest).map fun (chars, rest) => (String.ofList chars, rest)
  | '\'' :: rest => (readLiteral rest).map fun (chars, rest) => (String.ofList chars, rest)
  | cs =>
      match cs.span isKeyChar with
      | ([], _) => none
      | (name, rest) => some (String.ofList name, rest)

/-- Keys with dots between them, `fuel` of them at most. -/
def readKeys : Nat → Read (List String)
  | 0, _ => none
  | fuel + 1, cs => do
      let (first, rest) ← readKey (dropGaps cs)
      match dropGaps rest with
      | '.' :: rest =>
          let (others, rest) ← readKeys fuel rest
          some (first :: others, rest)
      | rest => some ([first], rest)

end SourceReducer.Toml
