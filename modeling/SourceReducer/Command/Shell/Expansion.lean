import SourceReducer.Command.Arithmetic
import SourceReducer.Command.Shell.State
import SourceReducer.Command.Wildcard

/-! From words to fields. What stands for something else is put in place, what came from outside of
quotes is split at the gaps between fields, and the fields are matched against the names of
files. -/
namespace SourceReducer

open Wildcard (Mark)

/-- A part of a word after everything is put in place. -/
inductive Segment
  | whole (marks : List Mark)
  /-- Is split at gaps. -/
  | divisible (marks : List Mark)
  /-- A quotation mark. A field with one is kept even if nothing is in it. -/
  | mark
  /-- The end of a field. -/
  | boundary

/-- How the parts of a word are taken. -/
structure Taking where
  /-- Values without quotes are split. -/
  splitsValues : Bool
  /-- Characters without quotes are split as well. -/
  splitsText : Bool := false

/-- Runs a script and gives what it printed. -/
abbrev Capture := Option Command → Act String

namespace Segment

/-- Fields that are being put together. What was read stands last one first. -/
structure Fields where
  done : List (List Mark) := []
  current : List Mark := []
  /-- Something stands in the current field, if only a quotation mark. -/
  isStarted : Bool := false
  /-- The last character was a blank gap that ended a field. -/
  isAfterBlank : Bool := false

def Fields.close (f : Fields) : Fields :=
  { done := f.current.reverse :: f.done }

/-- Takes a character of a value. Blank gaps next to each other are one gap, and other gaps may have
blank ones around them. -/
def Fields.take (gaps : String) (f : Fields) (m : Mark) : Fields :=
  let isGap := m.1 == '\x00' || gaps.contains m.1
  let isBlank := isGap && (m.1 == '\x00' || Shell.defaultGaps.contains m.1)
  if isGap then
    if f.isAfterBlank then { f with isAfterBlank := isBlank }
    else if isBlank && !f.isStarted then f
    else { f.close with isAfterBlank := isBlank }
  else { f with current := m :: f.current, isStarted := true, isAfterBlank := false }

def Fields.add (gaps : String) (f : Fields) : Segment → Fields
  | .whole marks =>
      { f with current := marks.reverse ++ f.current, isStarted := f.isStarted || !marks.isEmpty }
  | .divisible marks => marks.foldl (Fields.take gaps) { f with isAfterBlank := false }
  | .mark => { f with isStarted := true }
  | .boundary => f.close

/-- The fields of a word. -/
def fields (gaps : String) (segments : List Segment) : List (List Mark) :=
  let f := segments.foldl (Fields.add gaps) {}
  (if f.isStarted then f.close else f).done.reverse

/-- The characters of a word that is one field. -/
def marks (segments : List Segment) : List Mark :=
  segments.flatMap fun segment => match segment with
    | .whole marks | .divisible marks => marks
    | .mark | .boundary => []

def text (segments : List Segment) : String :=
  String.ofList ((marks segments).map Prod.fst)

end Segment

namespace Expansion

def quote (text : String) : List Mark :=
  text.toList.map fun c => (c, false)

def unquoted (text : String) : List Mark :=
  text.toList.map fun c => (c, true)

/-- The segments of a value. -/
def ofValue (taking : Taking) (quoted : Bool) (text : String) : List Segment :=
  if quoted then [.whole (quote text)]
  else if taking.splitsValues then [.divisible (unquoted text)]
  else [.whole (unquoted text)]

/-- What stands between the arguments where they are one text. -/
def joint (s : Shell) : String :=
  match s.value? "IFS" with
  | none => " "
  | some gaps => String.ofList (gaps.toList.take 1)

/-- The segments of all arguments. -/
def ofArguments (taking : Taking) (apart quoted : Bool) (s : Shell) : List Segment :=
  if taking.splitsValues && quoted && apart then
    (s.arguments.map fun a => [.whole (quote a), .mark]).intersperse [.boundary] |>.flatten
  else if taking.splitsValues && !quoted then
    [.divisible (unquoted ("\x00".intercalate s.arguments))]
  else ofValue taking quoted ((joint s).intercalate s.arguments)

/-- The segments of the value of a parameter. -/
def ofParameter (taking : Taking) (name : String) (quoted : Bool) (s : Shell) : List Segment :=
  if name == "@" || name == "*" then ofArguments taking (name == "@") quoted s
  else ofValue taking quoted ((s.value? name).getD "")

/-- Complains about a parameter without a value, if that is asked for. -/
def demandValue (name : String) : Act Unit := do
  let s ← get
  if s.hasOption 'u' && (s.value? name).isNone && name != "@" && name != "*" then
    Act.fail s!"{name}: parameter not set"

/-- A text without what a pattern fits at its start or end. -/
def trim (atEnd longest : Bool) (pattern : List Char) (text : List Char) : List Char :=
  let lengths := List.range (text.length + 1)
  let order := if atEnd == longest then lengths else lengths.reverse
  if atEnd then
    match order.find? fun n => Wildcard.fits pattern (text.drop n) with
    | some n => text.take n
    | none => text
  else
    match order.find? fun n => Wildcard.fits pattern (text.take n) with
    | some n => text.drop n
    | none => text

/-- The value of an expression, with its assignments made. -/
def calculate (expression : String) : Act String := do
  let s ← get
  match Arithmetic.run (fun name => (s.value? name).getD "") expression.toList with
  | .ok (n, assigned) =>
      for (name, value) in assigned do
        Act.setVariable name (toString value)
      return toString n
  | .error fault => Act.fail (fault.message expression)

mutual

def expandPiece (capture : Capture) (taking : Taking) : Piece → Act (List Segment)
  | .text chars quoted =>
      let marks := chars.map fun c => (c, !quoted)
      return [if taking.splitsText && !quoted then .divisible marks else .whole marks]
  | .mark => return [.mark]
  | .parameter name use quoted => expandUse capture taking name quoted use
  | .output script quoted => return ofValue taking quoted (← capture script)
  | .arithmetic expression quoted => do
      let text := Segment.text (← expandPieces capture { splitsValues := false } expression)
      return ofValue taking quoted (← calculate text)

def expandUse (capture : Capture) (taking : Taking) (name : String) (quoted : Bool) :
    ParameterUse → Act (List Segment)
  | .malformed => Act.fail "Bad substitution"
  | .value => do
      demandValue name
      return ofParameter taking name quoted (← get)
  | .length => do
      demandValue name
      return ofValue taking quoted (toString (((← get).value? name).getD "").length)
  | .check kind orEmpty word => do
      let value := (← get).value? name
      let isThere := value.any fun text => !(orEmpty && text.isEmpty)
      match kind with
      | .instead =>
          if isThere then
            expandPieces capture { taking with splitsText := taking.splitsValues } word
          else return []
      | .otherwise =>
          if isThere then return ofParameter taking name quoted (← get)
          else expandPieces capture { taking with splitsText := taking.splitsValues } word
      | .assign =>
          if isThere then return ofParameter taking name quoted (← get)
          else
            let text := Segment.text (← expandPieces capture { splitsValues := false } word)
            if !isName name then Act.fail s!"{name}: bad variable name"
            Act.setVariable name text
            return ofParameter taking name quoted (← get)
      | .demand =>
          if isThere then return ofParameter taking name quoted (← get)
          else
            let text := Segment.text (← expandPieces capture { splitsValues := false } word)
            let reason := if !word.isEmpty then text
              else if orEmpty then "parameter not set or null" else "parameter not set"
            Act.fail s!"{name}: {reason}"
  | .trim atEnd longest pattern => do
      demandValue name
      let text := Segment.text (ofParameter { splitsValues := false } name true (← get))
      let marks := Segment.marks (← expandPieces capture { splitsValues := false } pattern)
      let rest := trim atEnd longest (Wildcard.ofMarks marks) text.toList
      return ofValue taking quoted (String.ofList rest)

/-- Arguments that stand alone between quotation marks leave no field where there are none. -/
def expandPieces (capture : Capture) (taking : Taking) : List Piece → Act (List Segment)
  | [] => return []
  | .mark :: .parameter "@" .value true :: .mark :: rest => do
      let first ← expandPiece capture taking (.parameter "@" .value true)
      return first ++ (← expandPieces capture taking rest)
  | piece :: rest => do
      let first ← expandPiece capture taking piece
      return first ++ (← expandPieces capture taking rest)

end

/-- A word with a tilde at its start replaced by a home directory. -/
def expandTilde (s : Shell) (word : ScriptWord) : ScriptWord :=
  match word with
  | .text ('~' :: chars) false :: rest =>
      let (user, after) := chars.span (· != '/')
      if after.isEmpty && !rest.isEmpty then word
      else
        let home := if user.isEmpty then s.value? "HOME"
          else if user = "root".toList then some "/root" else none
        match home with
        | some dir => .text dir.toList true :: .text after false :: rest
        | none => word
  | _ => word

/-- The fields that a word stands for. -/
def fields (capture : Capture) (word : ScriptWord) : Act (List String) := do
  let word := expandTilde (← get) word
  let segments ← expandPieces capture { splitsValues := true } word
  let s ← get
  return (Segment.fields s.gaps segments).flatMap fun marks =>
    let plain := [String.ofList (marks.map Prod.fst)]
    if s.hasOption 'f' then plain
    else
      match Wildcard.paths s.files (Wildcard.ofMarks marks) with
      | [] => plain
      | paths => paths

/-- The one text that a word stands for. -/
def single (capture : Capture) (word : ScriptWord) : Act String := do
  let word := expandTilde (← get) word
  return Segment.text (← expandPieces capture { splitsValues := false } word)

/-- The wildcard pattern that a word stands for. -/
def pattern (capture : Capture) (word : ScriptWord) : Act (List Char) := do
  let word := expandTilde (← get) word
  return Wildcard.ofMarks (Segment.marks (← expandPieces capture { splitsValues := false } word))

/-- The fields of words one after the other. Where `assigns`, a word that gives a variable a value
is one field. -/
def allFields (capture : Capture) (assigns : Bool) : List ScriptWord → Act (List String)
  | [] => return []
  | word :: rest => do
      let first ← match if assigns then ScriptWord.assignment? word else none with
        | some (name, value) => do pure [name ++ "=" ++ (← single capture value)]
        | none => fields capture word
      return first ++ (← allFields capture assigns rest)

end Expansion

end SourceReducer
