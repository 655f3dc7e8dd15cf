import SourceReducer.Command.Basic
import SourceReducer.Command.Grep.Match
import SourceReducer.Command.Options
import SourceReducer.Pattern.Weight

/-! What a search is asked to do, and how that is read from its arguments. -/
namespace SourceReducer.Grep

/-- How expressions are written. -/
inductive Style
  | basic
  | extended
  | fixed
  | perl
  deriving DecidableEq

/-- Which names of files are printed instead of lines. -/
inductive Naming
  | selected
  | unselected
  deriving DecidableEq

/-- What is done with files that hold zero bytes. -/
inductive BinaryHandling
  | tell
  | asText
  | skip
  deriving DecidableEq

inductive DirectoryHandling
  | read
  | recurse
  | skip
  deriving DecidableEq

structure Request where
  style : Option Style := none
  anyCase : Bool := false
  inverted : Bool := false
  words : Bool := false
  wholeLines : Bool := false
  counts : Bool := false
  naming : Option Naming := none
  quiet : Bool := false
  silent : Bool := false
  onlyMatches : Bool := false
  most : Option Nat := none
  before : Option Nat := none
  after : Option Nat := none
  around : Option Nat := none
  numbers : Bool := false
  offsets : Bool := false
  withNames : Option Bool := none
  zeroLines : Bool := false
  zeroNames : Bool := false
  aligned : Bool := false
  label : String := "(standard input)"
  separator : Option String := some "--"
  binary : BinaryHandling := .tell
  directories : DirectoryHandling := .read
  included : List String := []
  excluded : List String := []
  excludedDirectories : List String := []
  /-- The expressions so far, one a line. -/
  patterns : Option (List (List Char)) := none
  warnings : List String := []

inductive RequestFault
  | option (fault : OptionFault)
  | usage
  | maxCount
  | contextLength (text : String)
  | conflictingStyles
  | binaryType
  | deviceMethod
  | directoryMethod (text : String)
  | patternFile (name : String) (fault : FileFault)

def RequestFault.message : RequestFault → String
  | .option fault => fault.message
  | .usage => ""
  | .maxCount => "invalid max count"
  | .contextLength text => s!"{text}: invalid context length argument"
  | .conflictingStyles => "conflicting matchers specified"
  | .binaryType => "unknown binary-files type"
  | .deviceMethod => "unknown devices method"
  | .directoryMethod text =>
      s!"invalid argument '{text}' for '--directories'\nValid arguments are:\n  - 'read'\n" ++
        "  - 'recurse'\n  - 'skip'"
  | .patternFile name fault => s!"{name}: {fault.reason}"

/-- Whether the right way to call is told along with a fault. -/
def RequestFault.showsUsage : RequestFault → Bool
  | .option _ | .usage | .directoryMethod _ => true
  | _ => false

/-- The options. Names without a letter of their own have a sign. -/
def table : OptionTable where
  letters :=
    ((['E', 'F', 'G', 'P', 'i', 'y', 'v', 'w', 'x', 'c', 'l', 'L', 'q', 's', 'o', 'n', 'b', 'H',
      'h', 'z', 'Z', 'T', 'a', 'I', 'r', 'R', 'u', 'U', '0', '1', '2', '3', '4', '5', '6', '7',
      '8', '9'].map fun c => (c, ValueNeed.none))) ++
    ['e', 'f', 'm', 'A', 'B', 'C', 'd', 'D'].map fun c => (c, ValueNeed.required)
  names :=
    [("basic-regexp", .none, 'G'), ("extended-regexp", .none, 'E'), ("fixed-strings", .none, 'F'),
      ("perl-regexp", .none, 'P'), ("after-context", .required, 'A'),
      ("before-context", .required, 'B'), ("binary-files", .required, '&'), ("binary", .none, 'U'),
      ("byte-offset", .none, 'b'), ("context", .required, 'C'), ("color", .optional, ','),
      ("colour", .optional, ','), ("count", .none, 'c'), ("devices", .required, 'D'),
      ("directories", .required, 'd'), ("exclude", .required, '-'), ("exclude-dir", .required, '/'),
      ("file", .required, 'f'), ("files-with-matches", .none, 'l'),
      ("files-without-match", .none, 'L'), ("group-separator", .required, ':'),
      ("include", .required, '+'), ("ignore-case", .none, 'i'),
      ("no-ignore-case", .none, '!'), ("initial-tab", .none, 'T'), ("label", .required, '='),
      ("line-buffered", .none, ','), ("line-number", .none, 'n'), ("line-regexp", .none, 'x'),
      ("max-count", .required, 'm'), ("no-filename", .none, 'h'),
      ("no-group-separator", .none, ';'), ("no-messages", .none, 's'), ("null", .none, 'Z'),
      ("null-data", .none, 'z'), ("only-matching", .none, 'o'), ("quiet", .none, 'q'),
      ("recursive", .none, 'r'), ("dereference-recursive", .none, 'R'), ("regexp", .required, 'e'),
      ("invert-match", .none, 'v'), ("silent", .none, 'q'), ("text", .none, 'a'),
      ("unix-byte-offsets", .none, 'u'), ("with-filename", .none, 'H'),
      ("word-regexp", .none, 'w')]

/-- A whole number in decimal digits, blanks before it and a sign allowed. -/
def readWhole? (text : String) : Option Int :=
  let cs := text.toList.dropWhile isAsciiSpace
  let (isNegative, digits) := match cs with
    | '-' :: rest => (true, rest)
    | '+' :: rest => (false, rest)
    | _ => (false, cs)
  if digits.isEmpty || !digits.all Char.isDigit then none
  else
    let n : Int := digitsValue 10 digits
    some (if isNegative then -n else n)

def readContext (text : String) : Except RequestFault Nat :=
  match readWhole? text with
  | some (.ofNat n) => .ok n
  | _ => .error (.contextLength text)

/-- The lines of a text. The end of the last line may be missing. -/
def splitAt (mark : Char) (cs : List Char) : List (List Char) :=
  let (line, lines) := cs.foldr (fun c (line, lines) =>
    if c == mark then ([], line :: lines) else (c :: line, lines)) (([] : List Char), [])
  line :: lines

def Request.addPatterns (r : Request) (lines : List (List Char)) : Request :=
  { r with patterns := some (r.patterns.getD [] ++ lines) }

def Request.setStyle (r : Request) (style : Style) : Except RequestFault Request :=
  if r.style.any (· ≠ style) then .error .conflictingStyles else .ok { r with style := some style }

/-- Takes in an option. `previous` is the letter before it: digits behind one another are one
number. -/
def Request.take (call : Call) (r : Request) (previous : Option Char) (letter : Char)
    (value : String) : Except RequestFault Request :=
  match letter with
  | 'E' => r.setStyle .extended
  | 'F' => r.setStyle .fixed
  | 'G' => r.setStyle .basic
  | 'P' => r.setStyle .perl
  | 'e' => .ok (r.addPatterns (splitAt '\n' value.toList))
  | 'f' =>
      let found := if value == "-" then .ok call.input else call.files.readChars value
      match found with
      | .error fault => .error (.patternFile value fault)
      | .ok [] => .ok (r.addPatterns [])
      | .ok cs =>
          let text := if cs.getLast? = some '\n' then cs.dropLast else cs
          .ok (r.addPatterns (splitAt '\n' text))
  | 'i' | 'y' => .ok { r with anyCase := true }
  | '!' => .ok { r with anyCase := false }
  | 'v' => .ok { r with inverted := true }
  | 'w' => .ok { r with words := true }
  | 'x' => .ok { r with wholeLines := true }
  | 'c' => .ok { r with counts := true }
  | 'l' => .ok { r with naming := some .selected }
  | 'L' => .ok { r with naming := some .unselected }
  | 'q' => .ok { r with quiet := true }
  | 's' => .ok { r with silent := true }
  | 'o' => .ok { r with onlyMatches := true }
  | 'n' => .ok { r with numbers := true }
  | 'b' => .ok { r with offsets := true }
  | 'H' => .ok { r with withNames := some true }
  | 'h' => .ok { r with withNames := some false }
  | 'z' => .ok { r with zeroLines := true }
  | 'Z' => .ok { r with zeroNames := true }
  | 'T' => .ok { r with aligned := true }
  | 'a' => .ok { r with binary := .asText }
  | 'I' => .ok { r with binary := .skip }
  | 'r' | 'R' => .ok { r with directories := .recurse }
  | 'u' => .ok { r with warnings := r.warnings ++ ["--unix-byte-offsets (-u) is obsolete"] }
  | 'm' =>
      match readWhole? value with
      | some (.ofNat n) => .ok { r with most := some n }
      | some _ => .ok { r with most := none }
      | none => .error .maxCount
  | 'A' => (readContext value).map fun n => { r with after := some n }
  | 'B' => (readContext value).map fun n => { r with before := some n }
  | 'C' => (readContext value).map fun n => { r with around := some n }
  | 'd' =>
      match value with
      | "read" => .ok { r with directories := .read }
      | "recurse" => .ok { r with directories := .recurse }
      | "skip" => .ok { r with directories := .skip }
      | _ => .error (.directoryMethod value)
  | 'D' => if value == "read" || value == "skip" then .ok r else .error .deviceMethod
  | '&' =>
      match value with
      | "binary" => .ok { r with binary := .tell }
      | "text" => .ok { r with binary := .asText }
      | "without-match" => .ok { r with binary := .skip }
      | _ => .error .binaryType
  | '=' => .ok { r with label := value }
  | '+' => .ok { r with included := r.included ++ [value] }
  | '-' => .ok { r with excluded := r.excluded ++ [value] }
  | '/' => .ok { r with excludedDirectories := r.excludedDirectories ++ [value] }
  | ':' => .ok { r with separator := some value }
  | ';' => .ok { r with separator := none }
  | c =>
      if c.isDigit then
        let before := if previous.any Char.isDigit then r.around.getD 0 else 0
        .ok { r with around := some (10 * before + (c.toNat - 48)) }
      else .ok r

def Request.takeAll (call : Call) : Request → Option Char → List (Char × Option String) →
    Except RequestFault Request
  | r, _, [] => .ok r
  | r, previous, (letter, value) :: rest =>
      match r.take call previous letter (value.getD "") with
      | .error fault => .error fault
      | .ok r => r.takeAll call (some letter) rest

/-- A request without any expression selects nothing: it is the one for the lines without the empty
text. -/
def Request.settle (r : Request) : Request :=
  if r.patterns = some [] then
    { r with patterns := some [[]], inverted := !r.inverted, words := false, wholeLines := false }
  else r

/-- Whether a request is known to select no line. -/
def Request.isVain (r : Request) : Bool :=
  r.most = some 0 ||
    ((r.patterns.getD []).eraseDups = [[]] && r.inverted && !r.words && !r.wholeLines)

/-- Reads the arguments of a search: what it is asked for and the files to look at. Without
expressions among the options the first operand is one. -/
def Request.ofCall (call : Call) : Except RequestFault (Request × List String) := do
  let given ← (GivenOptions.read table call.args {}).mapError .option
  let r ← Request.takeAll call {} none given.options
  match r.patterns, given.operands with
  | some _, files => return (r.settle, files)
  | none, text :: files => return (r.addPatterns (splitAt '\n' text.toList), files)
  | none, [] => throw .usage

inductive TargetFault
  | expressions (faults : List Fault)
  | severalPatterns
  | pattern (fault : Pattern.Fault)

def TargetFault.messages : TargetFault → List String
  | .expressions faults => faults.map Fault.message
  | .severalPatterns => ["the -P option only supports a single pattern"]
  | .pattern fault => [fault.message]

/-- A pattern as an expression. -/
def Expression.ofPattern : Pattern → Expression
  | .empty => .empty
  | .one set => .one set
  | .place assertion => .place assertion
  | .seq a b => .seq (ofPattern a) (ofPattern b)
  | .alt a b => .alt (ofPattern a) (ofPattern b)
  | .times low high a => .times low high (ofPattern a)
  | .group a => ofPattern a

/-- What is searched for, and the signs of repetition in it that had nothing before them. -/
def Request.target (r : Request) : Except TargetFault (Target × List String) :=
  let extent := if r.wholeLines then .line else if r.words then .word else .part
  let make := fun (expressions : List Expression) =>
    ({ expressions, anyCase := r.anyCase, extent } : Target)
  let patterns := (r.patterns.getD []).eraseDups
  let readAll := fun (isExtended : Bool) =>
    let found := patterns.map (Expression.ofChars { isExtended, anyCase := r.anyCase })
    let faults := found.filterMap fun f => match f with
      | .error fault => some fault
      | .ok _ => none
    let read := found.filterMap fun f => match f with
      | .error _ => none
      | .ok e => some e
    if faults.isEmpty then .ok (make (read.map Prod.fst), read.flatMap Prod.snd)
    else .error (.expressions faults)
  match r.style with
  | some .fixed => .ok (make (patterns.map (Expression.fixed r.anyCase)), [])
  | some .extended => readAll true
  | some .perl =>
      match patterns with
      | [text] =>
          let flags := if r.anyCase then "(?i)" else ""
          match Pattern.ofString (flags ++ String.ofList text) with
          | .ok p => .ok (make [.ofPattern p], [])
          | .error fault => .error (.pattern fault)
      | _ => .error .severalPatterns
  | _ => readAll false

end SourceReducer.Grep
