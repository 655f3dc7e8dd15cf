/-! Command scripts as trees: words with what is to be put in place in them, redirections and
commands. -/
namespace SourceReducer

/-- What a parameter is checked for, and what then happens with the word beside it. -/
inductive Check
  /-- The word is taken if the parameter is missing. -/
  | otherwise
  /-- The word is taken if the parameter is there. -/
  | instead
  /-- The parameter is given the word if it is missing. -/
  | assign
  /-- The word is the complaint if the parameter is missing. -/
  | demand
  deriving DecidableEq

/-- How a file is opened. -/
inductive OpenMode
  | read
  | write
  /-- Writes also where files are not to be overwritten. -/
  | overwrite
  | append
  | readWrite
  deriving DecidableEq

mutual

/-- A part of a word. What is quoted is neither split into fields nor matched against names. -/
inductive Piece
  | text (chars : List Char) (quoted : Bool)
  /-- A quotation mark. A word with one is a field even if nothing is in it. -/
  | mark
  | parameter (name : String) (use : ParameterUse) (quoted : Bool)
  /-- What a script prints, without the line ends at the end. -/
  | output (script : Option Command) (quoted : Bool)
  | arithmetic (expression : List Piece) (quoted : Bool)

inductive ParameterUse
  | value
  | length
  /-- Checks whether there is a value and, if `orEmpty`, whether it has characters. -/
  | check (kind : Check) (orEmpty : Bool) (word : List Piece)
  /-- Cuts off what a pattern fits at one end. -/
  | trim (atEnd longest : Bool) (pattern : List Piece)
  | malformed

inductive Redirection
  | file (channel : Nat) (mode : OpenMode) (path : List Piece)
  /-- Makes a channel go where another one goes, or closes it. -/
  | duplicate (channel : Nat) (target : List Piece)
  /-- Reads a text that stands in the script itself. -/
  | here (channel : Nat) (text : List Piece)
  /-- Reads the text with this number, which is still to come. -/
  | hereLater (channel : Nat) (number : Nat)

inductive Command
  /-- Assignments, words and redirections, and the number of their line. -/
  | simple (line : Nat) (assignments : List (String × List Piece)) (words : List (List Piece))
      (redirections : List Redirection)
  | pipe (parts : List Command)
  | background (command : Command)
  | both (a b : Command)
  | either (a b : Command)
  | sequence (a b : Command)
  | negate (command : Command)
  /-- A group that is a shell of its own. -/
  | subshell (line : Nat) (body : Command) (redirections : List Redirection)
  | redirected (line : Nat) (body : Command) (redirections : List Redirection)
  | choice (test yes : Command) (no : Option Command)
  /-- Runs its body while its test succeeds, or until it does. -/
  | loop (untilTrue : Bool) (test body : Command)
  /-- Runs its body once per field of the words, or per argument if there are no words. -/
  | each (line : Nat) (name : String) (words : Option (List (List Piece))) (body : Command)
  | select (line : Nat) (subject : List Piece) (clauses : List (List (List Piece) × Option Command))
  | define (line : Nat) (name : String) (body : Command)

end

/-- A word of a script. -/
abbrev ScriptWord := List Piece

namespace ScriptWord

/-- The text of a word that is written without quotes and stands for nothing else. -/
def plain? (word : ScriptWord) : Option String :=
  match word with
  | [.text chars false] => some (String.ofList chars)
  | _ => none

/-- Joins neighbouring parts of one kind. -/
def joinTexts : ScriptWord → ScriptWord
  | [] => []
  | .text chars quoted :: rest =>
      match joinTexts rest with
      | .text more other :: others =>
          if quoted == other then .text (chars ++ more) quoted :: others
          else .text chars quoted :: .text more other :: others
      | others => .text chars quoted :: others
  | piece :: rest => piece :: joinTexts rest

end ScriptWord

/-- Whether a name of a variable may start with a character. -/
def isNameStart (c : Char) : Bool :=
  c.isAlpha || c == '_'

def isNameChar (c : Char) : Bool :=
  c.isAlphanum || c == '_'

/-- Whether a text is the name of a variable. -/
def isName (text : String) : Bool :=
  text.toList.head?.any isNameStart && text.toList.all isNameChar

/-- A word that gives a variable a value: its name and the word of the value. -/
def ScriptWord.assignment? : ScriptWord → Option (String × ScriptWord)
  | .text chars false :: rest =>
      let (name, after) := chars.span isNameChar
      match after with
      | '=' :: value =>
          if isName (String.ofList name) then
            some (String.ofList name, if value.isEmpty then rest else .text value false :: rest)
          else none
      | _ => none
  | _ => none

/-- Puts the texts that came later in place. -/
def Redirection.fill (bodies : List (Nat × ScriptWord)) : Redirection → Redirection
  | .hereLater channel number => .here channel ((bodies.lookup number).getD [])
  | r => r

mutual

/-- A command with the texts in place that came later in the script. -/
def Command.fill (bodies : List (Nat × ScriptWord)) : Command → Command
  | .simple line assignments words redirections =>
      .simple line assignments words (redirections.map (Redirection.fill bodies))
  | .pipe parts => .pipe (Command.fillAll bodies parts)
  | .background command => .background (command.fill bodies)
  | .both a b => .both (a.fill bodies) (b.fill bodies)
  | .either a b => .either (a.fill bodies) (b.fill bodies)
  | .sequence a b => .sequence (a.fill bodies) (b.fill bodies)
  | .negate command => .negate (command.fill bodies)
  | .subshell line body redirections =>
      .subshell line (body.fill bodies) (redirections.map (Redirection.fill bodies))
  | .redirected line body redirections =>
      .redirected line (body.fill bodies) (redirections.map (Redirection.fill bodies))
  | .choice test yes no => .choice (test.fill bodies) (yes.fill bodies) (Command.fillSome bodies no)
  | .loop untilTrue test body => .loop untilTrue (test.fill bodies) (body.fill bodies)
  | .each line name words body => .each line name words (body.fill bodies)
  | .select line subject clauses => .select line subject (Command.fillClauses bodies clauses)
  | .define line name body => .define line name (body.fill bodies)

def Command.fillSome (bodies : List (Nat × ScriptWord)) : Option Command → Option Command
  | none => none
  | some command => some (command.fill bodies)

def Command.fillAll (bodies : List (Nat × ScriptWord)) : List Command → List Command
  | [] => []
  | command :: rest => command.fill bodies :: Command.fillAll bodies rest

def Command.fillClauses (bodies : List (Nat × ScriptWord)) :
    List (List (List Piece) × Option Command) → List (List (List Piece) × Option Command)
  | [] => []
  | (patterns, body) :: rest =>
      (patterns, Command.fillSome bodies body) :: Command.fillClauses bodies rest

end

end SourceReducer
