import SourceReducer.Command.Script

/-! Reading scripts. Words and commands are read together, since a word may hold a script and a
script holds words. A script is read one line at a time, where a line goes on as long as a command
in it is not complete. -/
namespace SourceReducer

/-- Why a script is not well formed. -/
inductive ScriptFault
  | unexpected (token : String) (expected : Option String)
  | openQuote
  | openBrace
  | openExpression
  | openBackQuote
  | loopVariable
  | functionName
  | tooLong

def ScriptFault.message : ScriptFault → String
  | .unexpected token none => s!"{token} unexpected"
  | .unexpected token (some expected) => s!"{token} unexpected (expecting {expected})"
  | .openQuote => "Unterminated quoted string"
  | .openBrace => "Missing '\x7d'"
  | .openExpression => "Missing '))'"
  | .openBackQuote => "EOF in backquote substitution"
  | .loopVariable => "Bad for loop variable"
  | .functionName => "Bad function name"
  | .tooLong => "script too long"

inductive Token
  | endOfScript
  | newline
  | sign (text : String)
  | redirect (channel : Option Nat) (sign : String)
  | word (pieces : ScriptWord)
  | keyword (text : String)

namespace Token

def showText (text : String) : String :=
  "\"" ++ text ++ "\""

/-- A token in a complaint. -/
def describe : Token → String
  | .endOfScript => "end of file"
  | .newline => "newline"
  | .sign text | .keyword text => showText text
  | .redirect .. => "redirection"
  | .word _ => "word"

def keywords : List String :=
  ["!", "case", "do", "done", "elif", "else", "esac", "fi", "for", "if", "in", "then", "until",
    "while", "\x7b", "\x7d"]

/-- Whether a list of commands ends before a token. -/
def endsList : Token → Bool
  | .endOfScript => true
  | .sign text => text == ")" || text == ";;"
  | .keyword text => ["do", "done", "elif", "else", "esac", "fi", "then", "\x7d"].contains text
  | _ => false

/-- A word as the keyword that it may be. -/
def classify : Token → Token
  | .word pieces =>
      match pieces.plain? with
      | some text => if keywords.contains text then .keyword text else .word pieces
      | none => .word pieces
  | token => token

end Token

/-- A text of the script itself that is to be read after the end of the line. -/
structure HereText where
  number : Nat
  /-- The line that ends the text. -/
  delimiter : List Char
  /-- Nothing is put in place in the text. -/
  isLiteral : Bool
  /-- Tabs at the start of a line are dropped. -/
  dropsTabs : Bool

structure Reading where
  rest : List Char
  line : Nat := 1
  /-- A token that was read and not used. -/
  pushed : Option Token := none
  waiting : List HereText := []
  bodies : List (Nat × ScriptWord) := []
  /-- How many texts of the script itself were announced. -/
  announced : Nat := 0

abbrev ScriptReader := EStateM ScriptFault Reading

/-- Where a part of a word stands. -/
inductive WordContext
  | plain
  /-- The word that ends a text of the script itself. -/
  | delimiter
  | quoted
  | braces (quoted : Bool)
  | expression
  | here
  deriving DecidableEq

def WordContext.isQuoted : WordContext → Bool
  | .plain | .delimiter | .braces false => false
  | .quoted | .braces true | .expression | .here => true

def WordContext.isBraces : WordContext → Bool
  | .braces _ => true
  | _ => false

/-- Whether a word of its own ends before a character. -/
def endsWord (c : Char) : Bool :=
  [' ', '\t', '\n', ';', '&', '|', '<', '>', '(', ')'].contains c

/-- Whether a backslash between quotes gives a character and is not kept itself. -/
def WordContext.escapes (context : WordContext) (c : Char) : Bool :=
  ['\\', '\x60', '$'].contains c || (c == '"' && context != .here) ||
    (c == '\x7d' && context == .braces true)

/-- Which lists of commands may be empty, and what ends them. -/
inductive ListKind
  /-- The commands up to the end of a line. -/
  | line
  | nonempty
  | possiblyEmpty
  deriving DecidableEq

namespace ScriptReader

/-- Drops line ends after a backslash, which join two lines. -/
def dropJoins : List Char → Nat → List Char × Nat
  | '\\' :: '\n' :: rest, line => dropJoins rest (line + 1)
  | rest, line => (rest, line)

/-- The next character, where joined lines are one. -/
def peek : ScriptReader (Option Char) :=
  modifyGet fun s =>
    let (rest, line) := dropJoins s.rest s.line
    (rest.head?, { s with rest, line })

/-- Takes the next character as it stands. -/
def next : ScriptReader (Option Char) :=
  modifyGet fun s =>
    match s.rest with
    | [] => (none, s)
    | c :: rest => (some c, { s with rest, line := if c = '\n' then s.line + 1 else s.line })

def advance : ScriptReader Unit := do
  let _ ← next

def unread (token : Token) : ScriptReader Unit :=
  modify fun s => { s with pushed := some token }

/-- Takes a character if it is the next one. -/
def accept (c : Char) : ScriptReader Bool := do
  if (← peek) == some c then
    advance
    return true
  else return false

def readWhile (p : Char → Bool) : Nat → List Char → ScriptReader String
  | 0, soFar => return String.ofList soFar.reverse
  | fuel + 1, soFar => do
      match ← peek with
      | none => return String.ofList soFar.reverse
      | some c =>
          if p c then
            advance
            readWhile p fuel (c :: soFar)
          else return String.ofList soFar.reverse

/-- Reads up to a single quotation mark. -/
def readSingle : Nat → List Char → ScriptReader (List Char)
  | 0, _ => throw .openQuote
  | fuel + 1, soFar => do
      match ← next with
      | none => throw .openQuote
      | some '\'' => return soFar.reverse
      | some c => readSingle fuel (c :: soFar)

/-- Reads up to a back quote. A backslash before a special character is dropped. -/
def readToBackQuote (quoted : Bool) : Nat → List Char → ScriptReader (List Char)
  | 0, _ => throw .openBackQuote
  | fuel + 1, soFar => do
      match ← next with
      | none => throw .openBackQuote
      | some '\x60' => return soFar.reverse
      | some '\\' =>
          match ← next with
          | none => throw .openBackQuote
          | some '\n' => readToBackQuote quoted fuel soFar
          | some c =>
              if ['\\', '\x60', '$'].contains c || (quoted && c == '"') then
                readToBackQuote quoted fuel (c :: soFar)
              else readToBackQuote quoted fuel (c :: '\\' :: soFar)
      | some c => readToBackQuote quoted fuel (c :: soFar)

/-- Whether a line goes on behind a backslash at its end. -/
def isJoined (line : List Char) : Bool :=
  (line.reverse.takeWhile (· == '\\')).length % 2 == 1

/-- Cuts a text of the script itself: its lines, what follows it, and how many lines that took. -/
def cutHere (h : HereText) : Nat → Bool → List Char → List Char × List Char × Nat
  | 0, _, cs => ([], cs, 0)
  | fuel + 1, joined, cs =>
      let (line, after) := cs.span (· != '\n')
      let line := if h.dropsTabs then line.dropWhile (· == '\t') else line
      match after with
      | [] => (if line = h.delimiter then [] else line, [], 0)
      | _ :: rest =>
          if !joined && line = h.delimiter then ([], rest, 1)
          else
            let (body, rest, count) := cutHere h fuel (!h.isLiteral && isJoined line) rest
            (line ++ '\n' :: body, rest, count + 1)

def isSpecialParameter (c : Char) : Bool :=
  ['#', '?', '$', '!', '-', '*', '@'].contains c

def checkOf? : Char → Option Check
  | '-' => some .otherwise
  | '+' => some .instead
  | '=' => some .assign
  | '?' => some .demand
  | _ => none

/-- The characters of a word that stands for itself, and whether some of it is quoted. -/
def literalOf (word : ScriptWord) : List Char × Bool :=
  (word.flatMap fun piece => match piece with
    | .text chars _ => chars
    | _ => [],
  word.any fun piece => match piece with
    | .text _ quoted => quoted
    | _ => true)

/-- Commands that keep their meaning whatever functions are defined. -/
def specialCommands : List String :=
  [".", ":", "break", "continue", "eval", "exec", "exit", "export", "local", "readonly", "return",
    "set", "shift", "times", "trap", "unset"]

def announce (h : Nat → HereText) : ScriptReader Nat :=
  modifyGet fun s =>
    (s.announced,
      { s with announced := s.announced + 1, waiting := s.waiting ++ [h s.announced] })

mutual

/-- Reads the parts of a word up to where its context ends. `inner` says that a quotation inside of
braces is open, and `parens` how many parentheses are. The parts so far stand last one first. -/
def readPieces : Nat → WordContext → Bool → Nat → ScriptWord → ScriptReader ScriptWord
  | 0, _, _, _, _ => throw .tooLong
  | fuel + 1, context, inner, parens, soFar => do
      let finish := ScriptWord.joinTexts soFar.reverse
      match ← peek with
      | none =>
          match context with
          | .plain | .delimiter | .here => return finish
          | .quoted | .braces true => throw .openQuote
          | .braces false => throw .openBrace
          | .expression => throw .openExpression
      | some c =>
          if (context == .plain || context == .delimiter) && endsWord c then return finish
          advance
          if c == '"' && context == .quoted then return finish
          if c == '\x7d' && context.isBraces && !inner then return finish
          if c == '\\' then
            match ← next with
            | none => readPieces fuel context inner parens (.text ['\\'] true :: soFar)
            | some d =>
                let kept := if context.isQuoted && !context.escapes d then ['\\', d] else [d]
                readPieces fuel context inner parens (.text kept true :: soFar)
          else if c == '\'' && !context.isQuoted then
            let chars ← readSingle ((← get).rest.length + 1) []
            readPieces fuel context inner parens (.mark :: .text chars true :: .mark :: soFar)
          else if c == '"' && !context.isQuoted then
            let inside ← readPieces fuel .quoted false 0 []
            readPieces fuel context inner parens (.mark :: inside.reverse ++ .mark :: soFar)
          else if c == '"' && context == .braces true then
            readPieces fuel context (!inner) parens (.mark :: soFar)
          else if c == '$' && context != .delimiter then
            let piece ← readDollar fuel context
            readPieces fuel context inner parens (piece :: soFar)
          else if c == '\x60' && context != .delimiter then
            let piece ← readBackQuoted fuel context.isQuoted
            readPieces fuel context inner parens (piece :: soFar)
          else if c == ')' && context == .expression && parens == 0 then
            if ← accept ')' then return finish
            else readPieces fuel context inner parens (.text [')'] true :: soFar)
          else
            let parens :=
              if context != .expression then 0
              else if c == '(' then parens + 1
              else if c == ')' then parens - 1
              else parens
            readPieces fuel context inner parens (.text [c] context.isQuoted :: soFar)

/-- Reads what a dollar sign stands for. -/
def readDollar : Nat → WordContext → ScriptReader Piece
  | 0, _ => throw .tooLong
  | fuel + 1, context => do
      let quoted := context.isQuoted
      match ← peek with
      | none => return .text ['$'] quoted
      | some '(' =>
          advance
          if ← accept '(' then
            return .arithmetic (← readPieces fuel .expression false 0 []) quoted
          else return .output (← readInner fuel) quoted
      | some '\x7b' =>
          advance
          readBraced fuel context
      | some c =>
          if isNameStart c then
            return .parameter (← readWhile isNameChar fuel []) .value quoted
          else if c.isDigit || isSpecialParameter c then
            advance
            return .parameter (String.singleton c) .value quoted
          else return .text ['$'] quoted

/-- Reads a parameter in braces, of which the first one is read. -/
def readBraced : Nat → WordContext → ScriptReader Piece
  | 0, _ => throw .tooLong
  | fuel + 1, context => do
      let quoted := context.isQuoted
      match ← peek with
      | some '#' =>
          advance
          let c := (← peek).getD '\x7d'
          if isNameChar c then
            let name ← readWhile (if c.isDigit then Char.isDigit else isNameChar) fuel []
            if ← accept '\x7d' then return .parameter name .length quoted
            else readMalformed fuel context
          else
            let before ← get
            advance
            let after ← peek
            if c == '\x7d' || after != some '\x7d' then
              set before
              readUse fuel context "#"
            else if isSpecialParameter c then
              advance
              return .parameter (String.singleton c) .length quoted
            else readMalformed fuel context
      | some c =>
          if isNameStart c then readUse fuel context (← readWhile isNameChar fuel [])
          else if c.isDigit then readUse fuel context (← readWhile Char.isDigit fuel [])
          else if isSpecialParameter c then
            advance
            readUse fuel context (String.singleton c)
          else readMalformed fuel context
      | none => readMalformed fuel context

/-- Reads over what is no use of a parameter. -/
def readMalformed : Nat → WordContext → ScriptReader Piece
  | 0, _ => throw .tooLong
  | fuel + 1, context => do
      let _ ← readPieces fuel (.braces context.isQuoted) false 0 []
      return .parameter "" .malformed context.isQuoted

/-- Reads what follows the name of a parameter in braces. -/
def readUse : Nat → WordContext → String → ScriptReader Piece
  | 0, _, _ => throw .tooLong
  | fuel + 1, context, name => do
      let quoted := context.isQuoted
      if ← accept '\x7d' then return .parameter name .value quoted
      let orEmpty ← accept ':'
      match ← peek with
      | none => readMalformed fuel context
      | some c =>
          match checkOf? c with
          | some kind =>
              advance
              let word ← readPieces fuel (.braces quoted) false 0 []
              return .parameter name (.check kind orEmpty word) quoted
          | none =>
              if orEmpty && c == '\x7d' then
                advance
                let _ ← readPieces fuel (.braces quoted) false 0 []
                return .parameter name .value quoted
              else if !orEmpty && (c == '#' || c == '%') then
                advance
                let longest ← accept c
                let pattern ← readPieces fuel (.braces false) false 0 []
                return .parameter name (.trim (c == '%') longest pattern) quoted
              else readMalformed fuel context

/-- Reads a script up to the parenthesis that closes it. -/
def readInner : Nat → ScriptReader (Option Command)
  | 0 => throw .tooLong
  | fuel + 1 => do
      let outer ← get
      set { outer with pushed := none, waiting := [] }
      let command ← readList fuel .possiblyEmpty none
      match ← readToken fuel true false with
      | .sign ")" =>
          let after ← get
          set { after with waiting := outer.waiting }
          return command.map (Command.fill after.bodies)
      | token => throw (.unexpected token.describe (some (Token.showText ")")))

/-- Reads a script up to the back quote that closes it. -/
def readBackQuoted : Nat → Bool → ScriptReader Piece
  | 0, _ => throw .tooLong
  | fuel + 1, quoted => do
      let start ← get
      let script ← readToBackQuote quoted (start.rest.length + 1) []
      let outer ← get
      set { outer with rest := script, line := start.line, pushed := none, waiting := [] }
      let command ← readList fuel .possiblyEmpty none
      let after ← get
      set { after with
        rest := outer.rest, line := outer.line, pushed := none, waiting := outer.waiting }
      return .output (command.map (Command.fill after.bodies)) quoted

/-- Reads the texts of the script itself that are due after the end of a line. -/
def readHereTexts : Nat → ScriptReader Unit
  | 0 => throw .tooLong
  | fuel + 1 => do
      let s ← get
      match s.waiting with
      | [] => return
      | h :: others =>
          let (body, rest, count) := cutHere h (s.rest.length + 1) false s.rest
          let after := { s with rest, line := s.line + count, waiting := others }
          if h.isLiteral then
            set { after with bodies := (h.number, [.text body true]) :: after.bodies }
          else
            set { after with rest := body, line := s.line, waiting := [] }
            let pieces ← readPieces fuel .here false 0 []
            let inside ← get
            set { inside with
              rest, line := after.line, waiting := others,
              bodies := (h.number, pieces) :: inside.bodies }
          readHereTexts fuel

/-- Reads the next token from the text. -/
def lexToken : Nat → WordContext → ScriptReader Token
  | 0, _ => throw .tooLong
  | fuel + 1, context => do
      match ← peek with
      | none =>
          readHereTexts fuel
          return .endOfScript
      | some c =>
          if c == ' ' || c == '\t' then
            advance
            lexToken fuel context
          else if c == '#' then
            modify fun s => { s with rest := s.rest.dropWhile (· != '\n') }
            lexToken fuel context
          else if c == '\n' then
            advance
            readHereTexts fuel
            return .newline
          else if c == '(' || c == ')' then
            advance
            return .sign (String.singleton c)
          else if c == '&' || c == '|' || c == ';' then
            advance
            return .sign (if ← accept c then String.ofList [c, c] else String.singleton c)
          else if c == '<' || c == '>' then
            advance
            lexRedirect fuel c none
          else
            let s ← get
            let second := (dropJoins (s.rest.drop 1) 0).1.head?
            if c.isDigit && (second == some '<' || second == some '>') then
              advance
              let sign := (← peek).getD '<'
              advance
              lexRedirect fuel sign (some (c.toNat - 48))
            else return .word (← readPieces fuel context false 0 [])

/-- Reads the rest of a sign of redirection. -/
def lexRedirect : Nat → Char → Option Nat → ScriptReader Token
  | 0, _, _ => throw .tooLong
  | _ + 1, c, channel => do
      if c == '<' then
        if ← accept '<' then
          return .redirect channel (if ← accept '-' then "<<-" else "<<")
        else if ← accept '&' then return .redirect channel "<&"
        else if ← accept '>' then return .redirect channel "<>"
        else return .redirect channel "<"
      else if ← accept '>' then return .redirect channel ">>"
      else if ← accept '&' then return .redirect channel ">&"
      else if ← accept '|' then return .redirect channel ">|"
      else return .redirect channel ">"

/-- Reads a token. A word is a keyword only where `keywords` are looked for. -/
def readToken : Nat → Bool → Bool → ScriptReader Token
  | 0, _, _ => throw .tooLong
  | fuel + 1, keywords, skipLines => do
      let s ← get
      let token ← match s.pushed with
        | some token => do
            set { s with pushed := none }
            pure token
        | none => lexToken fuel .plain
      match token with
      | .newline => if skipLines then readToken fuel keywords skipLines else return .newline
      | token => return if keywords then token.classify else token

/-- Takes a keyword that has to be there. -/
def expect : Nat → String → ScriptReader Unit
  | 0, _ => throw .tooLong
  | fuel + 1, keyword => do
      match ← readToken fuel true false with
      | .keyword text =>
          if text == keyword then return
          else throw (.unexpected (Token.showText text) (some (Token.showText keyword)))
      | token => throw (.unexpected token.describe (some (Token.showText keyword)))

/-- Reads what a sign of redirection is about. -/
def readRedirection : Nat → Option Nat → String → ScriptReader Redirection
  | 0, _, _ => throw .tooLong
  | fuel + 1, channel, sign => do
      if sign == "<<" || sign == "<<-" then
        match ← lexToken fuel .delimiter with
        | .word pieces =>
            let (delimiter, isLiteral) := literalOf pieces
            let number ← announce fun number =>
              { number, delimiter, isLiteral, dropsTabs := sign == "<<-" }
            return .hereLater (channel.getD 0) number
        | token => throw (.unexpected token.describe none)
      else
        match ← readToken fuel false false with
        | .word pieces =>
            return match sign with
              | "<" => .file (channel.getD 0) .read pieces
              | "<>" => .file (channel.getD 0) .readWrite pieces
              | "<&" => .duplicate (channel.getD 0) pieces
              | ">&" => .duplicate (channel.getD 1) pieces
              | ">>" => .file (channel.getD 1) .append pieces
              | ">|" => .file (channel.getD 1) .overwrite pieces
              | _ => .file (channel.getD 1) .write pieces
        | token => throw (.unexpected token.describe none)

/-- Reads the redirections after a group. -/
def readRedirections : Nat → List Redirection → ScriptReader (List Redirection)
  | 0, _ => throw .tooLong
  | fuel + 1, soFar => do
      match ← readToken fuel true false with
      | .redirect channel sign =>
          readRedirections fuel ((← readRedirection fuel channel sign) :: soFar)
      | token =>
          unread token
          return soFar.reverse

/-- Reads commands one after the other. -/
def readList : Nat → ListKind → Option Command → ScriptReader (Option Command)
  | 0, _, _ => throw .tooLong
  | fuel + 1, kind, soFar => do
      match ← readToken fuel true (kind != .line) with
      | .newline => return soFar
      | .endOfScript =>
          unread .endOfScript
          return soFar
      | token =>
          unread token
          if token.endsList && (kind == .possiblyEmpty || (kind == .nonempty && soFar.isSome)) then
            return soFar
          let command ← readChain fuel false
          let token ← readToken fuel false false
          let command := match token with
            | .sign "&" => .background command
            | _ => command
          let soFar := some (match soFar with
            | some before => .sequence before command
            | none => command)
          match token with
          | .sign "&" | .sign ";" => readList fuel kind soFar
          | .newline =>
              unread .newline
              readList fuel kind soFar
          | .endOfScript =>
              unread .endOfScript
              return soFar
          | token =>
              if kind == .line then throw (.unexpected token.describe none)
              unread token
              return soFar

/-- Reads a list that is the body of a command. -/
def readBody : Nat → ScriptReader Command
  | 0 => throw .tooLong
  | fuel + 1 => do
      return (← readList fuel .nonempty none).getD (.simple 0 [] [] [])

/-- Reads pipelines that are joined by both-signs and either-signs. -/
def readChain : Nat → Bool → ScriptReader Command
  | 0, _ => throw .tooLong
  | fuel + 1, skipLines => do
      readMore fuel (← readPipeline fuel skipLines)

def readMore : Nat → Command → ScriptReader Command
  | 0, _ => throw .tooLong
  | fuel + 1, first => do
      match ← readToken fuel false false with
      | .sign "&&" => readMore fuel (.both first (← readPipeline fuel true))
      | .sign "||" => readMore fuel (.either first (← readPipeline fuel true))
      | token =>
          unread token
          return first

/-- Reads commands with pipes between them, after an exclamation mark that turns the result. -/
def readPipeline : Nat → Bool → ScriptReader Command
  | 0, _ => throw .tooLong
  | fuel + 1, skipLines => do
      let token ← readToken fuel true skipLines
      let negated := match token with
        | .keyword "!" => true
        | _ => false
      if !negated then unread token
      let command ← match ← readParts fuel [← readCommand fuel false] with
        | [command] => pure command
        | parts => pure (.pipe parts)
      return if negated then .negate command else command

def readParts : Nat → List Command → ScriptReader (List Command)
  | 0, _ => throw .tooLong
  | fuel + 1, soFar => do
      match ← readToken fuel false false with
      | .sign "|" => readParts fuel ((← readCommand fuel true) :: soFar)
      | token =>
          unread token
          return soFar.reverse

/-- Reads a command that is no list. -/
def readCommand : Nat → Bool → ScriptReader Command
  | 0, _ => throw .tooLong
  | fuel + 1, skipLines => do
      let token ← readToken fuel true skipLines
      let line := (← get).line
      let redirect := fun (command : Command) => do
        let redirections ← readRedirections fuel []
        return if redirections.isEmpty then command
          else Command.redirected line command redirections
      match token with
      | .word _ | .redirect .. =>
          unread token
          readSimple fuel line [] [] []
      | .sign "(" =>
          let body ← readBody fuel
          match ← readToken fuel true false with
          | .sign ")" => return .subshell line body (← readRedirections fuel [])
          | token => throw (.unexpected token.describe (some (Token.showText ")")))
      | .keyword "\x7b" =>
          let body ← readBody fuel
          expect fuel "\x7d"
          redirect body
      | .keyword "if" => redirect (← readChoice fuel)
      | .keyword "while" => redirect (← readLoop fuel false)
      | .keyword "until" => redirect (← readLoop fuel true)
      | .keyword "for" => redirect (← readEach fuel line)
      | .keyword "case" => redirect (← readSelect fuel line)
      | token => throw (.unexpected token.describe none)

/-- Reads a choice after its first keyword. -/
def readChoice : Nat → ScriptReader Command
  | 0 => throw .tooLong
  | fuel + 1 => do
      let test ← readBody fuel
      expect fuel "then"
      let yes ← readBody fuel
      match ← readToken fuel true false with
      | .keyword "elif" => return .choice test yes (some (← readChoice fuel))
      | .keyword "else" =>
          let no ← readBody fuel
          expect fuel "fi"
          return .choice test yes (some no)
      | token =>
          unread token
          expect fuel "fi"
          return .choice test yes none

/-- Reads a loop after its first keyword. -/
def readLoop : Nat → Bool → ScriptReader Command
  | 0, _ => throw .tooLong
  | fuel + 1, untilTrue => do
      let test ← readBody fuel
      expect fuel "do"
      let body ← readBody fuel
      expect fuel "done"
      return .loop untilTrue test body

/-- Reads a repetition after its first keyword. -/
def readEach : Nat → Nat → ScriptReader Command
  | 0, _ => throw .tooLong
  | fuel + 1, line => do
      let name ← match ← readToken fuel false false with
        | .word pieces =>
            match pieces.plain?.filter isName with
            | some name => pure name
            | none => throw .loopVariable
        | _ => throw .loopVariable
      let words ← match ← readToken fuel true true with
        | .keyword "in" => some <$> readItems fuel []
        | .sign ";" => pure none
        | token => do
            unread token
            pure none
      match ← readToken fuel true true with
      | .keyword "do" =>
          let body ← readBody fuel
          expect fuel "done"
          return .each line name words body
      | token => throw (.unexpected token.describe (some (Token.showText "do")))

/-- Reads words up to the end of a line or a semicolon. -/
def readItems : Nat → List ScriptWord → ScriptReader (List ScriptWord)
  | 0, _ => throw .tooLong
  | fuel + 1, soFar => do
      match ← readToken fuel false false with
      | .word pieces => readItems fuel (pieces :: soFar)
      | .newline | .sign ";" => return soFar.reverse
      | token => throw (.unexpected token.describe none)

/-- Reads a choice by patterns after its first keyword. -/
def readSelect : Nat → Nat → ScriptReader Command
  | 0, _ => throw .tooLong
  | fuel + 1, line => do
      match ← readToken fuel false false with
      | .word subject =>
          match ← readToken fuel true true with
          | .keyword "in" => return .select line subject (← readClauses fuel [])
          | token => throw (.unexpected token.describe (some (Token.showText "in")))
      | token => throw (.unexpected token.describe (some "word"))

def readClauses : Nat → List (List ScriptWord × Option Command) →
    ScriptReader (List (List ScriptWord × Option Command))
  | 0, _ => throw .tooLong
  | fuel + 1, soFar => do
      match ← readToken fuel true true with
      | .keyword "esac" => return soFar.reverse
      | token =>
          let token ← match token with
            | .sign "(" => readToken fuel false false
            | token => pure token
          let patterns ← readPatterns fuel token []
          let body ← readList fuel .possiblyEmpty none
          let soFar := (patterns, body) :: soFar
          match ← readToken fuel true true with
          | .keyword "esac" => return soFar.reverse
          | .sign ";;" => readClauses fuel soFar
          | token => throw (.unexpected token.describe (some (Token.showText ";;")))

/-- Reads patterns up to a parenthesis. The token of the first one is read. -/
def readPatterns : Nat → Token → List ScriptWord → ScriptReader (List ScriptWord)
  | 0, _, _ => throw .tooLong
  | fuel + 1, token, soFar => do
      let pattern ← match token with
        | .word pieces => pure pieces
        | .keyword text => pure [.text text.toList false]
        | token => throw (.unexpected token.describe (some "word"))
      match ← readToken fuel false false with
      | .sign "|" => readPatterns fuel (← readToken fuel false false) (pattern :: soFar)
      | .sign ")" => return (pattern :: soFar).reverse
      | token => throw (.unexpected token.describe (some (Token.showText ")")))

/-- Reads a simple command, or the definition of a function. What was read of it stands last one
first. -/
def readSimple : Nat → Nat → List (String × ScriptWord) → List ScriptWord → List Redirection →
    ScriptReader Command
  | 0, _, _, _, _ => throw .tooLong
  | fuel + 1, line, assignments, words, redirections => do
      let finish := Command.simple line assignments.reverse words.reverse redirections.reverse
      match ← readToken fuel false false with
      | .word pieces =>
          match if words.isEmpty then pieces.assignment? else none with
          | some assignment => readSimple fuel line (assignment :: assignments) words redirections
          | none => readSimple fuel line assignments (pieces :: words) redirections
      | .redirect channel sign =>
          let redirection ← readRedirection fuel channel sign
          readSimple fuel line assignments words (redirection :: redirections)
      | .sign "(" =>
          match words with
          | [word] =>
              if assignments.isEmpty && redirections.isEmpty then
                match ← readToken fuel false false with
                | .sign ")" =>
                    match word.plain?.filter fun name =>
                        isName name && !specialCommands.contains name with
                    | some name =>
                        let line := (← get).line
                        return .define line name (← readCommand fuel true)
                    | none => throw .functionName
                | token => throw (.unexpected token.describe (some (Token.showText ")")))
              else
                unread (.sign "(")
                return finish
          | _ =>
              unread (.sign "(")
              return finish
      | token =>
          unread token
          return finish

end

/-- What stands next in a script. -/
inductive ScriptLine
  | command (command : Option Command)
  | ended

/-- Reads the commands up to the end of a line. -/
def readLine : ScriptReader ScriptLine := do
  let command ← readList (16 * (← get).rest.length + 64) .line none
  let s ← get
  set { s with pushed := none, bodies := [] }
  match command, s.pushed with
  | none, some _ => return .ended
  | command, _ => return .command (command.map (Command.fill s.bodies))

end ScriptReader

end SourceReducer
