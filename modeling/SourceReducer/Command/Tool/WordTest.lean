import SourceReducer.Command.Basic
import SourceReducer.Command.Numeral

/-! Conditions: tests of texts, numbers and files, joined by signs for not, and and or. -/
namespace SourceReducer.WordTest

/-- What is tested about one word. -/
inductive Unary
  | isEmpty
  | isNonempty
  | isTerminal
  | isThere
  | isFile
  | isDirectory
  | isLink
  | isDevice
  | hasBytes
  | isReadable
  | isRunnable
  /-- Never holds of the files that there are. -/
  | never

/-- What is tested about two words. -/
inductive Binary
  | same
  | differs
  | before
  | after
  | equal
  | notEqual
  | atLeast
  | greater
  | atMost
  | less
  | newer
  | older
  | oneFile

inductive Operator
  | unary (op : Unary)
  | binary (op : Binary)
  | and
  | or
  | not
  | opening
  | closing

def operator? : String → Option Operator
  | "-r" | "-w" => some (.unary .isReadable)
  | "-x" => some (.unary .isRunnable)
  | "-e" | "-O" | "-G" => some (.unary .isThere)
  | "-f" => some (.unary .isFile)
  | "-d" => some (.unary .isDirectory)
  | "-c" => some (.unary .isDevice)
  | "-b" | "-p" | "-u" | "-g" | "-k" | "-S" => some (.unary .never)
  | "-s" => some (.unary .hasBytes)
  | "-t" => some (.unary .isTerminal)
  | "-z" => some (.unary .isEmpty)
  | "-n" => some (.unary .isNonempty)
  | "-h" | "-L" => some (.unary .isLink)
  | "=" => some (.binary .same)
  | "!=" => some (.binary .differs)
  | "<" => some (.binary .before)
  | ">" => some (.binary .after)
  | "-eq" => some (.binary .equal)
  | "-ne" => some (.binary .notEqual)
  | "-ge" => some (.binary .atLeast)
  | "-gt" => some (.binary .greater)
  | "-le" => some (.binary .atMost)
  | "-lt" => some (.binary .less)
  | "-nt" => some (.binary .newer)
  | "-ot" => some (.binary .older)
  | "-ef" => some (.binary .oneFile)
  | "!" => some .not
  | "-a" => some .and
  | "-o" => some .or
  | "(" => some .opening
  | ")" => some .closing
  | _ => none

inductive Fault
  | unexpected (word : String)
  | missingArgument (sign : String)
  | missingParenthesis
  | missingBracket
  | illegalNumber (text : String)

def Fault.message : Fault → String
  | .unexpected "" => "unexpected operator"
  | .unexpected word => s!"{word}: unexpected operator"
  | .missingArgument sign => s!"{sign}: argument expected"
  | .missingParenthesis => "closing paren expected"
  | .missingBracket => "missing ]"
  | .illegalNumber text => s!"Illegal number: {text}"

def number (text : String) : Except Fault Int :=
  match wholeNumber? false text with
  | some n => .ok n
  | none => .error (.illegalNumber text)

/-- The file with nothing in it, which is a device. -/
def nullPath : String := "/dev/null"

def Unary.holds (files : Files) (op : Unary) (word : String) : Except Fault Bool :=
  let path := ByteText.toText word
  let isNull := word == nullPath
  match op with
  | .isEmpty => .ok word.isEmpty
  | .isNonempty => .ok (!word.isEmpty)
  | .isTerminal => (number word).map fun _ => false
  | .isThere | .isReadable => .ok (isNull || files.pathExists path)
  | .isFile => .ok (files.read path).isOk
  | .isDirectory | .isRunnable => .ok (files.isDirectory path)
  | .isLink =>
      .ok (match files.resolve path false with
        | .ok (.link ..) => true
        | _ => false)
  | .isDevice => .ok isNull
  | .hasBytes =>
      .ok (files.isDirectory path ||
        (files.read path).toOption.any fun content => !content.bytes.isEmpty)
  | .never => .ok false

def Binary.holds (files : Files) (op : Binary) (a b : String) : Except Fault Bool :=
  let compare := fun (f : Int → Int → Bool) => do return f (← number a) (← number b)
  let isThere := fun (word : String) => files.pathExists (ByteText.toText word)
  match op with
  | .same => .ok (a == b)
  | .differs => .ok (a != b)
  | .before => .ok (a < b)
  | .after => .ok (b < a)
  | .equal => compare (· == ·)
  | .notEqual => compare (· != ·)
  | .atLeast => compare (· ≥ ·)
  | .greater => compare (· > ·)
  | .atMost => compare (· ≤ ·)
  | .less => compare (· < ·)
  | .newer => .ok (isThere a && !isThere b)
  | .older => .ok (!isThere a && isThere b)
  | .oneFile =>
      .ok (isThere a && isThere b && files.sameFile (ByteText.toText a) (ByteText.toText b))

/-- The part that the first of some words plays. -/
inductive Role
  | missing
  | operand
  | operator (op : Operator)

/-- Whether a sign for a test of one word is itself a word that is tested: it stands last, or a sign
for two words and another word follow. -/
def isOperand : List String → Bool
  | [] => true
  | [_] => false
  | sign :: _ :: _ =>
      match operator? sign with
      | some (.binary _) => true
      | _ => false

def roleOf : List String → Role
  | [] => .missing
  | word :: rest =>
      match operator? word with
      | some (.unary op) => if isOperand rest then .operand else .operator (.unary op)
      | some .opening => if rest.isEmpty then .operand else .operator .opening
      | some op => .operator op
      | none => .operand

/-- An answer, and the words from the last one on that was looked at. -/
abbrev Answer := Except Fault (Bool × List String)

mutual

def orTest (files : Files) : Nat → Bool → List String → Answer
  | 0, _, words => .ok (false, words)
  | fuel + 1, soFar, words => do
      let (b, words) ← andTest files fuel true words
      match roleOf words.tail with
      | .operator .or => orTest files fuel (soFar || b) (words.drop 2)
      | _ => return (soFar || b, words)

def andTest (files : Files) : Nat → Bool → List String → Answer
  | 0, _, words => .ok (false, words)
  | fuel + 1, soFar, words => do
      let (b, words) ← notTest files fuel words
      match roleOf words.tail with
      | .operator .and => andTest files fuel (soFar && b) (words.drop 2)
      | _ => return (soFar && b, words)

def notTest (files : Files) : Nat → List String → Answer
  | 0, words => .ok (false, words)
  | fuel + 1, words =>
      match roleOf words with
      | .operator .not => do
          let (b, words) ← match words.tail with
            | [] => pure (false, words)
            | rest => notTest files fuel rest
          return (!b, words)
      | _ => primary files fuel words

def primary (files : Files) : Nat → List String → Answer
  | 0, words => .ok (false, words)
  | fuel + 1, words =>
      match roleOf words, words with
      | .missing, _ => .ok (false, words)
      | .operator .opening, _ :: rest =>
          match roleOf rest with
          | .operator .closing => .ok (false, rest)
          | _ => do
              let (b, words) ← orTest files fuel false rest
              match roleOf words.tail with
              | .operator .closing => return (b, words.tail)
              | _ => throw .missingParenthesis
      | .operator (.unary op), sign :: rest =>
          match rest with
          | [] => .error (.missingArgument sign)
          | word :: _ => do return (← op.holds files word, rest)
      | _, a :: rest =>
          match roleOf rest, rest with
          | .operator (.binary _), [sign] => .error (.missingArgument sign)
          | .operator (.binary op), _ :: b :: more => do return (← op.holds files a b, b :: more)
          | _, _ => .ok (!a.isEmpty, words)
      | _, [] => .ok (false, words)

end

/-- Tests words that are not of one of the short forms. -/
def general (files : Files) (words : List String) : Except Fault Bool := do
  match ← orTest files (4 * words.length + 4) false words with
  | (_, word :: _ :: _) => throw (.unexpected word)
  | (b, _) => return b

/-- The words behind the signs for not in front of three or four words, and whether there is one.
Two of them count as one. -/
def dropNot : List String → Bool × List String
  | [a, sign, b] =>
      if a == "!" && !((operator? sign) matches some (.binary _)) then (true, [sign, b])
      else (false, [a, sign, b])
  | [a, b, c, d] =>
      if a == "!" then (true, (dropNot [b, c, d]).2) else (false, [a, b, c, d])
  | words => (false, words)

/-- Whether words of one of the short forms hold. Three words with a sign for two words in the
middle are always that test. -/
def holdsShort (files : Files) : List String → Except Fault Bool
  | [] => .ok false
  | [a, sign, b] =>
      match operator? sign with
      | some (.binary op) => op.holds files a b
      | _ => general files (if a == "(" && b == ")" then [sign] else [a, sign, b])
  | [a, b, c, d] => general files (if a == "(" && d == ")" then [b, c] else [a, b, c, d])
  | words => general files words

/-- Whether a condition holds. -/
def holds (files : Files) (words : List String) : Except Fault Bool :=
  let (negated, words) := dropNot words
  (holdsShort files words).map (· != negated)

/-- Whether a condition between brackets holds. -/
def holdsInBrackets (files : Files) (words : List String) : Except Fault Bool :=
  if words.getLast? = some "]" then holds files words.dropLast else .error .missingBracket

end SourceReducer.WordTest
