import SourceReducer.Command.Numeral
import SourceReducer.Command.Script

/-! Arithmetic in scripts: expressions over numbers and variables. Numbers wrap around at 64
bits. -/
namespace SourceReducer.Arithmetic

inductive Binary
  | mul | div | rem | add | sub | shiftLeft | shiftRight
  | less | lessEq | greater | greaterEq | equal | notEqual
  | bitAnd | bitXor | bitOr

inductive Unary
  | negative | not | complement

inductive Fault
  | expectsPrimary
  | expectsEnd
  | expectsColon
  | expectsParenthesis
  | divisionByZero
  /-- The value of a variable is no number. -/
  | illegalNumber (text : String)

/-- An expression. One that breaks off has a fault where it does; what stands before is still looked
at first. -/
inductive Expression
  | number (n : Int)
  | broken (fault : Fault)
  | variable (name : String)
  /-- Gives a variable a value, which is joined to the old one by an operation if there is one. -/
  | assign (name : String) (op : Option Binary) (value : Expression)
  | choice (test yes no : Expression)
  | or (a b : Expression)
  | and (a b : Expression)
  | binary (op : Binary) (a b : Expression)
  | unary (op : Unary) (a : Expression)

/-- What is said about an expression with a fault. -/
def Fault.message (text : String) : Fault → String
  | .expectsPrimary => about "expecting primary"
  | .expectsEnd => about "expecting EOF"
  | .expectsColon => about "expecting ':'"
  | .expectsParenthesis => about "expecting ')'"
  | .divisionByZero => about "division by zero"
  | .illegalNumber number => s!"Illegal number: {number}"
where
  about (what : String) : String :=
    s!"arithmetic expression: {what}: \"{text}\""

inductive Token
  | number (n : Int)
  | name (text : String)
  | sign (text : String)

/-- Signs, the longer ones first. -/
def signs : List String :=
  ["<<=", ">>=", "<<", ">>", "<=", ">=", "==", "!=", "&&", "||", "*=", "/=", "%=", "+=", "-=", "&=",
    "^=", "|="]

/-- Cuts a text into tokens. -/
def tokens : Nat → List Char → List Token
  | 0, _ => []
  | _ + 1, [] => []
  | fuel + 1, c :: rest =>
      if c == ' ' || c == '\t' || c == '\n' then tokens fuel rest
      else if c.isDigit then
        match readNumeral? true (c :: rest) with
        | some n => .number n.value :: tokens fuel n.rest
        | none => []
      else if isNameStart c then
        let (name, after) := (c :: rest).span isNameChar
        .name (String.ofList name) :: tokens fuel after
      else
        match signs.find? fun sign => sign.toList.isPrefixOf (c :: rest) with
        | some sign => .sign sign :: tokens fuel ((c :: rest).drop sign.length)
        | none => .sign (String.singleton c) :: tokens fuel rest

/-- A binary operation and its rank; those of lower rank bind tighter. -/
def binary? : String → Option (Binary × Nat)
  | "*" => some (.mul, 0)
  | "/" => some (.div, 0)
  | "%" => some (.rem, 0)
  | "+" => some (.add, 1)
  | "-" => some (.sub, 1)
  | "<<" => some (.shiftLeft, 2)
  | ">>" => some (.shiftRight, 2)
  | "<" => some (.less, 3)
  | "<=" => some (.lessEq, 3)
  | ">" => some (.greater, 3)
  | ">=" => some (.greaterEq, 3)
  | "==" => some (.equal, 4)
  | "!=" => some (.notEqual, 4)
  | "&" => some (.bitAnd, 5)
  | "^" => some (.bitXor, 6)
  | "|" => some (.bitOr, 7)
  | _ => none

/-- One more than the highest rank. -/
def lowestRank : Nat := 8

/-- The operation of an assignment, if a sign is one. -/
def assignment? : String → Option (Option Binary)
  | "=" => some none
  | "*=" => some (some .mul)
  | "/=" => some (some .div)
  | "%=" => some (some .rem)
  | "+=" => some (some .add)
  | "-=" => some (some .sub)
  | "<<=" => some (some .shiftLeft)
  | ">>=" => some (some .shiftRight)
  | "&=" => some (some .bitAnd)
  | "^=" => some (some .bitXor)
  | "|=" => some (some .bitOr)
  | _ => none

/-- An expression and the tokens behind it. -/
abbrev Parsed := Expression × List Token

/-- An expression that breaks off, behind which nothing is read. -/
def breakOff (fault : Fault) : Parsed :=
  (.broken fault, [])

/-- An expression behind which something is missing. -/
def breakAfter (a : Expression) (fault : Fault) : Parsed :=
  (.and a (.broken fault), [])

mutual

/-- Reads an assignment or a choice. -/
def readExpression : Nat → List Token → Parsed
  | 0, _ => breakOff .expectsPrimary
  | fuel + 1, tokens =>
      match tokens with
      | .name name :: .sign sign :: rest =>
          match assignment? sign with
          | some op =>
              let (value, rest) := readExpression fuel rest
              (.assign name op value, rest)
          | none => readChoice fuel tokens
      | _ => readChoice fuel tokens

def readChoice : Nat → List Token → Parsed
  | 0, _ => breakOff .expectsPrimary
  | fuel + 1, tokens =>
      match readOr fuel tokens with
      | (test, .sign "?" :: rest) =>
          match readExpression fuel rest with
          | (yes, .sign ":" :: rest) =>
              let (no, rest) := readChoice fuel rest
              (.choice test yes no, rest)
          | (yes, _) => (.choice test yes (.broken .expectsColon), [])
      | found => found

def readOr : Nat → List Token → Parsed
  | 0, _ => breakOff .expectsPrimary
  | fuel + 1, tokens =>
      match readAnd fuel tokens with
      | (a, .sign "||" :: rest) =>
          let (b, rest) := readOr fuel rest
          (.or a b, rest)
      | found => found

def readAnd : Nat → List Token → Parsed
  | 0, _ => breakOff .expectsPrimary
  | fuel + 1, tokens =>
      let (first, rest) := readPrimary fuel tokens
      match readBinary fuel lowestRank first rest with
      | (a, .sign "&&" :: rest) =>
          let (b, rest) := readAnd fuel rest
          (.and a b, rest)
      | found => found

/-- Goes on behind an operand with operations of a rank below `rank`. -/
def readBinary : Nat → Nat → Expression → List Token → Parsed
  | 0, _, _, _ => breakOff .expectsPrimary
  | fuel + 1, rank, a, tokens =>
      match tokens with
      | .sign sign :: rest =>
          match binary? sign with
          | some (op, own) =>
              if own < rank then
                let (b, rest) := readPrimary fuel rest
                let (b, rest) := readBinary fuel own b rest
                readBinary fuel rank (.binary op a b) rest
              else (a, tokens)
          | none => (a, tokens)
      | _ => (a, tokens)

def readPrimary : Nat → List Token → Parsed
  | 0, _ => breakOff .expectsPrimary
  | fuel + 1, tokens =>
      match tokens with
      | .number n :: rest => (.number n, rest)
      | .name name :: rest => (.variable name, rest)
      | .sign "(" :: rest =>
          match readExpression fuel rest with
          | (inner, .sign ")" :: rest) => (inner, rest)
          | (inner, _) => breakAfter inner .expectsParenthesis
      | .sign "+" :: rest => readPrimary fuel rest
      | .sign "-" :: rest => readUnary fuel .negative rest
      | .sign "!" :: rest => readUnary fuel .not rest
      | .sign "~" :: rest => readUnary fuel .complement rest
      | _ => breakOff .expectsPrimary

def readUnary : Nat → Unary → List Token → Parsed
  | 0, _, _ => breakOff .expectsPrimary
  | fuel + 1, op, tokens =>
      let (a, rest) := readPrimary fuel tokens
      (.unary op a, rest)

end

/-- The expression that a text stands for. -/
def parse (text : List Char) : Expression :=
  let all := tokens text.length text
  match readExpression (8 * all.length + 8) all with
  | (expression, []) => expression
  | (expression, _) => (breakAfter expression .expectsEnd).1

/-- The first place at which an expression breaks off. -/
def Expression.fault? : Expression → Option Fault
  | .number _ | .variable _ => none
  | .broken fault => some fault
  | .assign _ _ value => value.fault?
  | .choice test yes no => (test.fault?.or yes.fault?).or no.fault?
  | .or a b | .and a b | .binary _ a b => a.fault?.or b.fault?
  | .unary _ a => a.fault?

/-- The number of 64 bits that a number wraps around to. -/
def wrap (n : Int) : Int :=
  Int.bmod n (Nat.pow 2 64)

def ofBool (b : Bool) : Int :=
  if b then 1 else 0

/-- The bits of a number as a natural number below `2 ^ 64`. -/
def bits (n : Int) : Nat :=
  (n % Int.pow 2 64).toNat

def Binary.apply (op : Binary) (a b : Int) : Except Fault Int :=
  match op with
  | .mul => .ok (wrap (a * b))
  | .div => if b = 0 then .error .divisionByZero else .ok (wrap (a.tdiv b))
  | .rem => if b = 0 then .error .divisionByZero else .ok (wrap (a.tmod b))
  | .add => .ok (wrap (a + b))
  | .sub => .ok (wrap (a - b))
  | .shiftLeft => .ok (wrap (a * Int.pow 2 (b % 64).toNat))
  | .shiftRight => .ok (a.fdiv (Int.pow 2 (b % 64).toNat))
  | .less => .ok (ofBool (a < b))
  | .lessEq => .ok (ofBool (a ≤ b))
  | .greater => .ok (ofBool (b < a))
  | .greaterEq => .ok (ofBool (b ≤ a))
  | .equal => .ok (ofBool (a = b))
  | .notEqual => .ok (ofBool (a ≠ b))
  | .bitAnd => .ok (wrap (bits a &&& bits b : Nat))
  | .bitXor => .ok (wrap (bits a ^^^ bits b : Nat))
  | .bitOr => .ok (wrap (bits a ||| bits b : Nat))

def Unary.apply (op : Unary) (a : Int) : Int :=
  match op with
  | .negative => wrap (-a)
  | .not => ofBool (a = 0)
  | .complement => -a - 1

/-- Evaluation with the assignments made so far, the latest first. -/
abbrev Eval := EStateM Fault (List (String × Int))

/-- The number that a variable stands for. -/
def valueOf (lookup : String → String) (name : String) : Eval Int := do
  match (← get).lookup name with
  | some n => return n
  | none =>
      let text := lookup name
      match wholeNumber? true text with
      | some n => return n
      | none => throw (.illegalNumber text)

def lift (result : Except Fault Int) : Eval Int :=
  match result with
  | .ok n => return n
  | .error fault => throw fault

/-- Passes over an expression that has no effect, unless it breaks off. -/
def pass (a : Expression) : Eval Unit :=
  match a.fault? with
  | some fault => throw fault
  | none => pure ()

/-- The value of an expression. Of a choice only the branch that is taken has effects. -/
def Expression.eval (lookup : String → String) : Expression → Eval Int
  | .number n => return n
  | .broken fault => throw fault
  | .variable name => valueOf lookup name
  | .assign name op value => do
      let right ← value.eval lookup
      let result ← match op with
        | none => pure right
        | some op => lift (op.apply (← valueOf lookup name) right)
      modify ((name, result) :: ·)
      return result
  | .choice test yes no => do
      if (← test.eval lookup) ≠ 0 then
        let n ← yes.eval lookup
        pass no
        return n
      else
        pass yes
        no.eval lookup
  | .or a b => do
      if (← a.eval lookup) ≠ 0 then
        pass b
        return 1
      else return ofBool ((← b.eval lookup) ≠ 0)
  | .and a b => do
      if (← a.eval lookup) = 0 then
        pass b
        return 0
      else return ofBool ((← b.eval lookup) ≠ 0)
  | .binary op a b => do
      let left ← a.eval lookup
      lift (op.apply left (← b.eval lookup))
  | .unary op a => do return op.apply (← a.eval lookup)

/-- The value of a text and the assignments that it makes, in order. -/
def run (lookup : String → String) (text : List Char) :
    Except Fault (Int × List (String × Int)) :=
  match ((parse text).eval lookup).run [] with
  | .ok n assigned => .ok (n, assigned.reverse)
  | .error fault _ => .error fault

end SourceReducer.Arithmetic
