import SourceReducer.Text.Hex

/-! Numbers as programs read them at the start of a text: blanks, a sign and digits. -/
namespace SourceReducer

/-- Whether a character is one of the blanks that may stand before a number. -/
def isAsciiSpace (c : Char) : Bool :=
  c == ' ' || ('\t' ≤ c && c ≤ '\r')

/-- The value of digits in a base; characters that are no digits count as zero. -/
def digitsValue (base : Nat) (digits : List Char) : Nat :=
  digits.foldl (fun n d => n * base + (hexValue? d).getD 0) 0

/-- A number, whether it is out of range, and the text behind it. -/
structure Numeral where
  value : Int
  isOutOfRange : Bool
  rest : List Char

/-- The bounds of the numbers that programs work with. -/
def lowestNumber : Int := -Int.pow 2 63

def highestNumber : Int := Int.pow 2 63 - 1

/-- The nearest number in range. -/
def Numeral.clamp (n : Int) (rest : List Char) : Numeral :=
  if n < lowestNumber then { value := lowestNumber, isOutOfRange := true, rest }
  else if highestNumber < n then { value := highestNumber, isOutOfRange := true, rest }
  else { value := n, isOutOfRange := false, rest }

def isHexDigit (c : Char) : Bool :=
  (hexValue? c).isSome

def isOctalDigit (c : Char) : Bool :=
  '0' ≤ c && c ≤ '7'

/-- Digits without a sign, and the text behind them. With `anyBase`, digits after `0x` are
hexadecimal and those after a zero are octal. -/
def readMagnitude? (anyBase : Bool) (cs : List Char) : Option (Nat × List Char) :=
  let plain := fun (base : Nat) (isDigit : Char → Bool) (cs : List Char) =>
    match cs.span isDigit with
    | ([], _) => none
    | (digits, rest) => some (digitsValue base digits, rest)
  match anyBase, cs with
  | true, '0' :: x :: rest =>
      if x == 'x' || x == 'X' then
        match plain 16 isHexDigit rest with
        | some found => some found
        | none => some (0, x :: rest)
      else plain 8 isOctalDigit cs
  | true, '0' :: rest => plain 8 isOctalDigit ('0' :: rest)
  | _, cs => plain 10 Char.isDigit cs

/-- The number at the start of a text. -/
def readNumeral? (anyBase : Bool) (cs : List Char) : Option Numeral :=
  let cs := cs.dropWhile isAsciiSpace
  let (negative, digits) := match cs with
    | '-' :: rest => (true, rest)
    | '+' :: rest => (false, rest)
    | _ => (false, cs)
  (readMagnitude? anyBase digits).map fun (n, rest) =>
    .clamp (if negative then -(n : Int) else n) rest

/-- The number that a whole text stands for, with blanks around it. A blank text stands for zero
where any base is allowed, and for no number otherwise. -/
def wholeNumber? (anyBase : Bool) (text : String) : Option Int :=
  match readNumeral? anyBase text.toList with
  | some n => if !n.isOutOfRange && n.rest.all isAsciiSpace then some n.value else none
  | none => if anyBase && text.toList.all isAsciiSpace then some 0 else none

end SourceReducer
