import SourceReducer.Document.Toml.Lexeme
import SourceReducer.Document.Value

/-! Numbers, dates and times of a settings file. -/
namespace SourceReducer.Toml

/-- Digits of which an underscore may stand between two. The first one is read already. -/
def moreDigits (isDigit : Char → Bool) : Nat → List Char → Option (List Char × List Char)
  | 0, _ => none
  | fuel + 1, cs =>
      match cs with
      | '_' :: c :: rest => if isDigit c then prepend c (moreDigits isDigit fuel rest) else none
      | ['_'] => none
      | c :: rest =>
          if isDigit c then prepend c (moreDigits isDigit fuel rest) else some ([], c :: rest)
      | [] => some ([], [])

/-- One or more digits. -/
def readDigits (isDigit : Char → Bool) : Read (List Char)
  | c :: rest => if isDigit c then prepend c (moreDigits isDigit (rest.length + 1) rest) else none
  | [] => none

def valueIn (base : Nat) (digits : List Char) : Nat :=
  digits.foldl (fun n d => n * base + (hexValue? d).getD 0) 0

/-- A decimal number; a zero in front stands alone. -/
def readWhole : Read (List Char)
  | '0' :: rest => some (['0'], rest)
  | cs => readDigits Char.isDigit cs

def readSign : List Char → Bool × List Char
  | '-' :: rest => (true, rest)
  | '+' :: rest => (false, rest)
  | cs => (false, cs)

/-- Integers have 64 bits. -/
def inWord (i : Int) : Bool :=
  -Int.pow 2 63 ≤ i && i < Int.pow 2 63

def readInBase (base : Nat) (isDigit : Char → Bool) : Read Value := fun cs => do
  let (digits, rest) ← readDigits isDigit cs
  let n := valueIn base digits
  if inWord n then some (.int n, rest) else none

def readInteger : Read Value
  | '0' :: 'x' :: rest => readInBase 16 (fun c => (hexValue? c).isSome) rest
  | '0' :: 'o' :: rest => readInBase 8 (fun c => '0' ≤ c && c ≤ '7') rest
  | '0' :: 'b' :: rest => readInBase 2 (fun c => c == '0' || c == '1') rest
  | cs => do
      let (negative, cs) := readSign cs
      let (digits, rest) ← readWhole cs
      let n : Int := valueIn 10 digits
      let i := if negative then -n else n
      if inWord i then some (.int i, rest) else none

/-- The exponent of ten, with its mark. -/
def readExponent : Read Int
  | c :: rest =>
      if c == 'e' || c == 'E' then
        let (negative, rest) := readSign rest
        (readDigits Char.isDigit rest).map fun (digits, rest) =>
          let n : Int := valueIn 10 digits
          (if negative then -n else n, rest)
      else none
  | [] => none

/-- Whether `digits` times a power of ten is nearer to infinity than to any number of 64 bits with a
binary exponent. -/
def isInfinite (digits : Nat) (exponent : Int) : Bool :=
  let limit := Nat.pow 2 1024 - Nat.pow 2 970
  let places := (Nat.toDigits 10 digits).length + exponent
  if digits = 0 || places < 308 then false
  else if 310 < places then true
  else limit * Nat.pow 10 (-exponent).toNat ≤ digits * Nat.pow 10 exponent.toNat

/-- A number with a fraction or an exponent, or one of the special numbers. A positive number must
not be too large. -/
def readFractional : Read Value := fun cs =>
  let (negative, cs) := readSign cs
  match cs with
  | 'i' :: 'n' :: 'f' :: rest | 'n' :: 'a' :: 'n' :: rest => some (.fractional, rest)
  | cs => do
      let (whole, rest) ← readWhole cs
      let (fraction, rest) ← match rest with
        | '.' :: rest => readDigits Char.isDigit rest
        | 'e' :: _ | 'E' :: _ => some ([], rest)
        | _ => none
      let (exponent, rest) ← match rest with
        | 'e' :: _ | 'E' :: _ => readExponent rest
        | _ => some (0, rest)
      if !negative && isInfinite (valueIn 10 (whole ++ fraction)) (exponent - fraction.length) then
        none
      else some (.fractional, rest)

/-- A number of exactly `width` digits between two bounds. -/
def readField (width low high : Nat) : Read Nat := fun cs =>
  let digits := cs.take width
  let n := valueIn 10 digits
  if digits.length = width && digits.all Char.isDigit && low ≤ n && n ≤ high then
    some (n, cs.drop width)
  else none

def readChar (chars : List Char) : Read Unit
  | c :: rest => if chars.contains c then some ((), rest) else none
  | [] => none

def isLeap (year : Nat) : Bool :=
  year % 4 == 0 && (year % 100 != 0 || year % 400 == 0)

def daysIn (year month : Nat) : Nat :=
  if month = 2 then if isLeap year then 29 else 28
  else if [4, 6, 9, 11].contains month then 30
  else 31

def readDate : Read Unit := fun cs => do
  let (year, cs) ← readField 4 0 9999 cs
  let (_, cs) ← readChar ['-'] cs
  let (month, cs) ← readField 2 1 12 cs
  let (_, cs) ← readChar ['-'] cs
  let (_, cs) ← readField 2 1 (daysIn year month) cs
  some ((), cs)

/-- Drops a fraction of a second. -/
def dropFraction (cs : List Char) : Option (List Char) :=
  match cs with
  | '.' :: rest =>
      match rest.span Char.isDigit with
      | ([], _) => none
      | (_, rest) => some rest
  | _ => some cs

def readTime : Read Unit := fun cs => do
  let (_, cs) ← readField 2 0 23 cs
  let (_, cs) ← readChar [':'] cs
  let (_, cs) ← readField 2 0 59 cs
  let (_, cs) ← readChar [':'] cs
  let (_, cs) ← readField 2 0 60 cs
  some ((), ← dropFraction cs)

def readOffset : Read Unit := fun cs => do
  match cs with
  | 'Z' :: rest | 'z' :: rest => some ((), rest)
  | _ =>
      let (_, cs) ← readChar ['+', '-'] cs
      let (_, cs) ← readField 2 0 23 cs
      let (_, cs) ← readChar [':'] cs
      let (_, cs) ← readField 2 0 59 cs
      some ((), cs)

/-- A date, a time, or both with or without an offset. -/
def readMoment : Read Value := fun cs =>
  match readDate cs with
  | none => (readTime cs).map fun (_, rest) => (.moment, rest)
  | some (_, rest) =>
      let timed := do
        let (_, rest) ← readChar ['T', 't', ' '] rest
        let (_, rest) ← readTime rest
        some rest
      match timed with
      | none => some (.moment, rest)
      | some rest =>
          match readOffset rest with
          | none => some (.moment, rest)
          | some (_, rest) => some (.moment, rest)

/-- A date or time, or else a number with a fraction, or else an integer. -/
def readNumber : Read Value := fun cs =>
  (readMoment cs).or ((readFractional cs).or (readInteger cs))

end SourceReducer.Toml
