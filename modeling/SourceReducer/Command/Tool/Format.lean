import SourceReducer.Command.Numeral
import SourceReducer.Decimal.Tenths

/-! Printing by a format: characters that stand for themselves, escapes behind a backslash and
conversions of arguments behind a percent sign. -/
namespace SourceReducer.Format

/-- How a conversion fills the width that it asks for. -/
structure Width where
  toLeft : Bool := false
  plus : Bool := false
  space : Bool := false
  zeros : Bool := false
  /-- Marks the base of a number, and keeps zeros at the end of a fraction. -/
  marksBase : Bool := false
  least : Nat := 0
  precision : Option Nat := none

/-- How many characters one conversion may make. -/
def maxWidth : Nat := Nat.pow 2 24

/-- Whether more characters are asked for than can be made. A precision that only cuts makes
none. -/
def Width.isTooLong (w : Width) (cuts : Bool) : Bool :=
  maxWidth < w.least || w.precision.any fun n => (if cuts then Nat.pow 2 31 - 1 else maxWidth) < n

/-- What keeps a format from being printed to its end. -/
inductive Fault
  | missingLetter
  | invalid (directive : String)
  /-- More characters are asked for than can be made. -/
  | tooLong

def Fault.message : Fault → String
  | .missingLetter => "missing format character"
  | .invalid directive => s!"{directive}: invalid directive"
  | .tooLong => "xvsnprintf failed"

/-- What is wrong with an argument that should be a number. -/
inductive Misfit
  | noNumber
  | notAll
  | outOfRange

def Misfit.message (arg : String) : Misfit → String
  | .noNumber => s!"{arg}: expected numeric value"
  | .notAll => s!"{arg}: not completely converted"
  | .outOfRange => s!"{arg}: Numerical result out of range"

/-- Octal digits at the start of a text, `most` of them at most. -/
def octal : Nat → Nat → List Char → Nat × List Char
  | most + 1, value, c :: rest =>
      if isOctalDigit c then octal most (value * 8 + (c.toNat - 48)) rest else (value, c :: rest)
  | _, value, rest => (value, rest)

def byteChar (n : Nat) : Char :=
  Char.ofNat (n % 256)

/-- What a backslash and what follows it stand for. A backslash before anything else stands for
itself. -/
def escape : List Char → Char × List Char
  | '\\' :: rest => ('\\', rest)
  | 'a' :: rest => (Char.ofNat 7, rest)
  | 'b' :: rest => (Char.ofNat 8, rest)
  | 'e' :: rest => (Char.ofNat 27, rest)
  | 'f' :: rest => (Char.ofNat 12, rest)
  | 'n' :: rest => ('\n', rest)
  | 'r' :: rest => ('\r', rest)
  | 't' :: rest => ('\t', rest)
  | 'v' :: rest => (Char.ofNat 11, rest)
  | c :: rest =>
      if isOctalDigit c then
        let (value, rest) := octal 3 0 (c :: rest)
        (byteChar value, rest)
      else ('\\', c :: rest)
  | [] => ('\\', [])

/-- A text with its escapes read, and whether one of them ends all printing. After a zero up to
three octal digits follow. -/
def unescape : Nat → List Char → List Char × Bool
  | 0, _ => ([], false)
  | _ + 1, [] => ([], false)
  | _ + 1, '\\' :: 'c' :: _ => ([], true)
  | fuel + 1, '\\' :: '0' :: rest =>
      let (value, rest) := octal 3 0 rest
      let (chars, ends) := unescape fuel rest
      (byteChar value :: chars, ends)
  | fuel + 1, '\\' :: rest =>
      let (c, rest) := escape rest
      let (chars, ends) := unescape fuel rest
      (c :: chars, ends)
  | fuel + 1, c :: rest =>
      let (chars, ends) := unescape fuel rest
      (c :: chars, ends)

/-- Fills a text up to a width with blanks. -/
def Width.fill (w : Width) (chars : List Char) : List Char :=
  let blanks := List.replicate (w.least - chars.length) ' '
  if w.toLeft then chars ++ blanks else blanks ++ chars

/-- Fills a number up to a width. Zeros stand behind the sign. -/
def Width.fillNumber (w : Width) (zeros : Bool) (sign digits : List Char) : List Char :=
  if zeros && !w.toLeft then
    sign ++ List.replicate (w.least - sign.length - digits.length) '0' ++ digits
  else w.fill (sign ++ digits)

/-- The sign of a number. -/
def Width.sign (w : Width) (negative : Bool) : List Char :=
  if negative then ['-'] else if w.plus then ['+'] else if w.space then [' '] else []

/-- Digits with zeros before them, at least as many as a precision asks for. The number zero has no
digits under the precision zero. -/
def Width.digits (w : Width) (base n : Nat) : List Char :=
  let digits := if n = 0 && w.precision = some 0 then [] else Nat.toDigits base n
  List.replicate (w.precision.getD 1 - digits.length) '0' ++ digits

def Width.signed (w : Width) (n : Int) : List Char :=
  w.fillNumber (w.zeros && w.precision.isNone) (w.sign (n < 0)) (w.digits 10 n.natAbs)

def Width.unsigned (w : Width) (kind : Char) (n : Nat) : List Char :=
  let digits := w.digits (if kind = 'o' then 8 else if kind = 'u' then 10 else 16) n
  let digits := if kind = 'X' then digits.map Char.toUpper else digits
  let digits :=
    if w.marksBase && kind = 'o' && digits.head? != some '0' then '0' :: digits else digits
  let mark := if w.marksBase && n ≠ 0 && (kind = 'x' || kind = 'X') then ['0', kind] else []
  w.fillNumber (w.zeros && w.precision.isNone) mark digits

/-- A number that is a quotient of two others. -/
structure Quotient where
  num : Nat
  den : Nat

/-- The size of a double that is not infinite. -/
def Quotient.ofBinary (v : BinaryValue) : Quotient :=
  match v.exponent with
  | .ofNat e => { num := v.significand * Nat.pow 2 e, den := 1 }
  | .negSucc e => { num := v.significand, den := Nat.pow 2 (e + 1) }

/-- The quotient times a power of ten, rounded. -/
def Quotient.scaled (q : Quotient) (power : Int) : Nat :=
  match power with
  | .ofNat p => roundHalfEven (q.num * Nat.pow 10 p) q.den
  | .negSucc p => roundHalfEven q.num (q.den * Nat.pow 10 (p + 1))

/-- Whether a power of ten is not above a quotient. -/
def Quotient.reaches (q : Quotient) (power : Int) : Bool :=
  match power with
  | .ofNat p => q.den * Nat.pow 10 p ≤ q.num
  | .negSucc p => q.den ≤ q.num * Nat.pow 10 (p + 1)

/-- The highest power of ten that is not above a quotient. -/
def Quotient.magnitude (q : Quotient) : Int :=
  if q.num = 0 then 0
  else
    let guess : Int := (Nat.toDigits 10 q.num).length - (Nat.toDigits 10 q.den).length
    if q.reaches guess then guess else guess - 1

/-- Digits with a point before the last `places` of them. -/
def pointed (marks : Bool) (places n : Nat) : List Char :=
  let digits := Nat.toDigits 10 n
  let digits := List.replicate (places + 1 - digits.length) '0' ++ digits
  let whole := digits.take (digits.length - places)
  if places = 0 && !marks then whole else whole ++ '.' :: digits.drop (digits.length - places)

def Quotient.fixed (q : Quotient) (marks : Bool) (places : Nat) : List Char :=
  pointed marks places (q.scaled places)

/-- The leading digits of a quotient as a number with `places` of them behind the point, and the
power of ten that belongs to them. -/
def Quotient.leading (q : Quotient) (places : Nat) : Nat × Int :=
  let power := q.magnitude
  let n := q.scaled (places - power)
  if Nat.pow 10 (places + 1) ≤ n then (n / 10, power + 1) else (n, power)

/-- The text of a power of ten, of two digits at least. -/
def showPower (power : Int) : List Char :=
  let digits := Nat.toDigits 10 power.natAbs
  'e' :: (if power < 0 then '-' else '+') :: List.replicate (2 - digits.length) '0' ++ digits

def Quotient.scientific (q : Quotient) (marks : Bool) (places : Nat) : List Char :=
  let (n, power) := q.leading places
  pointed marks places n ++ showPower power

/-- A fraction without the zeros at its end. -/
def dropZeros (chars : List Char) : List Char :=
  if chars.contains '.' then
    let kept := chars.reverse.dropWhile (· == '0')
    (if kept.head? = some '.' then kept.drop 1 else kept).reverse
  else chars

/-- The shorter of the two ways to write a quotient. -/
def Quotient.general (q : Quotient) (marks : Bool) (precision : Nat) : List Char :=
  let precision := max precision 1
  let (n, power) := q.leading (precision - 1)
  let trim := if marks then id else dropZeros
  if -4 ≤ power && power < precision then
    trim (q.fixed marks ((precision : Int) - 1 - power).toNat)
  else trim (pointed marks (precision - 1) n) ++ showPower power

/-- A double in base sixteen. -/
def binaryDigits (v : BinaryValue) : List Char :=
  if v.significand = 0 then "0x0p+0".toList
  else
    let isNormal := Nat.pow 2 52 ≤ v.significand
    let power := if isNormal then v.exponent + 52 else -1022
    let digits := hexDigits (v.significand % Nat.pow 2 52)
    let fraction := List.replicate (13 - digits.length) '0' ++ digits
    let kept := (fraction.reverse.dropWhile (· == '0')).reverse
    let point := if kept.isEmpty then [] else '.' :: kept
    ['0', 'x', if isNormal then '1' else '0'] ++ point ++
      'p' :: (if power < 0 then '-' else '+') :: Nat.toDigits 10 power.natAbs

def Width.float (w : Width) (kind : Char) (x : Float) : List Char :=
  let v := BinaryValue.ofBits x.toBits.toNat
  let isFinite := x.toBits.toNat / Nat.pow 2 52 % Nat.pow 2 11 ≠ 2047
  let places := w.precision.getD 6
  let q := Quotient.ofBinary v
  let digits :=
    if !isFinite then (if v.significand = Nat.pow 2 52 then "inf" else "nan").toList
    else
      match kind.toLower with
      | 'f' => q.fixed w.marksBase places
      | 'e' => q.scientific w.marksBase places
      | 'g' => q.general w.marksBase places
      | _ => binaryDigits v
  let digits := if kind.isUpper then digits.map Char.toUpper else digits
  w.fillNumber (w.zeros && isFinite) (w.sign v.negative) digits

/-- The number `digits * 10 ^ power` as a double. -/
def decimalFloat (digits : Nat) (power : Int) : Float :=
  match power with
  | .ofNat p => if 400 < p && digits ≠ 0 then 1.0 / 0.0 else Float.ofScientific digits false p
  | .negSucc p =>
      if (Nat.toDigits 10 digits).length + 400 < p then 0.0
      else Float.ofScientific digits true (p + 1)

/-- The power behind the digits of a number, and what follows it. -/
def readPower (cs : List Char) : Int × List Char :=
  match cs with
  | e :: rest =>
      if e == 'e' || e == 'E' then
        let (negative, digits) := match rest with
          | '-' :: more => (true, more)
          | '+' :: more => (false, more)
          | _ => (false, rest)
        match digits.span Char.isDigit with
        | ([], _) => (0, cs)
        | (digits, rest) =>
            let power : Int := min (digitsValue 10 digits) 100000
            (if negative then -power else power, rest)
      else (0, cs)
  | [] => (0, [])

/-- The number with a fraction at the start of a text. -/
def readFloat? (cs : List Char) : Option (Float × List Char) :=
  let cs := cs.dropWhile isAsciiSpace
  let (negative, body) := match cs with
    | '-' :: rest => (true, rest)
    | '+' :: rest => (false, rest)
    | _ => (false, cs)
  let signed := fun (x : Float) => if negative then -x else x
  let lower := body.map Char.toLower
  if "infinity".toList.isPrefixOf lower then some (signed (1.0 / 0.0), body.drop 8)
  else if "inf".toList.isPrefixOf lower then some (signed (1.0 / 0.0), body.drop 3)
  else if "nan".toList.isPrefixOf lower then some (0.0 / 0.0, body.drop 3)
  else if "0x".toList.isPrefixOf lower && (body.drop 2).head?.any isHexDigit then
    let (digits, rest) := (body.drop 2).span isHexDigit
    some (signed (Float.ofNat (digitsValue 16 digits)), rest)
  else
    let (whole, rest) := body.span Char.isDigit
    let (fraction, rest) := match rest with
      | '.' :: more =>
          let (digits, after) := more.span Char.isDigit
          if whole.isEmpty && digits.isEmpty then ([], rest) else (digits, after)
      | _ => ([], rest)
    if whole.isEmpty && fraction.isEmpty then none
    else
      let (power, rest) := readPower rest
      some (signed (decimalFloat (digitsValue 10 (whole ++ fraction)) (power - fraction.length)),
        rest)

/-- Whether a text gives a number too large or too small for the double that it was read as. -/
def isOutOfRange (cs : List Char) (x : Float) : Bool :=
  let digits := cs.takeWhile fun c => c != 'e' && c != 'E'
  digits.any (fun c => '1' ≤ c && c ≤ '9') &&
    (x.abs == 1.0 / 0.0 || x.abs < 2.2250738585072014e-308)

/-- What has been printed so far, last character first, and what is still to be used. -/
structure Printing where
  chars : List Char := []
  args : List String
  complaints : List String := []
  ends : Bool := false

namespace Printing

def add (p : Printing) (chars : List Char) : Printing :=
  { p with chars := chars.reverse ++ p.chars }

/-- Takes the next argument. -/
def next (p : Printing) : Option String × Printing :=
  (p.args.head?, { p with args := p.args.tail })

def complain (p : Printing) (arg : String) (misfit : Option Misfit) : Printing :=
  match misfit with
  | some m => { p with complaints := p.complaints ++ [m.message arg] }
  | none => p

/-- What is wrong with an argument of which a rest is left. -/
def misfit (found : Bool) (rest : List Char) (outOfRange : Bool) : Option Misfit :=
  if !rest.isEmpty then some (if found then .notAll else .noNumber)
  else if outOfRange then some .outOfRange
  else none

/-- The character behind a quotation mark, which stands for its number. -/
def quoted? (arg : String) : Option Nat :=
  match arg.toList with
  | q :: rest => if q == '"' || q == '\'' then some ((rest.head?.map Char.toNat).getD 0) else none
  | [] => none

/-- The next argument as a number with a sign. -/
def nextSigned (p : Printing) : Int × Printing :=
  match p.next with
  | (none, p) => (0, p)
  | (some arg, p) =>
      match quoted? arg, readNumeral? true arg.toList with
      | some n, _ => (n, p)
      | none, some n => (n.value, p.complain arg (misfit true n.rest n.isOutOfRange))
      | none, none => (0, p.complain arg (misfit false arg.toList false))

/-- The next argument as a number without a sign; a negative one wraps around. -/
def nextUnsigned (p : Printing) : Nat × Printing :=
  match p.next with
  | (none, p) => (0, p)
  | (some arg, p) =>
      let cs := arg.toList.dropWhile isAsciiSpace
      let (negative, digits) := match cs with
        | '-' :: rest => (true, rest)
        | '+' :: rest => (false, rest)
        | _ => (false, cs)
      match quoted? arg, readMagnitude? true digits with
      | some n, _ => (n, p)
      | none, some (n, rest) =>
          let outOfRange := Nat.pow 2 64 ≤ n
          let value := if outOfRange then Nat.pow 2 64 - 1
            else if negative then (Nat.pow 2 64 - n) % Nat.pow 2 64 else n
          (value, p.complain arg (misfit true rest outOfRange))
      | none, none => (0, p.complain arg (misfit false arg.toList false))

def nextFloat (p : Printing) : Float × Printing :=
  match p.next with
  | (none, p) => (0.0, p)
  | (some arg, p) =>
      match quoted? arg, readFloat? arg.toList with
      | some n, _ => (Float.ofNat n, p)
      | none, some (x, rest) => (x, p.complain arg (misfit true rest (isOutOfRange arg.toList x)))
      | none, none => (0.0, p.complain arg (misfit false arg.toList false))

/-- A number in a format, or the next argument in place of a star, of which 32 bits count. -/
def readLength (p : Printing) (cs : List Char) : Int × List Char × Printing :=
  match cs with
  | '*' :: rest =>
      let (n, p) := p.nextSigned
      (n.bmod (Nat.pow 2 32), rest, p)
  | _ =>
      let (digits, rest) := cs.span Char.isDigit
      (digitsValue 10 digits, rest, p)

/-- The flags, the width and the precision before the letter of a conversion. -/
def readWidth (p : Printing) (cs : List Char) : Width × List Char × Printing :=
  let (flags, rest) := cs.span fun c => ['#', '-', '+', ' ', '0'].contains c
  let (least, rest, p) := p.readLength rest
  let (precision, rest, p) := match rest with
    | '.' :: rest =>
        let (n, rest, p) := p.readLength rest
        (if n < 0 then none else some n.toNat, rest, p)
    | _ => (none, rest, p)
  ({ toLeft := flags.contains '-' || least < 0
     plus := flags.contains '+'
     space := flags.contains ' '
     zeros := flags.contains '0'
     marksBase := flags.contains '#'
     least := least.natAbs
     precision }, rest, p)

def cut (w : Width) (chars : List Char) : List Char :=
  w.fill (match w.precision with
    | some most => chars.take most
    | none => chars)

/-- Prints the next argument by the letter of a conversion. -/
def convert (p : Printing) (w : Width) (kind : Char) : Option Printing :=
  if kind == 's' then
    let (arg, p) := p.next
    some (p.add (cut w (arg.getD "").toList))
  else if kind == 'b' then
    let (arg, p) := p.next
    let (chars, ends) := unescape (arg.getD "").length (arg.getD "").toList
    some { p.add (cut w chars) with ends }
  else if kind == 'c' then
    let (arg, p) := p.next
    some (p.add (w.fill [((arg.getD "").toList.head?).getD '\x00']))
  else if kind == 'd' || kind == 'i' then
    let (n, p) := p.nextSigned
    some (p.add (w.signed n))
  else if ['o', 'u', 'x', 'X'].contains kind then
    let (n, p) := p.nextUnsigned
    some (p.add (w.unsigned kind n))
  else if ['a', 'A', 'e', 'E', 'f', 'F', 'g', 'G'].contains kind then
    let (x, p) := p.nextFloat
    some (p.add (w.float kind x))
  else none

/-- Prints by a format once. -/
def once : Nat → List Char → Printing → Except (Fault × Printing) Printing
  | 0, _, p => .ok p
  | _ + 1, [], p => .ok p
  | fuel + 1, '%' :: '%' :: rest, p => once fuel rest (p.add ['%'])
  | fuel + 1, '%' :: start, p =>
      match p.readWidth start with
      | (_, [], p) => .error (.missingLetter, p)
      | (w, kind :: rest, p) =>
          if w.isTooLong (kind == 's' || kind == 'b') then .error (.tooLong, p)
          else match p.convert w kind with
          | none =>
              let directive := '%' :: start.take (start.length - rest.length)
              .error (.invalid (String.ofList directive), p)
          | some p => if p.ends then .ok p else once fuel rest p
  | fuel + 1, '\\' :: rest, p =>
      let (c, rest) := escape rest
      once fuel rest (p.add [c])
  | fuel + 1, c :: rest, p => once fuel rest (p.add [c])

/-- Prints by a format until all arguments are used. -/
def repeated (format : List Char) : Nat → Printing → Except (Fault × Printing) Printing
  | 0, p => .ok p
  | fuel + 1, p => do
      let after ← once (format.length + 1) format p
      if after.ends || after.args.isEmpty || after.args.length = p.args.length then return after
      else repeated format fuel after

end Printing

/-- What was printed, what was complained about, and the status. -/
structure Printed where
  text : String := ""
  complaints : List String := []
  code : Nat := 0

/-- Prints arguments by a format. -/
def print (format : String) (args : List String) : Printed :=
  match Printing.repeated format.toList (args.length + 1) { args } with
  | .ok p =>
      { text := String.ofList p.chars.reverse
        complaints := p.complaints
        code := if p.complaints.isEmpty then 0 else 1 }
  | .error (fault, p) =>
      { text := String.ofList p.chars.reverse
        complaints := p.complaints ++ [fault.message]
        code := 2 }

/-- Prints words with blanks between them. Escapes are read, and one of them ends the printing. -/
def echo (args : List String) : String :=
  let (args, line) := match args with
    | "-n" :: rest => (rest, "")
    | _ => (args, "\n")
  let text := " ".intercalate args
  let (chars, ends) := unescape text.length text.toList
  String.ofList chars ++ (if ends then "" else line)

end SourceReducer.Format
