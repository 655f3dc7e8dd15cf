/-! Numbers with one decimal. A double is taken apart into its exact binary value, which is then
rounded to tenths; a value half-way between two goes to the even one. -/
namespace SourceReducer

/-- The natural number nearest to `num / den`, the even one of two that are equally near. -/
def roundHalfEven (num den : Nat) : Nat :=
  let q := num / den
  let r := num % den
  if 2 * r < den then q
  else if den < 2 * r then q + 1
  else if q % 2 = 0 then q else q + 1

/-- A finite double as a sign and `significand * 2 ^ exponent`. -/
structure BinaryValue where
  negative : Bool
  significand : Nat
  exponent : Int

def BinaryValue.ofBits (bits : Nat) : BinaryValue :=
  let fraction : Nat := bits % Nat.pow 2 52
  let biased : Nat := bits / Nat.pow 2 52 % Nat.pow 2 11
  { negative := bits / Nat.pow 2 63 % 2 == 1
    significand := if biased = 0 then fraction else fraction + Nat.pow 2 52
    exponent := ((if biased = 0 then 1 else biased : Nat) : Int) - 1075 }

/-- The number of tenths nearest to the size of a value. -/
def BinaryValue.tenths (v : BinaryValue) : Nat :=
  match v.exponent with
  | .ofNat e => v.significand * 10 * Nat.pow 2 e
  | .negSucc e => roundHalfEven (v.significand * 10) (Nat.pow 2 (e + 1))

/-- The text of a double with one decimal. A sign stays even if all digits are zero. -/
def showTenths (x : Float) : String :=
  let v := BinaryValue.ofBits x.toBits.toNat
  let sign := if v.negative then "-" else ""
  s!"{sign}{v.tenths / 10}.{v.tenths % 10}"

/-- The sixteen hexadecimal digits of the bits of a double. -/
def showBits (x : Float) : String :=
  let digits := Nat.toDigits 16 x.toBits.toNat
  String.ofList (List.replicate (16 - digits.length) '0' ++ digits)

end SourceReducer
