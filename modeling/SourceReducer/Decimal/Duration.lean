/-! Durations. A duration is shown in the largest of the units second, millisecond, microsecond and
nanosecond that fits into it, with all digits of the fraction and no zeros at their end. -/
namespace SourceReducer

/-- The digits of a fraction, `width` of them, without the zeros at the end. -/
def fractionDigits (width fraction : Nat) : List Char :=
  let digits := Nat.toDigits 10 fraction
  let padded := List.replicate (width - digits.length) '0' ++ digits
  (padded.reverse.dropWhile (· == '0')).reverse

/-- The text of `amount / 10 ^ width`. -/
def showScaled (amount width : Nat) : String :=
  let whole := toString (amount / Nat.pow 10 width)
  match fractionDigits width (amount % Nat.pow 10 width) with
  | [] => whole
  | digits => whole ++ "." ++ String.ofList digits

/-- The text of a duration in nanoseconds. -/
def showDuration (nanos : Nat) : String :=
  if Nat.pow 10 9 ≤ nanos then showScaled nanos 9 ++ "s"
  else if Nat.pow 10 6 ≤ nanos then showScaled nanos 6 ++ "ms"
  else if Nat.pow 10 3 ≤ nanos then showScaled nanos 3 ++ "µs"
  else toString nanos ++ "ns"

end SourceReducer
