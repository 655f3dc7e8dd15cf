import SourceReducer.Command.Basic
import SourceReducer.Command.Options
import SourceReducer.Command.Tool.Format

/-! Waiting for some time. -/
namespace SourceReducer.Sleep

/-- Milliseconds of a number of seconds, which may have a fraction, a power of ten and a unit. -/
def milliseconds? (text : String) : Option Nat :=
  let scale? := fun (rest : List Char) => match rest with
    | [] | ['s'] => some 1
    | ['m'] => some 60
    | ['h'] => some 3600
    | ['d'] => some 86400
    | _ => none
  match Format.readFloat? text.toList with
  | none => none
  | some (x, rest) =>
      if x < 0.0 || !(x == x) then none
      else (scale? rest).map fun scale => (min (x * 1000.0) 1.0e15).toUInt64.toNat * scale

def run (call : Call) : CallResult :=
  let hint := s!"Try '{call.name} --help' for more information."
  match GivenOptions.read { letters := [], names := [] } call.args {} with
  | .error fault => .fail 1 s!"{call.name}: {fault.message}\n{hint}"
  | .ok g =>
      if g.operands.isEmpty then .fail 1 s!"{call.name}: missing operand\n{hint}"
      else
        match g.operands.filter fun text => (milliseconds? text).isNone with
        | [] => { elapsed := (g.operands.filterMap milliseconds?).foldr (· + ·) 0 }
        | wrong =>
            let lines := wrong.map fun text => s!"{call.name}: invalid time interval '{text}'\n"
            .fail 1 (String.join lines ++ hint)

end SourceReducer.Sleep
