import SourceReducer.Pattern.Reader
import SourceReducer.Text.Casing

/-! What the written form of a pattern stands for. -/
namespace SourceReducer

def Shorthand.set (flags : Flags) : Shorthand → CharSet
  | .digit => if flags.unicode then decimalDigitSet else Pattern.asciiSet "digit"
  | .space => if flags.unicode then listedProperty "whitespace" else Pattern.asciiSet "space"
  | .word => if flags.unicode then wordSet else Pattern.asciiSet "word"

def SetOperation.apply : SetOperation → CharSet → CharSet → CharSet
  | .both, a, b => a.inter b
  | .without, a, b => a.without b
  | .either, a, b => a.either b

namespace Pattern

/-- A set of characters with all that differ only in case, if the flags say so. -/
def withCases (flags : Flags) (set : CharSet) : CharSet :=
  if !flags.anyCase then set
  else if flags.unicode then set.anyCase
  else set.anyAsciiCase

/-- A set or its complement. Without Unicode a set has to be one of ASCII characters. -/
def negatedIf (flags : Flags) (negated : Bool) (set : CharSet) : Except Fault CharSet :=
  let set := if negated then set.complement else set
  if flags.unicode || set.isAscii then .ok set else .error .noText

def propertySet (flags : Flags) (name : PropertyName) (negated : Bool) : Except Fault CharSet :=
  let found := match name with
    | .alone name => namedSet? name
    | .valued property value => valuedSet? property value
  match found with
  | some set =>
      if flags.unicode then negatedIf flags negated (withCases flags set) else .error .property
  | none => .error .property

/-- A character of a class. Without Unicode it has to be one of ASCII. -/
def classSign (flags : Flags) (s : Sign) : Except Fault Char :=
  if flags.unicode || s.char.toNat < 128 then .ok s.char else .error .noText

def classSet (flags : Flags) : ClassForm → Except Fault CharSet
  | .nothing => .ok .empty
  | .sign s => (classSign flags s).map CharSet.single
  | .range low high => do return .range (← classSign flags low) (← classSign flags high)
  | .named set negated => negatedIf flags negated (withCases flags set)
  | .shorthand kind negated => negatedIf flags negated (kind.set flags)
  | .property name negated => propertySet flags name negated
  | .bracket negated inner => do negatedIf flags negated (withCases flags (← classSet flags inner))
  | .union a b => do return (← classSet flags a).union (← classSet flags b)
  | .operation kind a b => do
      return kind.apply (withCases flags (← classSet flags a))
        (withCases flags (← classSet flags b))

/-- The character that a dot matches. -/
def dotSet (flags : Flags) : Except Fault CharSet :=
  if !flags.unicode then .error .noText
  else if flags.dotAll then .ok .any
  else if flags.crlf then .ok (CharSet.ofChars ['\r', '\n']).complement
  else .ok (CharSet.single '\n').complement

/-- The alternatives that a form stands for, and the flags that hold after it. -/
def alternatives (flags : Flags) : Form → Except Fault (List Pattern × Flags)
  | .empty => .ok ([.empty], flags)
  | .flags change => .ok ([.empty], change.apply flags)
  | .sign s =>
      if s.isByte && !flags.unicode && 128 ≤ s.char.toNat then .error .noText
      else .ok ([.one (withCases flags (.single s.char))], flags)
  | .dot => do return ([.one (← dotSet flags)], flags)
  | .lineStart =>
      .ok ([.place (if flags.multiLine then .lineStart flags.crlf else .textStart)], flags)
  | .lineEnd => .ok ([.place (if flags.multiLine then .lineEnd flags.crlf else .textEnd)], flags)
  | .textStart => .ok ([.place .textStart], flags)
  | .textEnd => .ok ([.place .textEnd], flags)
  | .edge kind => .ok ([.place (.edge (Shorthand.word.set flags) kind)], flags)
  | .shorthand kind negated => do
      return ([.one (← negatedIf flags negated (kind.set flags))], flags)
  | .property name negated => do return ([.one (← propertySet flags name negated)], flags)
  | .bracket negated inner => do
      return ([.one (← negatedIf flags negated (withCases flags (← classSet flags inner)))], flags)
  | .repeated low high a => do
      let (ps, after) ← alternatives flags a
      return ([(oneOf ps).repeated low high], after)
  | .group keeps change a => do
      let (ps, _) ← alternatives (change.apply flags) a
      return ([if keeps then .group (oneOf ps) else oneOf ps], flags)
  | .both a b => do
      let (ps, flags) ← alternatives flags a
      let (qs, flags) ← alternatives flags b
      return ([(oneOf ps).andThen (oneOf qs)], flags)
  | .either a b => do
      let (ps, flags) ← alternatives flags a
      let (qs, flags) ← alternatives flags b
      return (ps ++ qs, flags)

/-- The pattern that a form stands for. -/
def ofForm (form : Form) : Except Fault Pattern :=
  (alternatives {} form).map fun (ps, _) => oneOf ps

end Pattern

end SourceReducer
