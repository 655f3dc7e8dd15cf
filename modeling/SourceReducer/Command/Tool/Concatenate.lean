import SourceReducer.Command.Basic
import SourceReducer.Command.Options

/-! Printing files one after the other, with marks on their lines if that is asked for. -/
namespace SourceReducer.Concatenate

structure Marking where
  numbersAll : Bool := false
  numbersFilled : Bool := false
  squeezes : Bool := false
  showsEnds : Bool := false
  showsTabs : Bool := false
  showsHidden : Bool := false

def table : OptionTable where
  letters := ['A', 'b', 'e', 'E', 'n', 's', 't', 'T', 'u', 'v'].map fun c => (c, .none)
  names := [("number-nonblank", .none, 'b'), ("number", .none, 'n'), ("squeeze-blank", .none, 's'),
    ("show-nonprinting", .none, 'v'), ("show-ends", .none, 'E'), ("show-tabs", .none, 'T'),
    ("show-all", .none, 'A')]

def Marking.ofOptions (g : GivenOptions) : Marking where
  numbersAll := g.has 'n' && !g.has 'b'
  numbersFilled := g.has 'b'
  squeezes := g.has 's'
  showsEnds := g.has 'E' || g.has 'e' || g.has 'A'
  showsTabs := g.has 'T' || g.has 't' || g.has 'A'
  showsHidden := g.has 'v' || g.has 'e' || g.has 't' || g.has 'A'

/-- Where in its lines a text is. -/
structure Progress where
  line : Nat := 0
  atStart : Bool := true
  /-- How many empty lines came last. -/
  empties : Nat := 0

/-- A character that cannot be seen, by others that can. -/
def showHidden (n : Nat) : List Char :=
  if n < 32 then ['^', Char.ofNat (n + 64)]
  else if n < 127 then [Char.ofNat n]
  else ['^', '?']

def Marking.show (m : Marking) (c : Char) : List Char :=
  if c == '\t' then if m.showsTabs then ['^', 'I'] else [c]
  else if !m.showsHidden then [c]
  else if c.toNat < 128 then showHidden c.toNat
  else 'M' :: '-' :: showHidden (c.toNat - 128)

/-- The number of a line, and a tab. -/
def showNumber (n : Nat) : List Char :=
  let digits := Nat.toDigits 10 n
  List.replicate (6 - digits.length) ' ' ++ digits ++ ['\t']

def Marking.mark (m : Marking) : List Char → Progress → List Char → List Char × Progress
  | [], p, soFar => (soFar.reverse, p)
  | c :: rest, p, soFar =>
      let isEmpty := p.atStart && c == '\n'
      if isEmpty && m.squeezes && 1 ≤ p.empties then m.mark rest p soFar
      else
        let numbered := p.atStart && (m.numbersAll || (m.numbersFilled && c != '\n'))
        let line := if numbered then p.line + 1 else p.line
        let head := if numbered then showNumber line else []
        let shown := if c == '\n' then if m.showsEnds then ['$', '\n'] else ['\n'] else m.show c
        m.mark rest
          { line, atStart := c == '\n', empties := if isEmpty then p.empties + 1 else 0 }
          ((head ++ shown).reverse ++ soFar)

/-- Prints files in turn. The input can be read once. -/
def printAll (m : Marking) (call : Call) :
    List String → Option (List Char) → Progress → CallResult → CallResult
  | [], left, _, o => { o with left }
  | name :: rest, left, p, o =>
      let found := if name == "-" then .ok (left.getD call.input) else call.files.readChars name
      let left := if name == "-" then some [] else left
      match found with
      | .ok chars =>
          let (shown, p) := m.mark chars p []
          printAll m call rest left p { o with said := o.said ++ [(.out, String.ofList shown)] }
      | .error fault =>
          let message := s!"{call.name}: {name}: {fault.reason}\n"
          printAll m call rest left p { o with code := 1, said := o.said ++ [(.err, message)] }

def run (call : Call) : CallResult :=
  match GivenOptions.read table call.args {} with
  | .error fault =>
      .fail 1 s!"{call.name}: {fault.message}\nTry '{call.name} --help' for more information."
  | .ok g =>
      let names := if g.operands.isEmpty then ["-"] else g.operands
      printAll (.ofOptions g) call names none {} {}

end SourceReducer.Concatenate
