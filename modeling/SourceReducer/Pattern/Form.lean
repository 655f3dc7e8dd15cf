import SourceReducer.Pattern.Basic

/-! The written form of patterns. -/
namespace SourceReducer

/-- How a part of a pattern is to be understood. -/
structure Flags where
  anyCase : Bool := false
  multiLine : Bool := false
  /-- A dot matches the end of a line. -/
  dotAll : Bool := false
  crlf : Bool := false
  /-- Characters are those of Unicode, and not only those of ASCII. -/
  unicode : Bool := true

/-- Flags that are set or cleared; others stay as they are. -/
structure FlagChange where
  anyCase : Option Bool := none
  multiLine : Option Bool := none
  dotAll : Option Bool := none
  crlf : Option Bool := none
  unicode : Option Bool := none
  /-- Blanks and comments do not count. -/
  verbose : Option Bool := none

def FlagChange.apply (change : FlagChange) (flags : Flags) : Flags where
  anyCase := change.anyCase.getD flags.anyCase
  multiLine := change.multiLine.getD flags.multiLine
  dotAll := change.dotAll.getD flags.dotAll
  crlf := change.crlf.getD flags.crlf
  unicode := change.unicode.getD flags.unicode

/-- The sets that a letter after a backslash stands for. -/
inductive Shorthand
  | digit
  | space
  | word

/-- How a set of characters is called by name. -/
inductive PropertyName
  | alone (name : String)
  | valued (property value : String)

/-- A character as it is written. One that is written as two hexadecimal digits is a byte. -/
structure Sign where
  char : Char
  isByte : Bool := false

/-- What joins the parts of a class. -/
inductive SetOperation
  | both
  | without
  | either

/-- What stands between brackets. -/
inductive ClassForm
  | nothing
  | sign (sign : Sign)
  | range (low high : Sign)
  /-- A set of ASCII characters with a name between colons. -/
  | named (set : CharSet) (negated : Bool)
  | shorthand (kind : Shorthand) (negated : Bool)
  | property (name : PropertyName) (negated : Bool)
  | bracket (negated : Bool) (inner : ClassForm)
  | union (a b : ClassForm)
  | operation (kind : SetOperation) (a b : ClassForm)

inductive Form
  | empty
  /-- Flags from here to the end of the group. -/
  | flags (change : FlagChange)
  | sign (sign : Sign)
  | dot
  | lineStart
  | lineEnd
  | textStart
  | textEnd
  | edge (kind : Edge)
  | shorthand (kind : Shorthand) (negated : Bool)
  | property (name : PropertyName) (negated : Bool)
  | bracket (negated : Bool) (inner : ClassForm)
  | repeated (low : Nat) (high : Option Nat) (a : Form)
  | group (keeps : Bool) (change : FlagChange) (a : Form)
  | both (a b : Form)
  | either (a b : Form)

/-- How deep a class is nested. A row of parts is one level, whatever their number. -/
def ClassForm.depth (inUnion : Bool) : ClassForm → Nat
  | .bracket _ inner => 1 + inner.depth false
  | .union a b => (if inUnion then 0 else 1) + max (a.depth true) (b.depth true)
  | .operation _ a b => 1 + max (a.depth false) (b.depth false)
  | _ => 0

/-- The row of parts or of alternatives that a form is in. -/
inductive Row
  | none
  | parts
  | alternatives
deriving BEq

/-- How deep a form is nested. A row of parts or of alternatives is one level, whatever their
number. -/
def Form.depth (row : Row) : Form → Nat
  | .bracket _ inner => 1 + inner.depth false
  | .repeated _ _ a => 1 + a.depth .none
  | .group _ _ a => 1 + a.depth .none
  | .both a b => (if row == .parts then 0 else 1) + max (a.depth .parts) (b.depth .parts)
  | .either a b =>
      (if row == .alternatives then 0 else 1) + max (a.depth .alternatives) (b.depth .alternatives)
  | _ => 0

/-- Why a text is no pattern. -/
inductive Pattern.Fault
  | unclosedGroup
  | unopenedGroup
  | groupName
  | flag
  /-- Nothing stands before a sign of repetition. -/
  | repetition
  | repetitionCount
  | unclosedClass
  | classRange
  | escape
  | property
  /-- A look at the text around a place, or a reference to an earlier group. -/
  | unsupported
  | tooDeep
  /-- The pattern would match bytes that are no text. -/
  | noText
  /-- The pattern would take more memory than this number of bytes. -/
  | tooLarge (limit : Nat)

/-- The first line of what is said about a fault. -/
def Pattern.Fault.message : Pattern.Fault → String
  | .tooLarge limit => s!"Compiled regex exceeds size limit of {limit} bytes."
  | _ => "regex parse error:"

end SourceReducer
