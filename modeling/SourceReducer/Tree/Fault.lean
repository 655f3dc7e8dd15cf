/-! Why a text has no tree. -/
namespace SourceReducer

inductive SyntaxFault
  | unclosedBlock
  | unbalancedClose
  | emptyStatement
  | missingSemicolon
  | unterminatedStatement
  /-- No node was ever started. -/
  | noRoot
  /-- Some nodes were started and not finished. -/
  | leftOpen (count : Nat)
  /-- A fault of a language other than the built-in one. -/
  | other (message : String)
  deriving DecidableEq

def SyntaxFault.message : SyntaxFault → String
  | .unclosedBlock => "unclosed block"
  | .unbalancedClose => "unbalanced '\x7d'"
  | .emptyStatement => "empty statement"
  | .missingSemicolon => "expected ';'"
  | .unterminatedStatement => "unterminated statement"
  | .noRoot => "tree has no root node"
  | .leftOpen count => s!"{count} node(s) left open"
  | .other message => message

/-- A fault and, where it is known, the byte offset at which it shows. -/
structure ParseError where
  fault : SyntaxFault
  offset : Option Nat := none
  deriving DecidableEq

def ParseError.message (e : ParseError) : String :=
  match e.offset with
  | some offset => s!"parse error at byte {offset}: {e.fault.message}"
  | none => s!"parse error: {e.fault.message}"

end SourceReducer
