import SourceReducer.Files.Operation
import SourceReducer.Text.ByteText

/-! Commands: what a program that is run leaves behind. -/
namespace SourceReducer

/-- What a finished command leaves. -/
structure Finished where
  /-- The exit code. There is none if a signal ended the command. -/
  code : Option Nat := some 0
  out : List UInt8 := []
  err : List UInt8 := []
  /-- The milliseconds it took. -/
  elapsed : Nat := 0
  /-- The milliseconds until the last process that can print was gone. -/
  closed : Nat := elapsed

/-- Runs a program with arguments in a directory of a store. -/
abbrev Runner := Files → String → List String → Except FileFault (Finished × Files)

/-- A channel on which programs print. -/
inductive Channel
  | out
  | err
  deriving DecidableEq

/-- How a small program is called. Its texts have one character per byte. -/
structure Call where
  /-- The name by which it is called. -/
  name : String
  args : List String
  input : List Char
  /-- Whether the input is a file, in which a place can be gone back to. -/
  isSeekable : Bool := false
  files : Files

/-- What a small program leaves: its exit code and what it printed, in order. -/
structure CallResult where
  code : Nat := 0
  said : List (Channel × String) := []
  /-- What is left of the input, if it was looked at. -/
  left : Option (List Char) := none
  /-- The milliseconds it took. -/
  elapsed : Nat := 0

namespace CallResult

def say (text : String) : CallResult :=
  { said := [(.out, text)] }

def fail (code : Nat) (message : String) : CallResult :=
  { code, said := [(.err, message ++ "\n")] }

def ofBool (b : Bool) : CallResult :=
  { code := if b then 0 else 1 }

end CallResult

/-- What stands in a file, one character per byte. -/
def Files.readChars (files : Files) (path : String) : Except FileFault (List Char) :=
  if path = "/dev/null" then .ok []
  else (files.read (ByteText.toText path)).map fun content =>
    (ByteText.ofBytes content.bytes).toList

/-- The text of a fault without its number. -/
def FileFault.reason (fault : FileFault) : String :=
  (fault.message.splitOn " (").headD ""

end SourceReducer
