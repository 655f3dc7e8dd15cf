import SourceReducer.Command.Shell.Expansion

/-! Redirections: where the channels of a command lead. -/
namespace SourceReducer

/-- What a channel is to be connected to. -/
inductive Opening
  | file (channel : Nat) (mode : OpenMode) (path : String)
  /-- Where another channel goes, or nowhere. -/
  | duplicate (channel : Nat) (target : Option Nat)
  | text (channel : Nat) (text : String)

def Opening.channel : Opening → Nat
  | .file channel .. | .duplicate channel _ | .text channel _ => channel

namespace Redirect

/-- What is said about a file that cannot be opened. -/
def reason (creating : Bool) (fault : FileFault) : String :=
  match fault with
  | .notFound | .notDirectory => if creating then "Directory nonexistent" else "No such file"
  | fault => fault.reason

/-- The channel that a path stands for. -/
def channelOf? (path : String) : Option Nat :=
  match path with
  | "/dev/stdin" => some 0
  | "/dev/stdout" => some 1
  | "/dev/stderr" => some 2
  | _ =>
      match "/dev/fd/".toList.isPrefixOf path.toList, path.toList.drop 8 with
      | true, [d] => if d.isDigit then some (d.toNat - 48) else none
      | _, _ => none

/-- The number of the file at the end of a path. -/
def fileAt (files : Files) (path : String) : Except FileFault Nat := do
  match ← files.find path with
  | .file _ id => return id
  | .directory _ => throw .isDirectory
  | .link .. | .missing .. => throw .notFound

/-- Makes a file ready to be used in a mode. -/
def prepare (files : Files) (path : String) (mode : OpenMode) (keeps : Bool) :
    Except FileFault (Files × Nat) := do
  match mode with
  | .read => return (files, ← fileAt files path)
  | .write | .overwrite =>
      if keeps && mode = .write && files.pathExists path then throw .alreadyExists
      let files ← files.write path (.text "")
      return (files, ← fileAt files path)
  | .append | .readWrite =>
      match fileAt files path with
      | .ok id => return (files, id)
      | .error .notFound =>
          let files ← files.write path (.text "")
          return (files, ← fileAt files path)
      | .error fault => throw fault

/-- Connects a channel to a new stream. -/
def connectNew (channel : Nat) (stream : Stream) : Act Unit :=
  modify fun s =>
    let (id, s) := s.addStream stream
    s.connect channel (some id)

/-- Makes a channel go where another one goes. -/
def duplicate (channel target : Nat) : Act Unit := do
  match (← get).channels.lookup target with
  | some id => modify fun s => s.connect channel (some id)
  | none => Act.fail s!"{target}: Bad file descriptor"

def openFile (channel : Nat) (mode : OpenMode) (path : String) : Act Unit := do
  let s ← get
  if path = "/dev/null" then connectNew channel .nothing
  else
    match channelOf? path with
    | some target => duplicate channel target
    | none =>
        match prepare s.files (ByteText.toText path) mode (s.hasOption 'C') with
        | .ok (files, id) =>
            set { s with files }
            connectNew channel (.file id 0 mode)
        | .error fault =>
            if mode = .read then Act.fail s!"cannot open {path}: {reason false fault}"
            else Act.fail s!"cannot create {path}: {reason true fault}"

/-- What a redirection comes to after everything in its word is put in place. -/
def resolve (capture : Capture) : Redirection → Act Opening
  | .file channel mode path => do return .file channel mode (← Expansion.single capture path)
  | .duplicate channel target => do
      match (← Expansion.single capture target).toList with
      | ['-'] => return .duplicate channel none
      | [d] =>
          if d.isDigit then return .duplicate channel (some (d.toNat - 48))
          else Act.fail "Syntax error: Bad fd number"
      | _ => Act.fail "Syntax error: Bad fd number"
  | .here channel text => do
      return .text channel
        (Segment.text (← Expansion.expandPieces capture { splitsValues := false } text))
  | .hereLater channel _ => return .text channel ""

def connect : Opening → Act Unit
  | .file channel mode path => openFile channel mode path
  | .duplicate channel (some target) => duplicate channel target
  | .duplicate channel none => modify fun s => s.connect channel none
  | .text channel text => connectNew channel (.source text.toList 0)

/-- Connects channels as they were. -/
def restore (before : List (Nat × Nat)) (channels : List Nat) (s : Shell) : Shell :=
  channels.foldl (fun s channel => s.connect channel (before.lookup channel)) s

end Redirect

namespace Act

/-- Does something with redirections that hold only for it. Whether they could be made is the
result. -/
def redirecting (capture : Capture) (redirections : List Redirection) (act : Act Unit) :
    Act Bool := do
  let openings ← redirections.mapM (Redirect.resolve capture)
  let before := (← get).channels
  let restore := modify (Redirect.restore before (openings.map Opening.channel))
  match ← attempt (openings.forM Redirect.connect) with
  | some .failed =>
      restore
      return false
  | some stop =>
      restore
      throw stop
  | none =>
      let stopped ← attempt act
      restore
      resume stopped
      return true

end Act

end SourceReducer
