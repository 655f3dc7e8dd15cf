import SourceReducer.Command.Grep.Search
import SourceReducer.Command.Tool.Concatenate
import SourceReducer.Command.Tool.WordTest
import SourceReducer.Command.Tool.Format
import SourceReducer.Command.Tool.Listing
import SourceReducer.Command.Tool.Sleep

/-! The small programs that are there, apart from the shell. -/
namespace SourceReducer.Tool

def printFormat (call : Call) : CallResult :=
  match if call.args.head? = some "--" then call.args.drop 1 else call.args with
  | [] =>
      .fail 1 s!"{call.name}: missing operand\nTry '{call.name} --help' for more information."
  | format :: args =>
      let p := Format.print format args
      { code := p.code
        said := p.complaints.map (fun text => (.err, s!"{call.name}: {text}\n")) ++
          [(.out, p.text)] }

/-- Whether a word holds options of printing words. -/
def isEchoOption (word : String) : Bool :=
  match word.toList with
  | '-' :: c :: cs => (c :: cs).all fun c => c == 'n' || c == 'e' || c == 'E'
  | _ => false

/-- Prints words with blanks between them. Escapes are read only if that is asked for. -/
def echo (call : Call) : CallResult :=
  let options := call.args.takeWhile isEchoOption
  let words := call.args.drop options.length
  let letters := options.flatMap String.toList
  let text := " ".intercalate words
  let reads := (letters.filter fun c => c == 'e' || c == 'E').getLast? = some 'e'
  let (chars, ends) :=
    if reads then Format.unescape text.length text.toList else (text.toList, false)
  .say (String.ofList chars ++ (if ends || letters.contains 'n' then "" else "\n"))

def condition (call : Call) (found : Except WordTest.Fault Bool) : CallResult :=
  match found with
  | .ok b => .ofBool b
  | .error fault => .fail 2 s!"{call.name}: {fault.message}"

/-- The program with a name. -/
def find? : String → Option (Call → CallResult)
  | "true" => some fun _ => {}
  | "false" => some fun _ => .ofBool false
  | "cat" => some Concatenate.run
  | "ls" => some Listing.run
  | "sleep" => some Sleep.run
  | "grep" => some Grep.run
  | "egrep" => some fun call => Grep.run { call with name := "grep", args := "-E" :: call.args }
  | "fgrep" => some fun call => Grep.run { call with name := "grep", args := "-F" :: call.args }
  | "echo" => some echo
  | "printf" => some printFormat
  | "test" => some fun call => condition call (WordTest.holds call.files call.args)
  | "[" => some fun call => condition call (WordTest.holdsInBrackets call.files call.args)
  | _ => none

/-- The directories in which programs stand. -/
def directories : List String :=
  ["/usr/bin", "/bin"]

end SourceReducer.Tool
