import SourceReducer.Text.Blank
import SourceReducer.Text.Line

/-! Layout that does not depend on a language: normalized white space, and text without blank
lines. Both work line by line and end every line they keep with a line feed. -/
namespace SourceReducer

/-- Lays out lines without their trailing blanks. `started` says that a line was written before and
`pending` that a blank line stands between it and the next one. -/
def layOut (started pending : Bool) : List (List Char) → List Char
  | [] => []
  | line :: rest =>
      if (trimEnd line).isEmpty then layOut started started rest
      else
        (if pending then ['\n'] else []) ++ trimEnd line ++ '\n' :: layOut true false rest

/-- Trims line ends, makes one blank line of several, drops blank lines at both ends of the text and
ends a text that is not empty with a line feed. -/
def normalizeWhitespace (text : String) : String :=
  String.ofList (layOut false false (lines text.toList))

/-- Drops the lines that hold nothing but blanks. -/
def stripBlankLines (text : String) : String :=
  String.ofList
    (((lines text.toList).filter fun line => !isBlankText line).flatMap fun line => line ++ ['\n'])

end SourceReducer
