/-! Lines of a text. A line ends at a line feed, which takes a carriage return right before it
along; a last line without a line feed keeps its carriage return, and no empty line follows the last
feed. -/
namespace SourceReducer

/-- Takes the line collected so far, last character first, and puts it in reading order. -/
def closeLine (taken : List Char) : List Char :=
  match taken with
  | '\r' :: rest => rest.reverse
  | _ => taken.reverse

/-- Splits a text whose current line already holds `taken`, last character first. -/
def linesFrom (taken : List Char) : List Char → List (List Char)
  | [] => if taken.isEmpty then [] else [taken.reverse]
  | c :: rest =>
      if c = '\n' then closeLine taken :: linesFrom [] rest
      else linesFrom (c :: taken) rest

def lines (cs : List Char) : List (List Char) :=
  linesFrom [] cs

@[simp] theorem lines_nil : lines [] = [] := rfl

end SourceReducer
