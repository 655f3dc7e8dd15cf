/-! Parts of texts: where they occur, and what takes their place. -/
namespace SourceReducer

/-- Whether a list of characters starts with a part, and what comes after it. -/
def dropStart? : List Char → List Char → Option (List Char)
  | [], text => some text
  | _ :: _, [] => none
  | p :: part, c :: text => if p = c then dropStart? part text else none

/-- Occurrences of a part from left to right. After one of them `skip` characters belong to it. -/
def occurrences (part : List Char) : Nat → List Char → Nat
  | _, [] => if part.isEmpty then 1 else 0
  | skip + 1, _ :: text => occurrences part skip text
  | 0, c :: text =>
      if (dropStart? part (c :: text)).isSome then 1 + occurrences part (part.length - 1) text
      else occurrences part 0 text

def hasPart (part text : String) : Bool :=
  0 < occurrences part.toList 0 text.toList

/-- A text in which a part is replaced where it occurs, from left to right. After one occurrence
`skip` characters belong to it. A part without characters is not replaced. -/
def replaceFrom (part new : List Char) : Nat → List Char → List Char
  | _, [] => []
  | skip + 1, _ :: text => replaceFrom part new skip text
  | 0, c :: text =>
      if !part.isEmpty && (dropStart? part (c :: text)).isSome then
        new ++ replaceFrom part new (part.length - 1) text
      else c :: replaceFrom part new 0 text

def replacePart (part new text : String) : String :=
  String.ofList (replaceFrom part.toList new.toList 0 text.toList)

end SourceReducer
