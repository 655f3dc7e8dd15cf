import SourceReducer.Tree.Basic

/-! Cutting nodes out of a text. The spans of the chosen nodes are sorted and joined where they
touch or overlap, and one walk over the text leaves out what the joined spans cover. -/
namespace SourceReducer

/-- Whether a span can be cut out of a text: both its ends are character boundaries of it. -/
def Span.fits (s : Span) (cs : List Char) : Bool :=
  isBoundary cs s.start && isBoundary cs s.stop

/-- The same, looked up in the marks of the text. -/
def Span.fitsMarks (s : Span) (marks : Array Bool) : Bool :=
  marks[s.start]?.getD false && marks[s.stop]?.getD false

@[simp] theorem Span.fitsMarks_boundaryMarks (s : Span) (cs : List Char) :
    s.fitsMarks (boundaryMarks cs).toArray = s.fits cs := by
  simp [Span.fitsMarks, Span.fits, getD_boundaryMarks]

/-- Spans in order of their start; of two with the same start the longer comes first. -/
def Span.before (a b : Span) : Bool :=
  a.start < b.start || (a.start == b.start && b.stop ≤ a.stop)

/-- The smallest span around two. -/
def Span.join (a b : Span) : Span :=
  ⟨min a.start b.start, max a.stop b.stop, by
    have := a.start_le_stop
    omega⟩

/-- Joins spans, sorted by their start, that touch or overlap `current` or one another. -/
def joinSpans (current : Span) : List Span → List Span
  | [] => [current]
  | s :: rest =>
      if s.start ≤ current.stop then joinSpans (current.join s) rest
      else current :: joinSpans s rest

/-- The spans of a list in increasing order, apart from one another. -/
def separateSpans (spans : List Span) : List Span :=
  match spans.mergeSort Span.before with
  | [] => []
  | s :: rest => joinSpans s rest

/-- Leaves out the characters of a text that lie in one of the spans. The text starts at `offset`
and the spans are separate and in increasing order. -/
def dropSpans (offset : Nat) : List Char → List Span → List Char
  | [], _ => []
  | c :: cs, spans =>
      match spans.dropWhile fun s => s.stop ≤ offset with
      | [] => c :: cs
      | s :: rest =>
          if offset < s.start then c :: dropSpans (offset + c.utf8Size) cs (s :: rest)
          else dropSpans (offset + c.utf8Size) cs (s :: rest)

/-- The spans of the chosen nodes that can be cut out of a text. Positions outside the tree have
none. -/
def usableSpans (cs : List Char) (t : Tree) (chosen : List Nat) : List Span :=
  let marks := (boundaryMarks cs).toArray
  (chosen.filterMap fun i => (t.node? i).map Node.span).filter fun s => s.fitsMarks marks

/-- The text without what the chosen nodes cover. -/
def exciseSpans (text : String) (t : Tree) (chosen : List Nat) : String :=
  String.ofList (dropSpans 0 text.toList (separateSpans (usableSpans text.toList t chosen)))

end SourceReducer
