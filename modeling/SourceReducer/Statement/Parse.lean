import SourceReducer.Statement.Item

/-! Reading programs. One walk over the tokens keeps the blocks that are open, the items read so far
in the innermost of them, and the words of a statement that has no semicolon yet. -/
namespace SourceReducer.Statement

/-- A block that is open: where it starts, and the items that stand before it in the block around
it, last first. -/
structure OpenBlock where
  start : Nat
  before : List Item

def fail {α : Type} (fault : SyntaxFault) (offset : Nat) : Except ParseError α :=
  .error { fault, offset := some offset }

/-- Reads tokens. `outer` are the open blocks, innermost first, `done` the items of the innermost,
last first, and `words` the words of the current statement, last first. -/
def readItems (outer : List OpenBlock) (done : List Item) (words : List Word) :
    List Token → Except ParseError (List Item)
  | [] =>
      match words.getLast?, outer with
      | some first, _ => fail .unterminatedStatement first.start
      | none, block :: _ => fail .unclosedBlock block.start
      | none, [] => .ok done.reverse
  | .word w :: rest => readItems outer done (w :: words) rest
  | .semicolon offset :: rest =>
      if words.isEmpty then fail .emptyStatement offset
      else readItems outer (.statement words.reverse offset :: done) [] rest
  | .opening offset :: rest =>
      if words.isEmpty then readItems (⟨offset, done⟩ :: outer) [] [] rest
      else fail .missingSemicolon offset
  | .closing offset :: rest =>
      if words.isEmpty then
        match outer with
        | [] => fail .unbalancedClose offset
        | block :: around =>
            readItems around (.block block.start offset done.reverse :: block.before) [] rest
      else fail .missingSemicolon offset

/-- The items of a text. -/
def readProgram (text : String) : Except ParseError (List Item) :=
  readItems [] [] [] (tokens text.toList)

/-- The tree of a program that is `size` bytes long. -/
def programTree (size : Nat) (items : List Item) : Except ParseError Tree :=
  ((addItems (({} : Builder).start "program" 0) items).finish size).build

def parse (text : String) : Except ParseError Tree := do
  programTree (byteSize text.toList) (← readProgram text)

/-- The canonical layout of a program; a text that cannot be read stays as it is. -/
def reformat (text : String) : String :=
  match readProgram text with
  | .ok items => String.ofList (itemsLayout items)
  | .error _ => text

end SourceReducer.Statement
