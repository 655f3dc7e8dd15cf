import SourceReducer.Statement.Token
import SourceReducer.Tree.Builder

/-! Programs of the statement language. A program is a list of items; an item is a block of items or
a statement of words. Items know where they stand in their text, give their tokens back, have a
canonical layout, and number their nodes in the order in which they start. -/
namespace SourceReducer.Statement

inductive Item
  /-- `start` is the offset of the opening brace and `close` that of the closing one. -/
  | block (start close : Nat) (body : List Item)
  /-- `close` is the offset of the semicolon. -/
  | statement (words : List Word) (close : Nat)

/-- The offset of the first word; a statement that was read has one. -/
def firstOffset (words : List Word) (close : Nat) : Nat :=
  match words with
  | [] => close
  | w :: _ => w.start

mutual

def Item.tokens : Item → List Token
  | .block start close body => .opening start :: itemsTokens body ++ [.closing close]
  | .statement words close => words.map .word ++ [.semicolon close]

def itemsTokens : List Item → List Token
  | [] => []
  | item :: rest => item.tokens ++ itemsTokens rest

end

mutual

/-- Adds the nodes of an item below the innermost open node. -/
def Item.addTo (b : Builder) : Item → Builder
  | .block start close body => (addItems (b.start "block" start) body).finish (close + 1)
  | .statement words close =>
      (words.foldl (fun b w => b.leaf "word" w.start w.stop)
        (b.start "statement" (firstOffset words close))).finish (close + 1)

def addItems (b : Builder) : List Item → Builder
  | [] => b
  | item :: rest => addItems (item.addTo b) rest

end

/-- Words with one space between them. -/
def joinWords : List Word → List Char
  | [] => []
  | [w] => w.text
  | w :: rest => w.text ++ ' ' :: joinWords rest

/-- A line of a layout: how many blocks it stands in and what it reads. -/
structure Row where
  depth : Nat
  text : List Char

/-- A row is two columns further in for every block around it. -/
def Row.layout (row : Row) : List Char :=
  List.replicate (2 * row.depth) ' ' ++ row.text ++ ['\n']

mutual

/-- The canonical layout of an item: a statement on a line, a block with its braces on lines of
their own around its items. -/
def Item.rows (depth : Nat) : Item → List Row
  | .block _ _ body => ⟨depth, ['{']⟩ :: itemsRows (depth + 1) body ++ [⟨depth, ['}']⟩]
  | .statement words _ => [⟨depth, joinWords words ++ [';']⟩]

def itemsRows (depth : Nat) : List Item → List Row
  | [] => []
  | item :: rest => item.rows depth ++ itemsRows depth rest

end

/-- The canonical layout of a program. -/
def itemsLayout (items : List Item) : List Char :=
  (itemsRows 0 items).flatMap Row.layout

end SourceReducer.Statement
