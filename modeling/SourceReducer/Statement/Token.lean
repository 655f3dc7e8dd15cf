import SourceReducer.Text.Blank
import SourceReducer.Text.Offset

/-! Tokens of the statement language: the three delimiters, and words, which are the longest runs of
characters that are neither blank nor a delimiter. Every token knows its byte offset. -/
namespace SourceReducer.Statement

structure Word where
  start : Nat
  text : List Char
  deriving DecidableEq

def Word.stop (w : Word) : Nat :=
  w.start + byteSize w.text

inductive Token
  | opening (offset : Nat)
  | closing (offset : Nat)
  | semicolon (offset : Nat)
  | word (w : Word)
  deriving DecidableEq

namespace Token

/-- What a token reads as. -/
def text : Token → List Char
  | .opening _ => ['{']
  | .closing _ => ['}']
  | .semicolon _ => [';']
  | .word w => w.text

def offset : Token → Nat
  | .opening offset | .closing offset | .semicolon offset => offset
  | .word w => w.start

end Token

/-- The token that a delimiter makes. -/
def delimiter? (c : Char) (offset : Nat) : Option Token :=
  if c = '{' then some (.opening offset)
  else if c = '}' then some (.closing offset)
  else if c = ';' then some (.semicolon offset)
  else none

/-- Whether a character ends the word before it. -/
def isBreak (c : Char) : Bool :=
  (delimiter? c 0).isSome || isBlank c

/-- The word that ends at `offset` and holds `taken`, last character first; none if that is
empty. -/
def closeWord (offset : Nat) (taken : List Char) : List Token :=
  if taken.isEmpty then []
  else [.word { start := offset - byteSize taken, text := taken.reverse }]

/-- The tokens of a text that starts at `offset`, where the word before it already holds `taken`. -/
def tokensFrom (offset : Nat) (taken : List Char) : List Char → List Token
  | [] => closeWord offset taken
  | c :: rest =>
      if isBreak c then
        closeWord offset taken ++ (delimiter? c offset).toList ++
          tokensFrom (offset + c.utf8Size) [] rest
      else tokensFrom (offset + c.utf8Size) (c :: taken) rest

def tokens (cs : List Char) : List Token :=
  tokensFrom 0 [] cs

end SourceReducer.Statement
