/-! White space, as the Unicode property `White_Space` defines it. Zero-width characters, the byte
order mark and the separators U+001C to U+001F do not have the property. -/
namespace SourceReducer

/-- The code points with the property, as closed ranges in increasing order. -/
def blankRanges : List (Nat × Nat) :=
  [(0x09, 0x0D), (0x20, 0x20), (0x85, 0x85), (0xA0, 0xA0), (0x1680, 0x1680), (0x2000, 0x200A),
    (0x2028, 0x2029), (0x202F, 0x202F), (0x205F, 0x205F), (0x3000, 0x3000)]

def isBlank (c : Char) : Bool :=
  blankRanges.any fun r => r.1 ≤ c.toNat && c.toNat ≤ r.2

/-- Whether every character of a text is blank; the empty text is. -/
def isBlankText (cs : List Char) : Bool :=
  cs.all isBlank

/-- A text without the blank characters at its end. -/
def trimEnd (cs : List Char) : List Char :=
  (cs.reverse.dropWhile isBlank).reverse

end SourceReducer
