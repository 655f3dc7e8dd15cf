/-! Bytes read as text, with a replacement character for every part that is no UTF-8. -/
namespace SourceReducer

/-- A character of which some bytes are still to come, the next of them between two bounds. -/
structure PartialChar where
  value : Nat
  missing : Nat
  low : Nat := 0x80
  high : Nat := 0xBF

def replacementChar : Char := Char.ofNat 0xFFFD

/-- What a first byte comes to: a character, or the start of one. -/
def startChar (b : Nat) : List Char × Option PartialChar :=
  if b < 0x80 then ([Char.ofNat b], none)
  else if 0xC2 ≤ b && b ≤ 0xDF then ([], some { value := b % 32, missing := 1 })
  else if b = 0xE0 then ([], some { value := 0, missing := 2, low := 0xA0 })
  else if b = 0xED then ([], some { value := 13, missing := 2, high := 0x9F })
  else if 0xE1 ≤ b && b ≤ 0xEF then ([], some { value := b % 16, missing := 2 })
  else if b = 0xF0 then ([], some { value := 0, missing := 3, low := 0x90 })
  else if 0xF1 ≤ b && b ≤ 0xF3 then ([], some { value := b % 8, missing := 3 })
  else if b = 0xF4 then ([], some { value := 4, missing := 3, high := 0x8F })
  else ([replacementChar], none)

/-- What the next byte comes to after a part of a character. A part that does not go on is
replaced. -/
def nextChar (pending : Option PartialChar) (b : Nat) : List Char × Option PartialChar :=
  match pending with
  | none => startChar b
  | some p =>
      if p.low ≤ b && b ≤ p.high then
        let value := p.value * 64 + b % 64
        if p.missing ≤ 1 then ([Char.ofNat value], none)
        else ([], some { value, missing := p.missing - 1 })
      else
        let (chars, next) := startChar b
        (replacementChar :: chars, next)

def decodeFrom : Option PartialChar → List UInt8 → List Char
  | none, [] => []
  | some _, [] => [replacementChar]
  | pending, b :: rest =>
      let (chars, next) := nextChar pending b.toNat
      chars ++ decodeFrom next rest

def decodeLossy (bytes : List UInt8) : String :=
  String.ofList (decodeFrom none bytes)

def encode (s : String) : List UInt8 :=
  s.toUTF8.data.toList

end SourceReducer
