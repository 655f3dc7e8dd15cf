import SourceReducer.Text.Lossy

/-! Texts in which every character stands for one byte. Programs that know nothing of encodings read
and write such texts: to them a letter outside of ASCII is two or more characters. -/
namespace SourceReducer.ByteText

def ofBytes (bytes : List UInt8) : String :=
  String.ofList (bytes.map fun b => Char.ofNat b.toNat)

def toBytes (s : String) : List UInt8 :=
  s.toList.map fun c => c.toNat.toUInt8

/-- The bytes of a text, one character each. -/
def ofText (s : String) : String :=
  ofBytes (encode s)

/-- The text that the bytes stand for. -/
def toText (s : String) : String :=
  decodeLossy (toBytes s)

end SourceReducer.ByteText
