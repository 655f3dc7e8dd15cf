import SourceReducer.Text.Hex
import SourceReducer.Text.Printable

/-! Quoted text. A text is shown between double quotes, with a backslash before what would be
misread and with the code point of what has no form of its own. -/
namespace SourceReducer

/-- A character between double quotes. Single quotes stay as they are. -/
def quoteChar (c : Char) : List Char :=
  if c = '\x00' then ['\\', '0']
  else if c = '\t' then ['\\', 't']
  else if c = '\r' then ['\\', 'r']
  else if c = '\n' then ['\\', 'n']
  else if c = '"' then ['\\', '"']
  else if c = '\\' then ['\\', '\\']
  else if isPlain c then [c]
  else ['\\', 'u', '\x7b'] ++ hexDigits c.toNat ++ ['\x7d']

def quote (text : String) : String :=
  String.ofList ('"' :: text.toList.flatMap quoteChar ++ ['"'])

end SourceReducer
