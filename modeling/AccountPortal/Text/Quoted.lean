import AccountPortal.Text.Hex
import AccountPortal.Text.Invisible

/-!
A text in double quotes in which every character can be seen: quote, backslash
and the common controls have an escape of two characters, and any other
invisible character is written as its code point in hexadecimal.
-/

namespace AccountPortal.Text

/-- The visible form of one character inside quotes. -/
def quotedChar (c : Char) : List Char :=
  if c = '\x00' then ['\\', '0']
  else if c = '\t' then ['\\', 't']
  else if c = '\r' then ['\\', 'r']
  else if c = '\n' then ['\\', 'n']
  else if c = '"' then ['\\', '"']
  else if c = '\\' then ['\\', '\\']
  else if Invisible.isInvisible c then
    ['\\', 'u', '\x7b'] ++ hexDigits c.toNat ++ ['\x7d']
  else [c]

def quoted (s : String) : String :=
  String.ofList ('"' :: s.toList.flatMap quotedChar ++ ['"'])

end AccountPortal.Text
