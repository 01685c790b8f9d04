import LargerThanLife.Text.Hexadecimal
import LargerThanLife.Text.Unprintable

/-! Texts shown inside a message. A quoted text stands between double quotes; a quote or a
backslash in it gets a backslash, four control characters have a letter of their own, and every
other character that has no glyph of its own is written by its code point in hexadecimal. -/

namespace LargerThanLife.Text

namespace Quoted

/-- How one character is written between double quotes. -/
def escape (c : Char) : List Char :=
  if c = '\x00' then ['\\', '0']
  else if c = '\t' then ['\\', 't']
  else if c = '\r' then ['\\', 'r']
  else if c = '\n' then ['\\', 'n']
  else if c = '\\' then ['\\', '\\']
  else if c = '"' then ['\\', '"']
  else if isUnprintable c || isFiller c || isCombining c then
    ['\\', 'u', '\x7b'] ++ hex c.toNat ++ ['\x7d']
  else [c]

def encode (s : List Char) : List Char := '"' :: s.flatMap escape ++ ['"']

end Quoted

/-- The text between double quotes, as it appears in a message. -/
def quoted (s : String) : String := String.ofList (Quoted.encode s.toList)

end LargerThanLife.Text
