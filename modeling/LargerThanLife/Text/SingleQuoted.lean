import LargerThanLife.Text.Hexadecimal
import LargerThanLife.Text.Recent
import LargerThanLife.Text.Unprintable

/-! Texts as a script shows them. The text stands between single quotes, or between double quotes
when it holds a single quote and no double one; characters that had no glyph in version 14.0 of the
Unicode standard are written by their code point with two, four or eight hexadecimal digits. -/

namespace LargerThanLife.Text

namespace SingleQuoted

/-- A code point in hexadecimal, with zeros in front up to `width` digits. -/
def padded (width n : Nat) : List Char :=
  let digits := hex n
  List.replicate (width - digits.length) '0' ++ digits

/-- How one character is written between the quotes `mark`. -/
def escape (mark c : Char) : List Char :=
  if c = mark || c = '\\' then ['\\', c]
  else if c = '\t' then ['\\', 't']
  else if c = '\n' then ['\\', 'n']
  else if c = '\r' then ['\\', 'r']
  else if isUnprintable c || isRecent c then
    if c.toNat < 0x100 then '\\' :: 'x' :: padded 2 c.toNat
    else if c.toNat < 0x10000 then '\\' :: 'u' :: padded 4 c.toNat
    else '\\' :: 'U' :: padded 8 c.toNat
  else [c]

/-- The quotes that a text is put between. -/
def mark (s : List Char) : Char := if '\'' ∈ s ∧ '"' ∉ s then '"' else '\''

def encode (s : List Char) : List Char :=
  let mark := mark s
  mark :: s.flatMap (escape mark) ++ [mark]

end SingleQuoted

/-- The text between single quotes, as a script shows it. -/
def singleQuoted (s : String) : String := String.ofList (SingleQuoted.encode s.toList)

end LargerThanLife.Text
