import LargerThanLife.Pattern.Form
import LargerThanLife.Pattern.Mode
import LargerThanLife.Text.Hexadecimal

/-! The single symbols of a pattern. A backslash gives a letter another sense and takes the special
sense from a punctuation mark. Codes of characters have two, four or eight hexadecimal digits. Named
properties of characters are not to be had, nor are the classes of digits, blanks and word
characters of all scripts, nor letters of either case in all scripts. -/

namespace LargerThanLife.Pattern

open Text

inductive Symbol where
  /-- a character; `coded` when it is given by a code of two digits -/
  | character (c : Char) (coded : Bool)
  /-- a digit, blank or word character, or any that is none -/
  | family (negated : Bool)
  /-- any character -/
  | any
  /-- the beginning or end of a line or of the text -/
  | edge
  /-- the border of a word, or a place that is none -/
  | border
  deriving DecidableEq, Repr

/-- The number that the next `count` hexadecimal digits add to `n`. -/
def readCode (mode : Mode) : (count : Nat) → (n : Nat) → List Char → Option (Nat × List Char)
  | 0, n, s => some (n, s)
  | count + 1, n, s =>
    match mode.skip s with
    | [] => none
    | c :: rest => (hexValue c).bind fun digit => readCode mode count (16 * n + digit) rest

/-- The character whose code has `count` hexadecimal digits. -/
def readCoded (mode : Mode) (count : Nat) (s : List Char) : Option (Symbol × List Char) :=
  (readCode mode count 0 s).bind fun (n, rest) =>
    if n.isValidChar then some (.character (Char.ofNat n) (count = 2), rest) else none

/-- The characters that a letter after a backslash stands for. -/
def controls : List (Char × Char) :=
  [('a', '\x07'), ('f', '\x0c'), ('t', '\t'), ('n', '\n'), ('r', '\r'), ('v', '\x0b')]

def readEscaped (mode : Mode) : List Char → Option (Symbol × List Char)
  | [] => none
  | c :: rest =>
    if c = 'x' then readCoded mode 2 rest
    else if c = 'u' then readCoded mode 4 rest
    else if c = 'U' then readCoded mode 8 rest
    else if c ∈ ['d', 's', 'w'] then some (.family false, rest)
    else if c ∈ ['D', 'S', 'W'] then some (.family true, rest)
    else if c ∈ ['A', 'z'] then some (.edge, rest)
    else if c ∈ ['b', 'B', '<', '>'] then some (.border, rest)
    else match controls.lookup c with
      | some control => some (.character control false, rest)
      | none =>
        if c.toNat < 128 && !c.isAlphanum then some (.character c false, rest) else none

/-- The symbol at the front of a text, where `.`, `^` and `$` have their special sense. -/
def readSymbol (mode : Mode) : List Char → Option (Symbol × List Char)
  | [] => none
  | c :: rest =>
    if c = '\\' then readEscaped mode rest
    else if c = '.' then some (.any, rest)
    else if c = '^' || c = '$' then some (.edge, rest)
    else some (.character c false, rest)

/-- May a symbol stand in a pattern? Where bytes are matched it must not match a part of a
character. -/
def Mode.admits (mode : Mode) : Symbol → Bool
  | .character c coded => if mode.allScripts then !mode.anyCase else !coded || c.toNat < 128
  | .family negated => !mode.allScripts && !negated
  | .any => mode.allScripts
  | .edge => true
  | .border => true

def Symbol.form (mode : Mode) : Symbol → Form
  | .border => if mode.allScripts then .border else .atom
  | _ => .atom

end LargerThanLife.Pattern
