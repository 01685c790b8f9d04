import LargerThanLife.Text.Blank

/-! How a pattern is read at a place in it. Flags, each a letter, switch parts of the mode on or
off; only three of them bear on whether a pattern is well formed. -/

namespace LargerThanLife.Pattern

open Text

/-- A way of reading. -/
structure Mode where
  /-- letters of either case match each other -/
  anyCase : Bool
  /-- characters are matched, and not bytes -/
  allScripts : Bool
  /-- blanks and remarks between the parts are left out -/
  spaced : Bool
  deriving DecidableEq, Repr

namespace Mode

def initial : Mode := ⟨false, true, false⟩

def letters : List Char := ['i', 'm', 's', 'U', 'u', 'R', 'x']

/-- Is a text a list of flags? No letter is given twice, and flags follow the hyphen if there is
one. -/
def isFlags (s : List Char) : Bool :=
  s.all (fun c => c = '-' || c ∈ letters) && s.Nodup && s.getLast? ≠ some '-'

/-- The mode after a list of flags; those after a hyphen are switched off. -/
def change (mode : Mode) (flags : List Char) : Mode :=
  let (on, off) := flags.span (· ≠ '-')
  let switch (letter : Char) (now : Bool) : Bool := letter ∈ on || (now && letter ∉ off)
  ⟨switch 'i' mode.anyCase, switch 'u' mode.allScripts, switch 'x' mode.spaced⟩

/-- The text from its first character outside blanks and remarks. A remark begins with a number sign
and takes up the rest of its line; `inside` says whether the text begins inside one. -/
def dropRemarks (inside : Bool) : List Char → List Char
  | [] => []
  | c :: rest =>
    if inside then dropRemarks (c ≠ '\n') rest
    else if isBlank c then dropRemarks false rest
    else if c = '#' then dropRemarks true rest
    else c :: rest

/-- The text from where the next part stands. -/
def skip (mode : Mode) (s : List Char) : List Char :=
  if mode.spaced then dropRemarks false s else s

/-- The character that is looked at ahead. Blanks and one number sign are passed over, but a remark
is not. -/
def ahead (mode : Mode) (s : List Char) : Option Char :=
  if mode.spaced then
    match s.dropWhile isBlank with
    | '#' :: rest => (rest.dropWhile isBlank).head?
    | rest => rest.head?
  else s.head?

end Mode

end LargerThanLife.Pattern
