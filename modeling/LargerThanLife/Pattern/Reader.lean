import LargerThanLife.Pattern.CharacterSet
import LargerThanLife.Text.Alphanumeric

/-! Reading patterns. A pattern is a choice between rows of parts; a part is a symbol, a set of
characters, a group in parentheses or a repetition of the part before it. Flags in parentheses hold
up to the end of the group that they stand in. What may be repeated how often is not read between
braces, since no pattern here can hold a closing one. -/

namespace LargerThanLife.Pattern

open Text

/-- What an opening parenthesis begins. -/
inductive Opening where
  /-- flags for the rest of the group, which close at once -/
  | flags (mode : Mode)
  /-- a group, with the names that have been given to groups up to it -/
  | group (mode : Mode) (names : List (List Char))

/-- Can a group have this name? -/
def isName : List Char → Bool
  | [] => false
  | c :: rest =>
    (c = '_' || isAlphabetic c) &&
      rest.all fun c => c = '_' || c = '.' || c = '[' || c = ']' || isAlphanumeric c

/-- A group with a name, which ends at a closing angle bracket. No two groups have one name. -/
def readNamed (mode : Mode) (names : List (List Char)) (s : List Char) :
    Option (Opening × List Char) :=
  let (name, rest) := s.span (· ≠ '>')
  if rest ≠ [] && isName name && name ∉ names then
    some (.group mode (name :: names), rest.drop 1)
  else none

/-- Flags, which end at a closing parenthesis or begin a group at a colon. -/
def readFlags (mode : Mode) (names : List (List Char)) (s : List Char) :
    Option (Opening × List Char) :=
  let (flags, rest) := s.span fun c => c ≠ ':' && c ≠ ')'
  if Mode.isFlags flags then
    match rest with
    | ':' :: rest => some (.group (mode.change flags) names, rest)
    | ')' :: rest => if flags = [] then none else some (.flags (mode.change flags), rest)
    | _ => none
  else none

def readOpening (mode : Mode) (names : List (List Char)) (s : List Char) :
    Option (Opening × List Char) :=
  match mode.skip s with
  | '?' :: 'P' :: '<' :: rest => readNamed mode names rest
  | '?' :: '<' :: rest => readNamed mode names rest
  | '?' :: rest => readFlags mode names rest
  | rest => some (.group mode names, rest)

/-- The parts of a row after its last part is repeated; there must be one, and flags are none. The
parts are given from the last to the first. -/
def repeatLast : List Form → Option (List Form)
  | [] => none
  | .setting :: _ => none
  | part :: row => some (.nest [part] :: row)

/-- Reads a choice up to the end of its group or of the pattern, from a place where some rows and
some parts of the next row have been read, the last one first. Every step takes up a character, and
one of `fuel`. -/
def readChoice : (fuel : Nat) → Mode → (names : List (List Char)) → (rows row : List Form) →
    List Char → Option (Form × List (List Char) × List Char)
  | 0, _, _, _, _, _ => none
  | fuel + 1, mode, names, rows, row, s =>
    match mode.skip s with
    | [] => some (.join (.join row :: rows), names, [])
    | c :: rest =>
      if c = ')' then some (.join (.join row :: rows), names, c :: rest)
      else if c = '|' then readChoice fuel mode names (.join row :: rows) [] rest
      else if c = '(' then
        match readOpening mode names rest with
        | none => none
        | some (.flags mode, rest) => readChoice fuel mode names rows (.setting :: row) rest
        | some (.group inner names, rest) =>
          match readChoice fuel inner names [] [] rest with
          | some (part, names, ')' :: rest) =>
            readChoice fuel mode names rows (.nest [part] :: row) rest
          | _ => none
      else if c = '[' then
        match (openSet mode rest).bind (readSet mode fuel true none []) with
        | some (part, rest) => readChoice fuel mode names rows (.nest [part] :: row) rest
        | none => none
      else if c = '?' || c = '*' || c = '+' then
        match repeatLast row with
        | some row =>
          readChoice fuel mode names rows row (if rest.head? = some '?' then rest.drop 1 else rest)
        | none => none
      else if c = '\x7b' then none
      else
        match readSymbol mode (c :: rest) with
        | some (symbol, rest) =>
          if mode.admits symbol then readChoice fuel mode names rows (symbol.form mode :: row) rest
          else none
        | none => none

/-- How deeply the parts of a pattern may be nested. -/
def maxDepth : Nat := 250

inductive Fault where
  | malformed
  /-- it asks for the border of a word by the letters of all scripts -/
  | border
  deriving DecidableEq, Repr

def Fault.message : Fault → String
  | malformed => "error building NFA"
  | border =>
    "unsupported regex feature for DFAs: cannot build DFAs for regexes with Unicode word " ++
      "boundaries; switch to ASCII word boundaries, or heuristically enable Unicode word " ++
      "boundaries or use a different regex engine"

def read (s : List Char) : Except Fault Form :=
  match readChoice (s.length + 1) .initial [] [] [] s with
  | some (form, _, []) =>
    if maxDepth < form.depth then .error .malformed
    else if form.hasBorder then .error .border
    else .ok form
  | _ => .error .malformed

end LargerThanLife.Pattern
