import LargerThanLife.Pattern.Symbol

/-! Sets of characters in brackets. A set holds characters, ranges of them, named classes between
colons and sets in brackets; two signs `&&`, `--` or `~~` combine what stands before them with what
stands after them, and either may be nothing. A hyphen stands for itself at the ends of a set, and a
closing bracket at its beginning. -/

namespace LargerThanLife.Pattern

def classNames : List String :=
  ["alnum", "alpha", "ascii", "blank", "cntrl", "digit", "graph", "lower", "print", "punct",
    "space", "upper", "word", "xdigit"]

/-- A named class, after its opening bracket: whether its other characters are meant, and what
follows it. -/
def readClass? : List Char → Option (Bool × List Char)
  | ':' :: s =>
    let (negated, s) := match s with
      | '^' :: rest => (true, rest)
      | _ => (false, s)
    let (name, rest) := s.span (· ≠ ':')
    match rest with
    | ':' :: ']' :: rest =>
      if String.ofList name ∈ classNames then some (negated, rest) else none
    | _ => none
  | _ => none

namespace Mode

def admitsMember (mode : Mode) (c : Char) : Bool :=
  if mode.allScripts then !mode.anyCase else c.toNat < 128

def admitsClass (mode : Mode) (negated : Bool) : Bool :=
  if mode.allScripts then !mode.anyCase else !negated

/-- May a symbol stand in a set for itself? -/
def admitsAlone (mode : Mode) : Symbol → Bool
  | .character c _ => mode.admitsMember c
  | .family negated => mode.admits (.family negated)
  | _ => false

/-- May two symbols be the ends of a range? -/
def admitsRange (mode : Mode) : Symbol → Symbol → Bool
  | .character first _, .character last _ =>
    first ≤ last && mode.admitsMember first && mode.admitsMember last
  | _, _ => false

end Mode

/-- The symbol at the front of a set, where only the backslash has a special sense. -/
def readMember (mode : Mode) : List Char → Option (Symbol × List Char)
  | [] => none
  | c :: rest => if c = '\\' then readEscaped mode rest else some (.character c false, rest)

/-- What follows a symbol or a range in a set. -/
def skipRange (mode : Mode) (s : List Char) : Option (List Char) := do
  let (first, rest) ← readMember mode s
  let rest := mode.skip rest
  match rest with
  | [] => none
  | c :: after =>
    let next := mode.ahead after
    if c ≠ '-' || next = some ']' || next = some '-' then
      if mode.admitsAlone first then some rest else none
    else
      let (last, rest) ← readMember mode (mode.skip after)
      if mode.admitsRange first last then some rest else none

/-- The text after the opening bracket of a set and the sign that means all other characters. Where
bytes are matched that sign would bring in parts of characters. -/
def openSet (mode : Mode) (s : List Char) : Option (List Char) :=
  match mode.skip s with
  | '^' :: rest => if mode.allScripts then some rest else none
  | rest => some rest

/-- Is a sign in a set the first of two that combine? -/
def combines (c : Char) (rest : List Char) : Bool :=
  c ∈ ['&', '-', '~'] && rest.head? = some c

/-- The form of a set of members, of which those before the last two signs that combine are
`left`. -/
def combine (left : Option Form) (members : List Form) : Form :=
  match left with
  | none => .join members
  | some left => .nest [left, .join members]

/-- Reads a set up to its closing bracket, from a place where some members have been read; `opening`
holds at its beginning, where a hyphen or a closing bracket stands for itself. Every step takes up a
character, and one of `fuel`. -/
def readSet (mode : Mode) : (fuel : Nat) → (opening : Bool) → (left : Option Form) →
    (members : List Form) → List Char → Option (Form × List Char)
  | 0, _, _, _, _ => none
  | fuel + 1, opening, left, members, s =>
    match mode.skip s with
    | [] => none
    | c :: rest =>
      if opening && (c = '-' || (c = ']' && members.isEmpty)) then
        if mode.admitsMember c then readSet mode fuel (c = '-') left (.atom :: members) rest
        else none
      else if c = ']' then some (combine left members, rest)
      else if c = '[' then
        match readClass? rest with
        | some (negated, rest) =>
          if mode.admitsClass negated then readSet mode fuel false left (.atom :: members) rest
          else none
        | none =>
          match (openSet mode rest).bind (readSet mode fuel true none []) with
          | some (inner, rest) => readSet mode fuel false left (.nest [inner] :: members) rest
          | none => none
      else if combines c rest then
        readSet mode fuel false (some (combine left members)) [] (rest.drop 1)
      else
        match skipRange mode (c :: rest) with
        | some rest => readSet mode fuel false left (.atom :: members) rest
        | none => none

end LargerThanLife.Pattern
