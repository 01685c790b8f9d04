import LargerThanLife.Configuration
import LargerThanLife.Number.Shortest
import LargerThanLife.Rulestring
import LargerThanLife.Text.SingleQuoted

/-! The values of a script. Besides plain data there are shapes and rulesets, which are data too,
and boards, which change: a value names a board by its number. Two values are the same when they say
the same; numbers and truth values are compared as numbers, and a board is only the same as
itself. -/

namespace LargerThanLife.Script

open Number Text

inductive Value where
  | nothing
  | boolean (b : Bool)
  | integer (n : Int)
  | real (x : Binary64)
  | text (s : String)
  | list (items : List Value)
  | tuple (items : List Value)
  /-- entries in the order in which their keys were first given -/
  | dict (entries : List (Value × Value))
  | shape (s : Shape)
  | ruleset (c : Configuration)
  | board (number : Nat)
  deriving Inhabited

namespace Value

/-- The quotient of integers that a number or truth value stands for, with a positive
denominator. -/
def ratio? : Value → Option (Int × Nat)
  | boolean b => some (b.toNat, 1)
  | integer n => some (n, 1)
  | real x =>
    let n : Int := x.magnitude.num
    some (if x.negative then -n else n, x.magnitude.den)
  | _ => none

mutual

/-- Do two values say the same? -/
def same : Value → Value → Bool
  | nothing, nothing => true
  | text s, text t => s = t
  | list as, list bs => sameItems as bs
  | tuple as, tuple bs => sameItems as bs
  | dict as, dict bs => as.length = bs.length && sameEntries as bs
  | shape s, shape t => s = t
  | ruleset c, ruleset d => c = d
  | board m, board n => m = n
  | a, b =>
    match a.ratio?, b.ratio? with
    | some (m, p), some (n, q) => m * q = n * p
    | _, _ => false

/-- Do two lists hold the same values in the same order? -/
def sameItems : List Value → List Value → Bool
  | [], [] => true
  | a :: as, b :: bs => same a b && sameItems as bs
  | _, _ => false

/-- Is every entry among the others? -/
def sameEntries : List (Value × Value) → List (Value × Value) → Bool
  | [], _ => true
  | (k, v) :: rest, others =>
    others.any (fun (l, w) => same k l && same v w) && sameEntries rest others

end

def lookup (key : Value) : List (Value × Value) → Option Value
  | [] => none
  | (k, v) :: rest => if same k key then some v else lookup key rest

/-- The entries with one more; a key that is there already keeps its place and its form. -/
def insert (key value : Value) : List (Value × Value) → List (Value × Value)
  | [] => [(key, value)]
  | (k, v) :: rest => if same k key then (k, value) :: rest else (k, v) :: insert key value rest

mutual

/-- Can a value be a key? Lists and dictionaries cannot, nor can rulesets, nor what holds them. -/
def isKey : Value → Bool
  | list _ => false
  | dict _ => false
  | ruleset _ => false
  | tuple items => areKeys items
  | _ => true

def areKeys : List Value → Bool
  | [] => true
  | item :: rest => isKey item && areKeys rest

end

/-- The entries of a dictionary that is written down. -/
def ofEntries (entries : List (Value × Value)) : List (Value × Value) :=
  entries.foldl (fun known (k, v) => insert k v known) []

/-! ### Values as text -/

/-- Powers of ten from -4 to 15 are written without an exponent, and an exponent has at least two
digits. -/
def realLayout : Layout := ⟨-4, 15, 2⟩

def showShape (s : Shape) : String := "Neighbourhood(" ++ quoted s.code ++ ")"

def showRuleset (c : Configuration) : String := "Configuration(" ++ c.rulestring ++ ")"

def commaList (parts : List String) : String := ", ".intercalate parts

mutual

/-- How a value is shown; `showBoard` shows boards. -/
def shown (showBoard : Nat → String) : Value → String
  | nothing => "None"
  | boolean b => if b then "True" else "False"
  | integer n => Numeral.intText n
  | real x => String.ofList (realLayout.write x)
  | text s => singleQuoted s
  | list items => "[" ++ commaList (shownItems showBoard items) ++ "]"
  | tuple items =>
    match shownItems showBoard items with
    | [item] => "(" ++ item ++ ",)"
    | items => "(" ++ commaList items ++ ")"
  | dict entries => "\x7b" ++ commaList (shownEntries showBoard entries) ++ "\x7d"
  | shape s => showShape s
  | ruleset c => showRuleset c
  | board number => showBoard number

def shownItems (showBoard : Nat → String) : List Value → List String
  | [] => []
  | item :: rest => shown showBoard item :: shownItems showBoard rest

def shownEntries (showBoard : Nat → String) : List (Value × Value) → List String
  | [] => []
  | (k, v) :: rest =>
    (shown showBoard k ++ ": " ++ shown showBoard v) :: shownEntries showBoard rest

end

/-- A value as a text: texts, shapes and rulesets have a form of their own, and all others are as
they are shown. -/
def asText (showBoard : Nat → String) : Value → String
  | text s => s
  | shape s => s.code
  | ruleset c => c.rulestring
  | v => shown showBoard v

end Value

end LargerThanLife.Script
