import LargerThanLife.Number.Decimal
import LargerThanLife.Pattern.Reader
import LargerThanLife.Text.Alphanumeric
import LargerThanLife.Text.Blank
import LargerThanLife.Text.Bytes
import LargerThanLife.Text.Numeral
import LargerThanLife.Text.Pieces

/-! Log filters. A filter is a list of directives with commas between them, and empty places are
skipped. A directive is a level, or a target whose messages are all wanted, or a target with the
level that is wanted of it after an equals sign. A target begins with a letter or digit of any
script, a hyphen, a colon or an underscore. A span in brackets may stand after the target or instead
of it: a name, or a name and a field in braces, which may ask for a value. The form of a directive
is that of the text without the blanks around it, but its parts are taken from the same places of
the text with them, so blanks before a directive shift its parts. What is logged is no concern here,
only which filters are well formed. -/

namespace LargerThanLife.Log

open Number Text

/-- How much is logged, from nothing to everything. -/
inductive Level where
  | off
  | error
  | warn
  | info
  | debug
  | trace
  deriving DecidableEq, Repr

/-- All levels; the place of a level is also its number. -/
def Level.all : List Level := [.off, .error, .warn, .info, .debug, .trace]

def Level.name : Level → String
  | off => "off"
  | error => "error"
  | warn => "warn"
  | info => "info"
  | debug => "debug"
  | trace => "trace"

/-- The level that a text names, in letters of either case or by its number. -/
def Level.read (s : List Char) : Option Level :=
  match Numeral.read s with
  | some n => all[n]?
  | none => all.find? fun level => level.name.toList = s.map Char.toLower

/-- Why a filter is not well formed. -/
inductive Fault where
  | badDirective
  /-- what stands after the equals sign is no level -/
  | badLevel
  | badField (fault : Pattern.Fault)
  /-- a part of a directive would begin or end inside a character -/
  | badPlace
  deriving DecidableEq, Repr

def Fault.message : Fault → String
  | badDirective => "invalid filter directive"
  | badLevel =>
    "error parsing level filter: expected one of " ++
      ", ".intercalate (Level.all.map fun level => "\"" ++ level.name ++ "\"") ++
      ", or a number 0-5"
  | badField fault => "invalid field filter: " ++ fault.message
  | badPlace => "a part of a directive is not on the border of a character"

/-! ### Parts of a directive -/

/-- The part of a directive of the size of `part` after its first `start` bytes. -/
def cut (s : List Char) (start : Nat) (part : List Char) : Except Fault (List Char) :=
  match slice start (byteSize part) s with
  | some part => .ok part
  | none => .error .badPlace

/-- A field of a span and the value that is wanted of it. -/
structure Field where
  name : String
  value : Option String
  deriving DecidableEq, Repr

/-- Is a value a number? Infinity and no number at all, in letters of either case, count as
numbers. -/
def isNumber (s : List Char) : Bool :=
  (Decimal.read s).isSome ||
    ["inf", "infinity", "nan"].any fun name =>
      name.toList = (Decimal.readSign s).2.map Char.toLower

/-- The field that a text stands for. A value that is no number must be a pattern; what stands after
a second equals sign is of no account. -/
def Field.read (s : List Char) : Except Fault Field :=
  match pieces '=' s with
  | name :: value :: _ =>
    let field : Field := ⟨String.ofList name, some (String.ofList value)⟩
    if isNumber value then .ok field
    else match Pattern.read value with
      | .ok _ => .ok field
      | .error fault => .error (.badField fault)
  | _ => .ok ⟨String.ofList s, none⟩

/-- Where a message comes from. -/
structure Span where
  name : String
  field : Option Field
  deriving DecidableEq, Repr

/-- The span whose text, without the opening bracket, is at the front of `rest`, after the first
`start` bytes of a directive; and the text after it. -/
def Span.read (s : List Char) (start : Nat) (rest : List Char) :
    Except Fault (Span × List Char) := do
  let (name, rest) := rest.span fun c => c ≠ ']' && c ≠ '{'
  match rest with
  | ']' :: rest => return (⟨String.ofList (← cut s start name), none⟩, rest)
  | '{' :: rest =>
    let spanName ← cut s start name
    let (field, rest) := rest.span (· ≠ '}')
    if field = [] || rest = [] then throw .badDirective
    let spanField ← Field.read (← cut s (start + byteSize name + 1) field)
    match rest with
    | '}' :: ']' :: rest => return (⟨String.ofList spanName, some spanField⟩, rest)
    | _ => throw .badDirective
  | _ => throw .badDirective

/-! ### Directives -/

/-- One demand of a filter; no target means all targets, and no span all places. -/
structure Directive where
  target : Option String
  span : Option Span
  level : Level
  deriving DecidableEq, Repr

/-- May a target begin with this character? -/
def beginsTarget (c : Char) : Bool := isAlphanumeric c || c = '-' || c = ':' || c = '_'

/-- The level of a directive that stands after the equals sign before `level`, up to the end of the
directive; no text stands for everything. -/
def Level.demanded (s trimmed level : List Char) : Except Fault Level :=
  match dropBytes (byteSize trimmed - byteSize level) s with
  | none => .error .badPlace
  | some [] => .ok .trace
  | some text =>
    match Level.read text with
    | some level => .ok level
    | none => .error .badLevel

def Directive.read (s : List Char) : Except Fault Directive := do
  let trimmed := trim s
  if !trimmed.head?.any fun c => c = '[' || beginsTarget c then throw .badDirective
  let (head, rest) := trimmed.span fun c => c ≠ '[' && c ≠ '='
  match rest with
  | [] =>
    match Level.read s with
    | some level => return ⟨none, none, level⟩
    | none => return ⟨some (String.ofList s), none, .trace⟩
  | c :: rest =>
    let target := String.ofList (← cut s 0 head)
    if c = '=' then return ⟨some target, none, ← Level.demanded s trimmed rest⟩
    let target := if head = [] then none else some target
    match ← Span.read s (byteSize head + 1) rest with
    | (span, []) => return ⟨target, some span, .trace⟩
    | (span, '=' :: level) => return ⟨target, some span, ← Level.demanded s trimmed level⟩
    | _ => throw .badDirective

/-- The directives of a filter; the first fault in order wins. -/
def readFilter (s : String) : Except Fault (List Directive) :=
  ((pieces ',' s.toList).filter (· ≠ [])).mapM Directive.read

def defaultFilter : String := "info"

end LargerThanLife.Log
