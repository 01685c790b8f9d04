/-! The form of a pattern: how its parts are nested, and whether it asks for the borders of words.
Which texts it matches plays no part here. -/

namespace LargerThanLife.Pattern

/-- The form of a pattern or of a part of one. -/
inductive Form where
  /-- matches nothing, one character, or a place in the text -/
  | atom
  /-- changes how the pattern is read after it -/
  | setting
  /-- the border of a word, by the letters of all scripts, or a place that is none -/
  | border
  /-- a group, a repetition, a set of characters, or several parts in a row or to choose from -/
  | nest (parts : List Form)

namespace Form

/-- Parts taken together. One part stands for itself. -/
def join : List Form → Form
  | [] => atom
  | [part] => part
  | parts => nest parts

mutual

def depth : Form → Nat
  | nest parts => depthOfParts parts + 1
  | _ => 0

def depthOfParts : List Form → Nat
  | [] => 0
  | part :: rest => max part.depth (depthOfParts rest)

end

mutual

/-- Does a form ask for the border of a word anywhere? -/
def hasBorder : Form → Bool
  | border => true
  | nest parts => anyHasBorder parts
  | _ => false

def anyHasBorder : List Form → Bool
  | [] => false
  | part :: rest => part.hasBorder || anyHasBorder rest

end

end Form

end LargerThanLife.Pattern
