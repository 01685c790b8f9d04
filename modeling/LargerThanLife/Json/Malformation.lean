/-! Texts that are no JSON. A scanner takes a token from the front of a text, and the first place where
the text cannot go on as JSON says what is wrong with it. -/

namespace LargerThanLife.Json

/-- What can be wanting at a place in a text. -/
inductive Token where
  | value
  /-- the rest of `null`, `true` or `false` -/
  | literal
  | key
  | colon
  /-- a comma, or the end of an array -/
  | listEnd
  /-- a comma, or the end of an object -/
  | objectEnd
  deriving DecidableEq, Repr

/-- Why a text is no JSON text. -/
inductive Malformation where
  | endOfText
  /-- something else stands where the token is wanting -/
  | expected (token : Token)
  /-- a comma right before the end of an array or an object -/
  | trailingComma
  /-- more text after a value, or more elements than an array has here -/
  | trailingCharacters
  | badNumber
  /-- a number beyond all floating-point numbers -/
  | numberTooGreat
  | badEscape
  /-- half of a surrogate pair without the other half -/
  | loneSurrogate
  | controlCharacter
  deriving DecidableEq, Repr

/-- Takes a token from the front of a text and gives what follows it. -/
abbrev Scanner (α : Type) := List Char → Except Malformation (α × List Char)

end LargerThanLife.Json
