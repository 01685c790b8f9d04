import LargerThanLife.Json.Reader
import LargerThanLife.Proofs.Text.Spelling
import Mathlib.Data.Int.Notation

/-! JSON as a grammar, said without a reader. A value is a tree, and a relation tells in which ways it
can be spelled: with any blanks between tokens, any of the escapes of a character, and an exponent
with either letter and with or without a plus sign. What a reader makes of a value is another matter.
So a number may be too great for any reader, and a string may hold half of a surrogate pair without
the other half; it is well formed all the same and stands for no text. -/

namespace LargerThanLife.Json

open Text.Numeral (Digits)

/-- Any number of blanks, which may stand between two tokens. -/
def Blanks (s : List Char) : Prop := ∀ c ∈ s, isBlank c

/-! ### Numbers -/

/-- A minus sign, or nothing. -/
inductive SpellsSign : Bool → List Char → Prop
  | plus : SpellsSign false []
  | minus : SpellsSign true ['-']

/-- A point and digits, or nothing. -/
inductive SpellsFraction : Option (List Char) → List Char → Prop
  | absent : SpellsFraction none []
  | present {s : List Char} {n : ℕ} : Digits s n → SpellsFraction (some s) ('.' :: s)

/-- A letter and digits with a sign between them or without one, or nothing. -/
inductive SpellsExponent : Option ℤ → List Char → Prop
  | absent : SpellsExponent none []
  | bare {e : Char} {s : List Char} {n : ℕ} : e = 'e' ∨ e = 'E' → Digits s n →
    SpellsExponent (some n) (e :: s)
  | plus {e : Char} {s : List Char} {n : ℕ} : e = 'e' ∨ e = 'E' → Digits s n →
    SpellsExponent (some n) (e :: '+' :: s)
  | minus {e : Char} {s : List Char} {n : ℕ} : e = 'e' ∨ e = 'E' → Digits s n →
    SpellsExponent (some (-n)) (e :: '-' :: s)

/-- A number, with no superfluous zero in front. -/
inductive SpellsNumeral : Numeral → List Char → Prop
  | mk {negative : Bool} {whole : List Char} {n : ℕ} {fraction : Option (List Char)}
      {exponent : Option ℤ} {sign f e : List Char} :
    SpellsSign negative sign → Digits whole n → (∀ d r, whole ≠ '0' :: d :: r) →
      SpellsFraction fraction f → SpellsExponent exponent e →
      SpellsNumeral ⟨negative, whole, fraction, exponent⟩ (sign ++ (whole ++ (f ++ e)))

/-! ### Strings -/

/-- What stands at one place in a string. -/
inductive Piece where
  | char (c : Char)
  /-- half of a surrogate pair -/
  | half (n : ℕ)
  deriving DecidableEq, Repr

/-- The characters that pieces stand for, if each half of a pair stands beside its other half. -/
def join? : List Piece → Option (List Char)
  | [] => some []
  | .char c :: rest => (join? rest).map (c :: ·)
  | .half h :: .half l :: rest =>
    if isHighSurrogate h ∧ isLowSurrogate l then (join? rest).map (ofSurrogates h l :: ·) else none
  | .half _ :: _ => none

inductive Hex : List Char → ℕ → Prop
  | mk {a b c d : Char} {i j k l : ℕ} : Text.hexValue a = some i → Text.hexValue b = some j →
    Text.hexValue c = some k → Text.hexValue d = some l →
    Hex [a, b, c, d] (((i * 16 + j) * 16 + k) * 16 + l)

/-- A character as it is, after a backslash, or by its number, and half of a pair by its number. -/
inductive SpellsPiece : Piece → List Char → Prop
  | plain {c : Char} : c ≠ '"' → c ≠ '\\' → ¬c.toNat < 0x20 → SpellsPiece (.char c) [c]
  | short {e c : Char} : shortEscape e = some c → SpellsPiece (.char c) ['\\', e]
  | number {s : List Char} {n : ℕ} : Hex s n → isHighSurrogate n = false →
    isLowSurrogate n = false → SpellsPiece (.char (Char.ofNat n)) ('\\' :: 'u' :: s)
  | half {s : List Char} {n : ℕ} : Hex s n → isHighSurrogate n ∨ isLowSurrogate n →
    SpellsPiece (.half n) ('\\' :: 'u' :: s)

/-- A string from after its opening quote to its closing one. -/
inductive SpellsString : Option String → List Char → Prop
  | mk {pieces : List Piece} {spelled : List (List Char)} :
    List.Forall₂ SpellsPiece pieces spelled →
      SpellsString ((join? pieces).map String.ofList) (spelled.flatten ++ ['"'])

/-! ### Values -/

/-- A JSON value. The keys of an object stand in any order and may be repeated. -/
inductive Value where
  | null
  | boolean (b : Bool)
  | number (x : Numeral)
  /-- a string, and the text it stands for -/
  | text (s : Option String)
  | array (elements : List Value)
  | object (members : List (Option String × Value))

mutual

/-- The text spells the value, without blanks around it. -/
inductive Spells : Value → List Char → Prop
  | null : Spells .null "null".toList
  | yes : Spells (.boolean true) "true".toList
  | no : Spells (.boolean false) "false".toList
  | number {x : Numeral} {t : List Char} : SpellsNumeral x t → Spells (.number x) t
  | text {s : Option String} {t : List Char} : SpellsString s t → Spells (.text s) ('"' :: t)
  | array {vs : List Value} {t : List Char} : SpellsElements vs t → Spells (.array vs) ('[' :: t)
  | object {ms : List (Option String × Value)} {t : List Char} : SpellsMembers ms t →
    Spells (.object ms) ('{' :: t)

/-- The elements of an array from after its opening bracket to its closing one. -/
inductive SpellsElements : List Value → List Char → Prop
  | empty {b : List Char} : Blanks b → SpellsElements [] (b ++ [']'])
  | first {b t u : List Char} {v : Value} {vs : List Value} : Blanks b → Spells v t →
    SpellsFurther vs u → SpellsElements (v :: vs) (b ++ (t ++ u))

/-- The elements of an array from after one of them to its closing bracket. -/
inductive SpellsFurther : List Value → List Char → Prop
  | close {b : List Char} : Blanks b → SpellsFurther [] (b ++ [']'])
  | comma {b b' t u : List Char} {v : Value} {vs : List Value} : Blanks b → Blanks b' →
    Spells v t → SpellsFurther vs u → SpellsFurther (v :: vs) (b ++ ',' :: (b' ++ (t ++ u)))

/-- A member of an object from after the opening quote of its key. -/
inductive SpellsMember : Option String × Value → List Char → Prop
  | mk {key : Option String} {k b b' t : List Char} {v : Value} : SpellsString key k → Blanks b →
    Blanks b' → Spells v t → SpellsMember (key, v) (k ++ (b ++ ':' :: (b' ++ t)))

/-- The members of an object from after its opening brace to its closing one. -/
inductive SpellsMembers : List (Option String × Value) → List Char → Prop
  | empty {b : List Char} : Blanks b → SpellsMembers [] (b ++ ['}'])
  | first {b t u : List Char} {m : Option String × Value} {ms : List (Option String × Value)} :
    Blanks b → SpellsMember m t → SpellsLater ms u → SpellsMembers (m :: ms) (b ++ '"' :: (t ++ u))

/-- The members of an object from after one of them to its closing brace. -/
inductive SpellsLater : List (Option String × Value) → List Char → Prop
  | close {b : List Char} : Blanks b → SpellsLater [] (b ++ ['}'])
  | comma {b b' t u : List Char} {m : Option String × Value}
      {ms : List (Option String × Value)} : Blanks b → Blanks b' → SpellsMember m t →
    SpellsLater ms u → SpellsLater (m :: ms) (b ++ ',' :: (b' ++ '"' :: (t ++ u)))

end

/-- The text holds the value and nothing else but blanks around it. -/
inductive Writes : Value → String → Prop
  | mk {v : Value} {b t b' : List Char} {text : String} : Blanks b → Spells v t → Blanks b' →
    text.toList = b ++ (t ++ b') → Writes v text

end LargerThanLife.Json
