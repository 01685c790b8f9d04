import LargerThanLife.Json.Malformation
import LargerThanLife.Text.Bytes
import LargerThanLife.Text.Hexadecimal
import LargerThanLife.Text.Numeral

/-! JSON strings. `quote` writes a text between double quotes, with escapes for quotes, backslashes
and control characters only; `readString` reads any string that JSON allows, from after its opening
quote, and returns what follows the closing one. Escapes of surrogates are read in pairs. -/

namespace LargerThanLife.Json

open Text

/-- How one character is written between quotes. -/
def escape (c : Char) : List Char :=
  if c = '"' then ['\\', '"']
  else if c = '\\' then ['\\', '\\']
  else if c = '\x08' then ['\\', 'b']
  else if c = '\x0c' then ['\\', 'f']
  else if c = '\n' then ['\\', 'n']
  else if c = '\r' then ['\\', 'r']
  else if c = '\t' then ['\\', 't']
  else if c.toNat < 0x20 then
    ['\\', 'u', '0', '0', hexDigit (c.toNat / 16), hexDigit (c.toNat % 16)]
  else [c]

def quote (s : List Char) : List Char := '"' :: s.flatMap escape ++ ['"']

/-- The value of four hexadecimal digits. A text that is too short for them is less than four bytes
long. -/
def readHex : Scanner Nat
  | a :: b :: c :: d :: rest =>
    match hexValue a, hexValue b, hexValue c, hexValue d with
    | some i, some j, some k, some l => .ok ((i * 16 + j) * 256 + k * 16 + l, rest)
    | _, _, _, _ => .error .badEscape
  | s => .error (if byteSize s < 4 then .endOfText else .badEscape)

def isHighSurrogate (n : Nat) : Bool := 0xd800 ≤ n && n ≤ 0xdbff

def isLowSurrogate (n : Nat) : Bool := 0xdc00 ≤ n && n ≤ 0xdfff

/-- The character that a surrogate pair stands for. -/
def ofSurrogates (high low : Nat) : Char :=
  Char.ofNat (0x10000 + (high - 0xd800) * 0x400 + (low - 0xdc00))

/-- The character that an escape of one letter stands for. -/
def shortEscape (c : Char) : Option Char :=
  if c = '"' then some '"'
  else if c = '\\' then some '\\'
  else if c = '/' then some '/'
  else if c = 'b' then some '\x08'
  else if c = 'f' then some '\x0c'
  else if c = 'n' then some '\n'
  else if c = 'r' then some '\r'
  else if c = 't' then some '\t'
  else none

/-- The character of a surrogate pair, from after the escape of its first half. -/
def readSecondHalf (high : Nat) : Scanner Char
  | [] => .error .endOfText
  | c :: rest =>
    if c = '\\' then
      match rest with
      | [] => .error .endOfText
      | e :: rest =>
        if e = 'u' then
          match readHex rest with
          | .error why => .error why
          | .ok (low, rest) =>
            if isLowSurrogate low then .ok (ofSurrogates high low, rest)
            else .error .loneSurrogate
        else .error .loneSurrogate
    else .error .loneSurrogate

/-- The character of an escape by code point, from after its letter. -/
def readCodePoint : Scanner Char := fun s =>
  match readHex s with
  | .error why => .error why
  | .ok (n, rest) =>
    if isLowSurrogate n then .error .loneSurrogate
    else if isHighSurrogate n then readSecondHalf n rest
    else .ok (Char.ofNat n, rest)

/-- One character of a string, other than the closing quote. -/
def readChar : Scanner Char
  | [] => .error .endOfText
  | c :: rest =>
    if c = '\\' then
      match rest with
      | [] => .error .endOfText
      | e :: rest =>
        if e = 'u' then readCodePoint rest
        else match shortEscape e with
          | some d => .ok (d, rest)
          | none => .error .badEscape
    else if c.toNat < 0x20 then .error .controlCharacter
    else .ok (c, rest)

theorem length_of_readHex {s rest : List Char} {n : Nat} (h : readHex s = .ok (n, rest)) :
    rest.length < s.length := by
  unfold readHex at h
  split at h
  · split at h
    · cases h
      simp only [List.length_cons]
      omega
    · cases h
  · cases h

theorem length_of_readSecondHalf {high : Nat} {s rest : List Char} {c : Char}
    (h : readSecondHalf high s = .ok (c, rest)) : rest.length < s.length := by
  unfold readSecondHalf at h
  split at h
  · cases h
  · split at h
    · split at h
      · cases h
      · split at h
        · split at h
          · cases h
          · next low r hr =>
            have shorter := length_of_readHex hr
            split at h
            · obtain ⟨-, rfl⟩ := Prod.mk.inj (Except.ok.inj h)
              simp only [List.length_cons]
              omega
            · cases h
        · cases h
    · cases h

theorem length_of_readCodePoint {s rest : List Char} {c : Char}
    (h : readCodePoint s = .ok (c, rest)) : rest.length < s.length := by
  unfold readCodePoint at h
  split at h
  · cases h
  · next n r hr =>
    have shorter := length_of_readHex hr
    split at h
    · cases h
    · split at h
      · exact Nat.lt_trans (length_of_readSecondHalf h) shorter
      · obtain ⟨-, rfl⟩ := Prod.mk.inj (Except.ok.inj h)
        exact shorter

/-- Reading one character uses up some of the text. -/
theorem length_of_readChar {s rest : List Char} {c : Char} (h : readChar s = .ok (c, rest)) :
    rest.length < s.length := by
  unfold readChar at h
  split at h
  · cases h
  · split at h
    · split at h
      · cases h
      · split at h
        · have := length_of_readCodePoint h
          simp only [List.length_cons]
          omega
        · split at h
          · cases h
            simp only [List.length_cons]
            omega
          · cases h
    · split at h
      · cases h
      · cases h
        simp

/-- The text of a string and what follows its closing quote. -/
def readString (s : List Char) : Except Malformation (List Char × List Char) :=
  match s with
  | [] => .error .endOfText
  | '"' :: rest => .ok ([], rest)
  | c :: tail =>
    match h : readChar (c :: tail) with
    | .error why => .error why
    | .ok (d, rest) =>
      have := length_of_readChar h
      (fun (ds, rest) => (d :: ds, rest)) <$> readString rest
termination_by s.length
decreasing_by assumption

end LargerThanLife.Json
