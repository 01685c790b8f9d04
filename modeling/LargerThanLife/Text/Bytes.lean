/-! Places in a text, counted in the bytes of UTF-8. `slice` takes a part out of a text by its place
and size, unless one of its ends falls inside a character. -/

namespace LargerThanLife.Text

def byteSize : List Char → Nat
  | [] => 0
  | c :: rest => c.utf8Size + byteSize rest

def dropBytes (n : Nat) : List Char → Option (List Char)
  | [] => if n = 0 then some [] else none
  | c :: rest =>
    if n = 0 then some (c :: rest)
    else if c.utf8Size ≤ n then dropBytes (n - c.utf8Size) rest
    else none

def takeBytes (n : Nat) : List Char → Option (List Char)
  | [] => if n = 0 then some [] else none
  | c :: rest =>
    if n = 0 then some []
    else if c.utf8Size ≤ n then (takeBytes (n - c.utf8Size) rest).map (c :: ·)
    else none

/-- The part of a text of `size` bytes after its first `start` bytes. -/
def slice (start size : Nat) (s : List Char) : Option (List Char) :=
  (dropBytes start s).bind (takeBytes size)

end LargerThanLife.Text
