/-! # White space

The characters with the property White_Space, and a text without them at its ends.
-/

namespace DocSync.Text

def isBlank (c : Char) : Bool :=
  let n := c.toNat
  (9 ≤ n && n ≤ 13) || n = 32 || n = 0x85 || n = 0xa0 || n = 0x1680 ||
    (0x2000 ≤ n && n ≤ 0x200a) || n = 0x2028 || n = 0x2029 || n = 0x202f || n = 0x205f || n = 0x3000

def trimStart (t : List Char) : List Char := t.dropWhile isBlank

def trim (t : List Char) : List Char := (trimStart (trimStart t).reverse).reverse

end DocSync.Text
