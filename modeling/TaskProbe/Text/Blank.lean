/-!
# Blank and control characters

White space is Unicode's `White_Space` property and control characters are its category `Cc`.
Trimming works on lists of characters: it removes the longest blank run at either end.
-/

namespace TaskProbe.Text

/-- Unicode's `White_Space` property. -/
def isBlank (c : Char) : Bool :=
  let n := c.toNat
  (0x09 ≤ n && n ≤ 0x0D) || n == 0x20 || n == 0x85 || n == 0xA0 || n == 0x1680
    || (0x2000 ≤ n && n ≤ 0x200A) || n == 0x2028 || n == 0x2029 || n == 0x202F
    || n == 0x205F || n == 0x3000

/-- Unicode's general category `Cc`. -/
def isControl (c : Char) : Bool :=
  let n := c.toNat
  n < 0x20 || (0x7F ≤ n && n ≤ 0x9F)

/-! ## Trimming -/

/-- Without the blanks at the front. -/
def trimStart (s : List Char) : List Char := s.dropWhile isBlank

/-- Without the blanks at the end. -/
def trimEnd (s : List Char) : List Char := (s.reverse.dropWhile isBlank).reverse

/-- Without the blanks at either end. -/
def trim (s : List Char) : List Char := trimEnd (trimStart s)

/-- A text of blanks only, the empty text among them. -/
def isAllBlank (s : List Char) : Bool := s.all isBlank

/-! ## ASCII letters -/

/-- The ASCII lower-case form; every other character stays. -/
def lowerAscii (s : List Char) : List Char := s.map Char.toLower

end TaskProbe.Text
