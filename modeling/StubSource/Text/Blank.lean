/-!
# Blank characters

The code points with the Unicode property White_Space, and the two ways in which texts are
measured against them: dropping the blanks at the front, and asking whether there is
anything else at all.
-/

namespace StubSource.Text
set_option autoImplicit false

/-- The code points that count as blank. -/
def blankCodes : List Nat :=
  [0x9, 0xA, 0xB, 0xC, 0xD, 0x20, 0x85, 0xA0, 0x1680, 0x2000, 0x2001, 0x2002, 0x2003, 0x2004,
    0x2005, 0x2006, 0x2007, 0x2008, 0x2009, 0x200A, 0x2028, 0x2029, 0x202F, 0x205F, 0x3000]

def isBlank (c : Char) : Bool :=
  blankCodes.contains c.toNat

/-- The text from its first character that is not blank. -/
def trimStart (text : List Char) : List Char :=
  text.dropWhile isBlank

/-- Nothing but blanks, or nothing at all. -/
def isBlankText (text : String) : Bool :=
  text.toList.all isBlank

end StubSource.Text
