/-!
# Blank characters

The characters of the Unicode property White_Space, and `trim`, which removes them at both ends of a
text. The zero-width space U+200B and the byte order mark U+FEFF are not blank.
-/

namespace Switchboard.Text

/-- The code points above ASCII with the property White_Space. -/
def blankBeyondAscii : List Nat :=
  [0x85, 0xA0, 0x1680, 0x2000, 0x2001, 0x2002, 0x2003, 0x2004, 0x2005, 0x2006, 0x2007, 0x2008,
   0x2009, 0x200A, 0x2028, 0x2029, 0x202F, 0x205F, 0x3000]

/-- The character has the property White_Space. -/
def isBlank (c : Char) : Bool :=
  c.toNat = 0x20 || (0x09 ≤ c.toNat && c.toNat ≤ 0x0D) ||
    (0x80 ≤ c.toNat && blankBeyondAscii.contains c.toNat)

/-- Leaves out the blank characters at both ends. -/
def trimChars (cs : List Char) : List Char :=
  ((cs.dropWhile isBlank).reverse.dropWhile isBlank).reverse

/-- Leaves out the blank characters at both ends. -/
def trim (s : String) : String := String.ofList (trimChars s.toList)

/-- Nothing but blank characters. -/
def allBlank (s : String) : Bool := s.toList.all isBlank

/-- The letters `A` to `Z` become small; every other character stays. -/
def asciiLower (s : String) : String := String.ofList (s.toList.map Char.toLower)

end Switchboard.Text
