/-!
# White space

Three sets of blanks occur. The narrow one is the six blanks of ASCII; around a
numeral every space, line and paragraph separator counts besides; the wide one has
also the four information separators.
-/

namespace Provisioning.Text

/-- Space, tab, line feed, vertical tab, form feed and carriage return. -/
def isAsciiBlank (c : Char) : Bool :=
  c == ' ' || (9 ≤ c.toNat && c.toNat ≤ 13)

/-- A blank that may stand around a numeral: a space or a separator of lines or
paragraphs. -/
def isSpace (c : Char) : Bool :=
  let n := c.toNat
  isAsciiBlank c || n == 0x85 || n == 0xa0 || n == 0x1680 ||
    (0x2000 ≤ n && n ≤ 0x200a) || n == 0x2028 || n == 0x2029 || n == 0x202f ||
    n == 0x205f || n == 0x3000

/-- Every character of white space. -/
def isBlank (c : Char) : Bool :=
  isSpace c || (0x1c ≤ c.toNat && c.toNat ≤ 0x1f)

/-- `text` without the characters of a class at either end. -/
def strip (blank : Char → Bool) (text : List Char) : List Char :=
  (((text.dropWhile blank).reverse).dropWhile blank).reverse

/-- `text` without the characters of a class at its end. -/
def stripRight (blank : Char → Bool) (text : List Char) : List Char :=
  (text.reverse.dropWhile blank).reverse

end Provisioning.Text
