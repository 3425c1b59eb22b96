/-!
# Blanks

`isBlank` holds of the white space that is cut off the ends of a text: the separators of Unicode
14, the control characters from tabulation to carriage return, the four information separators and
the next-line control. `stripBy` cuts it off.
-/

namespace Screening.Text

def isBlank (c : Char) : Bool :=
  let n := c.toNat
  (9 ≤ n && n ≤ 13) || (28 ≤ n && n ≤ 32) || n == 0x85 || n == 0xA0 || n == 0x1680 ||
    (0x2000 ≤ n && n ≤ 0x200A) || n == 0x2028 || n == 0x2029 || n == 0x202F || n == 0x205F ||
    n == 0x3000

/-- Blanks as a number written in a field counts them: without the information separators. -/
def isFieldBlank (c : Char) : Bool :=
  isBlank c && !(28 ≤ c.toNat && c.toNat ≤ 31)

/-- Cut off what is blank at both ends. -/
def stripBy {α : Type} (blank : α → Bool) (cs : List α) : List α :=
  ((cs.dropWhile blank).reverse.dropWhile blank).reverse

end Screening.Text
