/-!
# Text

A text is a sequence of code points. These are characters, and surrogates that stand alone: an
escape in a document can name one, and it is kept although no encoding has a form for it.
`ofValue_value` says that a code point is known by its value; texts are ordered by these values.
-/

namespace Screening

inductive CodePoint where
  | char (c : Char)
  /-- The surrogate `U+D800 + n`. -/
  | surrogate (n : Fin 2048)
  deriving DecidableEq

namespace CodePoint

instance : Coe Char CodePoint := ⟨char⟩

def value : CodePoint → Nat
  | char c => c.toNat
  | surrogate n => 0xD800 + n.val

/-- The code point of a value below `0x110000`. -/
def ofValue (n : Nat) : CodePoint :=
  if h : 0xD800 ≤ n ∧ n < 0xE000 then surrogate ⟨n - 0xD800, by omega⟩ else char (Char.ofNat n)

def char? : CodePoint → Option Char
  | char c => some c
  | surrogate _ => none

def isSurrogate : CodePoint → Bool
  | char _ => false
  | surrogate _ => true

/-- A character that passes a test. -/
def isChar (test : Char → Bool) : CodePoint → Bool
  | char c => test c
  | surrogate _ => false

theorem ofValue_value (p : CodePoint) : ofValue p.value = p := by
  unfold ofValue
  cases p with
  | char c =>
    have valid : c.toNat < 0xD800 ∨ 0xDFFF < c.toNat ∧ c.toNat < 0x110000 := c.valid
    split
    · rename_i h
      have high : 0xD800 ≤ c.toNat ∧ c.toNat < 0xE000 := h
      omega
    · exact congrArg char (Char.ofNat_toNat c)
  | surrogate n =>
    have small := n.isLt
    split
    · simp [value]
    · rename_i h
      exact absurd ⟨by simp [value], by simp [value]; omega⟩ h

theorem value_inj {p q : CodePoint} (h : p.value = q.value) : p = q := by
  rw [← ofValue_value p, h, ofValue_value]

end CodePoint

structure Text where
  points : List CodePoint
  deriving DecidableEq

namespace Text

def ofChars (cs : List Char) : Text := ⟨cs.map .char⟩

def ofString (s : String) : Text := .ofChars s.toList

instance : Coe String Text := ⟨ofString⟩

instance : Inhabited Text := ⟨⟨[]⟩⟩

def append (a b : Text) : Text := ⟨a.points ++ b.points⟩

instance : Append Text := ⟨append⟩

def isEmpty (t : Text) : Bool := t.points.isEmpty

/-- The number of code points. -/
def length (t : Text) : Nat := t.points.length

/-- Texts one after the other, with a text between any two. -/
def intercalate (between : Text) (ts : List Text) : Text :=
  ⟨between.points.intercalate (ts.map points)⟩

def values (t : Text) : List Nat := t.points.map CodePoint.value

instance : LT Text := ⟨fun a b => a.values < b.values⟩

instance : LE Text := ⟨fun a b => ¬b < a⟩

instance (a b : Text) : Decidable (a < b) := inferInstanceAs (Decidable (a.values < b.values))

instance (a b : Text) : Decidable (a ≤ b) := inferInstanceAs (Decidable (¬b < a))

/-- The characters, when there is nothing else. -/
def charsOf? (points : List CodePoint) : Option (List Char) :=
  points.mapM CodePoint.char?

def chars? (t : Text) : Option (List Char) := charsOf? t.points

def string? (t : Text) : Option String := t.chars?.map String.ofList

/-- No surrogate stands alone. -/
def isWhole (t : Text) : Bool := !t.points.any CodePoint.isSurrogate

/-- What can be a name: neither empty nor with surrogates. -/
def IsName (t : Text) : Prop := t ≠ "" ∧ t.isWhole

instance (t : Text) : Decidable t.IsName := inferInstanceAs (Decidable (_ ∧ _))

end Text

end Screening
