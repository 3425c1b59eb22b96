import Screening.Text
import Screening.Text.FoldTable

/-!
# Case folding

`fold` maps a text to the form in which texts that differ only in letter case are equal. A
character folds by itself, whatever stands around it.
-/

namespace Screening.Text

def foldAscii (c : Char) : Char :=
  if 'A' ≤ c ∧ c ≤ 'Z' then Char.ofNat (c.toNat + 32) else c

def FoldRange.covers (r : FoldRange) (n : Nat) : Bool :=
  r.first ≤ n && n ≤ r.last && (n - r.first) % r.step == 0

def foldChar (c : Char) : List Char :=
  if c.toNat < 128 then [foldAscii c]
  else match foldExpansions.lookup c.toNat with
    | some ns => ns.map Char.ofNat
    | none => match foldRanges.find? (·.covers c.toNat) with
      | some r => [Char.ofNat (c.toNat + r.delta).toNat]
      | none => [c]

def foldPoint : CodePoint → List CodePoint
  | .char c => (foldChar c).map .char
  | p => [p]

def fold (t : Text) : Text := ⟨t.points.flatMap foldPoint⟩

/-- The two texts differ at most in letter case. -/
def sameFold (a b : Text) : Bool :=
  fold a == fold b

end Screening.Text
