/-!
Classes of characters, by the ranges of their code points.
-/

namespace Blueprint.Text

/-- Whether a code point lies in one of the ranges, ends included. -/
def inRanges (ranges : List (Nat × Nat)) (code : Nat) : Bool :=
  ranges.any fun (first,last) => first ≤ code && code ≤ last

def blankRanges : List (Nat × Nat) :=
  [(0x9,0xd),(0x20,0x20),(0x85,0x85),(0xa0,0xa0),(0x1680,0x1680),(0x2000,0x200a),
   (0x2028,0x2029),(0x202f,0x202f),(0x205f,0x205f),(0x3000,0x3000)]

/-- White space of any kind, ends of lines included. -/
def isBlank (c : Char) : Bool := inRanges blankRanges c.toNat

example : isBlank ' ' = true ∧ isBlank '\n' = true ∧ isBlank 'x' = false := by decide

theorem isBlank_of_isWhitespace {c : Char} (h : c.isWhitespace = true) : isBlank c = true := by
  simp only [Char.isWhitespace,Bool.or_eq_true,decide_eq_true_eq] at h
  rcases h with ((h | h) | h) | h <;> subst h <;> decide

end Blueprint.Text
