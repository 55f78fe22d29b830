import Blueprint.Text.CharClass

/-!
Text in lines, each with the characters that end it. Main statements: the lines put back together
are the text, and none of them is empty.
-/

namespace Blueprint.Text

/-- Cut a text behind every character that ends a line, looking at the character after it. -/
def lines (ends : Char → Option Char → Bool) : List Char → List (List Char)
  | [] => []
  | c :: rest =>
    if ends c rest.head? then [c] :: lines ends rest
    else
      match lines ends rest with
      | [] => [[c]]
      | line :: more => (c :: line) :: more

theorem flatten_lines (ends : Char → Option Char → Bool) (text : List Char) :
    (lines ends text).flatten = text := by
  induction text with
  | nil => rfl
  | cons c rest ih =>
    simp only [lines]
    split
    · simp [ih]
    · split <;> simp_all

theorem ne_nil_of_mem_lines {ends : Char → Option Char → Bool} {text line : List Char}
    (h : line ∈ lines ends text) : line ≠ [] := by
  induction text generalizing line with
  | nil => simp [lines] at h
  | cons c rest ih =>
    simp only [lines] at h
    split at h
    · rcases List.mem_cons.1 h with rfl | h
      · simp
      · exact ih h
    · split at h
      · simp_all
      · next hl =>
        rcases List.mem_cons.1 h with rfl | h
        · simp
        · exact ih (by rw [hl]; exact List.mem_cons_of_mem _ h)

/-- A line ends behind a newline. -/
def atNewline (c : Char) (_ : Option Char) : Bool := c == '\n'

/-- The characters that end a line in Unicode. -/
def isLineEnd (c : Char) : Bool :=
  c == '\n' || c == '\r' || c == '\x0b' || c == '\x0c' || c == '\u0085' || c == '\u2028' ||
    c == '\u2029'

/-- A line ends behind each of those, but not between a carriage return and a newline. -/
def atLineEnd (c : Char) (next : Option Char) : Bool :=
  isLineEnd c && !(c == '\r' && next == some '\n')

/-- A text without the blanks at its end. -/
def trimEnd (text : List Char) : List Char := (text.reverse.dropWhile isBlank).reverse

/-- A text without the blanks around it. -/
def trim (text : List Char) : List Char := trimEnd (text.dropWhile isBlank)

end Blueprint.Text
