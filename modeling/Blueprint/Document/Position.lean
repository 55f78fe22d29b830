import Blueprint.Document.Cursor
import Blueprint.Text.Lines

/-!
Places in a text by line and column, both in bytes. Lines count from one. A column counts the bytes
up to and with the one that is meant, so the place before the first byte of a line has column zero.
-/

namespace Blueprint.Document

structure Position where
  line : Nat
  column : Nat
  deriving DecidableEq, Repr

/-- The position of the place that so many bytes are before. -/
def positionOf (text : List Char) (index : Nat) : Position := go text index ⟨1,0⟩
where
  go : List Char → Nat → Position → Position
  | _, 0, p => p
  | [], _ + 1, p => p
  | c :: rest, index + 1, p =>
    if c = '\n' then go rest index ⟨p.line + 1,0⟩
    else
      let size := min c.utf8Size (index + 1)
      go rest (index + 1 - size) { p with column := p.column + size }

/-- How many bytes are before the one at a position, unless there is no such line. -/
def offsetIn? : (lines : List (List Char)) → (line column : Nat) → Option Nat
  | _, 0, _ => none
  | [], _, _ => none
  | l :: _, 1, column => some (min (column - 1) (byteLength l))
  | l :: rest, line + 2, column => (offsetIn? rest (line + 1) column).map (byteLength l + ·)

def Position.offset? (p : Position) (text : List Char) : Option Nat :=
  offsetIn? (Text.lines Text.atNewline text) p.line p.column

/-- How many bytes are before the first occurrence of a text. -/
def find? (needle : List Char) : List Char → Option Nat
  | [] => if needle.isEmpty then some 0 else none
  | c :: rest =>
    if needle.isPrefixOf (c :: rest) then some 0 else (find? needle rest).map (c.utf8Size + ·)

end Blueprint.Document
