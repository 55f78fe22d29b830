import Blueprint.Document.Node

/-!
A place in a text: what is left to read, and how many bytes are behind.
-/

namespace Blueprint.Document

structure Cursor where
  rest : List Char
  index : Nat
  deriving DecidableEq, Repr, Inhabited

/-- How many bytes characters take. -/
def byteLength : List Char → Nat
  | [] => 0
  | c :: rest => c.utf8Size + byteLength rest

namespace Cursor

def start (text : List Char) : Cursor := ⟨text,0⟩

/-- The place behind the next character. -/
def advance (c : Cursor) : Cursor :=
  match c.rest with
  | [] => c
  | d :: rest => ⟨rest,c.index + d.utf8Size⟩

/-- The index behind the next byte, or the end of the text. -/
def peeked (c : Cursor) : Nat := if c.rest.isEmpty then c.index else c.index + 1

/-- Take characters of a class. -/
def takeWhile (c : Cursor) (p : Char → Bool) : List Char × Cursor :=
  let (taken,rest) := c.rest.span p
  (taken,⟨rest,c.index + byteLength taken⟩)

/-- Pass over characters of a class. -/
def dropWhile (c : Cursor) (p : Char → Bool) : Cursor := (c.takeWhile p).2

/-- The place behind an expected text. -/
def expect? (c : Cursor) : List Char → Option Cursor
  | [] => some c
  | d :: rest =>
    match c.rest with
    | [] => none
    | e :: after => if e = d then (Cursor.mk after (c.index + e.utf8Size)).expect? rest else none

end Cursor

/-- A fault at an index. -/
def faultAt (message : String) (index : Nat) : Fault := ⟨message,some ⟨index,index⟩⟩

theorem byteLength_append (a b : List Char) :
    byteLength (a ++ b) = byteLength a + byteLength b := by
  induction a with
  | nil => simp [byteLength]
  | cons c rest ih => simp only [List.cons_append,byteLength,ih]; omega

end Blueprint.Document
