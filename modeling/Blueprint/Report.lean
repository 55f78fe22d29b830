import Blueprint.Plan.Load
import Blueprint.Text.Columns

/-!
Reports: an error shown in the text that it is about. The lines of the text that the error touches
are drawn with their numbers behind a margin, and what the error covers is underlined and labelled.
An error within one line is underlined; one that spans lines is held together by a bracket on the
left. The places of errors count bytes, and a report takes them for characters. So a place may lie
at the end of the text, behind its last character: what ends there is not drawn.
-/

namespace Blueprint.Report

open Document (Span)

/-- A line of the text: its number, from one, the characters before it, and its own. -/
structure Line where
  number : Nat
  offset : Nat
  chars : List Char
  deriving Repr

def numberLines : (number offset : Nat) → List (List Char) → List Line
  | _, _, [] => []
  | number, offset, l :: rest =>
    ⟨number,offset,l⟩ :: numberLines (number + 1) (offset + l.length) rest

/-- The lines of a text; an empty text is one empty line. -/
def linesOf (source : List Char) : List Line :=
  if source.isEmpty then [⟨1,0,[]⟩]
  else numberLines 1 0 (Text.lines Text.atLineEnd source)

/-- The line in which a character stands; the end of the text belongs to the last line. -/
def lineAt? (source : List Char) (lines : List Line) (place : Nat) : Option Line :=
  if place ≤ source.length then (lines.filter (·.offset ≤ place)).getLast? else none

/-- Columns to the next stop of a tab. -/
def tabWidth : Nat := 4

/-- How a character is drawn at a place in its line: a tab as blanks up to a stop. -/
def drawn (c : Char) (place : Nat) : List Char :=
  if c = '\t' then List.replicate (tabWidth - place % tabWidth) ' '
  else if Text.isBlank c then [' ']
  else [c]

/-- How many columns a character takes at a place in its line. -/
def widthAt (c : Char) (place : Nat) : Nat :=
  if c = '\t' then tabWidth - place % tabWidth else if Text.isBlank c then 1 else Text.columns c

namespace Line

/-- What is drawn of a line: not the blanks at its end. -/
def shown (l : Line) : List Char := Text.trimEnd l.chars

def text (l : Line) : List Char := (l.shown.mapIdx fun i c => drawn c i).flatten

/-- The widths of the first places of a line; behind what is drawn each takes one column. -/
def widths (l : Line) (count : Nat) : List Nat :=
  let ws := (l.shown.mapIdx fun i c => widthAt c i).take count
  ws ++ List.replicate (count - ws.length) 1

end Line

/-- A row under a line: for each place a character and the one that fills up its columns. -/
def row (widths : List Nat) (cell : Nat → Char × Char) : List Char :=
  (widths.mapIdx fun place width =>
    let (first,other) := cell place
    (List.replicate width other).set 0 first).flatten

/-- The margin of the report: how many digits the line numbers have. -/
abbrev Margin := Nat

def blanks (count : Nat) : List Char := List.replicate count ' '

/-- The margin without a number, with the stroke that divides it from the text. -/
def Margin.rule (m : Margin) (stroke : Char) : List Char := blanks (m + 2) ++ [stroke,' ']

def Margin.numbered (m : Margin) (l : Line) : List Char :=
  let number := Decimal.digitChars l.number
  ' ' :: blanks (m - number.length) ++ number ++ [' ','│',' ']

/-- The first line of an error across lines, at the beginning of its bracket. -/
def Margin.opening (m : Margin) (first : Line) : List Char :=
  m.numbered first ++ ['╭','─','▶',' '] ++ first.text

/-- The row for lines that are left out. -/
def Margin.gap (m : Margin) : List Char := m.rule '┆' ++ ['┆',' ',' ',' ']

/-- How far the row of a label reaches behind what it is about. -/
def reach : Nat := 2

/-- An error within one line: the line, the underline, and the label on an arrow from its middle. -/
def within (m : Margin) (l : Line) (span : Span) (label : String) : List (List Char) :=
  let middle := max ((span.start + span.stop) / 2) span.start - l.offset
  let covered (place : Nat) : Bool :=
    span.start ≤ l.offset + place && l.offset + place < span.stop
  let widths := l.widths (span.stop - l.offset + reach)
  let underline (place : Nat) : Char × Char :=
    if place = middle then if covered place then ('┬','─') else ('│',' ')
    else if covered place then ('─','─')
    else (' ',' ')
  let arrow (place : Nat) : Char × Char :=
    if place = middle then ('╰','─') else if middle < place then ('─','─') else (' ',' ')
  [m.numbered l ++ l.text,
   m.rule '│' ++ row widths underline,
   m.rule '│' ++ row widths arrow ++ ' ' :: label.toList]

/-- An error across lines: the first and the last of them at a bracket, whatever is between them
left out, and the label below. -/
def across (m : Margin) (first last : Line) (label : String) : List (List Char) :=
  let widths := last.widths (last.chars.length + reach)
  let between := if first.number + 1 < last.number then [m.gap] else []
  [m.opening first] ++ between ++
  [m.numbered last ++ ['├','─','▶',' '] ++ last.text,
   m.rule '│' ++ ['│',' ',' ',' '] ++ row widths (fun _ => (' ',' ')),
   m.rule '│' ++ ['╰','─','─','─'] ++ row widths (fun _ => ('─','─')) ++ ' ' :: label.toList]

/-- An error that ends behind the last character: only its beginning is drawn, if that is on an
earlier line. -/
def unfinished (m : Margin) (first last : Line) : List (List Char) :=
  if first.number = last.number then [m.rule '│'] else [m.opening first,m.gap]

/-- The excerpt with the label, between its frame. -/
def excerpt (source : List Char) (file : String) (first last : Line) (span : Span)
    (label : String) : List (List Char) :=
  let m : Margin := (Decimal.digitChars last.number).length
  let place := s!":{first.number}:{span.start - first.offset + 1}"
  let body :=
    if source.length < span.stop then unfinished m first last
    else if first.number = last.number then within m first span label
    else across m first last label
  [blanks (m + 2) ++ ['╭','─','['] ++ file.toList ++ place.toList ++ [']'],
   blanks (m + 2) ++ ['│']] ++ body ++ [List.replicate (m + 2) '─' ++ ['╯']]

/-- The report on a place. A place beyond the end of the text leaves only the message. -/
def rows (source : List Char) (file message label : String) (span : Span) : List (List Char) :=
  let lines := linesOf source
  let first := lineAt? source lines span.start
  let last := if span.stop ≤ span.start then first else lineAt? source lines (span.stop - 1)
  let body :=
    match first, last with
    | some first, some last => excerpt source file first last span label
    | _, _ => []
  ("Error: " ++ message).toList :: body

end Report

/-- An error as it is shown to the author of a text; an error without a place is only named. -/
def LoadError.report (source : List Char) (file : String) (e : LoadError) : String :=
  match e.span? source with
  | none => s!"Error: {e.message}"
  | some span =>
    String.ofList ((Report.rows source file e.message e.label span).flatMap (· ++ ['\n']))

end Blueprint
