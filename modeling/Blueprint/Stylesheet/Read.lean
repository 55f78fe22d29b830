import Blueprint.Document.Position
import Blueprint.Document.Record
import Blueprint.Stylesheet.Basic
import Blueprint.Toml.Reader

/-!
Stylesheets read off TOML texts, and the errors of texts that are no stylesheets, shown with the
line in which they are.
-/

namespace Blueprint

open Document (Node Fault RecordField Record Span byteLength)

/-- What a stylesheet says about itself. -/
structure Stylesheet.Metadata where
  name : Option (Option String) := none
  description : Option (Option String) := none

/-- A stylesheet of which some fields have been read. -/
structure Stylesheet.Draft where
  metadata : Option (Option Stylesheet.Metadata) := none
  colors : Option Palette := none

namespace Stylesheet

def metadataFields : List (RecordField Metadata) :=
  [.of "name" none false (·.name) (fun d v => { d with name := some v })
      (Node.asOption Node.asString),
   .of "description" none false (·.description) (fun d v => { d with description := some v })
      (Node.asOption Node.asString)]

def metadataRecord : Record Metadata Metadata :=
  ⟨"struct TomlMetadata",metadataFields,{},.ok⟩

def metadataField : RecordField Draft :=
  .of "metadata" none false (·.metadata) (fun d v => { d with metadata := some v })
    (Node.asOption metadataRecord.read)

def colorsField : RecordField Draft :=
  .of "colors" none true (·.colors) (fun d v => { d with colors := some v })
    (Node.asTable Node.asString)

/-- The sheet of a draft. The values of the tokens are entered one after the other. -/
def finish (d : Draft) : Except String Stylesheet :=
  let metadata := d.metadata.join.getD {}
  .ok
    { name := metadata.name.join
      description := metadata.description.join
      colors := Palette.overlay [] (d.colors.getD [])
      distinct := Palette.distinct_nil.overlay }

def record : Record Draft Stylesheet := ⟨"struct TomlStylesheet",[metadataField,colorsField],{},finish⟩

end Stylesheet

/-- Why a text is no stylesheet. -/
inductive StylesheetError where
  /-- It is no TOML. -/
  | malformed (fault : Fault)
  /-- It is TOML of another form. -/
  | content (fault : Fault)

def Stylesheet.ofText (text : List Char) : Except StylesheetError Stylesheet :=
  match Toml.read text with
  | .error f => .error (.malformed f)
  | .ok root =>
    match Stylesheet.record.read root.node with
    | .error f => .error (.content f)
    | .ok sheet => .ok sheet

namespace StylesheetError

/-- The line in which a place is, from zero, what the line says, and how many characters of it are
before the place. -/
def lineOf (text : List Char) (index : Nat) : Nat × List Char × Nat := go text index 0 []
where
  go : List Char → (index line : Nat) → (before : List Char) → Nat × List Char × Nat
  | c :: rest, index + 1, line, before =>
    if c = '\n' then go rest index (line + 1) []
    else go rest (index + 1 - c.utf8Size) line (c :: before)
  | rest, _, line, before =>
    (line,before.reverse ++ rest.takeWhile (· != '\n'),before.length)

/-- A fault under the line of the text in which it is. -/
def located (text : List Char) (f : Fault) : String :=
  match f.place with
  | none => f.message ++ "\n"
  | some span =>
    let (line,shown,column) := lineOf text span.start
    let number := toString (line + 1)
    let gutter := String.ofList (List.replicate (number.length + 1) ' ')
    let count := min (span.stop - span.start) (byteLength shown - column)
    let arrows := String.ofList (List.replicate (max count 1) '^')
    let space := String.ofList (List.replicate (column + 1) ' ')
    s!"TOML parse error at line {number}, column {column + 1}\n{gutter}|\n{number} | " ++
      String.ofList shown ++ s!"\n{gutter}|{space}{arrows}\n{f.message}\n"

def fault : StylesheetError → Fault
  | malformed f => f
  | content f => f

def message (text : List Char) (e : StylesheetError) : String :=
  "Failed to parse stylesheet TOML: " ++ located text e.fault

end StylesheetError

end Blueprint
