import Blueprint.Decimal.Reading
import Blueprint.Text.Alphanumeric
import Blueprint.Text.Lines
import Blueprint.Text.Pattern
import Blueprint.Text.Split

/-!
Which warnings a run shows, and how. A filter is a list of directives, each with a target, perhaps a
named value that a message must carry, and the least severe level that is shown. Of the directives
that are about a message the most specific one counts. Main statement: a warning that is written
holds no character with which a terminal could be steered.
-/

namespace Blueprint.CommandLine

/-- The variable that holds the filter. -/
def filterVariable : String := "RUST_LOG"

/-- The target under which the program logs. -/
def logTarget : List Char := "floorplan".toList

/-! ### Warnings -/

/-- A warning, with the named values that it carries. -/
structure Warning where
  text : String
  values : List (String × String)
  deriving DecidableEq, Repr

/-- The name under which every message carries its text. -/
def messageName : String := "message"

def Warning.names (w : Warning) : List String := messageName :: w.values.map (·.1)

/-- Whether a character can begin or end a command to a terminal. -/
def steersTerminal (c : Char) : Bool :=
  c == '\x1b' || c == '\x07' || c == '\x08' || c == '\x0c' || (0x7f ≤ c.toNat && c.toNat ≤ 0x9f)

/-- A code as two digits, or in braces where two are not enough for every character of its kind. -/
def codeChars (c : Char) : List Char :=
  let digits := Nat.toDigits 16 c.toNat
  if c.toNat < 0x80 then ['\\','x'] ++ List.replicate (2 - digits.length) '0' ++ digits
  else ['\\','u','\x7b'] ++ digits ++ ['\x7d']

def safeChar (c : Char) : List Char := if steersTerminal c then codeChars c else [c]

def safe (text : List Char) : List Char := text.flatMap safeChar

/-- A warning as it is shown. -/
def Warning.line (w : Warning) : String :=
  "WARN " ++ String.ofList (safe w.text.toList) ++
    String.join (w.values.map fun (name,value) => s!" {name}={value}") ++ "\n"

/-! ### Filters -/

/-- Levels: nothing, errors, warnings, notes, details and traces. -/
abbrev Level := Nat

def levelNames : List (List Char) :=
  ["off","error","warn","info","debug","trace"].map String.toList

def warningLevel : Level := 2

def allLevels : Level := 5

/-- A level by its number or by its name, in any case. -/
def level? (text : List Char) : Option Level :=
  match Decimal.word64? text with
  | some n => if n ≤ allLevels then some n else none
  | none => levelNames.findIdx? (· == text.map Char.toLower)

/-- What messages must carry to be what a directive is about. -/
inductive Carried where
  | anything
  /-- A value of a name. -/
  | named (name : String)
  /-- A part of the run that is named, or a certain value: no message carries that. -/
  | unheard
  deriving DecidableEq, Repr

structure Directive where
  /-- What the target of a message begins with. -/
  target : List Char
  carried : Carried
  level : Level
  deriving DecidableEq, Repr

/-- The level behind the equals sign of a directive; nothing there stands for all levels. -/
def levelPart? (text : List Char) : Option Level :=
  if text.isEmpty then some allLevels else level? text

/-- What a value in brackets asks for, behind the name of a part of the run. What is asked of its
content, up to a second sign of equality, is a number or a pattern. -/
def carried? (part value : List Char) : Option Carried :=
  match Text.splitFirst? '=' value with
  | none => some (if part.isEmpty then .named (String.ofList value) else .unheard)
  | some (_,content) =>
    let content := content.takeWhile (· != '=')
    if (Decimal.float? content).isSome || Text.isPattern content then some .unheard else none

/-- The text of a directive: `target=level`, or `target[part{value}]=level`, where almost all
may be left out. Pieces are looked for in `text`, and cut out of `whole` at the places found. -/
structure Pieces where
  whole : List Char
  text : List Char

namespace Pieces

/-- The piece between two places. -/
def cut (p : Pieces) (start stop : Nat) : List Char := (p.whole.drop start).take (stop - start)

/-- The place of the first character of a class, from a place on. -/
def find? (p : Pieces) (start : Nat) (ends : Char → Bool) : Option (Nat × Char) := do
  let found ← ((p.text.drop start).findIdx? ends)
  let c ← p.text[start + found]?
  return (start + found,c)

/-- The level at the end of a directive. -/
def ending? (p : Pieces) (place : Nat) : Option Level :=
  match p.text[place]? with
  | none => some allLevels
  | some '=' => levelPart? (p.whole.drop (place + 1))
  | some _ => none

/-- A directive from its brackets on. -/
def bracketed? (p : Pieces) (target : List Char) (place : Nat) : Option Directive := do
  let (stop,c) ← p.find? place fun c => c == ']' || c == '\x7b'
  let part := p.cut place stop
  if c = ']' then
    return ⟨target,.unheard,← p.ending? (stop + 1)⟩
  else
    let (close,_) ← p.find? (stop + 1) (· == '\x7d')
    let value := p.cut (stop + 1) close
    if value.isEmpty || p.text[close + 1]? != some ']' then none
    else return ⟨target,← carried? part value,← p.ending? (close + 2)⟩

/-- A directive. A name alone is a level if it can be one, and else a target. -/
def directive? (p : Pieces) : Option Directive := do
  let first ← p.text.head?
  if first = '[' then p.bracketed? [] 1
  else if Text.isAlphanumeric first || first == '-' || first == ':' || first == '_' then
    match p.find? 0 fun c => c == '=' || c == '[' with
    | none =>
      match level? p.whole with
      | some level => return ⟨[],.anything,level⟩
      | none => return ⟨p.whole,.anything,allLevels⟩
    | some (place,c) =>
      let target := p.cut 0 place
      if c = '=' then return ⟨target,.anything,← p.ending? place⟩
      else p.bracketed? target (place + 1)
  else none

end Pieces

/-- A directive of a filter. Blanks around it are passed over when its pieces are looked for, but
not when they are cut out: a name with blanks is another name. -/
def directive? (text : List Char) : Option Directive :=
  Pieces.directive? ⟨text,Text.trim text⟩

/-- The directives of a filter, commas between them; `none` if one of them is none. -/
def directives? (text : List Char) : Option (List Directive) :=
  ((pieces text).filter (!·.isEmpty)).mapM directive?
where
  pieces : List Char → List (List Char)
    | [] => [[]]
    | c :: rest =>
      match pieces rest with
      | [] => [[c]]
      | p :: ps => if c = ',' then [] :: p :: ps else (c :: p) :: ps

/-- Whether a directive is about messages of the program that carry values of some names. -/
def Directive.isAbout (d : Directive) (names : List String) : Bool :=
  d.target.isPrefixOf logTarget &&
    match d.carried with
    | .anything => true
    | .named name => names.contains name
    | .unheard => false

/-- The name that a directive asks for, empty if it asks for none. -/
def Directive.name (d : Directive) : String :=
  match d.carried with
  | .named name => name
  | _ => ""

/-- Whether a directive counts before an earlier one: if its target is longer, or is no shorter and
the name that it asks for does not come before the other one. -/
def Directive.overrides (d e : Directive) : Bool :=
  e.target.length < d.target.length || d.target.length == e.target.length && !(d.name < e.name)

/-- The directive that counts for messages that carry values of some names. -/
def governing? (names : List String) (ds : List Directive) : Option Directive :=
  (ds.filter (·.isAbout names)).foldl
    (fun best d =>
      match best with
      | none => some d
      | some b => if d.overrides b then some d else best)
    none

/-- Whether a filter shows a warning. A filter that is none shows all. -/
def filterShows (text : String) (w : Warning) : Bool :=
  match directives? text.toList with
  | none => true
  | some ds =>
    match governing? w.names ds with
    | none => false
    | some d => warningLevel ≤ d.level

/-- Whether a warning is shown: always in a talkative run, else as the filter says. -/
def Warning.isShown (w : Warning) (filter : Option String) (talkative : Bool) : Bool :=
  talkative ||
    match filter with
    | none => true
    | some text => filterShows text w

/-! ### What is shown is safe -/

theorem lt_of_steersTerminal {c : Char} (h : steersTerminal c = true) : c.toNat < 0xa0 := by
  simp only [steersTerminal,Bool.or_eq_true,beq_iff_eq,Bool.and_eq_true,decide_eq_true_eq] at h
  rcases h with (((rfl | rfl) | rfl) | rfl) | h
  · decide
  · decide
  · decide
  · decide
  · omega

theorem steersTerminal_of_mem_codeChars {c d : Char} (h : c.toNat < 0xa0) (hd : d ∈ codeChars c) :
    steersTerminal d = false := by
  have all : ∀ n < 0xa0, (codeChars (Char.ofNat n)).all (!steersTerminal ·) = true := by
    decide +kernel
  have hc := List.all_eq_true.1 (all c.toNat h) d (by rwa [Char.ofNat_toNat])
  simpa using hc

theorem steersTerminal_of_mem_safe {text : List Char} {c : Char} (h : c ∈ safe text) :
    steersTerminal c = false := by
  obtain ⟨d,-,hd⟩ := List.mem_flatMap.1 h
  unfold safeChar at hd
  split at hd
  · next hs => exact steersTerminal_of_mem_codeChars (lt_of_steersTerminal hs) hd
  · next hs => simp_all

end Blueprint.CommandLine
