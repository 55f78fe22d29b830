import Blueprint.Text.Alphanumeric
import Blueprint.Text.Hexadecimal

/-!
Patterns, as far as which texts are patterns. A pattern is made of characters, classes of them in
brackets, groups, alternatives and repetitions. It stands in braces itself, so it holds no brace
that closes, and a brace that opens is never answered. Classes of digits, blanks and letters, and
letters of either case, are known of bytes only.
-/

namespace Blueprint.Text

namespace Pattern

/-- How deep a pattern may nest. -/
def deepest : Nat := 250

/-- How the rest of a group is read. -/
structure Mode where
  /-- A letter stands for both of its cases. -/
  caseless : Bool := false
  /-- Characters are single bytes. -/
  bytewise : Bool := false
  /-- Blanks mean nothing, nor do comments. -/
  spaced : Bool := false
  deriving DecidableEq, Repr

namespace Mode

/-- A letter is of either case, but the cases are not known. -/
def isLost (m : Mode) : Bool := m.caseless && !m.bytewise

/-- The mode that letters ask for. Those behind a dash are taken back. -/
def change (m : Mode) (letters : List Char) : Mode :=
  let on := letters.takeWhile (· != '-')
  let off := letters.dropWhile (· != '-')
  let now (letter : Char) (before : Bool) : Bool :=
    on.contains letter || (before && !off.contains letter)
  { caseless := now 'i' m.caseless
    bytewise := !now 'u' (!m.bytewise)
    spaced := now 'x' m.spaced }

end Mode

/-- A text without the blanks and comments that it begins with; `inside` a comment or not. -/
def dropGaps : (inside : Bool) → List Char → List Char
  | _, [] => []
  | true, c :: rest => dropGaps (c != '\n') rest
  | false, c :: rest =>
    if isBlank c then dropGaps false rest
    else if c = '#' then dropGaps true rest
    else c :: rest

/-- The next character that means something, and what follows. -/
def Mode.next (m : Mode) (text : List Char) : List Char :=
  if m.spaced then dropGaps false text else text

/-! ### Depth

Only what nests counts: a list of parts is as deep as its deepest part, and one deeper if there are
several. -/

/-- The depth of parts that stand together. -/
def together : List Nat → Nat
  | [] => 0
  | [depth] => depth
  | depths => depths.foldl max 0 + 1

/-- A part that can be repeated has a depth. A change of mode is a part too. -/
inductive Part where
  | matter (depth : Nat)
  | change
  deriving DecidableEq, Repr

def Part.depth : Part → Nat
  | matter depth => depth
  | change => 0

/-! ### Escapes -/

/-- What a character or an escape stands for. -/
inductive Sign where
  | char (c : Char)
  /-- A character given by two hexadecimal digits. -/
  | code (c : Char)
  /-- A class of digits, blanks or letters, or what is not in it. -/
  | kind (negated : Bool)
  /-- A place at the edge of a word, or inside of one. -/
  | wordEdge
  /-- The beginning or the end of the text. -/
  | textEdge
  deriving DecidableEq, Repr

/-- How many hexadecimal digits follow a letter. -/
def codeLength? : Char → Option Nat
  | 'x' => some 2
  | 'u' => some 4
  | 'U' => some 8
  | _ => none

/-- Read some hexadecimal digits behind those that are read. -/
def readCode (m : Mode) : (missing code : Nat) → List Char → Option (Char × List Char)
  | 0, code, rest => if code.isValidChar then some (Char.ofNat code,rest) else none
  | missing + 1, code, text =>
    match m.next text with
    | [] => none
    | c :: rest => do readCode m missing (16 * code + (← hexValue? c)) rest

/-- The character that a letter behind a backslash stands for. -/
def control? : Char → Option Char
  | 'a' => some '\x07'
  | 'f' => some '\x0c'
  | 'n' => some '\n'
  | 'r' => some '\r'
  | 't' => some '\t'
  | 'v' => some '\x0b'
  | _ => none

/-- What a backslash and a character stand for. A sign of no meaning stands for itself. -/
def plainEscape? (c : Char) : Option Sign :=
  if ['d','s','w'].contains c then some (.kind false)
  else if ['D','S','W'].contains c then some (.kind true)
  else if ['A','z'].contains c then some .textEdge
  else if ['b','B','<','>'].contains c then some .wordEdge
  else if c.isAlphanum then (control? c).map .char
  else if c.toNat < 0x80 then some (.char c)
  else none

/-- Read what follows a backslash. -/
def readEscape (m : Mode) : List Char → Option (Sign × List Char)
  | [] => none
  | c :: rest =>
    match codeLength? c with
    | none => (plainEscape? c).map (·,rest)
    | some length =>
      let sign (d : Char) : Sign := if length = 2 then .code d else .char d
      (readCode m length 0 rest).map fun (d,rest) => (sign d,rest)

/-- Whether a sign means something outside of brackets. -/
def Sign.isKnown (m : Mode) : Sign → Bool
  | char _ => !m.isLost
  | code c => !m.isLost && (!m.bytewise || c.toNat < 0x80)
  | kind negated => m.bytewise && !negated
  | wordEdge => m.bytewise
  | textEdge => true

/-! ### Classes in brackets -/

/-- Names of classes of characters, between colons in a class. -/
def classNames : List (List Char) :=
  ["alnum","alpha","ascii","blank","cntrl","digit","graph","lower","print","punct",
   "space","upper","word","xdigit"].map String.toList

/-- Read a named class behind its bracket: whether it is negated, and what follows. -/
def namedClass? : List Char → Option (Bool × List Char)
  | ':' :: text =>
    let negated := text.head? == some '^'
    let text := if negated then text.tail else text
    match text.dropWhile (· != ':') with
    | ':' :: ']' :: rest =>
      if classNames.contains (text.takeWhile (· != ':')) then some (negated,rest) else none
    | _ => none
  | _ => none

/-- An open bracket: the depths of the members so far, and of what was before the last operation. -/
structure Bracket where
  members : List Nat := []
  left : Option Nat := none
  deriving DecidableEq, Repr

namespace Bracket

def add (b : Bracket) (depth : Nat) : Bracket := { b with members := depth :: b.members }

def depth (b : Bracket) : Nat :=
  match b.left with
  | none => together b.members
  | some left => max left (together b.members) + 1

/-- The bracket behind an operation. -/
def operate (b : Bracket) : Bracket := { left := some b.depth }

end Bracket

/-- Read a character or an escape in a class: the character, or none for a class in the class. -/
def readMember (m : Mode) : List Char → Option (Option Char × List Char)
  | [] => none
  | c :: rest => do
    let (sign,rest) ← if c = '\\' then readEscape m rest else some (.char c,rest)
    match sign with
    | .char d | .code d => if m.bytewise && 0x80 ≤ d.toNat then none else some (some d,rest)
    | .kind _ => if sign.isKnown m then some (none,rest) else none
    | _ => none

/-- Read a member of a class, or two with a dash between them for all from one to the other. -/
def readRange (m : Mode) (text : List Char) : Option (List Char) := do
  let (first,rest) ← readMember m text
  match m.next rest with
  | '-' :: more =>
    let more := m.next more
    if more.head? = some ']' || more.head? = some '-' then return rest
    else
      let (last,rest) ← readMember m more
      if (← first) ≤ (← last) then some rest else none
  | _ => return rest

/-- Behind an opened bracket: what follows the sign of negation, if there is one. Bytes that are not
in a class are no characters. -/
def readNegation (m : Mode) (text : List Char) : Option (List Char) :=
  match m.next text with
  | '^' :: rest => if m.bytewise then none else some rest
  | text => some text

/-- Read a class behind its bracket, and give its depth. At the beginning of a class dashes are
members, and so is a bracket that closes before any other member. -/
def readClass (m : Mode) : (fuel : Nat) → (fresh : Bool) → Bracket → (outer : List Bracket) →
    List Char → Option (Nat × List Char)
  | 0, _, _, _, _ => none
  | fuel + 1, fresh, b, outer, text =>
    match m.next text with
    | [] => none
    | c :: rest =>
      if fresh && c == '-' then readClass m fuel true (b.add 0) outer rest
      else if fresh && c == ']' && b.members.isEmpty then
        readClass m fuel false (b.add 0) outer rest
      else if c = '[' then
        match namedClass? rest with
        | some (negated,rest) =>
          if negated && m.bytewise then none else readClass m fuel false (b.add 0) outer rest
        | none => do readClass m fuel true {} (b :: outer) (← readNegation m rest)
      else if c = ']' then
        match outer with
        | [] => some (b.depth + 1,rest)
        | o :: outer => readClass m fuel false (o.add (b.depth + 1)) outer rest
      else if ['&','-','~'].contains c && rest.head? == some c then
        readClass m fuel false b.operate outer rest.tail
      else do readClass m fuel false (b.add 0) outer (← readRange m (c :: rest))

/-! ### Groups -/

/-- The letters that change a mode, and the dash. -/
def modeLetters : List Char := "imsUuRx-".toList

/-- Read letters that change a mode, each at most once, up to the sign that ends them. -/
def readChange : (letters : List Char) → List Char → Option (List Char × List Char)
  | _, [] => none
  | letters, c :: rest =>
    if c = ':' || c = ')' then
      if letters.head? = some '-' then none else some (letters.reverse,c :: rest)
    else if modeLetters.contains c && !letters.contains c then readChange (c :: letters) rest
    else none

/-- The name of a group. -/
def isGroupName : List Char → Bool
  | [] => false
  | c :: rest =>
    (c == '_' || isAlphabetic c) &&
      rest.all fun d => ['_','.','[',']'].contains d || isAlphanumeric d

/-- What a parenthesis opens. -/
inductive Opening where
  | group (name : Option (List Char)) (mode : Mode)
  /-- No group, but another mode for the rest of the one around it. -/
  | change (mode : Mode)
  deriving DecidableEq, Repr

/-- Read the name of a group, up to the sign that ends it. -/
def readName (m : Mode) (text : List Char) : Option (Opening × List Char) :=
  let name := text.takeWhile (· != '>')
  match text.dropWhile (· != '>') with
  | _ :: rest => if isGroupName name then some (.group (some name) m,rest) else none
  | [] => none

/-- Read what follows a parenthesis. -/
def readOpening (m : Mode) (text : List Char) : Option (Opening × List Char) :=
  match m.next text with
  | '?' :: 'P' :: '<' :: rest => readName m rest
  | '?' :: '<' :: rest => readName m rest
  | '?' :: rest => do
    match ← readChange [] rest with
    | (letters,':' :: rest) => return (.group none (m.change letters),rest)
    | (letters,_ :: rest) =>
      if letters.isEmpty then none else some (.change (m.change letters),rest)
    | _ => none
  | text => some (.group none m,text)

/-- An open group: the depths of the alternatives that are complete, the parts of the one that is
not, the last first, and the mode of what follows. -/
structure Group where
  alternatives : List Nat := []
  parts : List Part := []
  mode : Mode := {}
  deriving DecidableEq, Repr

namespace Group

def add (g : Group) (p : Part) : Group := { g with parts := p :: g.parts }

def alternative (g : Group) : Nat := together (g.parts.map Part.depth)

def depth (g : Group) : Nat := together (g.alternative :: g.alternatives)

/-- The group behind a bar. -/
def turn (g : Group) : Group :=
  { g with alternatives := g.alternative :: g.alternatives, parts := [] }

/-- The group with its last part repeated. -/
def repeatLast? (g : Group) : Option Group :=
  match g.parts with
  | .matter depth :: parts => some { g with parts := .matter (depth + 1) :: parts }
  | _ => none

end Group

/-- Groups that are open, the innermost first, and the names of all groups so far. -/
structure Progress where
  group : Group := {}
  outer : List Group := []
  names : List (List Char) := []
  deriving DecidableEq, Repr

namespace Progress

def add (p : Progress) (depth : Nat) : Progress := { p with group := p.group.add (.matter depth) }

/-- Take up what a parenthesis opens. -/
def start? (p : Progress) : Opening → Option Progress
  | .change mode => some { p with group := { p.group.add .change with mode } }
  | .group name mode =>
    if name.any p.names.contains then none
    else some ⟨{ mode },p.group :: p.outer,name.toList ++ p.names⟩

/-- Close a group. -/
def close? (p : Progress) : Option Progress :=
  match p.outer with
  | [] => none
  | g :: outer => some { p with group := g.add (.matter (p.group.depth + 1)), outer }

/-- Read on from a character. -/
def step (p : Progress) (c : Char) (rest : List Char) : Option (Progress × List Char) :=
  let m := p.group.mode
  match c with
  | '(' => do
    let (opening,rest) ← readOpening m rest
    return (← p.start? opening,rest)
  | ')' => p.close?.map (·,rest)
  | '|' => some ({ p with group := p.group.turn },rest)
  | '[' => do
    let (depth,rest) ← readClass m rest.length true {} [] (← readNegation m rest)
    if m.isLost then none else some (p.add depth,rest)
  | '\x7b' => none
  | '.' => if m.bytewise then none else some (p.add 0,rest)
  | '^' | '$' => some (p.add 0,rest)
  | '\\' => do
    let (sign,rest) ← readEscape m rest
    if sign.isKnown m then some (p.add 0,rest) else none
  | c =>
    if ['?','*','+'].contains c then do
      let group ← p.group.repeatLast?
      return ({ p with group },if rest.head? = some '?' then rest.tail else rest)
    else if (Sign.char c).isKnown m then some (p.add 0,rest)
    else none

/-- Whether a pattern can end here. -/
def isDone (p : Progress) : Bool := p.outer.isEmpty && p.group.depth ≤ deepest

/-- Whether a text carries on a pattern to its end. -/
def runs : (fuel : Nat) → Progress → List Char → Bool
  | 0, p, text => text.isEmpty && p.isDone
  | fuel + 1, p, text =>
    match p.group.mode.next text with
    | [] => p.isDone
    | c :: rest =>
      match p.step c rest with
      | some (p,rest) => p.runs fuel rest
      | none => false

end Progress

end Pattern

/-- Whether a text is a pattern. -/
def isPattern (text : List Char) : Bool := Pattern.Progress.runs text.length {} text

example : isPattern "^(a|[b-d])*?$".toList = true ∧ isPattern "(?i-u)room \\d".toList = true := by
  decide +kernel
example : isPattern "*".toList = false ∧ isPattern "[d-b]".toList = false ∧
    isPattern "(a".toList = false ∧ isPattern "\\d".toList = false := by
  decide +kernel

end Blueprint.Text
