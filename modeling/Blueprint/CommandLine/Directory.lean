import Blueprint.CommandLine.Run

/-!
Runs in a directory of texts. A path is walked name by name; what stops the walk first is what the
run is told. Nothing is known of the directories around the one of the run, except that a file can
be put there. Main statement: a text that is put in a directory is found there, and the other texts
are still found.
-/

namespace Blueprint.CommandLine

/-- Why a path leads to no text, or why no text can be put there. -/
inductive Obstacle where
  | missing
  | notDirectory
  | isDirectory
  | nameTooLong
  deriving DecidableEq, Repr

def Obstacle.message : Obstacle → String
  | missing => "No such file or directory (os error 2)"
  | notDirectory => "Not a directory (os error 20)"
  | isDirectory => "Is a directory (os error 21)"
  | nameTooLong => "File name too long (os error 36)"

/-- The most bytes of one name. -/
def longestName : Nat := 255

/-- The most bytes of a path. -/
def longestPath : Nat := 4095

/-- The names on a path. -/
def pathNames (path : List Char) : List String :=
  ((pieces path).filter fun p => !p.isEmpty).map String.ofList
where
  pieces : List Char → List (List Char)
    | [] => [[]]
    | c :: rest =>
      match pieces rest with
      | [] => [[c]]
      | p :: ps => if c = '/' then [] :: p :: ps else (c :: p) :: ps

/-- Texts by the names that lead to them. -/
structure Directory where
  files : List (List String × String)

/-- Where a path leads. -/
inductive Place where
  | file (text : String)
  /-- A directory in the one of the run, or that one. -/
  | inside (names : List String)
  /-- A directory around the one of the run. -/
  | outside
  deriving DecidableEq, Repr

namespace Directory

def ofFiles (files : List (String × String)) : Directory :=
  ⟨files.map fun (path,text) => ((pathNames path.toList).filter (· != "."),text)⟩

def find? (d : Directory) (names : List String) : Option String := d.files.lookup names

/-- Whether some names lead to a directory. -/
def holds (d : Directory) (names : List String) : Bool :=
  names.isEmpty || d.files.any fun (own,_) => names.isPrefixOf own && names != own

/-- Why a name leads nowhere. -/
def absence (name : String) : Obstacle :=
  if longestName < name.utf8ByteSize then .nameTooLong else .missing

/-- Follow a name. -/
def step (d : Directory) (here : Place) (name : String) : Except Obstacle Place :=
  match here with
  | .file _ => .error .notDirectory
  | .outside => if name = "." || name = ".." then .ok .outside else .error (absence name)
  | .inside names =>
    if name = "." then .ok here
    else if name = ".." then .ok (if names.isEmpty then .outside else .inside names.dropLast)
    else
      let names := names ++ [name]
      match d.find? names with
      | some text => .ok (.file text)
      | none => if d.holds names then .ok (.inside names) else .error (absence name)

/-- Where a path begins. -/
def start (path : String) : Except Obstacle Place :=
  if longestPath < path.utf8ByteSize then .error .nameTooLong
  else if path.startsWith "/" then .ok .outside
  else .ok (.inside [])

/-- Follow names from the beginning of a path. -/
def walk (d : Directory) (path : String) (names : List String) : Except Obstacle Place := do
  names.foldlM d.step (← start path)

/-- Read a text. A slash at the end of a path asks for a directory. -/
def read (d : Directory) (path : String) : Except String String :=
  let names := pathNames path.toList ++ if path.endsWith "/" then ["."] else []
  match d.walk path names with
  | .ok (.file text) => .ok text
  | .ok _ => .error Obstacle.isDirectory.message
  | .error o => .error o.message

/-- The names under which a text is put, or none if that is outside. A text is put only into a
directory that is there, and not under a name that is one of a directory. -/
def destination (d : Directory) (path : String) : Except Obstacle (Option (List String)) := do
  let names := pathNames path.toList
  let here ← d.walk path names.dropLast
  match names.getLast? with
  | none => .error .isDirectory
  | some last =>
    match here, d.step here last with
    | .file _, _ => .error .notDirectory
    | _, found =>
      if path.endsWith "/" then .error .isDirectory
      else match found with
        | .ok (.file _) | .error .missing => .ok (target here last)
        | .ok _ => .error .isDirectory
        | .error o => .error o
where
  target (here : Place) (last : String) : Option (List String) :=
    match here with
    | .inside names => some (names ++ [last])
    | _ => none

/-- Why a file cannot be written. -/
def refusal (d : Directory) (path : String) : Option String :=
  match d.destination path with
  | .ok _ => none
  | .error o => some o.message

def put (d : Directory) (names : List String) (text : String) : Directory :=
  ⟨(names,text) :: d.files⟩

/-- The directory after a file was written. -/
def write (d : Directory) (path text : String) : Directory :=
  match d.destination path with
  | .ok (some names) => d.put names text
  | _ => d

def surroundings (d : Directory) (input : String) (filter : Option String) : Surroundings :=
  ⟨d.read,.ok input,d.refusal,filter⟩

/-- Run in a directory; the outcome, and the directory afterwards. -/
def run (d : Directory) (input : String) (filter : Option String) (o : Options) :
    Outcome × Directory :=
  let outcome := o.run (d.surroundings input filter)
  match outcome.written with
  | none => (outcome,d)
  | some (path,text) => (outcome,d.write path text)

theorem find?_put (d : Directory) (names own : List String) (text : String) :
    (d.put names text).find? own = if own = names then some text else d.find? own := by
  by_cases h : own = names
  · simp [put,find?,h]
  · have hb : (own == names) = false := beq_eq_false_iff_ne.2 h
    simp [put,find?,List.lookup_cons,h,hb]

end Directory

end Blueprint.CommandLine
