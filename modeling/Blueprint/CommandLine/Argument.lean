/-!
The words of a command line: switches, settings with a value, and the name of a file.
-/

namespace Blueprint.CommandLine

inductive Switch where
  | lint
  | strict
  | debug
  | verbose
  deriving DecidableEq, Repr

inductive Setting where
  | inputFormat
  | format
  | output
  | stylesheet
  | maxPasses
  | originPolicy
  | padding
  | scale
  deriving DecidableEq, Repr

namespace Switch

def all : List Switch := [lint,strict,debug,verbose]

def name : Switch → String
  | lint => "lint"
  | strict => "strict"
  | debug => "debug"
  | verbose => "verbose"

def letter? : Switch → Option Char
  | debug => some 'd'
  | verbose => some 'v'
  | _ => none

/-- Whether the switch may be given again. -/
def repeats : Switch → Bool
  | verbose => true
  | _ => false

end Switch

namespace Setting

def all : List Setting :=
  [inputFormat,format,output,stylesheet,maxPasses,originPolicy,padding,scale]

def name : Setting → String
  | inputFormat => "input-format"
  | format => "format"
  | output => "output"
  | stylesheet => "stylesheet"
  | maxPasses => "max-iterations"
  | originPolicy => "origin-policy"
  | padding => "padding"
  | scale => "scale"

def letter? : Setting → Option Char
  | format => some 'f'
  | output => some 'o'
  | stylesheet => some 's'
  | _ => none

end Setting

inductive Argument where
  | switch (s : Switch)
  | setting (s : Setting) (value : String)
  | file (path : String)
  deriving DecidableEq, Repr

/-- Why a command line is not understood. -/
inductive UsageError where
  | unknown (word : String)
  | missingValue (s : Setting)
  | invalidValue (s : Setting) (value : String)
  | repeated (name : String)
  | surplusFile (path : String)
  | emptyFile
  deriving DecidableEq, Repr

def UsageError.message : UsageError → String
  | unknown word => s!"unexpected argument '{word}' found"
  | missingValue s => s!"a value is required for '--{s.name}' but none was supplied"
  | invalidValue s value => s!"invalid value '{value}' for '--{s.name}'"
  | repeated name => s!"the argument '--{name}' cannot be used multiple times"
  | surplusFile path => s!"unexpected argument '{path}' found"
  | emptyFile => "a value is required for '[FILE]' but none was supplied"

/-- A word that names an option and is no value. A dash alone is a value. -/
def isOption (word : List Char) : Bool :=
  match word with
  | '-' :: _ :: _ => true
  | _ => false

def settingArgument (s : Setting) (value : List Char) : Except UsageError Argument :=
  if value.isEmpty then .error (.missingValue s) else .ok (.setting s (String.ofList value))

/-- What a word with two dashes means: an argument, or a setting whose value is the next word. -/
def readLong (word : List Char) : Except UsageError (Argument ⊕ Setting) :=
  let name := String.ofList (word.takeWhile (· != '='))
  match word.dropWhile (· != '=') with
  | [] =>
    match Switch.all.find? (·.name == name), Setting.all.find? (·.name == name) with
    | some s, _ => .ok (.inl (.switch s))
    | none, some s => .ok (.inr s)
    | none, none => .error (.unknown name)
  | _ :: value =>
    match Setting.all.find? (·.name == name) with
    | some s => (settingArgument s value).map .inl
    | none => .error (.unknown name)

/-- What the letters behind one dash mean: switches, and at the end a setting that may wait for the
next word. -/
def readLetters : List Char → Except UsageError (List Argument × Option Setting)
  | [] => .ok ([],none)
  | c :: rest =>
    match Switch.all.find? (·.letter? == some c), Setting.all.find? (·.letter? == some c) with
    | some s, _ => (readLetters rest).map fun (others,last) => (.switch s :: others,last)
    | none, some s =>
      match rest with
      | [] => .ok ([],some s)
      | '=' :: value => (settingArgument s value).map fun a => ([a],none)
      | value => (settingArgument s value).map fun a => ([a],none)
    | none, none => .error (.unknown (String.ofList ['-',c]))

def fileArgument (path : String) : Except UsageError Argument :=
  if path.isEmpty then .error .emptyFile else .ok (.file path)

/-- The arguments of a command line, in order. Behind two dashes alone, all words are files. A
setting that waits for its value takes the next word, unless that names an option. -/
def readArguments : (waiting : Option Setting) → List String → Except UsageError (List Argument)
  | none, [] => .ok []
  | some s, [] => .error (.missingValue s)
  | some s, word :: rest =>
    if isOption word.toList then .error (.missingValue s)
    else do
      let argument ← settingArgument s word.toList
      return argument :: (← readArguments none rest)
  | none, word :: rest =>
    match word.toList with
    | ['-','-'] => rest.mapM fileArgument
    | '-' :: '-' :: name => do
      match ← readLong name with
      | .inl argument => return argument :: (← readArguments none rest)
      | .inr s => readArguments (some s) rest
    | '-' :: c :: letters => do
      let (arguments,last) ← readLetters (c :: letters)
      return arguments ++ (← readArguments last rest)
    | _ => do
      let argument ← fileArgument word
      return argument :: (← readArguments none rest)

end Blueprint.CommandLine
