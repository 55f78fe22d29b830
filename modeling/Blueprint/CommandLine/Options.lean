import Blueprint.CommandLine.Argument
import Blueprint.Decimal.Reading
import Blueprint.Layout.Config
import Blueprint.Plan.Load
import Blueprint.Svg.Canvas

/-!
What a command line asks for.
-/

namespace Blueprint.CommandLine

/-- What is written of a layout. -/
inductive OutputFormat where
  | svg
  | json
  deriving DecidableEq, Repr

structure Options where
  file : Option String := none
  inputFormat : Option PlanFormat := none
  format : Option OutputFormat := none
  output : Option String := none
  stylesheet : Option String := none
  maxPasses : Option Nat := none
  originPolicy : Option OriginPolicy := none
  padding : Option Float := none
  scale : Option Float := none
  lint : Bool := false
  strict : Bool := false
  debug : Bool := false
  verbosity : Nat := 0

/-- Put a value where none is yet. -/
def putOnce {β : Type} (s : Setting) (old : Option β) (value : String) (read : Option β) :
    Except UsageError (Option β) :=
  match old, read with
  | some _, _ => .error (.repeated s.name)
  | none, none => .error (.invalidValue s value)
  | none, some b => .ok (some b)

def inputFormat? : String → Option PlanFormat
  | "toml" => some .toml
  | "json" => some .json
  | _ => none

def outputFormat? : String → Option OutputFormat
  | "svg" => some .svg
  | "json" => some .json
  | _ => none

def policy? (name : String) : Option OriginPolicy := OriginPolicy.all.find? (·.name == name)

namespace Options

def set (o : Options) (s : Setting) (value : String) : Except UsageError Options := do
  match s with
  | .inputFormat =>
    return { o with inputFormat := ← putOnce s o.inputFormat value (inputFormat? value) }
  | .format => return { o with format := ← putOnce s o.format value (outputFormat? value) }
  | .output => return { o with output := ← putOnce s o.output value (some value) }
  | .stylesheet => return { o with stylesheet := ← putOnce s o.stylesheet value (some value) }
  | .maxPasses =>
    return { o with maxPasses := ← putOnce s o.maxPasses value (Decimal.word64? value.toList) }
  | .originPolicy =>
    return { o with originPolicy := ← putOnce s o.originPolicy value (policy? value) }
  | .padding =>
    return { o with padding := ← putOnce s o.padding value (Decimal.float? value.toList) }
  | .scale => return { o with scale := ← putOnce s o.scale value (Decimal.float? value.toList) }

def isOn (o : Options) : Switch → Bool
  | .lint => o.lint
  | .strict => o.strict
  | .debug => o.debug
  | .verbose => 0 < o.verbosity

def turnOn (o : Options) (s : Switch) : Except UsageError Options :=
  if o.isOn s && !s.repeats then .error (.repeated s.name)
  else
    .ok <| match s with
      | .lint => { o with lint := true }
      | .strict => { o with strict := true }
      | .debug => { o with debug := true }
      | .verbose => { o with verbosity := o.verbosity + 1 }

def add (o : Options) : Argument → Except UsageError Options
  | .switch s => o.turnOn s
  | .setting s value => o.set s value
  | .file path =>
    match o.file with
    | some _ => .error (.surplusFile path)
    | none => .ok { o with file := some path }

/-- What the words of a command line ask for. -/
def ofWords (words : List String) : Except UsageError Options := do
  let arguments ← readArguments none words
  arguments.foldlM add {}

end Options

/-- The name of a file in a path: what follows the last slash. -/
def fileName (path : List Char) : List Char :=
  ((path.reverse.dropWhile (· == '/')).takeWhile (· != '/')).reverse

/-- The part of a file's name behind its last dot, unless the name begins with that dot. -/
def extension? (path : String) : Option String :=
  let name := fileName path.toList
  if name = ['.','.'] then none
  else
    match Text.splitLast? '.' name with
    | none => none
    | some ([],_) => none
    | some (_,e) => some (String.ofList e)

namespace Options

/-- The format of the plan: as asked for, else by the name of its file. -/
def planFormat (o : Options) : PlanFormat :=
  o.inputFormat.getD (.ofExtension (o.file.bind extension?))

def layoutConfig (o : Options) : LayoutConfig Float :=
  let standard : LayoutConfig Float := .standard
  { standard with
    maxPasses := o.maxPasses.getD standard.maxPasses
    originPolicy := o.originPolicy.getD standard.originPolicy
    padding := o.padding.getD standard.padding }

def svgConfig (o : Options) : Svg.Config :=
  { Svg.Config.standard with
    debug := o.debug
    scale := o.scale.getD Svg.Config.standard.scale }

end Options

end Blueprint.CommandLine
