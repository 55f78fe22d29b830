import Blueprint.CommandLine.Run

/-!
The program: it reads what a run needs, hands it to the run, and does what the run leaves behind.
-/

open Blueprint.CommandLine

/-- Read a text, or say why not. -/
def readText (act : IO String) : IO (Except String String) := do
  try return .ok (← act)
  catch e => return .error (toString e)

/-- The files that options name, with what reading them gives. -/
def readFiles (paths : List String) : IO (List (String × Except String String)) :=
  paths.mapM fun (path : String) => return (path,← readText (IO.FS.readFile path))

def leave (outcome : Outcome) : IO UInt32 := do
  IO.eprint outcome.messages
  IO.print outcome.output
  return UInt32.ofNat outcome.status

def main (words : List String) : IO UInt32 := do
  match Options.ofWords words with
  | .error e =>
    IO.eprintln s!"error: {e.message}"
    return 2
  | .ok o =>
    let files ← readFiles (o.stylesheet.toList ++ o.file.toList)
    let input ← if o.file.isSome then pure (.ok "") else readText do (← IO.getStdin).readToEnd
    let filter ← IO.getEnv filterVariable
    let read (path : String) : Except String String := (files.lookup path).getD (.error "not read")
    match prepare ⟨read,input,fun _ => none,filter⟩ o with
    | .error messages => leave (.failed messages)
    | .ok job =>
      let refusal ← match job.target with
        | none => pure none
        | some path =>
          match ← readText (do IO.FS.writeFile path job.document; return "") with
          | .ok _ => pure none
          | .error reason => pure (some reason)
      leave (job.conclude refusal)
