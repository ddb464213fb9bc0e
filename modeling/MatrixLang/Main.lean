import MatrixLang.Tools.Request

/-!
# Command line

`matrixlang VERSION SCRIPT [FILE]` runs a script of a version of the language on a file:
`VERSION` is `1`, `1m`, `2`, `3`, `4` or `5`, and `SCRIPT` is `main`, `scanner` or `bench`. The
script's output goes to the standard streams; the main script of version 3 writes its outline
to `result.m`. A script that stops on an error prints it on the error stream and exits with
status `1`.
-/
namespace MatrixLang.Cli

/-- The version a command line argument names. -/
def versionOf : String → Option Version
  | "1" => some .v1
  | "1m" => some .v1Named
  | "2" => some .v2
  | "3" => some .v3
  | "4" => some .v4
  | "5" => some .v5
  | _ => none

/-- The script a command line argument names. -/
def scriptOf : String → Option Script
  | "main" => some .main
  | "scanner" => some .scanner
  | "bench" => some .bench
  | _ => none

/-- What opening a path finds: the file's text, or why it cannot be read. -/
def readEntry (path : String) : IO Tools.Entry := do
  match Tools.Entry.ofPathText? path with
  | some entry => return entry
  | none => pure ()
  try
    let text ← IO.FS.readFile path
    pure (.file text)
  catch e =>
    match e with
    | .inappropriateType _ 21 _ => pure .directory
    | .inappropriateType _ 20 _ => pure .pastFile
    | _ => pure (if (path.splitOn "/").any (·.utf8ByteSize > Tools.partLimit) then .tooLong else .missing)

/-- Writes a reply out: its streams, the outline file, and the error if any; gives the exit
status. -/
def emit (r : Reply) : IO UInt32 := do
  IO.print r.console.stdout
  IO.eprint r.console.stderr
  match r.results.lookup "result_file" with
  | some (.text t) => IO.FS.writeFile "result.m" t
  | _ => pure ()
  match r.failure with
  | some f =>
    IO.eprintln s!"{f.kind}: {f.message}"
    pure 1
  | none => pure (r.exit.getD 0).toUInt32

end MatrixLang.Cli

open MatrixLang in
def main (args : List String) : IO UInt32 := do
  match args with
  | v :: s :: rest =>
    match Cli.versionOf v, Cli.scriptOf s with
    | some v, some s =>
      let path := Tools.scriptPath v s rest
      let entry ← match path with
        | some p => Cli.readEntry p
        | none => pure .missing
      Cli.emit (Tools.runScript v s rest fun p => if some p == path then entry else .missing)
    | _, _ =>
      IO.eprintln "usage: matrixlang VERSION SCRIPT [FILE]"
      pure 2
  | _ =>
    IO.eprintln "usage: matrixlang VERSION SCRIPT [FILE]"
    pure 2
