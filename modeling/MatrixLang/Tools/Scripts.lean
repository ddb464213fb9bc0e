import MatrixLang.Tools.Running
import MatrixLang.Tools.Parsing

/-!
# The command line scripts

Each version comes with scripts that read a source file named on the command line (or a default
file) and print what a tool makes of it. What a script finds at a path is given as a function
from paths to entries: a file with its text, a directory, nothing, or a path that goes on past a
file.

* The scanner scripts print one token a line: `LINE: KIND(value)` in version 1, and
  `(LINE): KIND(value)` in versions 4 and 5, between the reports of bad characters.
* The main script of version 2 only parses; that of version 3 writes the outline of the tree to
  the file `result.m`; that of version 4 checks the program; that of version 5 prints the outline,
  checks the program and, if the checker found no error, runs it.
* A file that cannot be opened is an error in versions 1 and 2, and a message with the exit status
  `0` in versions 4 and 5. Version 3 answers a missing file with a message and the exit status
  `1`, and any other path that is not a file with an error; an error while parsing is a message
  and the exit status `1`.
* The benchmark script stops at once, on a lexer that has not set its line counter.
-/
namespace MatrixLang

namespace Tools

/-- What a script finds when it opens a path. -/
inductive Entry where
  | file (text : String)
  | directory
  | missing
  /-- A path that goes on past a file as if the file were a directory. -/
  | pastFile
  /-- A path holding the character `NUL`, which names nothing. -/
  | unnamable
  /-- A path longer than `pathLimit` bytes, or with a part longer than `partLimit` bytes. -/
  | tooLong

/-- What a script finds at each path. -/
abbrev Files := String → Entry

/-- The most bytes a path may have, its terminating `NUL` not included. -/
def pathLimit : Nat := 4095

/-- The most bytes a part of a path between two slashes may have. -/
def partLimit : Nat := 255

/-- Where a walk along the parts of a path has got to. -/
inductive Place where
  /-- The working directory. -/
  | work
  /-- Another directory: one above the working directory, or the root. -/
  | other
  /-- The one file of the working directory. -/
  | input
  deriving DecidableEq

/-- Walks the parts of a path from a place in a working directory that holds only `input.m`,
whose text is `src`. Empty parts and `.` stay, `..` leaves for a directory of which only the
working directory is known, and a part after the file goes past it. A part is looked up in a
directory only when the walk reaches it, so a part too long to name anything is found out there,
after the parts before it. -/
def walkPath (src : String) : List String → Place → Entry
  | [], .input => .file src
  | [], _ => .directory
  | _ :: _, .input => .pastFile
  | part :: rest, place =>
    if part == "" || part == "." then walkPath src rest place
    else if part == ".." then walkPath src rest .other
    else if part.utf8ByteSize > partLimit then .tooLong
    else if part == "input.m" && place == .work then walkPath src rest .input
    else .missing

/-- What a path names before its parts are looked up: nothing when it is empty, holds `NUL` or
is too long as a whole. -/
def Entry.ofPathText? (path : String) : Option Entry :=
  if path.contains (Char.ofNat 0) then some .unnamable
  else if path.isEmpty then some .missing
  else if path.utf8ByteSize > pathLimit then some .tooLong
  else none

/-- A working directory that holds one file, `input.m`, with the given text. -/
def onlyInput (src : String) : Files := fun path =>
  (Entry.ofPathText? path).getD
    (walkPath src (path.splitOn "/") (if path.startsWith "/" then .other else .work))

/-- Reads characters in text mode, after those already read: each line end, `\r\n` or a lone
`\r`, reads as `\n`. -/
def textModeFrom (read : Array Char) : List Char → Array Char
  | '\r' :: '\n' :: rest => textModeFrom (read.push '\n') rest
  | '\r' :: rest => textModeFrom (read.push '\n') rest
  | c :: rest => textModeFrom (read.push c) rest
  | [] => read

/-- The text of a file as a script reads it, in text mode. -/
def textMode (raw : String) : String := String.ofList (textModeFrom #[] raw.toList).toList

/-- The file a script reads: its first argument, or its default. -/
def fileArgument (args : List String) (default : String) : String := args.headD default

/-- The error of loading a tool a version does not have. -/
def missingModule (name : String) : Failure := ⟨"ModuleNotFoundError", s!"No module named {Quote.quote name}"⟩

/-- The error of opening a missing file. -/
def missingFile (path : String) : Failure :=
  ⟨"FileNotFoundError", s!"[Errno 2] No such file or directory: {Quote.quote path}"⟩

/-- The error of opening a path that is not a file. -/
def Entry.openFailure (path : String) : Entry → Failure
  | .directory => ⟨"IsADirectoryError", s!"[Errno 21] Is a directory: {Quote.quote path}"⟩
  | .pastFile => ⟨"NotADirectoryError", s!"[Errno 20] Not a directory: {Quote.quote path}"⟩
  | .unnamable => ⟨"ValueError", "embedded null byte"⟩
  | .tooLong => ⟨"OSError", s!"[Errno 36] File name too long: {Quote.quote path}"⟩
  | _ => missingFile path

/-- The reply of a script that prints a message and exits with a status. -/
def exitWith (message : String) (status : Nat) : Reply :=
  { console := Console.printLine {} message, exit := some status }

/-- The scanner script: prints each token with `shown`, after reading the file or replying
`missing` when it cannot be opened. -/
def scannerScript (v : Version) (text : String) (shown : Token → String) : Reply :=
  let lx := v.lexicon
  let s := lx.scan text
  let console := s.write lx (fun t => some (shown t)) {}
  match s.stop with
  | some st => .failed st.failure console
  | none => .ok [] console

/-- A token as the scanner script of version 1 prints it. -/
def plainToken (t : Token) : String := s!"{t.line}: {t.kind}({t.value.render})"

/-- A token as the scanner scripts of versions 4 and 5 print it. -/
def lineToken (t : Token) : String := s!"({t.line}): {t.kind}({t.value.render})"

/-- The main script of version 3. -/
def outlineMain (args : List String) (files : Files) : Reply :=
  match args.head? with
  | none => exitWith "Usage: python main.py <input_file>" 1
  | some path =>
    match files path with
    | .file raw =>
      match Outline.parse (textMode raw) with
      | (.ok (some p), console) => .ok [("result_file", .text p.render)] console
      | (.ok none, console) => .ok [] console
      | (.error s, console) =>
        { console := console.printLine s!"Error during parsing: {s.failure.message}", exit := some 1 }
    | .missing => exitWith s!"Error: File '{path}' not found" 1
    | entry => .failed (entry.openFailure path) {}

/-- The main script of version 5 on a source text. -/
def scriptMain (text : String) : Reply :=
  match Script.parse text with
  | (.error s, console) => .failed s.failure console
  | (.ok none, console) => .ok [] console
  | (.ok (some p), console) =>
    let console := console.printLine "Abstract syntax tree:"
    match Script.Program.render p with
    | none => .failed emptyStatementFailure console
    | some tree =>
      let console := (console.printLine tree).printLine ""
      match Script.Program.check p with
      | .error (f, _) => .failed (Script.Error.failure f) console
      | .ok c =>
        if c.errors.isEmpty then
          let console := console.printLine "Interpreting the program:"
          match Script.Program.run p with
          | .ok m => .ok [] (console.append m.console)
          | .error (f, m) => .failed (Script.Fault.failure f) (console.append m.console)
        else
          .ok [] (c.errors.foldl (fun con e => con.printLine e) (console.printLine "Semantic analysis failed! Errors:"))

/-- The main script of version 4 on a source text: it checks the program. -/
def annotatedMain (text : String) : Reply :=
  match Annotated.parse text with
  | (.error s, console) => .failed s.failure console
  | (.ok none, console) => .ok [] console
  | (.ok (some p), console) =>
    match Annotated.Program.check p with
    | .ok c => .ok [] (console.append c.console)
    | .error (f, c) => .failed (Script.Error.failure f) (console.append c.console)

/-- A script of versions 4 and 5: it runs `body` on the file, or prints that it cannot open it. -/
def withFile (args : List String) (files : Files) (body : String → Reply) : Reply :=
  let path := fileArgument args "examples/example.txt"
  match files path with
  | .file raw => body (textMode raw)
  | .unnamable => .failed (Entry.unnamable.openFailure path) {}
  | _ => exitWith s!"Cannot open {path} file" 0

/-- A script of versions 1 and 2: it runs `body` on the file, or fails when it cannot open it. -/
def withFileOrFail (args : List String) (default : String) (files : Files) (body : String → Reply) :
    Reply :=
  let path := fileArgument args default
  match files path with
  | .file raw => body (textMode raw)
  | entry => .failed (entry.openFailure path) {}

/-- The file a script opens, if it opens one. -/
def scriptPath (v : Version) (script : Script) (args : List String) : Option String :=
  match script, v with
  | .bench, _ => none
  | .scanner, .v1 | .main, .v1 => some (fileArgument args "examples/example.txt")
  | .scanner, .v1Named | .main, .v1Named => some (fileArgument args "example.txt")
  | .scanner, .v4 | .scanner, .v5 | .main, .v4 | .main, .v5 => some (fileArgument args "examples/example.txt")
  | .scanner, _ => none
  | .main, .v2 => some (fileArgument args "examples/example2.m")
  | .main, .v3 => args.head?

/-- The error the benchmark script stops on. -/
def benchLexerFailure : Failure := ⟨"AttributeError", "'Scanner' object has no attribute 'lineno'"⟩

/-- The reply of a script. -/
def runScript (v : Version) (script : Script) (args : List String) (files : Files) : Reply :=
  match script, v with
  | .bench, _ => .failed benchLexerFailure {}
  | .scanner, .v1 | .main, .v1 =>
    withFileOrFail args "examples/example.txt" files fun text => scannerScript .v1 text plainToken
  | .scanner, .v1Named | .main, .v1Named =>
    withFileOrFail args "example.txt" files fun text => scannerScript .v1Named text plainToken
  | .scanner, .v4 => withFile args files fun text => scannerScript .v4 text lineToken
  | .scanner, .v5 => withFile args files fun text => scannerScript .v5 text lineToken
  | .scanner, _ => .ok [] {}
  | .main, .v2 => withFileOrFail args "examples/example2.m" files fun text =>
    match Recognizer.recognize text with
    | (some s, console) => .failed s.failure console
    | (none, console) => .ok [] console
  | .main, .v3 => outlineMain args files
  | .main, .v4 => withFile args files annotatedMain
  | .main, .v5 => withFile args files scriptMain

end Tools
end MatrixLang
