import MatrixLang.Tools.Lexing
import MatrixLang.Script.Grammar
import MatrixLang.Script.Check
import MatrixLang.Annotated.Grammar
import MatrixLang.Annotated.Check

/-!
# The checking tool

Checking a text parses it and, if parsing succeeded, runs the checker on the tree. The reply
tells whether the text parsed, lists the errors found, and shows the scope the checker ended in
and the symbols of the outermost scope. A checker that stops on an error replies with the error
and the errors found before it.
-/
namespace MatrixLang.Tools

/-- The failure an error of version 5 stands for. -/
def Script.Error.failure (e : Script.Error) : Failure := ⟨e.kind, e.message⟩

/-- The failure a fault of version 5 stands for. -/
def Script.Fault.failure (f : Script.Fault) : Failure := ⟨f.kind, f.message⟩

/-- The record view of error messages. -/
def errorList (errors : Array String) : Dump := .list (errors.toList.map Dump.text)

/-- The reply of a check in version 5. -/
def checkScript (src : String) : Reply :=
  match Script.parse src with
  | (.error s, console) => .failed s.failure console
  | (.ok none, console) => .ok [("parsed", .bool false)] console
  | (.ok (some p), console) =>
    match Script.Program.check p with
    | .ok c =>
      .ok [("parsed", .bool true), ("errors", errorList c.errors), ("scope", .text c.scopeName),
        ("symbols", .record (c.globals.map fun (n, s) => (n, s.dump)))] console
    | .error (f, c) =>
      .failed (Script.Error.failure f) console [("parsed", .bool true), ("errors", errorList c.errors)]

/-- The reply of a check in version 4: the messages are on the standard output. -/
def checkAnnotated (src : String) : Reply :=
  match Annotated.parse src with
  | (.error s, console) => .failed s.failure console
  | (.ok none, console) => .ok [("parsed", .bool false)] console
  | (.ok (some p), console) =>
    match Annotated.Program.check p with
    | .ok c =>
      .ok [("parsed", .bool true), ("errors", errorList c.errors), ("scope", .text c.scopeName),
        ("symbols", .record (c.globals.map fun (n, s) => (n, s.dump)))] (console.append c.console)
    | .error (f, c) =>
      .failed (Script.Error.failure f) (console.append c.console)
        [("parsed", .bool true), ("errors", errorList c.errors)]

end MatrixLang.Tools
