import MatrixLang.Tools.Lexing
import MatrixLang.Recognizer
import MatrixLang.Outline.Grammar
import MatrixLang.Script.Grammar
import MatrixLang.Script.Dump
import MatrixLang.Script.Layout
import MatrixLang.Annotated.Grammar

/-!
# The parsing tool

Parsing a text gives its syntax tree, as a record view, or nothing when the parser gave up;
version 2 builds no tree. On request the tool also prints the tree as an indented outline
(versions 3 and 5).
-/
namespace MatrixLang.Tools

/-- The reply of a parse in version 2: no tree, only the reports. -/
def parseRecognizer (src : String) : Reply :=
  match Recognizer.recognize src with
  | (some s, console) => .failed s.failure console
  | (none, console) => .ok [("ast", .none)] console

/-- The reply of a parse in version 3. -/
def parseOutline (src : String) (tree : Bool) : Reply :=
  match Outline.parse src with
  | (.ok (some p), console) =>
    .ok ([("ast", p.dump)] ++ if tree then [("tree", .text p.render)] else []) console
  | (.ok none, console) => .ok [("ast", .none)] console
  | (.error s, console) => .failed s.failure console

/-- The error of printing a program that holds an empty statement. -/
def emptyStatementFailure : Failure := ⟨"AttributeError", "'NoneType' object has no attribute 'toTree'"⟩

/-- The reply of a parse in version 5. -/
def parseScript (src : String) (tree : Bool) : Reply :=
  match Script.parse src with
  | (.ok (some p), console) =>
    if tree then
      match Script.Program.render p with
      | some text => .ok [("ast", Script.dumpProgram p), ("tree", .text text)] console
      | none => .failed emptyStatementFailure console
    else .ok [("ast", Script.dumpProgram p)] console
  | (.ok none, console) => .ok [("ast", .none)] console
  | (.error s, console) => .failed s.failure console

/-- The reply of a parse in version 4. -/
def parseAnnotated (src : String) : Reply :=
  match Annotated.parse src with
  | (.ok (some p), console) => .ok [("ast", Annotated.dumpProgram p)] console
  | (.ok none, console) => .ok [("ast", .none)] console
  | (.error s, console) => .failed s.failure console

end MatrixLang.Tools
