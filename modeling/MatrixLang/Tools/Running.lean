import MatrixLang.Tools.Checking
import MatrixLang.Script.Eval

/-!
# The interpreting tool

Interpreting a text parses it and, if parsing succeeded, runs the program directly, without
checking it first. The reply holds the value of the run (always nothing: a program is a list of
statements) and the frames of the machine, outermost first; a run that stops on a fault replies
with the fault and the frames as they were then.
-/
namespace MatrixLang.Tools

/-- The reply of an interpretation in version 5. -/
def interpretScript (src : String) : Reply :=
  match Script.parse src with
  | (.error s, console) => .failed s.failure console
  | (.ok none, console) => .ok [("parsed", .bool false)] console
  | (.ok (some p), console) =>
    match Script.Program.run p with
    | .ok m => .ok [("parsed", .bool true), ("result", .none), ("memory", m.memory)] (console.append m.console)
    | .error (f, m) =>
      .failed (Script.Fault.failure f) (console.append m.console) [("parsed", .bool true), ("memory", m.memory)]

end MatrixLang.Tools
