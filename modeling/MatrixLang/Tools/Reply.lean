import MatrixLang.Console
import MatrixLang.Text.Dump

/-!
# Replies of the tools

Each tool of the language (the lexer, the parsers, the checkers, the interpreter and the command
line scripts) answers a request with a reply: named results, what it wrote to the console, and,
if it stopped on an error, the kind of that error and its message. A script that ends with an
exit status carries it too.
-/
namespace MatrixLang

/-- An error that stopped a tool: its kind (such as `TypeError`) and its message. -/
structure Failure where
  kind : String
  message : String
  deriving Inhabited

/-- The answer of a tool. -/
structure Reply where
  results : List (String × Dump) := []
  console : Console := {}
  failure : Option Failure := none
  exit : Option Nat := none
  deriving Inhabited

namespace Reply

/-- A reply with the given results. -/
def ok (results : List (String × Dump)) (console : Console) : Reply := { results, console }

/-- A reply for a tool that stopped on an error, with what it had found so far. -/
def failed (f : Failure) (console : Console) (results : List (String × Dump) := []) : Reply :=
  { results, console, failure := some f }

end Reply
end MatrixLang
