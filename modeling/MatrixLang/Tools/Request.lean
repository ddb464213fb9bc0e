import MatrixLang.Tools.Parsing
import MatrixLang.Tools.Checking
import MatrixLang.Tools.Running
import MatrixLang.Tools.Scripts
import MatrixLang.Tools.Bench

/-!
# Requests

A request names a tool, the version of the language it runs in, and its input. Scripts run in a
working directory that holds one file, `input.m`, with the source text of the request. A version
without the requested tool (version 1 has no parser, versions 1 to 3 no checker) replies that
the module of that tool is missing.
-/
namespace MatrixLang

/-- A request to one of the tools. -/
inductive Request where
  | tokens (v : Version) (src : String)
  | parse (v : Version) (src : String) (tree : Bool)
  | check (v : Version) (src : String)
  | interpret (src : String)
  | run (v : Version) (script : Script) (args : List String) (src : String)
  | bench (name : String) (params : List (String × Int))
  deriving Inhabited

namespace Request

/-- The reply to a request. -/
def answer : Request → Reply
  | .tokens v src => Tools.tokens v src
  | .parse .v2 src _ => Tools.parseRecognizer src
  | .parse .v3 src tree => Tools.parseOutline src tree
  | .parse .v5 src tree => Tools.parseScript src tree
  | .parse .v4 src _ => Tools.parseAnnotated src
  | .check .v4 src => Tools.checkAnnotated src
  | .check .v5 src => Tools.checkScript src
  | .interpret src => Tools.interpretScript src
  | .run v script args src => Tools.runScript v script args (Tools.onlyInput src)
  | .bench name params => Tools.bench name params
  | .parse _ _ _ => .failed (Tools.missingModule "parser") {}
  | .check _ _ => .failed (Tools.missingModule "TypeChecker") {}

end Request
end MatrixLang
