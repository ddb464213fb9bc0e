import MatrixLang.Tools.Reply
import MatrixLang.Lexer.Lexicons

/-!
# Versions and the lexing tool

The language exists in five versions. Version 1 is only a lexer, and it comes in two variants:
the main one, and one that names its arithmetic operators and stops on the first character it
does not accept. Version 2 adds a grammar, version 3 a syntax tree, version 4 a type checker
and version 5 an interpreter. Versions 1 and 2 share their lexicon.

The lexing tool lists the tokens of a text with their kind, value, line and offset; the reports
of bad characters go to the standard output, in the order the lexer meets them.
-/
namespace MatrixLang

/-- The versions of the language. -/
inductive Version where
  | v1
  | v1Named
  | v2
  | v3
  | v4
  | v5
  deriving DecidableEq, Repr, Inhabited

/-- The command line scripts: the main script of a version, its scanner, and the benchmark. -/
inductive Script where
  | main
  | scanner
  | bench
  deriving DecidableEq, Repr, Inhabited

/-- The lexicon of a version. -/
def Version.lexicon : Version → Lexicon
  | .v1 | .v2 => Lexicon.v1
  | .v1Named => Lexicon.v1Named
  | .v3 => Lexicon.v3
  | .v4 => Lexicon.v4
  | .v5 => Lexicon.v5

/-- The record view of a token's value. -/
def Payload.dump : Payload → Dump
  | .text s => .text s
  | .int n => .int n
  | .float x => .float x

/-- The record view of a token: kind, value, line and offset. -/
def Token.dump (t : Token) : Dump := .list [.text t.kind, t.value.dump, .int t.line, .int t.offset]

/-- The error a scan stops on: a character the lexicon halts on, or a whole number too long to
read. -/
def Lexicon.Stop.failure : Lexicon.Stop → Failure
  | .illegal c offset =>
    ⟨"LexError", s!"Illegal character {Quote.quote (String.singleton c)} at index {offset}"⟩
  | .longNumeral digits =>
    ⟨"ValueError", s!"Exceeds the limit ({Lexicon.numeralLimit} digits) for integer string conversion: " ++
      s!"value has {digits} digits; use sys.set_int_max_str_digits() to increase the limit"⟩

/-- Writes the events of a scan: the reports of bad characters, and each token as `shown` prints
it (nothing, when it prints none). -/
def Lexicon.Scan.write (s : Lexicon.Scan) (lx : Lexicon) (shown : Token → Option String)
    (console : Console) : Console :=
  s.events.foldl (fun con e =>
    match e with
    | .token t => match shown t with
      | some line => con.printLine line
      | none => con
    | .bad c line => con.printLine (Lexicon.badMessage lx.lead c line)) console

namespace Tools

/-- The tokens of a text in a version. -/
def tokens (v : Version) (src : String) : Reply :=
  let lx := v.lexicon
  let s := lx.scan src
  let console := s.write lx (fun _ => none) {}
  match s.stop with
  | some st => .failed st.failure console
  | none => .ok [("tokens", .list (s.tokens.map Token.dump))] console

end Tools
end MatrixLang
