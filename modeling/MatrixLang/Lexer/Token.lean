import MatrixLang.Number.Shortest

/-!
# Tokens

A token is what the lexer hands to the parser: its kind (`ID`, `INTNUM`, a one-character
literal such as `+`, …), the value read from its text, the line it starts on and its offset in
characters from the start of the source.
-/
namespace MatrixLang

/-- The value a token carries: its text, or the number its text denotes. -/
inductive Payload where
  | text (s : String)
  | int (n : Nat)
  | float (x : Float)
  deriving Inhabited

/-- A token of the source: kind, value, line (from 1) and character offset (from 0). -/
structure Token where
  kind : String
  value : Payload
  line : Nat
  offset : Nat
  deriving Inhabited

/-- The text of a token's value: the lexeme, the integer, or the shortest text of the double. -/
def Payload.render : Payload → String
  | .text s => s
  | .int n => toString n
  | .float x => Decimal.render x

end MatrixLang
