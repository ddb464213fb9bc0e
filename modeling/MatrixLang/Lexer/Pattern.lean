import MatrixLang.Lexer.Digits

/-!
# Lexeme patterns

A pattern looks at the start of the remaining text and says how many characters its lexeme
takes there, or that it does not apply. Each pattern is the leftmost-first reading of one
regular expression of the lexicons: alternatives are tried in order, repetitions take as much as
they can, and a lazy repetition takes as little as it can. Every lexeme taken is non-empty.
-/
namespace MatrixLang

/-- The length of the lexeme a pattern takes at the start of the text, if it applies. -/
abbrev Pattern := List Char → Option Nat

namespace Pattern

/-- How many leading characters satisfy `p`. -/
def countWhile (p : Char → Bool) (cs : List Char) : Nat := (cs.takeWhile p).length

/-- Exactly the characters of `s`. -/
def exact (s : String) : Pattern := fun cs =>
  if s.toList.isPrefixOf cs ∧ s.length > 0 then some s.length else none

/-- A letter or underscore, then letters, digits and underscores (ASCII only). -/
def identifier : Pattern := fun cs =>
  let starts (c : Char) := ('a' ≤ c ∧ c ≤ 'z') ∨ ('A' ≤ c ∧ c ≤ 'Z') ∨ c = '_'
  let continues (c : Char) := starts c ∨ ('0' ≤ c ∧ c ≤ '9')
  match cs with
  | c :: rest => if starts c then some (1 + countWhile (fun d => decide (continues d)) rest) else none
  | [] => none

/-- One or more decimal digits. -/
def digitRun : Pattern := fun cs =>
  let n := countWhile Digits.isDigit cs
  if n > 0 then some n else none

/-- An exponent: `e` or `E`, an optional sign and at least one digit; `0` when there is none. -/
def exponentLength : List Char → Nat
  | c :: rest =>
    if c = 'e' ∨ c = 'E' then
      let (sign, digits) := match rest with
        | s :: r => if s = '+' ∨ s = '-' then (1, r) else (0, rest)
        | [] => (0, [])
      let d := countWhile Digits.isDigit digits
      if d > 0 then 1 + sign + d else 0
    else 0
  | [] => 0

/-- A number with a point (`12.`, `1.5`, `.5`) and an optional exponent, or digits with a
compulsory exponent (`1e5`). -/
def decimalNumber : Pattern := fun cs =>
  let lead := countWhile Digits.isDigit cs
  let pointed : Option Nat :=
    if lead > 0 then
      match cs.drop lead with
      | '.' :: rest => some (lead + 1 + countWhile Digits.isDigit rest)
      | _ => none
    else
      match cs with
      | '.' :: rest =>
        let d := countWhile Digits.isDigit rest
        if d > 0 then some (1 + d) else none
      | _ => none
  match pointed with
  | some n => some (n + exponentLength (cs.drop n))
  | none =>
    let e := exponentLength (cs.drop lead)
    if lead > 0 ∧ e > 0 then some (lead + e) else none

/-- `#` and the rest of the line, without its end. -/
def comment : Pattern
  | '#' :: rest => some (1 + countWhile (· != '\n') rest)
  | _ => none

/-- A run of line ends. -/
def lineEnds : Pattern := fun cs =>
  let n := countWhile (· == '\n') cs
  if n > 0 then some n else none

/-- The body of a string with backslash escapes, through its closing quote. A backslash takes
the next character unless that is a line end; other characters, line ends included, stand for
themselves. -/
def escapedBody : List Char → Option Nat
  | [] => none
  | '"' :: _ => some 1
  | '\\' :: c :: rest => if c = '\n' then none else (escapedBody rest).map (· + 2)
  | ['\\'] => none
  | _ :: rest => (escapedBody rest).map (· + 1)

/-- A double-quoted string with backslash escapes, possibly over several lines. -/
def escapedString : Pattern
  | '"' :: rest => (escapedBody rest).map (· + 1)
  | _ => none

/-- The characters up to the first `q` on the same line, that quote included. -/
def closedOnLine (q : Char) : List Char → Option Nat
  | [] => none
  | c :: rest =>
    if c = q then some 1
    else if c = '\n' then none
    else (closedOnLine q rest).map (· + 1)

/-- A string in double or single quotes, closed by the first matching quote on its line. -/
def quotedLine : Pattern
  | '"' :: rest => (closedOnLine '"' rest).map (· + 1)
  | '\'' :: rest => (closedOnLine '\'' rest).map (· + 1)
  | _ => none

end Pattern
end MatrixLang
