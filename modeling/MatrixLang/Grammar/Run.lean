import MatrixLang.Grammar.Table
import MatrixLang.Lexer.Scan
import MatrixLang.Console

/-!
# Running a parse table

The parser keeps a stack of states and of the symbols read (tokens, or values built by
reductions), one lookahead and a stack of pushed-back lookaheads. In a defaulted state it
reduces without reading; otherwise it reads a lookahead (writing the lexer's reports of bad
characters as it passes them) and follows the table.

On a syntax error it recovers in panic mode, there being no error productions:

* the error is reported unless another was reported fewer than three shifts ago; at the end of
  the input the parse then gives up;
* with only the first state left, the offending token is dropped and parsing goes on;
* otherwise the token is pushed back, an `error` symbol becomes the lookahead, and states are
  popped one by one (a defaulted state still reduces) until only the first is left.

So the statements before a syntax error can be lost, and the tree comes from what follows.

The parser reads the lexer's events one token at a time, so when the scan stopped early the parse
ends there, with the stop, as soon as it needs a token past the last one.
-/
namespace MatrixLang.Grammar

/-- The symbol the parser looks at. -/
inductive Ahead where
  | token (t : Token)
  | finish
  /-- The error symbol of recovery, on the line of the token that caused it. -/
  | error (line : Nat)

/-- The table column of a lookahead. -/
def Ahead.kind : Ahead → String
  | .token t => t.kind
  | .finish => endMarker
  | .error _ => errorSymbol

/-- What a parser writes on a syntax error, given the offending token (none at the end of input). -/
abbrev Reporter := Option Token → Console → Console

/-- How a parse ends: with a value, with none when the parse gave up, or on the stop of the scan. -/
abbrev Outcome (α : Type) := Except Lexicon.Stop (Option α)

/-- A parser configuration. -/
structure Config (α : Type) where
  states : List Nat
  cells : List (Cell α)
  ahead : Option Ahead
  pending : List Ahead
  input : List Lexicon.Event
  /-- Why the events end early, if they do. -/
  stop : Option Lexicon.Stop
  /-- Shifts still to come before a new syntax error is reported. -/
  quiet : Nat
  console : Console

/-- The next token of the events, writing the reports met on the way; past the last event, the
end of the input or the stop of the scan. -/
def readAhead (lead : String) (stop : Option Lexicon.Stop) :
    List Lexicon.Event → Console → Except Lexicon.Stop Ahead × List Lexicon.Event × Console
  | [], con => (match stop with | some s => .error s | none => .ok .finish, [], con)
  | .token t :: rest, con => (.ok (.token t), rest, con)
  | .bad ch line :: rest, con => readAhead lead stop rest (con.printLine (Lexicon.badMessage lead ch line))

/-- A parse table with the productions it refers to: what the parser runs. -/
structure Parser (α : Type) where
  table : Table
  shapes : Array Shape
  builds : Array (Option (Nat → List (Cell α) → α))

/-- The parser of a grammar with its table: the productions in the generator's numbering. -/
def Parser.ofGrammar {α : Type} (g : Grammar α) (table : Table) : Parser α :=
  ⟨table, g.numbered.map (·.1), g.numbered.map fun (_, i) => i.bind fun i => (g.rules[i]?).map (·.build)⟩

/-- The action of the current state and the configuration it applies to, after reading a
lookahead if the state needs one; the stop of the scan and the console if reading met it. -/
def Parser.next {α : Type} (ps : Parser α) (lead : String) (c : Config α) :
    (Option Action × Config α) ⊕ (Lexicon.Stop × Console) :=
  let state := c.states.head?.getD 0
  match ps.table.defaultOf state with
  | some p => .inl (some (.reduce p), c)
  | none =>
    let read : Config α ⊕ (Lexicon.Stop × Console) := match c.ahead with
      | some _ => .inl c
      | none => match c.pending with
        | a :: rest => .inl { c with ahead := some a, pending := rest }
        | [] =>
          match readAhead lead c.stop c.input c.console with
          | (.ok a, input, console) => .inl { c with ahead := some a, input := input, console := console }
          | (.error s, _, console) => .inr (s, console)
    match read with
    | .inl c =>
      let kind := (c.ahead.map Ahead.kind).getD endMarker
      .inl (ps.table.action state kind, c)
    | .inr r => .inr r

/-- Shifts the lookahead onto the stack and enters state `j`. -/
def Config.shift {α : Type} (c : Config α) (j : Nat) : Config α :=
  let cell : Cell α := match c.ahead with
    | some (.token t) => .token t
    | _ => .token ⟨endMarker, .text "", 0, 0⟩
  { c with states := j :: c.states, cells := cell :: c.cells, ahead := none, quiet := c.quiet - 1 }

/-- Reduces by production `p`: the cells of its right-hand side give way to the value it builds,
and the state below them moves on its left-hand side; where it has no move the parse gives up. -/
def Parser.reduce {α : Type} [Inhabited α] (ps : Parser α) (p : Nat) (c : Config α) :
    Config α ⊕ (Outcome α × Console) :=
  let shape := ps.shapes[p]?.getD default
  let n := shape.rhs.length
  let children := (c.cells.take n).reverse
  let value := match (ps.builds[p]?).join with
    | some build => build (Cell.lineOf children) children
    | none => default
  let states := c.states.drop n
  match ps.table.target (states.head?.getD 0) shape.lhs with
  | some j => .inl { c with states := j :: states, cells := .value value :: c.cells.drop n }
  | none => .inr (.ok none, c.console)

/-- Accepts the value on top of the stack, if there is one. -/
def Config.accept {α : Type} (c : Config α) : Outcome α × Console :=
  match c.cells.head? with
  | some (.value v) => (.ok (some v), c.console)
  | _ => (.ok none, c.console)

/-- The token a lookahead holds, if any. -/
def Ahead.token? : Ahead → Option Token
  | .token t => some t
  | _ => none

/-- The console after a syntax error on the lookahead: the error is reported unless another was
reported fewer than three shifts ago. -/
def Config.flagged {α : Type} (report : Reporter) (c : Config α) : Console :=
  if c.quiet == 0 then report (c.ahead.getD .finish).token? c.console else c.console

/-- Recovers from a syntax error in panic mode. -/
def Config.recover {α : Type} (report : Reporter) (c : Config α) : Config α ⊕ (Outcome α × Console) :=
  let ahead := c.ahead.getD .finish
  let atEnd := match ahead with | .finish => true | _ => false
  let reported := c.quiet == 0
  let c := { c with quiet := 3, console := c.flagged report }
  if reported && atEnd then .inr (.ok none, c.console)
  else if c.states.length ≤ 1 && !atEnd then .inl { c with ahead := none, pending := [] }
  else if atEnd then .inr (.ok none, c.console)
  else match ahead with
    | .error _ => .inl { c with states := c.states.tail, cells := c.cells.tail }
    | .token t => .inl { c with pending := ahead :: c.pending, ahead := some (.error t.line) }
    | .finish => .inr (.ok none, c.console)

/-- One step of the parser: the next configuration, or how the parse ended. -/
def Parser.step {α : Type} [Inhabited α] (ps : Parser α) (lead : String) (report : Reporter)
    (c : Config α) : Config α ⊕ (Outcome α × Console) :=
  match ps.next lead c with
  | .inr (s, console) => .inr (.error s, console)
  | .inl (act, c) =>
    match act with
    | some (.shift j) => .inl (c.shift j)
    | some (.reduce p) => ps.reduce p c
    | some .accept => .inr c.accept
    | _ => c.recover report

/-- Runs the parser for at most `fuel` steps. -/
def Parser.runFor {α : Type} [Inhabited α] (ps : Parser α) (lead : String) (report : Reporter) :
    Nat → Config α → Outcome α × Console
  | 0, c => (.ok none, c.console)
  | fuel + 1, c =>
    match ps.step lead report c with
    | .inl c' => ps.runFor lead report fuel c'
    | .inr r => r

/-- Parses a scan. Every shift reads a token, at most a few hundred reductions and recovery
steps separate two shifts, and recovery pops at most the stack, so the step budget below,
quadratic in the number of tokens, is never reached. -/
def Parser.run {α : Type} [Inhabited α] (ps : Parser α) (lead : String) (report : Reporter)
    (scan : Lexicon.Scan) (console : Console := {}) : Outcome α × Console :=
  let n := scan.events.length + 2
  ps.runFor lead report (8 * n * (n + 1024)) ⟨[0], [], none, [], scan.events, scan.stop, 0, console⟩

end MatrixLang.Grammar
