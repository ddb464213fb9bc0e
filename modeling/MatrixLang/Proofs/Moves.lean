import MatrixLang.Grammar.Run

/-!
# The parser's moves on a quiet parse

A configuration of a parse that has met nothing amiss is seen as its stack of states, its cells
and the tokens still to come (`Config.Shows`), whether the next of them has been read into the
lookahead or not. On such a configuration the parser does what the table says for the state on
top and the kind of the next token (`Table.actionAt`), and writes nothing. `Parser.Moves` counts
these steps and strings them together, so that a run on tokens and stacks of any length can be
followed symbolically, from the table's entries alone.

## Main results

* `Parser.Moves.shift`, `Parser.Moves.reduce`: one step of a quiet parse.
* `Parser.Moves.trans`: moves compose.
* `Parser.Moves.accepts`: a parse whose moves end where the table accepts returns the value on
  top of the stack and leaves the console as it was.
-/
namespace MatrixLang.Grammar

variable {α : Type}

/-- The action a state takes when the next token is of the given kind: its default reduction, or
the table's entry for the kind. -/
def Table.actionAt (t : Table) (s : Nat) (kind : String) : Option Action :=
  match t.defaultOf s with
  | some p => some (.reduce p)
  | none => t.action s kind

/-- The kind of the next token, or the end of the input. -/
def nextKind (rest : List Token) : String := (rest.head?.map Token.kind).getD endMarker

/-- The tokens still to come as a configuration holds them, with no report among the events:
unread, the first of them read into the lookahead, or, when none is left, the end of the input
read. -/
inductive Upcoming : List Token → Option Ahead → List Lexicon.Event → Prop
  | unread (rest : List Token) : Upcoming rest none (rest.map .token)
  | read (tk : Token) (rest : List Token) :
      Upcoming (tk :: rest) (some (.token tk)) (rest.map .token)
  | finished : Upcoming [] (some .finish) []

/-- What the parser works on: the states and cells of its stack, and the tokens still to come. -/
structure View (α : Type) where
  states : List Nat
  cells : List (Cell α)
  rest : List Token

/-- A configuration of a parse that has met nothing amiss shows a view: its stack is the view's,
the view's tokens are still to come, nothing is pushed back and no error keeps the parser quiet. -/
structure Config.Shows (c : Config α) (v : View α) : Prop where
  states : c.states = v.states
  cells : c.cells = v.cells
  upcoming : Upcoming v.rest c.ahead c.input
  pending : c.pending = []
  stop : c.stop = none
  quiet : c.quiet = 0

section Steps

variable {ps : Parser α} {lead : String} {report : Reporter} {c : Config α} {s : Nat}
  {states : List Nat} {cells : List (Cell α)} {rest : List Token}

/-- Reading the lookahead, when the state needs one, keeps the view and writes nothing: the
action taken is the state's action on the next token. -/
theorem Config.Shows.next (ps : Parser α) (lead : String) (h : c.Shows ⟨s :: states, cells, rest⟩) :
    ∃ c', ps.next lead c = .inl (ps.table.actionAt s (nextKind rest), c') ∧
      c'.Shows ⟨s :: states, cells, rest⟩ ∧ c'.console = c.console ∧
      (ps.table.defaultOf s = none → c'.ahead ≠ none) := by
  obtain ⟨states', cells', ahead, pending, input, stop, quiet, console⟩ := c
  obtain ⟨states_eq, cells_eq, upcoming, pending_eq, stop_eq, quiet_eq⟩ := h
  dsimp only at states_eq cells_eq upcoming pending_eq stop_eq quiet_eq
  subst states_eq cells_eq pending_eq stop_eq quiet_eq
  unfold Parser.next Table.actionAt
  simp only [List.head?_cons, Option.getD_some]
  cases default : ps.table.defaultOf s with
  | some p => exact ⟨_, rfl, ⟨rfl, rfl, upcoming, rfl, rfl, rfl⟩, rfl, fun none_ => by cases none_⟩
  | none =>
    -- the lookahead is read from the events if it is not there yet
    cases upcoming with
    | unread =>
      cases rest with
      | nil => exact ⟨_, rfl, ⟨rfl, rfl, .finished, rfl, rfl, rfl⟩, rfl, fun _ => by simp⟩
      | cons tk more => exact ⟨_, rfl, ⟨rfl, rfl, .read tk more, rfl, rfl, rfl⟩, rfl, fun _ => by simp⟩
    | read tk more => exact ⟨_, rfl, ⟨rfl, rfl, .read tk more, rfl, rfl, rfl⟩, rfl, fun _ => by simp⟩
    | finished => exact ⟨_, rfl, ⟨rfl, rfl, .finished, rfl, rfl, rfl⟩, rfl, fun _ => by simp⟩

/-- A lookahead read before the tokens still to come is the first of them. -/
theorem Upcoming.of_read {tk : Token} {a : Option Ahead} {input : List Lexicon.Event}
    (h : Upcoming (tk :: rest) a input) (read : a ≠ none) :
    a = some (.token tk) ∧ input = rest.map .token := by
  cases h with
  | unread => exact absurd rfl read
  | read => exact ⟨rfl, rfl⟩

variable [Inhabited α]

/-- A shift moves the next token onto the stack. -/
theorem Config.Shows.step_shift {tk : Token} {j : Nat}
    (h : c.Shows ⟨s :: states, cells, tk :: rest⟩)
    (act : ps.table.actionAt s tk.kind = some (.shift j)) :
    ∃ c', ps.step lead report c = .inl c' ∧
      c'.Shows ⟨j :: s :: states, .token tk :: cells, rest⟩ ∧ c'.console = c.console := by
  obtain ⟨c', next, shows, console, read⟩ := h.next ps lead
  -- a state that shifts has no default reduction, so the lookahead was read
  have explicit : ps.table.defaultOf s = none := by
    unfold Table.actionAt at act
    cases default : ps.table.defaultOf s with
    | none => rfl
    | some p => simp [default] at act
  obtain ⟨ahead, input⟩ := shows.upcoming.of_read (read explicit)
  have kind : nextKind (tk :: rest) = tk.kind := rfl
  rw [kind, act] at next
  refine ⟨c'.shift j, by simp only [Parser.step, next], ?_, by simp [Config.shift, console]⟩
  exact ⟨by simp [Config.shift, shows.states], by simp [Config.shift, ahead, shows.cells],
    by simpa [Config.shift, input] using Upcoming.unread rest, shows.pending, shows.stop,
    by simp [Config.shift, shows.quiet]⟩

/-- A reduction replaces the cells of a production's right-hand side by the value it builds, and
moves on the production's head from the state below them. -/
theorem Config.Shows.step_reduce {p j : Nat} {shape : Shape} {b : Nat → List (Cell α) → α}
    (h : c.Shows ⟨s :: states, cells, rest⟩)
    (act : ps.table.actionAt s (nextKind rest) = some (.reduce p))
    (shaped : ps.shapes[p]? = some shape) (built : (ps.builds[p]?).join = some b)
    (target : ps.table.target (((s :: states).drop shape.rhs.length).head?.getD 0) shape.lhs =
      some j) :
    ∃ c', ps.step lead report c = .inl c' ∧
      c'.Shows ⟨j :: (s :: states).drop shape.rhs.length,
        .value (b (Cell.lineOf (cells.take shape.rhs.length).reverse)
          (cells.take shape.rhs.length).reverse) :: cells.drop shape.rhs.length, rest⟩ ∧
      c'.console = c.console := by
  obtain ⟨c', next, shows, console, -⟩ := h.next ps lead
  rw [act] at next
  unfold Parser.step
  rw [next]
  dsimp only
  unfold Parser.reduce
  simp only [shaped, Option.getD_some, built, shows.states, shows.cells, target]
  exact ⟨_, rfl, ⟨rfl, rfl, shows.upcoming, shows.pending, shows.stop, shows.quiet⟩, console⟩

/-- At the end of the input, where the table accepts, the parse returns the value on top of the
stack. -/
theorem Config.Shows.step_accept {v : α} (h : c.Shows ⟨s :: states, .value v :: cells, []⟩)
    (act : ps.table.actionAt s endMarker = some .accept) :
    ps.step lead report c = .inr (.ok (some v), c.console) := by
  obtain ⟨c', next, shows, console, -⟩ := h.next ps lead
  have kind : nextKind ([] : List Token) = endMarker := rfl
  rw [kind, act] at next
  unfold Parser.step
  rw [next]
  simp only [Config.accept, shows.cells, List.head?_cons, console]

end Steps

/-- `ps.Moves lead report k v w`: from every configuration that shows `v`, the parser reaches in
`k` steps one that shows `w`, and writes nothing on the way. -/
def Parser.Moves [Inhabited α] (ps : Parser α) (lead : String) (report : Reporter) (k : Nat)
    (v w : View α) : Prop :=
  ∀ c : Config α, c.Shows v → ∃ c', c'.Shows w ∧ c'.console = c.console ∧
    ∀ fuel, ps.runFor lead report (k + fuel) c = ps.runFor lead report fuel c'

namespace Parser.Moves

variable [Inhabited α] {ps : Parser α} {lead : String} {report : Reporter}

theorem trans {k m : Nat} {u v w : View α} (first : ps.Moves lead report k u v)
    (second : ps.Moves lead report m v w) : ps.Moves lead report (k + m) u w := by
  intro c h
  obtain ⟨c', h', console', run'⟩ := first c h
  obtain ⟨c'', h'', console'', run''⟩ := second c' h'
  refine ⟨c'', h'', console''.trans console', fun fuel => ?_⟩
  rw [Nat.add_assoc, run' (m + fuel), run'' fuel]

theorem of_step {v w : View α}
    (step : ∀ c : Config α, c.Shows v →
      ∃ c', ps.step lead report c = .inl c' ∧ c'.Shows w ∧ c'.console = c.console) :
    ps.Moves lead report 1 v w := by
  intro c h
  obtain ⟨c', stepped, h', console⟩ := step c h
  refine ⟨c', h', console, fun fuel => ?_⟩
  rw [Nat.add_comm, Parser.runFor, stepped]

variable {s j : Nat} {states : List Nat} {cells : List (Cell α)} {rest : List Token}

theorem shift {tk : Token} (act : ps.table.actionAt s tk.kind = some (.shift j)) :
    ps.Moves lead report 1 ⟨s :: states, cells, tk :: rest⟩
      ⟨j :: s :: states, .token tk :: cells, rest⟩ :=
  of_step fun _ h => h.step_shift act

/-- A reduction, with the stack it leaves written out. -/
theorem reduce {p : Nat} {shape : Shape} {b : Nat → List (Cell α) → α} {states' : List Nat}
    {cells' kids : List (Cell α)} (act : ps.table.actionAt s (nextKind rest) = some (.reduce p))
    (shaped : ps.shapes[p]? = some shape) (built : (ps.builds[p]?).join = some b)
    (popped : (s :: states).drop shape.rhs.length = states')
    (taken : (cells.take shape.rhs.length).reverse = kids)
    (left : cells.drop shape.rhs.length = cells')
    (target : ps.table.target (states'.head?.getD 0) shape.lhs = some j) :
    ps.Moves lead report 1 ⟨s :: states, cells, rest⟩
      ⟨j :: states', .value (b (Cell.lineOf kids) kids) :: cells', rest⟩ := by
  subst popped taken left
  exact of_step fun _ h => h.step_reduce act shaped built target

/-- A parse whose moves end where the table accepts returns the value on top of the stack,
whatever fuel is left over, and writes nothing. -/
theorem accepts {k : Nat} {v : View α} {x : α}
    (moves : ps.Moves lead report k v ⟨s :: states, .value x :: cells, []⟩)
    (act : ps.table.actionAt s endMarker = some .accept) {c : Config α} (h : c.Shows v)
    (fuel : Nat) : ps.runFor lead report (k + (fuel + 1)) c = (.ok (some x), c.console) := by
  obtain ⟨c', h', console, run⟩ := moves c h
  rw [run, Parser.runFor, h'.step_accept act, console]

end Parser.Moves

/-- The parser of a grammar reduces by a numbered production with the syntax and the action of
the grammar's rule it numbers. -/
theorem Parser.ofGrammar_reduces {g : Grammar α} {t : Table} {p i : Nat} {r : Production α}
    (numbered : g.numbered[p]? = some (⟨r.lhs, r.rhs⟩, some i)) (found : g.rules[i]? = some r) :
    (Parser.ofGrammar g t).shapes[p]? = some ⟨r.lhs, r.rhs⟩ ∧
      ((Parser.ofGrammar g t).builds[p]?).join = some r.build := by
  simp [Parser.ofGrammar, numbered, found]

end MatrixLang.Grammar
