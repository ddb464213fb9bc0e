import MatrixLang.Proofs.Derivations

/-!
# What a clean parse accepts is derived by the grammar

A parser run that returns a value and writes nothing to the console has met no syntax error and
no bad character, and then the value is the one the grammar's productions build for the tokens
read: the start symbol derives exactly the tokens of the scan (`run_derives`). This holds of any
grammar whose table carries a certificate (`Table.Certified`).

## Main results

* `step_grows`, `runFor_grows`: a run only ever writes to the console.
* `step_parsing`: one step of a clean parse is another, or it writes to the console.
* `run_derives`: what a clean parse accepts, the start symbol derives.

## Proof strategy

The invariant of a clean parse (`Parsing`) holds the stack as a `Path` of the automaton whose
symbols derive the tokens read, and the tokens still to come as the lookahead's and the unread
events'. A shift moves one token from the lookahead onto the stack; a reduction takes the
right-hand side of its production off the stack, where the certificate puts it, and the
derivation grows by that production. A syntax error is reported first, since nothing keeps the
parser quiet before it, and the report writes to the console, which nothing empties again.
-/
namespace MatrixLang

theorem Console.size_printLine (con : Console) (text : String) :
    (con.printLine text).pieces.size = con.pieces.size + 1 := by
  simp [Console.printLine, Console.write]

namespace Grammar

variable {α : Type}

/-! ### The tokens still to come -/

/-- The tokens among some events. -/
def eventTokens (events : List Lexicon.Event) : List Token := (Lexicon.Scan.mk events none).tokens

@[simp] theorem eventTokens_nil : eventTokens [] = [] := rfl

@[simp] theorem eventTokens_token (t : Token) (events : List Lexicon.Event) :
    eventTokens (.token t :: events) = t :: eventTokens events := rfl

@[simp] theorem eventTokens_bad (ch : Char) (line : Nat) (events : List Lexicon.Event) :
    eventTokens (.bad ch line :: events) = eventTokens events := rfl

/-- How the tokens still to come stand in a configuration: `rest` is the lookahead's token, if it
holds one, then the tokens of the unread events; past the end of the input, nothing. -/
inductive Unread (rest : List Token) : Option Ahead → List Lexicon.Event → Prop
  | none {input : List Lexicon.Event} : eventTokens input = rest → Unread rest none input
  | token {t : Token} {input : List Lexicon.Event} :
      t :: eventTokens input = rest → Unread rest (some (.token t)) input
  | finish {input : List Lexicon.Event} : rest = [] → eventTokens input = [] →
      Unread rest (some .finish) input

theorem readAhead_grows (lead : String) (stop : Option Lexicon.Stop) :
    ∀ (events : List Lexicon.Event) (con : Console),
      con.pieces.size ≤ (readAhead lead stop events con).2.2.pieces.size := by
  intro events
  induction events with
  | nil => intro con; cases stop <;> exact Nat.le_refl _
  | cons e events ih =>
    intro con
    cases e with
    | token t => exact Nat.le_refl _
    | bad ch line =>
      have later := ih (con.printLine (Lexicon.badMessage lead ch line))
      rw [Console.size_printLine] at later
      exact Nat.le_of_succ_le later

/-- A lookahead read from the events is their first token, or the end of the input when none is
left; the reports passed on the way are not tokens. -/
theorem readAhead_unread {lead : String} {stop : Option Lexicon.Stop} :
    ∀ {events input : List Lexicon.Event} {con con' : Console} {a : Ahead},
      readAhead lead stop events con = (.ok a, input, con') → Unread (eventTokens events) (some a) input := by
  intro events
  induction events with
  | nil =>
    intro input con con' a h
    cases stop with
    | none =>
      simp only [readAhead, Prod.mk.injEq, Except.ok.injEq] at h
      obtain ⟨rfl, rfl, -⟩ := h
      exact .finish rfl rfl
    | some s => simp [readAhead] at h
  | cons e events ih =>
    intro input con con' a h
    cases e with
    | token t =>
      simp only [readAhead, Prod.mk.injEq, Except.ok.injEq] at h
      obtain ⟨rfl, rfl, -⟩ := h
      exact .token rfl
    | bad ch line => simpa using ih h

/-! ### Clean parses -/

/-- A configuration of a clean parse of `tokens`: the stack is a path of the automaton whose
symbols derive the tokens `read` so far, the tokens still to come are the lookahead's and the
unread events', and no syntax error has been met: nothing is pushed back, and no error keeps the
parser quiet. -/
structure Parsing (g : Grammar α) (t : Table) (tokens : List Token) (c : Config α)
    (symbols : List String) (read : List Token) : Prop where
  path : Path t c.states symbols
  derives : g.DerivesAll symbols.reverse read c.cells.reverse
  unread : ∃ rest, tokens = read ++ rest ∧ Unread rest c.ahead c.input
  pending : c.pending = []
  quiet : c.quiet = 0

variable {g : Grammar α} {t : Table} {past : List (List String)} {tokens : List Token}
  {lead : String} {report : Reporter}

/-- The state a configuration is in. -/
abbrev Config.state (c : Config α) : Nat := c.states.head?.getD 0

/-- Reading the lookahead keeps a clean parse clean and only writes to the console. The action
taken is the default reduction of the state, or the table's action on the lookahead. -/
theorem next_parsing {c c' : Config α} {act : Option Action} {symbols : List String}
    {read : List Token} (parsing : Parsing g t tokens c symbols read)
    (h : (Parser.ofGrammar g t).next lead c = .inl (act, c')) :
    Parsing g t tokens c' symbols read ∧ c'.states = c.states ∧ c'.cells = c.cells ∧
      c.console.pieces.size ≤ c'.console.pieces.size ∧
      ((∃ p kind, act = some (.reduce p) ∧ (c.state, kind, Action.reduce p) ∈ t.entries) ∨
       (∃ a, c'.ahead = some a ∧ act = t.action c.state a.kind)) := by
  unfold Parser.next at h
  simp only [Parser.ofGrammar] at h
  cases default : t.defaultOf c.state with
  | some p =>
    -- a state that reduces whatever comes next
    simp only [default, Sum.inl.injEq, Prod.mk.injEq] at h
    obtain ⟨rfl, rfl⟩ := h
    obtain ⟨kind, entry⟩ := Table.default_mem_entries default
    exact ⟨parsing, rfl, rfl, Nat.le_refl _, .inl ⟨p, kind, rfl, entry⟩⟩
  | none =>
    cases ahead : c.ahead with
    | some a =>
      simp only [default, ahead, Sum.inl.injEq, Prod.mk.injEq] at h
      obtain ⟨rfl, rfl⟩ := h
      exact ⟨parsing, rfl, rfl, Nat.le_refl _, .inr ⟨a, ahead, by simp⟩⟩
    | none =>
      have grows := readAhead_grows lead c.stop c.input c.console
      cases reading : readAhead lead c.stop c.input c.console with
      | mk result rest =>
        obtain ⟨input, console⟩ := rest
        cases result with
        | error s => simp [default, ahead, parsing.pending, reading] at h
        | ok a =>
          simp only [default, ahead, parsing.pending, reading, Sum.inl.injEq, Prod.mk.injEq] at h
          obtain ⟨rfl, rfl⟩ := h
          obtain ⟨rest, read_rest, unread⟩ := parsing.unread
          rw [ahead] at unread
          cases unread with
          | none found =>
            refine ⟨⟨parsing.path, parsing.derives, ⟨rest, read_rest, ?_⟩, rfl, parsing.quiet⟩, rfl, rfl, by simpa [reading] using grows, .inr ⟨a, rfl, rfl⟩⟩
            rw [← found]
            exact readAhead_unread reading

/-- Shifting the lookahead's token keeps a clean parse clean, one token further on. -/
theorem shift_parsing {c : Config α} {symbols : List String} {read : List Token} {tk : Token}
    {j : Nat} (parsing : Parsing g t tokens c symbols read) (ahead : c.ahead = some (.token tk))
    (entry : (c.state, tk.kind, Action.shift j) ∈ t.entries) :
    Parsing g t tokens
      { c with
        states := j :: c.states, cells := .token tk :: c.cells, ahead := none
        quiet := c.quiet - 1 }
      (tk.kind :: symbols) (read ++ [tk]) := by
  obtain ⟨s, states, top⟩ := List.exists_cons_of_ne_nil parsing.path.ne_nil
  have path := parsing.path
  have state : c.state = s := by simp only [Config.state, top, List.head?_cons, Option.getD_some]
  rw [top] at path
  rw [state] at entry
  obtain ⟨rest, read_rest, unread⟩ := parsing.unread
  rw [ahead] at unread
  cases unread with
  | token found =>
    refine ⟨?_, ?_, ⟨eventTokens c.input, ?_, .none rfl⟩, parsing.pending, by simp [parsing.quiet]⟩
    · simpa [top] using Path.enter path (Table.shift_mem_edges entry)
    · simpa using parsing.derives.append (DerivesAll.token tk .nil)
    · simp [read_rest, ← found]

/-- A reduction by a production keeps a clean parse clean: the certificate puts the production's
right-hand side on top of the stack, and the derivation grows by the production. -/
theorem reduce_parsing (cert : t.Certified g past) {c : Config α} {symbols : List String}
    {read : List Token} {kind : String} {p : Nat} (parsing : Parsing g t tokens c symbols read)
    (entry : (c.state, kind, Action.reduce p) ∈ t.entries) :
    ∃ r : Production α, (Parser.ofGrammar g t).shapes[p]?.getD default = ⟨r.lhs, r.rhs⟩ ∧
      ((Parser.ofGrammar g t).builds[p]?).join = some r.build ∧
      ∀ j, t.target ((c.states.drop r.rhs.length).head?.getD 0) r.lhs = some j →
        Parsing g t tokens
          { c with
            states := j :: c.states.drop r.rhs.length
            cells := .value (r.build (Cell.lineOf (c.cells.take r.rhs.length).reverse)
              (c.cells.take r.rhs.length).reverse) :: c.cells.drop r.rhs.length }
          (r.lhs :: symbols.drop r.rhs.length) read := by
  have fits := cert.entries _ entry
  simp only [Table.fits] at fits
  cases numbered : g.numbered[p]? with
  | none => simp [numbered] at fits
  | some e =>
    obtain ⟨shape, index⟩ := e
    cases index with
    | none => simp [numbered] at fits
    | some i =>
      simp only [numbered, List.isPrefixOf_iff_prefix] at fits
      obtain ⟨r, rule, rfl⟩ := mem_numbered (Array.mem_of_getElem? numbered)
      refine ⟨r, by simp [Parser.ofGrammar, numbered], by simp [Parser.ofGrammar, numbered, rule], ?_⟩
      intro j target
      -- the right-hand side, last symbol first, is on top of the stack
      obtain ⟨s, states, top⟩ := List.exists_cons_of_ne_nil parsing.path.ne_nil
      have path := parsing.path
      have state : c.state = s := by simp only [Config.state, top, List.head?_cons, Option.getD_some]
      rw [top] at path
      rw [state] at fits
      obtain ⟨below, split⟩ := fits.trans (path.past_prefix cert)
      have length : r.rhs.reverse.length = r.rhs.length := List.length_reverse
      rw [← split] at path
      have lower := path.drop
      rw [length] at lower
      -- the cells of the right-hand side are the top ones
      have derives := parsing.derives
      rw [← split, List.reverse_append, List.reverse_reverse] at derives
      obtain ⟨ts₁, ts₂, cs₁, cs₂, rfl, cells, first, second⟩ := derives.split
      have count : cs₂.length = r.rhs.length := second.length_eq
      have cells' : c.cells = cs₂.reverse ++ cs₁.reverse := by
        rw [← List.reverse_reverse c.cells, cells, List.reverse_append]
      have taken : (c.cells.take r.rhs.length).reverse = cs₂ := by
        rw [cells', List.take_left' (by simpa using count), List.reverse_reverse]
      have dropped : c.cells.drop r.rhs.length = cs₁.reverse := by
        rw [cells', List.drop_left' (by simpa using count)]
      obtain ⟨s', states', bottom⟩ := List.exists_cons_of_ne_nil lower.ne_nil
      rw [top, bottom] at target
      refine ⟨?_, ?_, parsing.unread, parsing.pending, parsing.quiet⟩
      · simpa [top, bottom, ← split] using Path.enter (bottom ▸ lower) (Table.move_mem_edges target)
      · rw [taken, dropped, ← split]
        simpa using first.append (DerivesAll.rule rule second .nil)

/-! ### One step -/

section Step

/-- Reading the lookahead only writes to the console. -/
theorem next_grows {ps : Parser α} {c : Config α} :
    (∀ {act : Option Action} {c' : Config α}, ps.next lead c = .inl (act, c') →
      c.console.pieces.size ≤ c'.console.pieces.size) ∧
    (∀ {s : Lexicon.Stop} {con : Console}, ps.next lead c = .inr (s, con) →
      c.console.pieces.size ≤ con.pieces.size) := by
  have grows := readAhead_grows lead c.stop c.input c.console
  unfold Parser.next
  dsimp only
  cases ps.table.defaultOf (c.states.head?.getD 0) with
  | some p => exact ⟨fun h => (by cases h; exact Nat.le_refl _), fun h => (by cases h)⟩
  | none =>
    cases c.ahead with
    | some a => exact ⟨fun h => (by cases h; exact Nat.le_refl _), fun h => (by cases h)⟩
    | none =>
      cases c.pending with
      | cons a rest => exact ⟨fun h => (by cases h; exact Nat.le_refl _), fun h => (by cases h)⟩
      | nil =>
        cases reading : readAhead lead c.stop c.input c.console with
        | mk result rest =>
          rw [reading] at grows
          cases result with
          | ok a => exact ⟨fun h => (by cases h; exact grows), fun h => (by cases h)⟩
          | error s => exact ⟨fun h => (by cases h), fun h => (by cases h; exact grows)⟩

/-- A report of a syntax error writes to the console, unless the parser keeps quiet. -/
theorem flagged_grows (loud : ∀ tk con, con.pieces.size < (report tk con).pieces.size)
    (c : Config α) : c.console.pieces.size ≤ (c.flagged report).pieces.size ∧
      (c.quiet = 0 → c.console.pieces.size < (c.flagged report).pieces.size) := by
  unfold Config.flagged
  by_cases quiet : c.quiet = 0
  · rw [if_pos (beq_iff_eq.2 quiet)]
    exact ⟨Nat.le_of_lt (loud _ _), fun _ => loud _ _⟩
  · rw [if_neg (mt beq_iff_eq.1 quiet)]
    exact ⟨Nat.le_refl _, fun h => absurd h quiet⟩

/-- Recovery goes on with the console after the report, or gives up with no value. -/
theorem recover_flagged (report : Reporter) (c : Config α) :
    (∀ {c' : Config α}, c.recover report = .inl c' → c'.console = c.flagged report) ∧
    (∀ {o : Outcome α} {con : Console}, c.recover report = .inr (o, con) →
      o = .ok none ∧ con = c.flagged report) := by
  unfold Config.recover
  dsimp only
  -- every branch carries the console after the report; only the branches that give up stop
  refine ⟨fun h => ?_, fun h => ?_⟩
  · repeat' split at h
    all_goals cases h
    all_goals rfl
  · repeat' split at h
    all_goals cases h
    all_goals exact ⟨rfl, rfl⟩

/-- A reduction goes on, or gives up with no value, with the console as it was. -/
theorem reduce_console [Inhabited α] {ps : Parser α} {p : Nat} {c : Config α} :
    (∀ {c' : Config α}, ps.reduce p c = .inl c' → c'.console = c.console) ∧
    (∀ {o : Outcome α} {con : Console}, ps.reduce p c = .inr (o, con) →
      o = .ok none ∧ con = c.console) := by
  unfold Parser.reduce
  dsimp only
  refine ⟨fun h => ?_, fun h => ?_⟩ <;> split at h <;> cases h
  · rfl
  · exact ⟨rfl, rfl⟩

theorem accept_console (c : Config α) : c.accept.2 = c.console := by
  unfold Config.accept
  split <;> rfl

/-- A step only writes to the console. -/
theorem step_grows [Inhabited α] (loud : ∀ tk con, con.pieces.size < (report tk con).pieces.size)
    {ps : Parser α} {c : Config α} :
    (∀ {c' : Config α}, ps.step lead report c = .inl c' →
      c.console.pieces.size ≤ c'.console.pieces.size) ∧
    (∀ {o : Outcome α} {con : Console}, ps.step lead report c = .inr (o, con) →
      c.console.pieces.size ≤ con.pieces.size) := by
  unfold Parser.step
  cases next : ps.next lead c with
  | inr r =>
    obtain ⟨s, con⟩ := r
    exact ⟨fun h => (by cases h), fun h => (by cases h; exact next_grows.2 next)⟩
  | inl r =>
    obtain ⟨act, c'⟩ := r
    have grows := next_grows.1 next
    have flagged := Nat.le_trans grows (flagged_grows loud c').1
    have recovers := recover_flagged report c'
    -- a syntax error, whichever entry is missing
    have recovery : (∀ {c'' : Config α}, c'.recover report = .inl c'' →
        c.console.pieces.size ≤ c''.console.pieces.size) ∧
        (∀ {o : Outcome α} {con : Console}, c'.recover report = .inr (o, con) →
          c.console.pieces.size ≤ con.pieces.size) :=
      ⟨fun h => by rw [recovers.1 h]; exact flagged, fun h => by rw [(recovers.2 h).2]; exact flagged⟩
    dsimp only
    cases act with
    | none => exact recovery
    | some a =>
      cases a with
      | shift j => exact ⟨fun h => (by cases h; exact grows), fun h => (by cases h)⟩
      | reduce p =>
        exact ⟨fun h => by rw [reduce_console.1 h]; exact grows,
          fun h => by rw [(reduce_console.2 h).2]; exact grows⟩
      | accept =>
        refine ⟨fun h => (by cases h), fun {o con} h => ?_⟩
        have accepted : c'.accept = (o, con) := Sum.inr.inj h
        have same : con = c'.console := by rw [← accept_console, accepted]
        rw [same]
        exact grows
      | blocked => exact recovery

end Step

/-! ### Clean steps and runs -/

section Clean

variable [Inhabited α]

/-- One step of a clean parse is another clean parse, unless it writes to the console. -/
theorem step_parsing (cert : t.Certified g past)
    (loud : ∀ tk con, con.pieces.size < (report tk con).pieces.size)
    {c c'' : Config α} {symbols : List String} {read : List Token}
    (parsing : Parsing g t tokens c symbols read)
    (h : (Parser.ofGrammar g t).step lead report c = .inl c'') :
    (∃ symbols' read', Parsing g t tokens c'' symbols' read') ∨
      c.console.pieces.size < c''.console.pieces.size := by
  unfold Parser.step at h
  cases next : (Parser.ofGrammar g t).next lead c with
  | inr r => rw [next] at h; cases h
  | inl r =>
    obtain ⟨act, c'⟩ := r
    rw [next] at h
    obtain ⟨parsing', states, -, grows, action⟩ := next_parsing parsing next
    have state : c'.state = c.state := by simp only [Config.state, states]
    -- a syntax error is reported, since nothing keeps a clean parse quiet
    have recovery : c'.recover report = .inl c'' → c.console.pieces.size < c''.console.pieces.size := by
      intro recovered
      rw [(recover_flagged report c').1 recovered]
      exact Nat.lt_of_le_of_lt grows ((flagged_grows loud c').2 parsing'.quiet)
    dsimp only at h
    cases act with
    | none => exact .inr (recovery h)
    | some a =>
      cases a with
      | shift j =>
        obtain ⟨p, kind, same, -⟩ | ⟨a, ahead, found⟩ := action
        · cases same
        have entry := Table.mem_entries found.symm
        have fits := cert.entries _ entry
        simp only [Table.fits, bne_iff_ne] at fits
        obtain ⟨rest, -, unread⟩ := parsing'.unread
        rw [ahead] at unread
        cases unread with
        | finish => exact absurd rfl fits
        | @token tk _ _ =>
          -- the shift is on the lookahead's token
          cases h
          rw [← state] at entry
          have shifted := shift_parsing parsing' ahead entry
          exact .inl ⟨_, _, by simpa [Config.shift, ahead] using shifted⟩
      | reduce p =>
        have entry : ∃ kind, (c'.state, kind, Action.reduce p) ∈ t.entries := by
          obtain ⟨p', kind, same, entry⟩ | ⟨a, -, found⟩ := action
          · cases same
            exact ⟨kind, state ▸ entry⟩
          · exact ⟨a.kind, state ▸ Table.mem_entries found.symm⟩
        obtain ⟨kind, entry⟩ := entry
        obtain ⟨r, shape, build, reduced⟩ := reduce_parsing cert parsing' entry
        unfold Parser.reduce at h
        simp only [shape, build] at h
        split at h
        · rename_i j target
          cases h
          exact .inl ⟨_, _, reduced j target⟩
        · cases h
      | accept => cases h
      | blocked => exact .inr (recovery h)

/-- What a clean parse accepts, the start symbol derives from all the tokens. -/
theorem step_accepts (cert : t.Certified g past) (ends : ∀ tk ∈ tokens, tk.kind ≠ endMarker)
    {c : Config α} {symbols : List String} {read : List Token}
    (parsing : Parsing g t tokens c symbols read) {v : α} {con : Console}
    (h : (Parser.ofGrammar g t).step lead report c = .inr (.ok (some v), con)) :
    g.Derives g.start tokens (.value v) := by
  unfold Parser.step at h
  cases next : (Parser.ofGrammar g t).next lead c with
  | inr r => rw [next] at h; cases h
  | inl r =>
    obtain ⟨act, c'⟩ := r
    rw [next] at h
    obtain ⟨parsing', states, -, -, action⟩ := next_parsing parsing next
    dsimp only at h
    cases act with
    | none => cases ((recover_flagged report c').2 h).1
    | some a =>
      cases a with
      | shift j => cases h
      | reduce p => cases (reduce_console.2 h).1
      | blocked => cases ((recover_flagged report c').2 h).1
      | accept =>
        have accepted : c'.accept = (.ok (some v), con) := Sum.inr.inj h
        obtain ⟨p, kind, same, -⟩ | ⟨a, ahead, found⟩ := action
        · cases same
        -- the table accepts on the end of the input, with the start symbol alone on the stack
        obtain ⟨s, below, top⟩ := List.exists_cons_of_ne_nil parsing'.path.ne_nil
        have path := parsing'.path
        rw [top] at path
        have entry := Table.mem_entries found.symm
        have state : c.state = s := by simp only [Config.state, ← states, top, List.head?_cons,
          Option.getD_some]
        rw [state] at entry
        obtain ⟨atEnd, -, rfl⟩ := path.accepting cert entry
        obtain ⟨rest, whole, unread⟩ := parsing'.unread
        rw [ahead] at unread
        cases unread with
        | @token tk _ found_rest =>
          exact absurd atEnd (ends tk (by rw [whole, ← found_rest]; simp))
        | finish none_left _ =>
          rw [none_left, List.append_nil] at whole
          rw [whole]
          have derives := parsing'.derives
          simp only [List.reverse_cons, List.reverse_nil, List.nil_append] at derives
          obtain ⟨cell, one⟩ : ∃ cell, c'.cells = [cell] := by
            have count := derives.length_eq
            rw [List.length_reverse, List.length_singleton] at count
            exact List.length_eq_one_iff.1 count
          unfold Config.accept at accepted
          rw [one] at derives accepted
          cases cell with
          | token tk => simp at accepted
          | value w =>
            simp only [List.head?_cons, Prod.mk.injEq, Except.ok.injEq, Option.some.injEq] at accepted
            rw [← accepted.1]
            exact derives

end Clean

/-! ### Runs -/

/-- A run only writes to the console. -/
theorem runFor_grows [Inhabited α] (loud : ∀ tk con, con.pieces.size < (report tk con).pieces.size)
    {ps : Parser α} : ∀ (fuel : Nat) (c : Config α),
      c.console.pieces.size ≤ (ps.runFor lead report fuel c).2.pieces.size := by
  intro fuel
  induction fuel with
  | zero => intro c; exact Nat.le_refl _
  | succ fuel ih =>
    intro c
    unfold Parser.runFor
    cases stepped : ps.step lead report c with
    | inl c' => exact Nat.le_trans ((step_grows loud).1 stepped) (ih c')
    | inr r =>
      obtain ⟨o, con⟩ := r
      exact (step_grows loud).2 stepped

/-- A run from a clean parse that returns a value and leaves the console as it was derives the
value from all the tokens. -/
theorem runFor_derives [Inhabited α] (cert : t.Certified g past)
    (loud : ∀ tk con, con.pieces.size < (report tk con).pieces.size)
    (ends : ∀ tk ∈ tokens, tk.kind ≠ endMarker) {v : α} {con : Console} :
    ∀ (fuel : Nat) {c : Config α} {symbols : List String} {read : List Token},
      Parsing g t tokens c symbols read →
      (Parser.ofGrammar g t).runFor lead report fuel c = (.ok (some v), con) →
      con.pieces.size ≤ c.console.pieces.size → g.Derives g.start tokens (.value v) := by
  intro fuel
  induction fuel with
  | zero => intro c symbols read _ h; cases h
  | succ fuel ih =>
    intro c symbols read parsing h quiet
    unfold Parser.runFor at h
    cases stepped : (Parser.ofGrammar g t).step lead report c with
    | inr r =>
      rw [stepped] at h
      cases h
      exact step_accepts cert ends parsing stepped
    | inl c' =>
      rw [stepped] at h
      have later : c'.console.pieces.size ≤ ((Parser.ofGrammar g t).runFor lead report fuel c').2.pieces.size :=
        runFor_grows loud fuel c'
      dsimp only at h
      rw [h] at later
      rcases step_parsing cert loud parsing stepped with ⟨symbols', read', parsing'⟩ | wrote
      · exact ih parsing' h (Nat.le_trans quiet ((step_grows loud).1 stepped))
      · -- what was written stays written
        exact absurd (Nat.lt_of_lt_of_le wrote later) (Nat.not_lt.2 quiet)

/-- What a parse of a scan returns, when it writes nothing, is what the grammar's productions
build for all the scan's tokens: the start symbol derives them. -/
theorem run_derives [Inhabited α] (cert : t.Certified g past)
    (loud : ∀ tk con, con.pieces.size < (report tk con).pieces.size) {scan : Lexicon.Scan}
    (ends : ∀ tk ∈ scan.tokens, tk.kind ≠ endMarker) {console con : Console} {v : α}
    (h : (Parser.ofGrammar g t).run lead report scan console = (.ok (some v), con))
    (quiet : con.pieces.size ≤ console.pieces.size) : g.Derives g.start scan.tokens (.value v) := by
  unfold Parser.run at h
  have start : Parsing g t scan.tokens ⟨[0], [], none, [], scan.events, scan.stop, 0, console⟩ [] [] :=
    ⟨.start, .nil, ⟨scan.tokens, rfl, .none rfl⟩, rfl, rfl⟩
  exact runFor_derives cert loud ends _ start h quiet

end Grammar
end MatrixLang
