import MatrixLang.Grammar.Run
import Mathlib.Data.List.Forall2

/-!
# Derivations of a grammar, and what a parse table may do

A grammar gives its symbols a meaning apart from any parse table: a sentential form derives a
list of tokens, each symbol its own stretch of them, and the productions build a cell for each
symbol (`Grammar.DerivesAll`). A token stands for itself; a nonterminal for the value that one of
its productions builds from the cells of its right-hand side.

The parser runs a table, and a table says nothing by itself about the grammar. What ties the two
is a certificate: for each state, the symbols that every way into it ends with, the latest first
(`past`). Checked once over the table's rows (`Table.Certified`), it stands for every stack of
unbounded depth the parser can build (`Path`): whenever the table reduces by a production, the
production's right-hand side is on top of the stack, and it accepts only with the start symbol
alone on it.

## Main results

* `DerivesAll.each`: a derivation read symbol by symbol, with a property that passes from the
  children of a production to the value it builds.
* `mem_numbered`: the parser generator numbers the rules of the grammar with their syntax.
* `Path.past_prefix`, `Path.accepting`: what a certified table knows of the stack.
-/
namespace MatrixLang.Grammar

variable {α : Type}

/-! ### Derivations -/

/-- `g.DerivesAll symbols tokens cells`: read left to right, the symbols derive the tokens, one
stretch after another, and the productions of `g` build the cells: a token stands for itself, a
nonterminal for the value one of its productions builds from the cells of its right-hand side. -/
inductive DerivesAll (g : Grammar α) : List String → List Token → List (Cell α) → Prop
  | nil : DerivesAll g [] [] []
  | token {symbols : List String} {tokens : List Token} {cells : List (Cell α)} (t : Token) :
      DerivesAll g symbols tokens cells →
      DerivesAll g (t.kind :: symbols) (t :: tokens) (.token t :: cells)
  | rule {symbols : List String} {tokens children : List Token} {cells built : List (Cell α)}
      {i : Nat} {r : Production α} :
      g.rules[i]? = some r → DerivesAll g r.rhs children built → DerivesAll g symbols tokens cells →
      DerivesAll g (r.lhs :: symbols) (children ++ tokens)
        (.value (r.build (Cell.lineOf built) built) :: cells)

/-- A symbol derives the tokens, and the productions build the cell for them. -/
def Derives (g : Grammar α) (symbol : String) (tokens : List Token) (cell : Cell α) : Prop :=
  g.DerivesAll [symbol] tokens [cell]

namespace DerivesAll

variable {g : Grammar α}

theorem length_eq {symbols : List String} {tokens : List Token} {cells : List (Cell α)}
    (h : g.DerivesAll symbols tokens cells) : cells.length = symbols.length := by
  induction h with
  | nil => rfl
  | token _ _ ih => simp [ih]
  | rule _ _ _ _ ih => simp [ih]

theorem append {xs ys : List String} {ts us : List Token} {cs ds : List (Cell α)}
    (left : g.DerivesAll xs ts cs) (right : g.DerivesAll ys us ds) :
    g.DerivesAll (xs ++ ys) (ts ++ us) (cs ++ ds) := by
  induction left with
  | nil => exact right
  | token t _ ih => exact .token t ih
  | rule rule children _ _ ih => simpa [List.append_assoc] using DerivesAll.rule rule children ih

/-- A derivation of a sentential form cut in two is a derivation of each part, the tokens and
the cells cut where the first part's end. -/
theorem split {ys : List String} {xs : List String} {ts : List Token} {cs : List (Cell α)}
    (h : g.DerivesAll (xs ++ ys) ts cs) :
    ∃ ts₁ ts₂ cs₁ cs₂, ts = ts₁ ++ ts₂ ∧ cs = cs₁ ++ cs₂ ∧
      g.DerivesAll xs ts₁ cs₁ ∧ g.DerivesAll ys ts₂ cs₂ := by
  induction xs generalizing ts cs with
  | nil => exact ⟨[], ts, [], cs, rfl, rfl, .nil, h⟩
  | cons x xs ih =>
    cases h with
    | token t rest =>
      obtain ⟨ts₁, ts₂, cs₁, cs₂, rfl, rfl, first, second⟩ := ih rest
      exact ⟨t :: ts₁, ts₂, .token t :: cs₁, cs₂, rfl, rfl, .token t first, second⟩
    | rule rule children rest =>
      obtain ⟨ts₁, ts₂, cs₁, cs₂, rfl, rfl, first, second⟩ := ih rest
      exact ⟨_ ++ ts₁, ts₂, _ :: cs₁, cs₂, by simp, rfl, .rule rule children first, second⟩

/-- How a sentential form derives its tokens: its first symbol is a token, or it is the head of
a rule whose right-hand side derives the first stretch. -/
theorem cons_inv {x : String} {xs : List String} {ts : List Token} {cs : List (Cell α)}
    (h : g.DerivesAll (x :: xs) ts cs) :
    (∃ t rest cells, x = t.kind ∧ ts = t :: rest ∧ cs = .token t :: cells ∧
      g.DerivesAll xs rest cells) ∨
    (∃ (i : Nat) (r : Production α) (children rest : List Token) (built cells : List (Cell α)),
      g.rules[i]? = some r ∧ x = r.lhs ∧ ts = children ++ rest ∧
      cs = .value (r.build (Cell.lineOf built) built) :: cells ∧
      g.DerivesAll r.rhs children built ∧ g.DerivesAll xs rest cells) := by
  generalize whole : x :: xs = symbols at h
  cases h with
  | nil => cases whole
  | token t rest =>
    cases whole
    exact .inl ⟨t, _, _, rfl, rfl, rfl, rest⟩
  | rule found children rest =>
    cases whole
    exact .inr ⟨_, _, _, _, _, _, found, rfl, rfl, rfl, children, rest⟩

/-- A single symbol derives its tokens into a single cell. -/
theorem singleton {x : String} {ts : List Token} {cs : List (Cell α)}
    (h : g.DerivesAll [x] ts cs) : ∃ c, cs = [c] ∧ g.Derives x ts c := by
  obtain ⟨c, rfl⟩ := List.length_eq_one_iff.1 (h.length_eq.trans List.length_singleton)
  exact ⟨c, rfl, h⟩

/-- Symbols that each derive their own part derive the parts one after the other. -/
theorem of_forall₂ {xs : List String} {parts : List (List Token × Cell α)}
    (each : List.Forall₂ (fun x (part : List Token × Cell α) => g.Derives x part.1 part.2) xs parts) :
    g.DerivesAll xs (parts.map Prod.fst).flatten (parts.map Prod.snd) := by
  induction each with
  | nil => exact .nil
  | cons first _ ih => exact append (show g.DerivesAll [_] _ [_] from first) ih

/-- A derivation read symbol by symbol: each symbol derives its own stretch of the tokens and
builds its own cell. A property that holds of every token, and that passes from the children of
a production to the value it builds, holds of each symbol with its stretch and its cell. -/
theorem each {P : String → List Token → Cell α → Prop}
    (token : ∀ t : Token, P t.kind [t] (.token t))
    (rule : ∀ {i : Nat} {r : Production α} {parts : List (List Token × Cell α)},
      g.rules[i]? = some r →
      List.Forall₂ (fun x (part : List Token × Cell α) =>
        g.Derives x part.1 part.2 ∧ P x part.1 part.2) r.rhs parts →
      P r.lhs (parts.map Prod.fst).flatten
        (.value (r.build (Cell.lineOf (parts.map Prod.snd)) (parts.map Prod.snd))))
    {xs : List String} {ts : List Token} {cs : List (Cell α)} (h : g.DerivesAll xs ts cs) :
    ∃ parts : List (List Token × Cell α), ts = (parts.map Prod.fst).flatten ∧
      cs = parts.map Prod.snd ∧
      List.Forall₂ (fun x (part : List Token × Cell α) =>
        g.Derives x part.1 part.2 ∧ P x part.1 part.2) xs parts := by
  induction h with
  | nil => exact ⟨[], rfl, rfl, .nil⟩
  | token t _ ih =>
    obtain ⟨parts, rfl, rfl, rest⟩ := ih
    exact ⟨([t], .token t) :: parts, rfl, rfl, .cons ⟨.token t .nil, token t⟩ rest⟩
  | @rule _ _ _ _ _ _ r found _ _ children rest =>
    obtain ⟨inner, rfl, rfl, below⟩ := children
    obtain ⟨parts, rfl, rfl, rest⟩ := rest
    have derives : g.Derives r.lhs (inner.map Prod.fst).flatten
        (.value (r.build (Cell.lineOf (inner.map Prod.snd)) (inner.map Prod.snd))) := by
      have whole := DerivesAll.rule found (of_forall₂ (below.imp fun _ _ h => h.1)) DerivesAll.nil
      simpa [Derives] using whole
    exact ⟨((inner.map Prod.fst).flatten, _) :: parts, rfl, rfl,
      .cons ⟨derives, rule found below⟩ rest⟩

end DerivesAll

/-- The rules of a grammar with a given head, by their indices. -/
def rulesFor (g : Grammar α) (head : String) : List Nat :=
  (g.rules.zipIdx.filter fun q => q.1.lhs = head).map Prod.snd

theorem mem_rulesFor {g : Grammar α} {i : Nat} {r : Production α} (found : g.rules[i]? = some r) :
    i ∈ g.rulesFor r.lhs :=
  List.mem_map.2 ⟨(r, i), List.mem_filter.2 ⟨List.mem_zipIdx_iff_getElem?.2 found, by simp⟩, rfl⟩

/-- A fact about a rule, read off the grammar at the rule's index. -/
theorem rule_fact {g : Grammar α} {i : Nat} {r : Production α} {β : Type} (f : Production α → β)
    {b : β} (found : g.rules[i]? = some r) (fact : (g.rules[i]?).map f = some b) : f r = b := by
  rw [found] at fact
  exact Option.some.inj fact

/-! ### The generator's numbering -/

/-- Every production the parser generator numbers, but the augmented one, is a rule of the
grammar, with the rule's syntax. -/
theorem mem_numbered {g : Grammar α} {shape : Shape} {i : Nat} (h : (shape, some i) ∈ g.numbered) :
    ∃ r, g.rules[i]? = some r ∧ shape = ⟨r.lhs, r.rhs⟩ := by
  -- what every entry pushed so far satisfies: its index names a rule with its syntax
  let Good : Shape × Option Nat → Prop := fun e =>
    ∀ i, e.2 = some i → ∃ r, g.rules[i]? = some r ∧ e.1 = ⟨r.lhs, r.rhs⟩
  have pushes : ∀ (own : List (Production α × Nat)) (acc : Array (Shape × Option Nat)),
      (∀ q ∈ own, g.rules[q.2]? = some q.1) → (∀ e ∈ acc, Good e) →
      ∀ e ∈ own.foldl (fun acc q => acc.push (⟨q.1.lhs, q.1.rhs⟩, some q.2)) acc, Good e := by
    intro own
    induction own with
    | nil => exact fun _ _ good => good
    | cons q own ih =>
      intro acc found good
      refine ih _ (fun q' m => found q' (List.mem_cons_of_mem _ m)) ?_
      intro e pushed
      rcases Array.mem_push.1 pushed with old | rfl
      · exact good e old
      · intro i same
        cases same
        exact ⟨q.1, found q List.mem_cons_self, rfl⟩
  have all : ∀ (names : List String) (acc : Array (Shape × Option Nat)), (∀ e ∈ acc, Good e) →
      ∀ e ∈ names.foldl (fun acc name =>
        ((g.rules.zipIdx.filter fun q => q.1.lhs = name).reverse).foldl
          (fun acc q => acc.push (⟨q.1.lhs, q.1.rhs⟩, some q.2)) acc) acc, Good e := by
    intro names
    induction names with
    | nil => exact fun _ good => good
    | cons name names ih =>
      intro acc good
      refine ih _ (pushes _ acc ?_ good)
      intro q m
      have m := (List.mem_filter.1 (List.mem_reverse.1 m)).1
      exact List.mem_zipIdx_iff_getElem?.1 m
  have start : ∀ e ∈ (#[(⟨"S'", [g.start]⟩, none)] : Array (Shape × Option Nat)), Good e := by
    intro e m i same
    simp only [Array.mem_singleton] at m
    subst m
    cases same
  exact all g.nonterminals _ start _ h i rfl

/-! ### Tables and their certificates -/

/-- The state a shift enters. -/
def Action.shifted : Action → Option Nat
  | .shift j => some j
  | _ => none

namespace Table

/-- Every entry of the action table, with its state. -/
def entries (t : Table) : List (Nat × String × Action) :=
  t.actions.toList.zipIdx.flatMap fun row => row.1.map fun entry => (row.2, entry.1, entry.2)

/-- Every move of the goto table, with its state. -/
def moves (t : Table) : List (Nat × String × Nat) :=
  t.goto.toList.zipIdx.flatMap fun row => row.1.map fun entry => (row.2, entry.1, entry.2)

/-- The edges of the automaton: its shifts on terminals and its moves on nonterminals. -/
def edges (t : Table) : List (Nat × String × Nat) :=
  t.entries.filterMap (fun e => e.2.2.shifted.map fun j => (e.1, e.2.1, j)) ++ t.moves

theorem mem_entries {t : Table} {s : Nat} {kind : String} {a : Action}
    (h : t.action s kind = some a) : (s, kind, a) ∈ t.entries := by
  obtain ⟨row, found, looked⟩ := Option.bind_eq_some_iff.1 h
  obtain ⟨front, back, rfl, -⟩ := List.lookup_eq_some_iff.1 looked
  refine List.mem_flatMap.2 ⟨(front ++ (kind, a) :: back, s), ?_, ?_⟩
  · exact List.mem_zipIdx_iff_getElem?.2 (by simpa using found)
  · exact List.mem_map.2 ⟨(kind, a), by simp, rfl⟩

theorem mem_moves {t : Table} {s j : Nat} {symbol : String}
    (h : t.target s symbol = some j) : (s, symbol, j) ∈ t.moves := by
  obtain ⟨row, found, looked⟩ := Option.bind_eq_some_iff.1 h
  obtain ⟨front, back, rfl, -⟩ := List.lookup_eq_some_iff.1 looked
  refine List.mem_flatMap.2 ⟨(front ++ (symbol, j) :: back, s), ?_, ?_⟩
  · exact List.mem_zipIdx_iff_getElem?.2 (by simpa using found)
  · exact List.mem_map.2 ⟨(symbol, j), by simp, rfl⟩

theorem shift_mem_edges {t : Table} {s j : Nat} {kind : String}
    (h : (s, kind, Action.shift j) ∈ t.entries) : (s, kind, j) ∈ t.edges :=
  List.mem_append_left _ (List.mem_filterMap.2 ⟨_, h, rfl⟩)

theorem move_mem_edges {t : Table} {s j : Nat} {symbol : String}
    (h : t.target s symbol = some j) : (s, symbol, j) ∈ t.edges :=
  List.mem_append_right _ (mem_moves h)

/-- A state that reduces by default has that reduction among its entries. -/
theorem default_mem_entries {t : Table} {s p : Nat} (h : t.defaultOf s = some p) :
    ∃ kind, (s, kind, Action.reduce p) ∈ t.entries := by
  unfold defaultOf at h
  split at h
  · rename_i kind p' found
    cases h
    refine ⟨kind, List.mem_flatMap.2 ⟨([(kind, .reduce p)], s), ?_, by simp⟩⟩
    exact List.mem_zipIdx_iff_getElem?.2 (by simpa using found)
  · cases h

/-- What a certificate asks of one entry of the action table: a shift is on a token, never on the
end of the input; a reduction is by a rule of the grammar whose right-hand side, the last symbol
first, every way into the state ends with; acceptance is at the end of the input, in a state
other than the first, entered only from the first state, on the start symbol. -/
def fits {α : Type} (g : Grammar α) (t : Table) (past : List (List String))
    (e : Nat × String × Action) : Bool :=
  match e.2.2 with
  | .shift _ => e.2.1 != endMarker
  | .reduce p =>
    match g.numbered[p]? with
    | some (shape, some _) => shape.rhs.reverse.isPrefixOf (past.getD e.1 [])
    | _ => false
  | .accept =>
    e.1 != 0 && e.2.1 == endMarker && t.edges.all fun d => d.2.2 != e.1 || (d.1 == 0 && d.2.1 == g.start)
  | .blocked => true

/-- A certificate for a table: for each state, the symbols every way into it ends with, the
latest first. The first state is entered by no edge and has nothing behind it; every edge keeps
what the state it leaves knows, with its own symbol in front; every entry fits. -/
structure Certified {α : Type} (g : Grammar α) (t : Table) (past : List (List String)) : Prop where
  start : past.getD 0 [] = []
  edges : ∀ d ∈ t.edges, d.2.2 ≠ 0 ∧ past.getD d.2.2 [] <+: d.2.1 :: past.getD d.1 []
  entries : ∀ e ∈ t.entries, fits g t past e = true

/-- A certificate is checked by running its three checks. -/
instance {α : Type} {g : Grammar α} {t : Table} {past : List (List String)} :
    Decidable (t.Certified g past) :=
  decidable_of_iff (past.getD 0 [] = [] ∧
      (∀ d ∈ t.edges, d.2.2 ≠ 0 ∧ past.getD d.2.2 [] <+: d.2.1 :: past.getD d.1 []) ∧
      ∀ e ∈ t.entries, fits g t past e = true)
    ⟨fun ⟨start, edges, entries⟩ => ⟨start, edges, entries⟩,
      fun ⟨start, edges, entries⟩ => ⟨start, edges, entries⟩⟩

end Table

/-! ### Stacks the parser builds -/

/-- A stack of states with the symbols read to reach it, the latest first: the first state at the
bottom, and each state above entered from the one below on its symbol. -/
inductive Path (t : Table) : List Nat → List String → Prop
  | start : Path t [0] []
  | enter {s j : Nat} {states : List Nat} {symbols : List String} {x : String} :
      Path t (s :: states) symbols → (s, x, j) ∈ t.edges → Path t (j :: s :: states) (x :: symbols)

namespace Path

variable {g : Grammar α} {t : Table} {past : List (List String)}

theorem length_eq {states : List Nat} {symbols : List String} (h : Path t states symbols) :
    states.length = symbols.length + 1 := by
  induction h with
  | start => rfl
  | enter _ _ ih => simp [ih]

theorem ne_nil {states : List Nat} {symbols : List String} (h : Path t states symbols) :
    states ≠ [] := by
  cases h <;> simp

/-- Below the top of a path lies a path. -/
theorem drop {symbols : List String} :
    ∀ {states : List Nat} {front : List String}, Path t states (front ++ symbols) →
      Path t (states.drop front.length) symbols := by
  intro states front h
  induction front generalizing states with
  | nil => simpa using h
  | cons x front ih =>
    cases h with
    | enter below _ => simpa using ih below

/-- Every way into the top state ends with what the certificate says of it. -/
theorem past_prefix (cert : t.Certified g past) {s : Nat} {states : List Nat}
    {symbols : List String} (h : Path t (s :: states) symbols) : past.getD s [] <+: symbols := by
  generalize top : s :: states = whole at h
  induction h generalizing s states with
  | start =>
    cases top
    simp only [cert.start, List.nil_prefix]
  | @enter s' j states' symbols' x below edge ih =>
    cases top
    exact (cert.edges _ edge).2.trans (List.prefix_cons_inj x |>.2 (ih rfl))

/-- The first state is only ever at the bottom. -/
theorem bottom (cert : t.Certified g past) {states : List Nat} {symbols : List String}
    (h : Path t (0 :: states) symbols) : states = [] ∧ symbols = [] := by
  cases h with
  | start => exact ⟨rfl, rfl⟩
  | enter _ edge => exact absurd rfl (cert.edges _ edge).1

/-- A state where the table accepts holds the start symbol alone, on the first state. -/
theorem accepting (cert : t.Certified g past) {s : Nat} {kind : String} {states : List Nat}
    {symbols : List String} (accepts : (s, kind, Action.accept) ∈ t.entries)
    (h : Path t (s :: states) symbols) : kind = endMarker ∧ states = [0] ∧ symbols = [g.start] := by
  have fits := cert.entries _ accepts
  simp only [Table.fits, Bool.and_eq_true, bne_iff_ne, beq_iff_eq, List.all_eq_true,
    Bool.or_eq_true] at fits
  obtain ⟨⟨other, atEnd⟩, entered⟩ := fits
  cases h with
  | start => exact absurd rfl other
  | enter below edge =>
    obtain ⟨rfl, rfl⟩ := (entered _ edge).resolve_left (by simp)
    obtain ⟨rfl, rfl⟩ := bottom cert below
    exact ⟨atEnd, rfl, rfl⟩

end Path

end MatrixLang.Grammar
