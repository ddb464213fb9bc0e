import MatrixLang.Proofs.Acceptance
import MatrixLang.Proofs.Preorder
import MatrixLang.Proofs.Tokenization
import MatrixLang.Outline.Grammar

/-!
# Version 3 parses a program in source order

The parser of version 3 runs a table built for its grammar. Its table carries a certificate
(`Outline.certified`), its scanner makes only tokens of terminal kinds, and its reports of syntax
errors write to the console, so a parse that writes nothing returns what the grammar's
productions build for the whole text (`run_derives`).

The grammar lists a program's instructions right-recursively: `instructions` is an instruction
followed by more instructions, and the value built puts the first instruction in front of the
others. Reading the derivation symbol by symbol, the program's instructions are the values of
consecutive stretches of the tokens, in the order they are written; the outline of a program is
then the outlines of its instructions one after the other.

## Main results

* `Lexicon.kind_mem_kinds`: every token of a scan has one of its lexicon's kinds.
* `Outline.derives_program`: a program's instructions come from consecutive stretches of its
  tokens, in order.
* `Outline.parsed_program_in_source_order`: what a clean parse of version 3 returns prints its
  instructions one after the other, as they stand in the text.
-/
namespace MatrixLang

/-! ### The kinds of tokens -/

namespace Lexicon

/-- The kinds a lexicon gives its tokens: its rules', their keywords', and its literals'. -/
def kinds (lx : Lexicon) : List String :=
  lx.rules.flatMap (fun r => r.role.kind?.toList ++ r.keywords.map Prod.snd) ++
    lx.literals.map String.singleton

theorem kindOf_mem {r : Rule} {kind reading lines} (role : r.role = .emit kind reading lines)
    (text : String) : r.kindOf kind text ∈ r.role.kind?.toList ++ r.keywords.map Prod.snd := by
  unfold Rule.kindOf
  cases found : r.keywords.lookup text with
  | none => simp [role, Role.kind?]
  | some k =>
    obtain ⟨front, back, split, -⟩ := List.lookup_eq_some_iff.1 found
    exact List.mem_append_right _ (List.mem_map.2 ⟨(text, k), by simp [split], rfl⟩)

/-- Every token of a scan has one of the lexicon's kinds. -/
theorem kind_mem_kinds {lx : Lexicon} (sound : lx.Sound) (tallies : lx.Tallies) (src : String)
    {t : Token} (member : t ∈ (lx.scan src).tokens) : t.kind ∈ lx.kinds := by
  obtain ⟨ps, rest, lays⟩ := scan_lays sound tallies src
  obtain ⟨pre, cs, post, split⟩ := mem_tokens lays.events member
  have made := lays.made pre (.token t cs) post split
  simp only [Piece.Made] at made
  rcases made with ⟨r, kind, reading, lines, opens, role, -, rfl⟩ | ⟨c, rfl, -, -, literal, rfl⟩
  · obtain ⟨_, _, _, _, first⟩ := opens
    exact List.mem_append_left _
      (List.mem_flatMap.2 ⟨r, (firstRule_some first).1, kindOf_mem role _⟩)
  · exact List.mem_append_right _ (List.mem_map.2 ⟨c, literal, rfl⟩)

end Lexicon

namespace Outline

open Grammar

/-! ### The table of version 3 -/

/-- What every way into each state of the version 3 table ends with, the latest symbol first. -/
def past : List (List String) := [
    /- 0 -/ [],
    /- 1 -/ ["program"],
    /- 2 -/ ["instructions_opt"],
    /- 3 -/ ["instructions"],
    /- 4 -/ ["instruction"],
    /- 5 -/ ["FOR"],
    /- 6 -/ ["var"],
    /- 7 -/ ["WHILE"],
    /- 8 -/ ["IF"],
    /- 9 -/ ["\x7b"],
    /- 10 -/ ["statement"],
    /- 11 -/ ["assignment"],
    /- 12 -/ ["PRINT"],
    /- 13 -/ ["RETURN"],
    /- 14 -/ ["CONTINUE"],
    /- 15 -/ ["BREAK"],
    /- 16 -/ ["vector_element"],
    /- 17 -/ ["matrix_element"],
    /- 18 -/ ["ID"],
    /- 19 -/ ["instructions", "instruction"],
    /- 20 -/ ["var", "FOR"],
    /- 21 -/ ["ID", "FOR"],
    /- 22 -/ ["assignment_op", "var"],
    /- 23 -/ ["="],
    /- 24 -/ ["ADDASSIGN"],
    /- 25 -/ ["SUBASSIGN"],
    /- 26 -/ ["DIVASSIGN"],
    /- 27 -/ ["MULASSIGN"],
    /- 28 -/ ["(", "WHILE"],
    /- 29 -/ ["(", "IF"],
    /- 30 -/ ["instructions", "\x7b"],
    /- 31 -/ [";", "statement"],
    /- 32 -/ [";", "assignment"],
    /- 33 -/ ["print_vals", "PRINT"],
    /- 34 -/ ["print_val", "PRINT"],
    /- 35 -/ ["expression"],
    /- 36 -/ ["string"],
    /- 37 -/ ["vector_element"],
    /- 38 -/ ["matrix_element"],
    /- 39 -/ ["transposition"],
    /- 40 -/ ["uminus"],
    /- 41 -/ ["matrix_function"],
    /- 42 -/ ["matrix"],
    /- 43 -/ ["num_expression"],
    /- 44 -/ ["-"],
    /- 45 -/ ["STRING"],
    /- 46 -/ ["["],
    /- 47 -/ ["INTNUM"],
    /- 48 -/ ["matrix_function_name"],
    /- 49 -/ ["var"],
    /- 50 -/ ["number"],
    /- 51 -/ ["ZEROS"],
    /- 52 -/ ["ONES"],
    /- 53 -/ ["EYE"],
    /- 54 -/ ["FLOATNUM"],
    /- 55 -/ ["expression", "RETURN"],
    /- 56 -/ ["assignment_op", "vector_element"],
    /- 57 -/ ["assignment_op", "matrix_element"],
    /- 58 -/ ["[", "ID"],
    /- 59 -/ ["=", "var", "FOR"],
    /- 60 -/ ["expression", "assignment_op", "var"],
    /- 61 -/ ["condition", "(", "WHILE"],
    /- 62 -/ ["expression", "("],
    /- 63 -/ ["condition", "(", "IF"],
    /- 64 -/ ["\x7d", "instructions", "\x7b"],
    /- 65 -/ [",", "print_vals", "PRINT"],
    /- 66 -/ ["DOTDIV", "expression"],
    /- 67 -/ ["DOTMUL", "expression"],
    /- 68 -/ ["DOTSUB", "expression"],
    /- 69 -/ ["DOTADD", "expression"],
    /- 70 -/ ["/", "expression"],
    /- 71 -/ ["*", "expression"],
    /- 72 -/ ["-", "expression"],
    /- 73 -/ ["+", "expression"],
    /- 74 -/ ["'", "expression"],
    /- 75 -/ ["expression", "-"],
    /- 76 -/ ["["],
    /- 77 -/ ["vectors", "["],
    /- 78 -/ ["vector", "["],
    /- 79 -/ ["(", "matrix_function_name"],
    /- 80 -/ ["expression", "assignment_op", "vector_element"],
    /- 81 -/ ["expression", "assignment_op", "matrix_element"],
    /- 82 -/ ["INTNUM", "[", "ID"],
    /- 83 -/ ["range", "=", "var", "FOR"],
    /- 84 -/ ["expression", "=", "var", "FOR"],
    /- 85 -/ [")", "condition", "(", "WHILE"],
    /- 86 -/ [">", "expression", "("],
    /- 87 -/ ["<", "expression", "("],
    /- 88 -/ ["GE", "expression", "("],
    /- 89 -/ ["LE", "expression", "("],
    /- 90 -/ ["NE", "expression", "("],
    /- 91 -/ ["EQ", "expression", "("],
    /- 92 -/ [")", "condition", "(", "IF"],
    /- 93 -/ ["print_val", ",", "print_vals", "PRINT"],
    /- 94 -/ ["expression", "DOTDIV", "expression"],
    /- 95 -/ ["expression", "DOTMUL", "expression"],
    /- 96 -/ ["expression", "DOTSUB", "expression"],
    /- 97 -/ ["expression", "DOTADD", "expression"],
    /- 98 -/ ["expression", "/", "expression"],
    /- 99 -/ ["expression", "*", "expression"],
    /- 100 -/ ["expression", "-", "expression"],
    /- 101 -/ ["expression", "+", "expression"],
    /- 102 -/ ["variables", "["],
    /- 103 -/ ["variable", "["],
    /- 104 -/ ["element"],
    /- 105 -/ ["var"],
    /- 106 -/ ["number"],
    /- 107 -/ ["matrix_element"],
    /- 108 -/ ["vector_element"],
    /- 109 -/ ["ID"],
    /- 110 -/ ["]", "vectors", "["],
    /- 111 -/ [",", "vectors", "["],
    /- 112 -/ ["INTNUM", "(", "matrix_function_name"],
    /- 113 -/ ["]", "INTNUM", "[", "ID"],
    /- 114 -/ [",", "INTNUM", "[", "ID"],
    /- 115 -/ ["instruction", "range", "=", "var", "FOR"],
    /- 116 -/ [":", "expression", "=", "var", "FOR"],
    /- 117 -/ ["instruction", ")", "condition", "(", "WHILE"],
    /- 118 -/ ["expression", ">", "expression", "("],
    /- 119 -/ ["expression", "<", "expression", "("],
    /- 120 -/ ["expression", "GE", "expression", "("],
    /- 121 -/ ["expression", "LE", "expression", "("],
    /- 122 -/ ["expression", "NE", "expression", "("],
    /- 123 -/ ["expression", "EQ", "expression", "("],
    /- 124 -/ ["instruction", ")", "condition", "(", "IF"],
    /- 125 -/ ["]", "variables", "["],
    /- 126 -/ [",", "variables", "["],
    /- 127 -/ ["[", "ID"],
    /- 128 -/ ["vector", ",", "vectors", "["],
    /- 129 -/ [")", "INTNUM", "(", "matrix_function_name"],
    /- 130 -/ ["INTNUM", ",", "INTNUM", "[", "ID"],
    /- 131 -/ ["expression", ":", "expression", "=", "var", "FOR"],
    /- 132 -/ ["ELSE", "instruction", ")", "condition", "(", "IF"],
    /- 133 -/ ["variable", ",", "variables", "["],
    /- 134 -/ ["INTNUM", "[", "ID"],
    /- 135 -/ ["]", "INTNUM", ",", "INTNUM", "[", "ID"],
    /- 136 -/ ["instruction", "ELSE", "instruction", ")", "condition", "(", "IF"]]

theorem certified : Table.Certified grammar table past := by
  decide +kernel

theorem report_writes (tk : Option Token) (con : Console) :
    con.pieces.size < (report tk con).pieces.size := by
  cases tk <;> simp [report, Console.size_printLine]

/-- Version 3 makes no token of the kind of the end of the input or of a list of instructions. -/
theorem scan_kinds (src : String) : ∀ tk ∈ (Lexicon.v3.scan src).tokens,
    tk.kind ≠ endMarker ∧ tk.kind ≠ "instructions" ∧ tk.kind ≠ "instructions_opt" := by
  intro tk member
  have kind := Lexicon.kind_mem_kinds Lexicon.v3_wellFormed.1 Lexicon.v3_wellFormed.2 src member
  have outside : ∀ k ∈ Lexicon.v3.kinds, k ≠ endMarker ∧ k ≠ "instructions" ∧ k ≠ "instructions_opt" := by
    decide
  exact outside _ kind

/-! ### Programs are lists of instructions -/

/-- A stretch of tokens read as consecutive instructions: the parts it is cut into each derive an
instruction, and the value built lists their instructions in the same order. -/
def Listed (tokens : List Token) (cell : Cell Piece) : Prop :=
  ∃ parts : List (List Token × Cell Piece), tokens = (parts.map Prod.fst).flatten ∧
    cell = .value (.instrs (parts.map fun part => Piece.asInstr part.2)) ∧
    ∀ part ∈ parts, grammar.Derives "instruction" part.1 part.2

theorem rulesFor_instructions : grammar.rulesFor "instructions" = [3, 4] := by decide

theorem rulesFor_instructions_opt : grammar.rulesFor "instructions_opt" = [1, 2] := by decide

theorem rulesFor_program : grammar.rulesFor "program" = [0] := by decide

/-- A derivation of `instructions` lists instructions, in the order of their tokens: by the rule
`instructions → instruction instructions`, the first instruction comes first. -/
theorem derives_instructions {tokens : List Token} {cell : Cell Piece}
    (derives : grammar.Derives "instructions" tokens cell)
    (plain : ∀ tk ∈ tokens, tk.kind ≠ "instructions") : Listed tokens cell := by
  -- a rule for `instructions` lists the instructions of its children, the first one first
  have rule : ∀ {i : Nat} {r : Production Piece} {parts : List (List Token × Cell Piece)},
      grammar.rules[i]? = some r →
      List.Forall₂ (fun x (part : List Token × Cell Piece) => grammar.Derives x part.1 part.2 ∧
        (x = "instructions" → (∀ tk ∈ part.1, tk.kind ≠ "instructions") → Listed part.1 part.2))
        r.rhs parts →
      r.lhs = "instructions" → (∀ tk ∈ (parts.map Prod.fst).flatten, tk.kind ≠ "instructions") →
      Listed (parts.map Prod.fst).flatten
        (.value (r.build (Cell.lineOf (parts.map Prod.snd)) (parts.map Prod.snd))) := by
    intro i r parts found children head plain
    have index := mem_rulesFor found
    rw [head, rulesFor_instructions] at index
    simp only [List.mem_cons, List.not_mem_nil, or_false] at index
    rcases index with rfl | rfl
    · -- `instructions → instruction`
      have rhs := rule_fact Production.rhs found (b := ["instruction"]) (by decide)
      rw [rhs] at children
      cases children with
      | cons first rest =>
        cases rest
        rename_i part
        have build := rule_fact (fun r => r.build (Cell.lineOf [part.2]) [part.2]) found
          (b := .instrs [Piece.asInstr part.2]) rfl
        refine ⟨[part], by simp, ?_, by simpa using first.1⟩
        simpa using congrArg Cell.value build
    · -- `instructions → instruction instructions`: the first instruction, then the others
      have rhs := rule_fact Production.rhs found (b := ["instruction", "instructions"])
        (by decide)
      rw [rhs] at children
      cases children with
      | cons first rest =>
        cases rest with
        | cons second rest =>
          cases rest
          rename_i part part'
          obtain ⟨parts', split', made', each'⟩ :=
            second.2 rfl (fun tk member => plain tk (by simp [member]))
          have build := rule_fact (fun r => r.build (Cell.lineOf [part.2, part'.2]) [part.2, part'.2])
            found (b := .instrs (Piece.asInstr part.2 :: Piece.asInstrs part'.2)) rfl
          refine ⟨part :: parts', by simp [split'], ?_, ?_⟩
          · simp only [List.map_cons, List.map_nil] at build ⊢
            rw [build, made']
            rfl
          · intro q member
            rcases List.mem_cons.1 member with rfl | later
            · exact first.1
            · exact each' q later
  -- read the derivation symbol by symbol, carrying `Listed` up each list of instructions
  obtain ⟨parts, split, cells, each⟩ := DerivesAll.each
    (P := fun x tokens cell => x = "instructions" → (∀ tk ∈ tokens, tk.kind ≠ "instructions") →
      Listed tokens cell)
    (fun t same plain => absurd same (plain t List.mem_cons_self)) rule derives
  cases each with
  | cons first rest =>
    cases rest
    cases cells
    rw [split] at plain ⊢
    simpa using first.2 rfl (fun tk member => plain tk (by simpa using member))

/-- A derivation of `instructions_opt` lists instructions, none when it derives nothing. -/
theorem derives_optional {tokens : List Token} {cell : Cell Piece}
    (derives : grammar.Derives "instructions_opt" tokens cell)
    (plain : ∀ tk ∈ tokens, tk.kind ≠ "instructions" ∧ tk.kind ≠ "instructions_opt") :
    Listed tokens cell := by
  rcases DerivesAll.cons_inv derives with
    ⟨t, rest, cells, kind, split, -, -⟩ |
    ⟨i, r, children, rest, built, cells, found, head, split, same, below, after⟩
  · exact absurd kind.symm (plain t (by simp [split])).2
  · cases after
    cases same
    have index := mem_rulesFor found
    rw [← head, rulesFor_instructions_opt] at index
    simp only [List.mem_cons, List.not_mem_nil, or_false] at index
    rcases index with rfl | rfl
    · -- `instructions_opt → instructions` passes the list on
      have rhs := rule_fact Production.rhs found (b := ["instructions"]) (by decide)
      rw [rhs] at below
      obtain ⟨c, rfl, list⟩ := below.singleton
      obtain ⟨parts, split', made, each⟩ :=
        derives_instructions list (fun tk member => (plain tk (by simp [split, member])).1)
      have build := rule_fact (fun r => r.build (Cell.lineOf [c]) [c]) found
        (b := .instrs (parts.map fun part => Piece.asInstr part.2)) (by rw [made]; rfl)
      exact ⟨parts, by simp [split, split'], by simpa using congrArg Cell.value build, each⟩
    · -- `instructions_opt →`, nothing
      have rhs := rule_fact Production.rhs found (b := []) (by decide)
      rw [rhs] at below
      cases below
      have build := rule_fact
        (fun r : Production Piece => r.build (Cell.lineOf ([] : List (Cell Piece))) []) found
        (b := .instrs []) rfl
      exact ⟨[], by simp [split], by simpa using congrArg Cell.value build, by simp⟩

/-- A program derives its instructions from consecutive stretches of its tokens, in order. -/
theorem derives_program {tokens : List Token} {v : Piece}
    (derives : grammar.Derives "program" tokens (.value v))
    (plain : ∀ tk ∈ tokens, tk.kind ≠ "instructions" ∧ tk.kind ≠ "instructions_opt") :
    ∃ parts : List (List Token × Cell Piece), tokens = (parts.map Prod.fst).flatten ∧
      v = .program ⟨parts.map fun part => Piece.asInstr part.2⟩ ∧
      ∀ part ∈ parts, grammar.Derives "instruction" part.1 part.2 := by
  rcases DerivesAll.cons_inv derives with
    ⟨t, rest, cells, -, -, same, -⟩ |
    ⟨i, r, children, rest, built, cells, found, head, split, same, below, after⟩
  · cases same
  · cases after
    cases same
    -- the only rule for a program is `program → instructions_opt`
    have index := mem_rulesFor found
    rw [← head, rulesFor_program] at index
    obtain rfl : i = 0 := List.mem_singleton.1 index
    have rhs := rule_fact Production.rhs found (b := ["instructions_opt"]) (by decide)
    rw [rhs] at below
    obtain ⟨c, rfl, optional⟩ := below.singleton
    obtain ⟨parts, split', made, each⟩ :=
      derives_optional optional (fun tk member => plain tk (by simp [split, member]))
    have build := rule_fact (fun r => r.build (Cell.lineOf [c]) [c]) found
      (b := .program ⟨parts.map fun part => Piece.asInstr part.2⟩) (by rw [made]; rfl)
    exact ⟨parts, by simp [split, split'], build, each⟩

/-! ### Clean parses -/

/-- What a clean parse of version 3 returns is the program that the grammar's productions build
for all the tokens of the text. -/
theorem parse_derives {src : String} {p : Program} (parsed : parse src = (.ok (some p), {})) :
    grammar.Derives "program" (Lexicon.v3.scan src).tokens (.value (.program p)) := by
  unfold parse at parsed
  cases ran : parser.run "" report (Lexicon.v3.scan src) {} with
  | mk outcome console =>
    rw [ran] at parsed
    simp only [Prod.mk.injEq] at parsed
    obtain ⟨mapped, rfl⟩ := parsed
    cases outcome with
    | error s => cases mapped
    | ok o =>
      cases o with
      | none => cases mapped
      | some piece =>
        cases piece
        case program q =>
          simp only [Except.map, Except.ok.injEq, Option.some.injEq] at mapped
          subst mapped
          exact run_derives certified report_writes (fun tk member => (scan_kinds src tk member).1)
            ran (Nat.le_refl _)
        all_goals simp [Except.map] at mapped

/-- A clean parse of a version 3 program, one that returns a program and writes nothing, lists
the program's instructions as they stand in the text: the tokens are cut into consecutive
stretches, each of which derives an instruction, and the program's instructions are those
stretches' values, in order. Its outline, which lists each labelled node on a line of its own in
preorder (indented once per labelled ancestor, unlabelled nodes printing nothing), is then the
outlines of its instructions one after the other from indentation `0`, and a block prints its
instructions at its own indentation. -/
theorem parsed_program_in_source_order (src : String) (p : Program)
    (parsed : parse src = (.ok (some p), {})) :
    (∀ (k : Nat) (t : Layout), t.render k = String.join (t.nodes.filterMap (Layout.line k))) ∧
    (∃ parts : List (List Token × Cell Piece),
      (Lexicon.v3.scan src).tokens = (parts.map Prod.fst).flatten ∧
      p.body = parts.map (fun part => Piece.asInstr part.2) ∧
      ∀ part ∈ parts, grammar.Derives "instruction" part.1 part.2) ∧
    p.render = String.join (p.body.map fun i => i.layout.render 0) ∧
    (∀ (k : Nat) (body : List Instr),
      (Instr.block body).layout.render k = String.join (body.map fun i => i.layout.render k)) := by
  obtain ⟨law, program, block⟩ := render_preorder
  obtain ⟨parts, split, made, each⟩ := derives_program (parse_derives parsed)
    (fun tk member => (scan_kinds src tk member).2)
  refine ⟨law, ⟨parts, split, ?_, each⟩, program p, block⟩
  cases made
  rfl

/-- A parse that writes nothing and returns a program. -/
theorem parse_clean_of {src : String} (quiet : (parse src).2.pieces.size = 0)
    (returns : ((parse src).1.toOption.join).isSome = true) :
    ∃ p, parse src = (.ok (some p), {}) := by
  cases parsed : parse src with
  | mk outcome console =>
    rw [parsed] at quiet returns
    obtain ⟨pieces⟩ := console
    obtain rfl : pieces = #[] := Array.eq_empty_of_size_eq_zero quiet
    cases outcome with
    | error s => simp [Except.toOption] at returns
    | ok o =>
      cases o with
      | none => simp [Except.toOption] at returns
      | some p => exact ⟨p, rfl⟩

/-- A clean parse, and what it lists, on a program with a block. -/
theorem block_program_in_source_order : ∃ p : Program,
    parse "x = 1 ; { y = 2 ; z = 3 ; }" = (.ok (some p), {}) ∧ p.body.length = 2 ∧
      p.render = String.join (p.body.map fun i => i.layout.render 0) := by
  obtain ⟨quiet, returns⟩ : (parse "x = 1 ; { y = 2 ; z = 3 ; }").2.pieces.size = 0 ∧
      ((parse "x = 1 ; { y = 2 ; z = 3 ; }").1.toOption.join.map fun p => p.body.length) = some 2 := by
    decide +kernel
  obtain ⟨p, parsed⟩ := parse_clean_of quiet (by simpa using congrArg Option.isSome returns)
  have length : p.body.length = 2 := by simpa [parsed, Except.toOption] using returns
  exact ⟨p, parsed, length, (parsed_program_in_source_order _ p parsed).2.2.1⟩

end Outline
end MatrixLang
