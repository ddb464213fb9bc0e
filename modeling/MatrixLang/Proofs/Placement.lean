import MatrixLang.Proofs.Scopes
import MatrixLang.Proofs.Transfers

/-!
# Checked programs keep their control transfers inside

The checker asks a `break` or `continue` to stand in a loop and a `return` in a block, looking
at the chain of scopes open where the statement stands; when one does not, it records an error
saying the statement is "w złym miejscu" (in the wrong place). The interpreter instead throws the
control transfer and lets the nearest loop or block catch it.

## Main result

`Program.run_no_escape_of_checked`: if the checker accepts a program and none of its errors
reports a misplaced statement, no run of the program stops on a `return`, `break` or
`continue`.

## Proof strategy

Both sides are compared with `Stmt.escapes`, the control transfers a statement does not catch
itself. On the interpreter's side, `Stmt.exec_within` says a run stops only on those. On the
checker's side, `Stmt.check_placed` says that, when checking a statement records no misplaced
statement, each of those may stand in the scopes open at the statement. At the top of a program
only the root scope is open, where none may stand; so the program lets none out.
-/
namespace MatrixLang.Script

/-! ### Misplaced statements -/

/-- An error message that reports a misplaced `break`, `continue` or `return`. -/
def Misplaced (message : String) : Prop := "w złym miejscu".toList <:+: message.toList

/-- A checker state none of whose errors reports a misplaced statement. -/
def Checker.Clean (c : Checker) : Prop := ∀ e ∈ c.errors.toList, ¬Misplaced e

/-- The scopes one of which a control transfer must stand in: a loop for `break` and
`continue`, a block for `return`. -/
def Signal.scopes : Signal → List String
  | .ret => ["stmts_set"]
  | .brk | .cont => ["for_stmt", "while_stmt"]

theorem Checker.Clean.of_prefix {c c' : Checker} (clean : c'.Clean)
    (grown : c.errors.toList <+: c'.errors.toList) : c.Clean :=
  fun e member => clean e (grown.subset member)

theorem Checker.within_of_names {c d : Checker} {names : List String} (same : c.names = d.names) :
    c.within names = d.within names := by
  rw [Checker.within_eq, Checker.within_eq, same]

/-- Opening a scope that is neither a loop nor a block changes no control transfer's place. -/
theorem Checker.within_push {c : Checker} {name : String} {sig : Signal}
    (other : name ∉ sig.scopes) : (c.push name).within sig.scopes = c.within sig.scopes := by
  have absent : sig.scopes.contains name = false := by simpa using other
  simp only [Checker.within_eq, Checker.names_push, List.any_cons, absent, Bool.false_or]

/-- At the top of a program only the root scope is open, where no control transfer may stand. -/
theorem Checker.root_outside (sig : Signal) : ({} : Checker).within sig.scopes = false := by
  cases sig <;> simp [Checker.within, Signal.scopes]

/-- A `requireScope` that finds no scope of the names records a misplaced statement. -/
theorem Check.requireScope_flags {names : List String} {line : Nat} {word : String}
    {c c' : Checker} (ended : (Check.requireScope names line word).run c = .ok () c')
    (outside : c.within names = false) : ∃ e ∈ c'.errors.toList, Misplaced e := by
  simp only [Check.requireScope, Check.flag, EStateM.run_bind, EStateM.run_get, outside,
    Bool.not_false, if_true, EStateM.run_modify] at ended
  cases ended
  refine ⟨_, Array.mem_toList_iff.mpr (Array.mem_push_self ..), ?_⟩
  -- the message is the line's prefix, the statement's word and then the text looked for
  refine ⟨("Błąd w linii " ++ toString line ++ ": `" ++ word ++ "` ").toList, "!".toList, ?_⟩
  simp [String.toList_append, toString]

/-! ### Placed checks -/

/-- Checking `x` vouches for the control transfers `escapes` picks: whenever it ends with no
misplaced statement among its errors, each of them may stand where `x` started. -/
def Check.Placed {α : Type} (escapes : Signal → Prop) (x : Check α) : Prop :=
  ∀ c a c', x.run c = .ok a c' → c'.Clean → ∀ sig, escapes sig → c.within sig.scopes = true

section Placed

variable {α β : Type} {E E' : Signal → Prop}

theorem Check.Placed.mono {x : Check α} (placed : x.Placed E) (fewer : ∀ sig, E' sig → E sig) :
    x.Placed E' :=
  fun c a c' ended clean sig picked => placed c a c' ended clean sig (fewer sig picked)

theorem Check.Placed.or {x : Check α} (left : x.Placed E) (right : x.Placed E') :
    x.Placed fun sig => E sig ∨ E' sig := by
  intro c a c' ended clean sig picked
  rcases picked with picked | picked
  · exact left c a c' ended clean sig picked
  · exact right c a c' ended clean sig picked

theorem Check.Placed.none' (x : Check α) : x.Placed fun _ => False :=
  fun _ _ _ _ _ _ never => never.elim

theorem Check.Placed.throw' (e : Error) : (throw e : Check α).Placed E := by
  intro c a c' ended
  cases ended

/-- A placed first step stays placed when the rest only adds errors. -/
theorem Check.Placed.bind_left {x : Check α} {f : α → Check β} (first : x.Placed E)
    (rest : ∀ a, (f a).Steady) : (x >>= f).Placed E := by
  intro c b c' ended clean sig picked
  obtain ⟨a, c₁, started, ended⟩ := EStateM.bind_ok ended
  have clean₁ : c₁.Clean := clean.of_prefix ((rest a).grows ended)
  exact first c a c₁ started clean₁ sig picked

/-- A placed rest stays placed after a first step that keeps the scopes. -/
theorem Check.Placed.bind_right {x : Check α} {f : α → Check β} (first : x.Steady)
    (rest : ∀ a, (f a).Placed E) : (x >>= f).Placed E := by
  intro c b c' ended clean sig picked
  obtain ⟨a, c₁, started, ended⟩ := EStateM.bind_ok ended
  have inside := rest a c₁ b c' ended clean sig picked
  rwa [Checker.within_of_names (first.keeps started)] at inside

/-- A scope that no picked control transfer may stand in passes their places through. -/
theorem Check.Placed.inScope' {name : String} {body : Check α} (inner : body.Placed E)
    (other : ∀ sig, E sig → name ∉ sig.scopes) : (Check.inScope name body).Placed E := by
  intro c a c' ended clean sig picked
  obtain ⟨c₁, ran, rfl⟩ := Check.inScope_ok ended
  -- closing the scope leaves the errors alone
  have inside := inner (c.push name) a c₁ ran clean sig picked
  rwa [Checker.within_push (other sig picked)] at inside

theorem Check.requireScope_placed (names : List String) (line : Nat) (word : String) :
    (Check.requireScope names line word).Placed fun sig => sig.scopes = names := by
  intro c a c' ended clean sig required
  cases inside : c.within names
  · obtain ⟨e, member, misplaced⟩ := Check.requireScope_flags ended inside
    exact absurd misplaced (clean e member)
  · rw [required, inside]

end Placed

/-! ### Checking statements -/

/-- A control transfer a loop body lets out of a loop is a `return`, which may not stand in a
loop scope alone. -/
theorem Signal.loop_outside {sig : Signal} {name : String} (loop : name = "for_stmt" ∨
    name = "while_stmt") (picked : sig = .ret) : name ∉ sig.scopes := by
  subst picked
  rcases loop with rfl | rfl <;> simp [Signal.scopes]

mutual
/-- When checking a statement records no misplaced statement, every control transfer the
statement lets out may stand where it stands. -/
theorem Stmt.check_placed : (s : Stmt) → s.check.Placed fun sig => s.escapes sig = true
  | .control w l => (Check.requireScope_placed _ l w).mono fun sig picked => by
    cases sig <;> simp_all [Stmt.escapes, Signal.scopes]
  | .block body _ =>
    -- a block catches the returns of its body and lets the other transfers through
    .inScope' ((Stmt.checkAll_placed body).mono fun sig picked => by
        simp only [Stmt.escapes, Bool.and_eq_true] at picked
        exact picked.2)
      fun sig picked => by cases sig <;> simp_all [Stmt.escapes, Signal.scopes]
  | .ifElse c y n _ =>
    -- each branch is checked in a scope of its own that no control transfer stands in
    have yes : (Stmt.ifElse c y n _).check.Placed fun sig => Stmt.escapesOpt sig y = true :=
      .bind_right c.check_steady fun _ =>
        .bind_left (.inScope' (Stmt.checkOpt_placed y) fun sig _ => by
          cases sig <;> simp [Signal.scopes]) fun _ => .inScope' (Stmt.checkOpt_steady n)
    have no : (Stmt.ifElse c y n _).check.Placed fun sig => Stmt.escapesOpt sig n = true :=
      .bind_right c.check_steady fun _ => .bind_right (.inScope' (Stmt.checkOpt_steady y))
        fun _ => .inScope' (Stmt.checkOpt_placed n) fun sig _ => by
          cases sig <;> simp [Signal.scopes]
    (yes.or no).mono fun sig picked => by simpa [Stmt.escapes] using picked
  | .ifThen c y _ =>
    .bind_right c.check_steady fun _ => .inScope' (Stmt.checkOpt_placed y) fun sig _ => by
      cases sig <;> simp [Signal.scopes]
  | .whileLoop c b _ =>
    .bind_right c.check_steady fun _ =>
      .inScope' ((Stmt.checkOpt_placed b).mono fun sig picked => by
          simp only [Stmt.escapes, Bool.and_eq_true] at picked
          exact picked.2)
        fun sig picked => Signal.loop_outside (.inr rfl) (by
          simp only [Stmt.escapes, Bool.and_eq_true, beq_iff_eq] at picked
          exact picked.1)
  | .forLoop _ a b body _ =>
    .inScope' (.bind_right (.put' _ _) fun _ => .bind_right a.check_steady fun _ =>
        .bind_right b.check_steady fun _ => (Stmt.checkOpt_placed body).mono fun sig picked => by
          simp only [Stmt.escapes, Bool.and_eq_true] at picked
          exact picked.2)
      fun sig picked => Signal.loop_outside (.inl rfl) (by
          simp only [Stmt.escapes, Bool.and_eq_true, beq_iff_eq] at picked
          exact picked.1)
  | .assign a => (Check.Placed.none' _).mono fun sig picked => by simp [Stmt.escapes] at picked
  | .print items _ =>
    (Check.Placed.none' _).mono fun sig picked => by simp [Stmt.escapes] at picked
  | .ret e l =>
    .bind_left ((Check.requireScope_placed _ l _).mono fun sig picked => by
        cases sig <;> simp_all [Stmt.escapes, Signal.scopes])
      fun _ => .bind' e.check_steady fun _ => .pure' _

theorem Stmt.checkOpt_placed : (s : Option Stmt) →
    (Stmt.checkOpt s).Placed fun sig => Stmt.escapesOpt sig s = true
  | some s => Stmt.check_placed s
  | none => .throw' _

theorem Stmt.checkAll_placed : (ss : List (Option Stmt)) →
    (Stmt.checkAll ss).Placed fun sig => Stmt.escapesAll sig ss = true
  | [] => (Check.Placed.none' _).mono fun sig picked => by simp [Stmt.escapesAll] at picked
  | s :: ss =>
    have first : (Stmt.checkAll (s :: ss)).Placed fun sig => Stmt.escapesOpt sig s = true :=
      .bind_left (Stmt.checkOpt_placed s) fun _ => Stmt.checkAll_steady ss
    have rest : (Stmt.checkAll (s :: ss)).Placed fun sig => Stmt.escapesAll sig ss = true :=
      .bind_right (Stmt.checkOpt_steady s) fun _ => Stmt.checkAll_placed ss
    (first.or rest).mono fun sig picked => by simpa [Stmt.escapesAll] using picked
end

/-! ### Checked programs -/

/-- A program the checker accepts with no misplaced `break`, `continue` or `return` never
stops on a control transfer that no statement caught: it ends, or it stops on an error or
on its step budget. -/
theorem Program.run_no_escape_of_checked (p : Program) (product : Bool) (c : Checker)
    (checked : p.check = .ok c) (clean : c.Clean) (sig : Signal) (m : Machine) :
    p.run product ≠ .error (.escaped sig, m) := by
  intro escaped
  have accepted : (Stmt.checkAll p).run {} = .ok () c := Program.check_ok checked
  have stopped : (Stmt.execAll budget p).run { product } = .error (.escaped sig) m :=
    Program.run_error escaped
  have lets_out : Stmt.escapesAll sig p = true := Stmt.execAll_within budget p _ _ _ stopped
  have inside := Stmt.checkAll_placed p {} () c accepted clean sig lets_out
  rw [Checker.root_outside] at inside
  cases inside

/-- `while (1 < 2) break; { return 1; }` passes the checker with no error, so its `break` and
its `return` are caught inside it. -/
theorem Program.loop_and_block_keep_transfers :
    Program.check [some (.whileLoop (.mk "<" (.atom (.int 1 1)) (.atom (.int 2 1)) 1)
        (some (.control "break" 1)) 1), some (.block [some (.ret (.atom (.int 1 2)) 2)] 2)] =
      .ok {} ∧
    Checker.Clean {} ∧
    ∀ sig m, Program.run [some (.whileLoop (.mk "<" (.atom (.int 1 1)) (.atom (.int 2 1)) 1)
        (some (.control "break" 1)) 1), some (.block [some (.ret (.atom (.int 1 2)) 2)] 2)] ≠
      .error (.escaped sig, m) :=
  have accepted : Program.check [some (.whileLoop (.mk "<" (.atom (.int 1 1))
      (.atom (.int 2 1)) 1) (some (.control "break" 1)) 1),
      some (.block [some (.ret (.atom (.int 1 2)) 2)] 2)] = .ok {} := rfl
  have clean : Checker.Clean {} := fun e member => by simp at member
  ⟨accepted, clean, Program.run_no_escape_of_checked _ false _ accepted clean⟩

end MatrixLang.Script
