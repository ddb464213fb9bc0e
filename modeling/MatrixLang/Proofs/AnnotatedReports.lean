import MatrixLang.Proofs.Reports
import MatrixLang.Annotated.Check

/-!
# Misplaced control statements are reported exactly, in version 4

The checker of version 4 places `break`, `continue` and `return` as that of version 5 does (see
`MatrixLang.Proofs.Reports`), reading the chain of scopes it keeps, but it prints its reports
on the standard output instead of keeping them, each on a line of its own.

## Main results

* `Annotated.Stmt.check_reports`: checking a statement that ends keeps the open scopes and prints
  exactly the reports of the statement's misplaced statements, given whether a loop and a block
  are open around it.
* `checkers_report_misplaced`: for every program either checker accepts, the reports it records
  (version 5) or prints (version 4) are those of the misplaced `break`, `continue` and `return`
  of the program, one each, in order, and it records or prints no other message that ends as a
  report does.

## Proof strategy

As for version 5, by `EStateM.Emits`, with the printed lines as the view. The reports of a
`return` and of a `break` or `continue` depend on the scopes read at the statement, which
`EStateM.Emits.get_bind'` passes on.
-/
namespace MatrixLang

namespace Annotated

open Misplacement

/-! ### The printed reports -/

/-- The names of the open scopes, innermost first. -/
def Checker.names (c : Checker) : List String := c.scopes.map Scope.name

/-- The printed lines that report a misplaced statement, with their streams. -/
def Checker.reports (c : Checker) : List (Stream × String) :=
  c.console.pieces.toList.filter (isReportLine ·.2)

theorem Checker.within_eq (c : Checker) (kinds : List String) :
    c.within kinds = c.names.any (kinds.contains ·) := by
  simp [Checker.within, Checker.names, List.any_map, Function.comp_def]

@[simp] theorem Checker.names_put (c : Checker) (name : String) (sym : Symbol) :
    (c.put name sym).names = c.names := by
  unfold Checker.put
  split
  next s rest scopes => simp [Checker.names, scopes]
  next => rfl

@[simp] theorem Checker.console_put (c : Checker) (name : String) (sym : Symbol) :
    (c.put name sym).console = c.console := by
  unfold Checker.put
  split <;> rfl

/-- A message is printed on a line of the standard output. -/
theorem Check.flag_emits (line : Nat) (text : String) :
    EStateM.Emits Checker.names Checker.reports
      (fun _ => [(Stream.out, s!"Błąd w linii {line}: {text}" ++ "\n")].filter (isReportLine ·.2))
      (Check.flag line text) :=
  .modify' (fun _ => rfl) fun c => by
    simp [Checker.reports, Console.printLine, Console.write, List.filter_append]

theorem Check.flag_quiet {line : Nat} {text : String} (quiet : Quiet text) :
    EStateM.Emits Checker.names Checker.reports (fun _ => []) (Check.flag line text) :=
  (Check.flag_emits line text).congr fun _ => by
    have dropped : isReport s!"Błąd w linii {line}: {text}" = false := quiet.not_report _
    rw [List.filter_cons, isReportLine_line, dropped]
    rfl

theorem Check.flag_report (m : Misplacement) :
    EStateM.Emits Checker.names Checker.reports (fun _ => [(Stream.out, m.report ++ "\n")])
      (Check.flag m.line m.text) :=
  (Check.flag_emits m.line m.text).congr fun _ => by
    change [(Stream.out, m.report ++ "\n")].filter (isReportLine ·.2) = _
    rw [List.filter_cons, isReportLine_line, isReport_report]
    rfl

/-- A statement that must stand in a scope of `kinds` is reported when none is open. -/
theorem Check.required_emits (kinds : List String) (m : Misplacement) :
    EStateM.Emits Checker.names Checker.reports
      (fun ns => if ns.any (kinds.contains ·) then [] else [(Stream.out, m.report ++ "\n")])
      (do if !(← get).within kinds then Check.flag m.line m.text : Check Unit) :=
  .get_bind' (fun c _ => if c.within kinds then [] else [(Stream.out, m.report ++ "\n")])
    (fun c => by
      cases c.within kinds
      · exact Check.flag_report m
      · exact .pure' _)
    fun c => by rw [Checker.within_eq]

theorem Check.put_quiet (name : String) (sym : Symbol) :
    EStateM.Emits Checker.names Checker.reports (fun _ => []) (modify (·.put name sym) : Check Unit) :=
  .modify' (fun c => Checker.names_put c name sym) fun c => by simp [Checker.reports]

theorem Check.inScope_ok {α : Type} {name : String} {body : Check α} {c c' : Checker} {a : α}
    (ended : (Check.inScope name body).run c = .ok a c') :
    ∃ c₁, body.run { c with scopes := { name } :: c.scopes } = .ok a c₁ ∧
      c' = { c₁ with scopes := c₁.scopes.drop 1 } := by
  simp only [Check.inScope, EStateM.run_bind, EStateM.run_modify, EStateM.run_pure] at ended
  cases inner : body.run { c with scopes := { name } :: c.scopes } with
  | ok b c₁ =>
    rw [inner] at ended
    cases ended
    exact ⟨c₁, rfl, rfl⟩
  | error e c₁ => rw [inner] at ended; cases ended

/-- The inside of `inScope` runs with one more scope open. -/
theorem Check.inScope_emits {α : Type} {name : String} {body : Check α}
    {R : List String → List (Stream × String)}
    (inner : EStateM.Emits Checker.names Checker.reports R body) :
    EStateM.Emits Checker.names Checker.reports (fun ns => R (name :: ns)) (Check.inScope name body) where
  emits ended := by
    obtain ⟨c₁, ran, rfl⟩ := Check.inScope_ok ended
    obtain ⟨kept, added⟩ := inner.emits ran
    -- closing the scope leaves the printed lines alone
    exact ⟨by simp_all [Checker.names], by simpa [Checker.reports, Checker.names] using added⟩

/-! ### Checking expressions prints no report -/

/-- A matrix function applied to `0` is reported with the function's name. -/
theorem Quiet.argument (name : String) :
    Quiet s!"argument dla funkcji `{name}` mniejszy lub równy zero!" :=
  .of_tail "` mniejszy lub równy zero!"
    (by rw [String.toList_append]; exact List.suffix_append _ _) (by decide)

theorem Check.typeOf_quiet (name : String) (line : Nat) :
    EStateM.Emits Checker.names Checker.reports (fun _ => []) (Check.typeOf name line) := by
  unfold Check.typeOf
  refine .then' .get' fun _ => ?_
  split
  · exact .pure' _
  · exact .then' (Check.flag_quiet (Quiet.unknown name)) fun _ => .pure' _

theorem Check.matrixNamed_quiet (id : String) (line : Nat) :
    EStateM.Emits Checker.names Checker.reports (fun _ => []) (Check.matrixNamed id line) := by
  unfold Check.matrixNamed
  refine .then' .get' fun _ => ?_
  split
  · exact .then' (Check.flag_quiet (Quiet.unknown id)) fun _ => .pure' _
  · exact .then' (Check.flag_quiet (Quiet.whole (by decide))) fun _ => .pure' _
  · exact .pure' _

theorem Atom.check_quiet : (a : Atom) →
    EStateM.Emits Checker.names Checker.reports (fun _ => []) a.check
  | .int .. | .float .. | .str .. => .pure' _
  | .var n l => Check.typeOf_quiet n l

theorem Index.check_quiet : (i : Index) →
    EStateM.Emits Checker.names Checker.reports (fun _ => []) i.check
  | .lit .. => .pure' _
  | .name n l => Check.typeOf_quiet n l

theorem Index.literal_quiet : (i : Index) →
    EStateM.Emits Checker.names Checker.reports (fun _ => []) i.literal
  | .lit .. => .pure' _
  | .name .. => .throw' _

theorem indicesBelow_quiet (size line : Nat) : (is : List Index) →
    EStateM.Emits Checker.names Checker.reports (fun _ => []) (indicesBelow size line is)
  | [] => .pure' _
  | i :: is => .then' i.literal_quiet fun _ =>
      .ite' (.then' (Check.flag_quiet (Quiet.whole (by decide))) fun _ => .pure' _)
        (indicesBelow_quiet size line is)

theorem elementCheck_quiet (id : String) (is : List Index) (line : Nat) :
    EStateM.Emits Checker.names Checker.reports (fun _ => []) (elementCheck id is line) := by
  unfold elementCheck
  refine .then' (.forIn' is _ fun i _ => .then' i.check_quiet fun _ => .pure' _) fun _ => ?_
  refine .then' (Check.matrixNamed_quiet id line) fun found => ?_
  split
  · exact .pure' _
  · refine .ite' (.then' (Check.flag_quiet (Quiet.whole (by decide))) fun _ => .pure' _) ?_
    exact .then' (indicesBelow_quiet _ _ is) fun _ => .ite' (.pure' _) (.pure' _)

theorem Slice.check_quiet : (s : Slice) →
    EStateM.Emits Checker.names Checker.reports (fun _ => []) s.check
  | .both id b e l => by
    have wrong : EStateM.Emits Checker.names Checker.reports (fun _ => [])
        (Check.flag l "zły wymiar tablicy!") := Check.flag_quiet (Quiet.whole (by decide))
    refine .then' b.check_quiet fun _ => .then' e.check_quiet fun _ => ?_
    refine .then' (Check.matrixNamed_quiet id l) fun found => ?_
    split
    · exact .pure' _
    · refine .then' e.literal_quiet fun _ => .ite' (.then' wrong fun _ => .pure' _) ?_
      refine .then' b.literal_quiet fun _ => .then' e.literal_quiet fun _ => ?_
      exact .ite' (.then' wrong fun _ => .pure' _) (.pure' _)
  | .upTo id e l => by
    refine .then' e.check_quiet fun _ => .then' (Check.matrixNamed_quiet id l) fun found => ?_
    split
    · exact .pure' _
    · exact .then' e.literal_quiet fun _ =>
        .ite' (.then' (Check.flag_quiet (Quiet.whole (by decide))) fun _ => .pure' _) (.pure' _)
  | .onwards id b l => by
    refine .then' b.check_quiet fun _ => .then' (Check.matrixNamed_quiet id l) fun found => ?_
    split
    · exact .pure' _
    · exact .then' b.literal_quiet fun _ =>
        .ite' (.then' (Check.flag_quiet (Quiet.whole (by decide))) fun _ => .pure' _) (.pure' _)

theorem Target.check_quiet : (t : Target) →
    EStateM.Emits Checker.names Checker.reports (fun _ => []) t.check
  | .var n l => Check.typeOf_quiet n l
  | .element id is l => .then' (elementCheck_quiet id is l) fun _ => .pure' _
  | .slice s => .then' s.check_quiet fun _ => .pure' _

theorem Expr.variableName_quiet : (e : Expr) →
    EStateM.Emits Checker.names Checker.reports (fun _ => []) e.variableName
  | .atom (.var ..) => .pure' _
  | .atom (.int ..) | .atom (.float ..) | .atom (.str ..) => .throw' _
  | .assign _ | .relation _ | .matrixFun .. | .element .. | .negate .. | .literal .. | .transpose ..
  | .binary .. => .throw' _

theorem Expr.operandName_quiet (e : Expr) :
    EStateM.Emits Checker.names Checker.reports (fun _ => []) e.operandName := by
  unfold Expr.operandName
  split <;> exact Expr.variableName_quiet _

theorem matrixShape_quiet (name : String) :
    EStateM.Emits Checker.names Checker.reports (fun _ => []) (matrixShape name) := by
  unfold matrixShape
  refine .then' .get' fun _ => ?_
  split
  · exact .pure' _
  · exact .throw' _
  · exact .throw' _

theorem binaryCheck_quiet (op : String) (line : Nat) (ta tb : Option Script.Ty)
    {names : Check (String × String)}
    (read : EStateM.Emits Checker.names Checker.reports (fun _ => []) names) :
    EStateM.Emits Checker.names Checker.reports (fun _ => []) (binaryCheck op line ta tb names) := by
  unfold binaryCheck
  split
  · exact .then' (Check.flag_quiet (Quiet.operands ta tb)) fun _ => .pure' _
  · refine .ite' ?_ (.pure' _)
    refine .then' read fun ⟨_, _⟩ => ?_
    refine .then' (matrixShape_quiet _) fun _ => .then' (matrixShape_quiet _) fun _ => ?_
    exact .ite' (.then' (Check.flag_quiet (Quiet.sizes op)) fun _ => .pure' _) (.pure' _)

theorem matrixFunctionCheck_quiet (name : String) (size line : Nat) :
    EStateM.Emits Checker.names Checker.reports (fun _ => []) (matrixFunctionCheck name size line) :=
  -- the marker goes to the list of errors, not to the printed lines
  .ite' (.then' (.modify' (fun _ => rfl) fun _ => by simp [Checker.reports]) fun _ =>
      .then' (Check.flag_quiet (Quiet.argument name)) fun _ => .pure' _) (.pure' _)

mutual
/-- Checking an expression prints no report: expressions hold no statement. -/
theorem Expr.check_quiet : (e : Expr) →
    EStateM.Emits Checker.names Checker.reports (fun _ => []) e.check
  | .atom a => a.check_quiet
  | .assign a => .then' a.check_quiet fun _ => .pure' _
  | .relation c => c.check_quiet
  | .matrixFun f n l => matrixFunctionCheck_quiet f n l
  | .element id is l => elementCheck_quiet id is l
  | .negate e _ => .then' e.check_quiet fun _ => .pure' _
  | .literal .. => .pure' _
  | .transpose e _ => e.check_quiet
  | .binary op a b l =>
    .then' a.check_quiet fun _ => .then' b.check_quiet fun _ =>
      binaryCheck_quiet op l _ _ (.then' a.operandName_quiet fun _ =>
        .then' b.operandName_quiet fun _ => .pure' _)

theorem Assign.check_quiet : (a : Assign) →
    EStateM.Emits Checker.names Checker.reports (fun _ => []) a.check
  | .declare (.var name _) v l => by
    refine .then' v.check_quiet fun ty => ?_
    dsimp -zeta only
    -- the branches on the value share the declaration of the name, once its shape is known
    extract_lets declare
    have declared : ∀ shape, EStateM.Emits Checker.names Checker.reports (fun _ => [])
        (declare shape) := by
      rintro (_ | ⟨_ | t, s, d⟩)
      · exact .pure' _
      · exact .pure' _
      · cases t <;> exact Check.put_quiet _ _
    split
    · exact .ite' (.then' (Check.flag_quiet (Quiet.whole (by decide))) fun _ =>
        .then' (.pure' _) declared) (.then' (.pure' _) declared)
    · exact .then' (.pure' _) declared
    · exact .then' (.pure' _) declared
    · -- a transposition takes the shape of the matrix it names
      refine .then' .get' fun _ => .then' (Expr.variableName_quiet _) fun _ => ?_
      split
      · exact .then' (.pure' _) declared
      · exact .then' (.throw' _) declared
      · exact .then' (.pure' _) declared
    · exact .then' (.pure' _) declared
  | .declare (.element id is l') v _ =>
    .then' v.check_quiet fun _ => .then' (Target.element id is l').check_quiet fun _ => .pure' _
  | .declare (.slice s) v _ =>
    .then' v.check_quiet fun _ => .then' (Target.slice s).check_quiet fun _ => .pure' _
  | .update op t v l =>
    .then' t.check_quiet fun _ => .then' v.check_quiet fun _ =>
      .then' (binaryCheck_quiet op l _ _ (.throw' _)) fun _ => .pure' _

theorem Compare.check_quiet : (c : Compare) →
    EStateM.Emits Checker.names Checker.reports (fun _ => []) c.check
  | .mk op a b l =>
    .then' a.check_quiet fun _ => .then' b.check_quiet fun _ =>
      binaryCheck_quiet op l _ _ (.then' a.operandName_quiet fun _ =>
        .then' b.operandName_quiet fun _ => .pure' _)
end

theorem Printed.check_quiet : (p : Printed) →
    EStateM.Emits Checker.names Checker.reports (fun _ => []) p.check
  | .single a => .then' a.check_quiet fun _ => .pure' _
  | .more rest a _ => .then' rest.check_quiet fun _ => .then' a.check_quiet fun _ => .pure' _

/-! ### Misplaced statements in the syntax -/

mutual
/-- The control statements of a statement that stand where they may not, in order: each
`break` and `continue` outside every loop body, each `return` outside every block. `loop` and
`block` say whether the statement itself stands in a loop body and in a block. -/
def Stmt.misplaced (loop block : Bool) : Stmt → List Misplacement
  | .control w l => if loop then [] else [⟨l, w⟩]
  | .block body _ => Stmt.misplacedAll loop true body
  | .ifElse _ y n _ => Stmt.misplacedOpt loop block y ++ Stmt.misplacedOpt loop block n
  | .ifThen _ y _ => Stmt.misplacedOpt loop block y
  | .whileLoop _ b _ => Stmt.misplacedOpt true block b
  | .forLoop _ _ _ b _ => Stmt.misplacedOpt true block b
  | .assign _ | .print .. => []
  | .ret _ l => if block then [] else [⟨l, "return"⟩]

/-- The misplaced control statements of a possibly empty statement. -/
def Stmt.misplacedOpt (loop block : Bool) : Option Stmt → List Misplacement
  | none => []
  | some s => Stmt.misplaced loop block s

/-- The misplaced control statements of statements in order. -/
def Stmt.misplacedAll (loop block : Bool) : List (Option Stmt) → List Misplacement
  | [] => []
  | s :: ss => Stmt.misplacedOpt loop block s ++ Stmt.misplacedAll loop block ss
end

/-! ### Checking statements -/

open Script (inLoop inBlock)

/-- A report as the checker prints it. -/
def printed (m : Misplacement) : Stream × String := (Stream.out, m.report ++ "\n")

mutual
/-- Checking a statement that ends prints the reports of its misplaced statements. -/
theorem Stmt.check_reports : (s : Stmt) → EStateM.Emits Checker.names Checker.reports
    (fun ns => (s.misplaced (inLoop ns) (inBlock ns)).map printed) s.check
  | .control w l => (Check.required_emits _ ⟨l, w⟩).congr fun ns => by
    change (if inLoop ns then [] else _) = _
    cases inLoop ns <;> simp [Stmt.misplaced, printed]
  | .block body _ => (Check.inScope_emits (Stmt.checkAll_reports body)).congr fun ns => by
    simp [Stmt.misplaced]
  | .ifElse c y n _ =>
    (EStateM.Emits.then' c.check_quiet fun _ =>
      (Check.inScope_emits (Stmt.checkOpt_reports y)).bind' fun _ =>
        Check.inScope_emits (Stmt.checkOpt_reports n)).congr fun ns => by
      simp [Stmt.misplaced]
  | .ifThen c y _ =>
    (EStateM.Emits.then' c.check_quiet fun _ =>
      Check.inScope_emits (Stmt.checkOpt_reports y)).congr fun ns => by
      simp [Stmt.misplaced]
  | .whileLoop c b _ =>
    (EStateM.Emits.then' c.check_quiet fun _ =>
      Check.inScope_emits (Stmt.checkOpt_reports b)).congr fun ns => by
      simp [Stmt.misplaced]
  | .forLoop _ a b body _ =>
    (Check.inScope_emits (EStateM.Emits.then' (Check.put_quiet _ _) fun _ =>
      .then' a.check_quiet fun _ => .then' b.check_quiet fun _ =>
        Stmt.checkOpt_reports body)).congr fun ns => by
      simp [Stmt.misplaced]
  | .assign a => a.check_quiet.congr fun ns => by simp [Stmt.misplaced]
  | .print items _ => items.check_quiet.congr fun ns => by simp [Stmt.misplaced]
  | .ret e l => by
    refine .get_bind' (fun c _ =>
      if c.within ["stmts_set"] then [] else [printed ⟨l, "return"⟩]) (fun c => ?_) fun c => ?_
    · -- the value is checked whether or not the place of the `return` is reported
      extract_lets value
      have checked : ∀ r, EStateM.Emits Checker.names Checker.reports (fun _ => []) (value r) :=
        fun _ => .then' e.check_quiet fun _ => .pure' _
      cases c.within ["stmts_set"]
      · exact ((Check.flag_report ⟨l, "return"⟩).bind' checked).congr fun _ => List.append_nil _
      · exact checked ()
    · rw [Checker.within_eq]
      change (if inBlock c.names then _ else _) = _
      cases inBlock c.names <;> simp [Stmt.misplaced]

theorem Stmt.checkOpt_reports : (s : Option Stmt) → EStateM.Emits Checker.names Checker.reports
    (fun ns => (Stmt.misplacedOpt (inLoop ns) (inBlock ns) s).map printed) (Stmt.checkOpt s)
  | some s => Stmt.check_reports s
  | none => .throw' _

theorem Stmt.checkAll_reports : (ss : List (Option Stmt)) → EStateM.Emits Checker.names
    Checker.reports (fun ns => (Stmt.misplacedAll (inLoop ns) (inBlock ns) ss).map printed)
    (Stmt.checkAll ss)
  | [] => .pure' _
  | s :: ss =>
    ((Stmt.checkOpt_reports s).bind' fun _ => Stmt.checkAll_reports ss).congr fun ns => by
      simp [Stmt.misplacedAll]
end

/-- A program the checker accepts was checked to its end from the empty state. -/
theorem Program.check_ok {p : Program} {c : Checker} (checked : p.check = .ok c) :
    (Stmt.checkAll p).run {} = .ok () c := by
  unfold Program.check at checked
  split at checked <;> cases checked
  assumption

/-- For every program the checker accepts, the lines it prints that report a misplaced statement
are those of the misplaced `break`, `continue` and `return` of the program, one each, in order. -/
theorem Program.check_reports {p : Program} {c : Checker} (checked : p.check = .ok c) :
    c.reports = (Stmt.misplacedAll false false p).map printed := by
  obtain ⟨-, added⟩ := (Stmt.checkAll_reports p).emits (Program.check_ok checked)
  simpa [Checker.reports, Checker.names, inLoop, inBlock] using added

end Annotated

/-! ### Both checkers -/

/-- Every program that either checker accepts is reported on exactly at its misplaced `break`,
`continue` and `return`: version 5 keeps the reports among its errors, version 4 prints them, one
line each; no other message of either ends as a report does. -/
theorem checkers_report_misplaced :
    (∀ (p : Script.Program) (c : Script.Checker), p.check = .ok c →
      c.reports = (Script.Stmt.misplacedAll false false p).map Misplacement.report) ∧
    (∀ (p : Annotated.Program) (c : Annotated.Checker), p.check = .ok c →
      c.reports = (Annotated.Stmt.misplacedAll false false p).map Annotated.printed) :=
  ⟨fun _ _ => Script.Program.check_reports, fun _ _ => Annotated.Program.check_reports⟩

/-- In the program `break; while (1 < 2) continue; return 1; { return 2; }`, one statement a line,
both checkers report the `break` of line 1 and the `return` of line 3, and nothing else. -/
theorem checkers_report_break_and_return :
    (∃ c : Script.Checker, Script.Program.check [some (.control "break" 1),
        some (.whileLoop (.mk "<" (.atom (.int 1 2)) (.atom (.int 2 2)) 2)
          (some (.control "continue" 2)) 2),
        some (.ret (.atom (.int 1 3)) 3), some (.block [some (.ret (.atom (.int 2 4)) 4)] 4)] =
        .ok c ∧
      c.reports = ["Błąd w linii 1: `break` w złym miejscu!",
        "Błąd w linii 3: `return` w złym miejscu!"]) ∧
    (∃ c : Annotated.Checker, Annotated.Program.check [some (.control "break" 1),
        some (.whileLoop (.mk "<" (.atom (.int 1 2)) (.atom (.int 2 2)) 2)
          (some (.control "continue" 2)) 2),
        some (.ret (.atom (.int 1 3)) 3), some (.block [some (.ret (.atom (.int 2 4)) 4)] 4)] =
        .ok c ∧
      c.reports = [(.out, "Błąd w linii 1: `break` w złym miejscu!\n"),
        (.out, "Błąd w linii 3: `return` w złym miejscu!\n")]) :=
  ⟨Exists.imp (fun _ accepted => ⟨accepted, (checkers_report_misplaced.1 _ _ accepted).trans rfl⟩)
      ⟨_, rfl⟩,
    Exists.imp (fun _ accepted => ⟨accepted, (checkers_report_misplaced.2 _ _ accepted).trans rfl⟩)
      ⟨_, rfl⟩⟩

end MatrixLang
