import MatrixLang.Proofs.Scopes

/-!
# Misplaced control statements are reported exactly

The checker asks a `break` or `continue` to stand in a loop and a `return` in a block. It does
not look at the syntax for this but at the chain of scopes it keeps: a scope is opened for each
block, branch and loop and closed when the construct is done, and a statement is reported when no
scope of the kind it needs is open. A report reads `Błąd w linii L: ` followed by the statement's
word in backticks and `w złym miejscu!` ("in the wrong place").

The scopes open at a statement are those of its syntactic ancestors, so the reports are those of
a count on the syntax (`Stmt.misplaced`): each `break` and `continue` that stands in no loop body
and each `return` that stands in no block, once each, in the order of the program. No other
message of the checker ends the way a report does.

## Main results

* `Stmt.check_reports`: checking a statement that ends keeps the open scopes and adds exactly the
  reports of the statement's misplaced statements, given whether a loop and a block are open.
* `Program.check_reports`: for every program the checker accepts, the reports among its errors
  are those of the misplaced statements of the program, one each, in order.

## Proof strategy

`EStateM.Emits names view R x`: a step that ends keeps the names of the open scopes and adds
`R ns` to a view of the state, `ns` being the names open when it starts. The property is closed
under the ways the checker combines steps, and a step run in a new scope runs with one more name
open. Every message other than a report has an ending that no report has (`Misplacement.Quiet`);
each checking function of an expression shows it for the messages it records, so expressions add
no report.
-/
namespace MatrixLang

/-! ### Reports -/

/-- A control statement where it may not stand: its line and its word. -/
structure Misplacement where
  line : Nat
  word : String
  deriving DecidableEq

namespace Misplacement

/-- How every report of a misplaced statement ends. -/
def ending : String := "` w złym miejscu!"

/-- What the checker says of a misplaced statement. -/
def text (m : Misplacement) : String := s!"`{m.word}` w złym miejscu!"

/-- The message that reports a misplaced statement. -/
def report (m : Misplacement) : String := s!"Błąd w linii {m.line}: {m.text}"

/-- Whether a message ends as a report does. -/
def isReport (message : String) : Bool := ending.toList.isSuffixOf message.toList

/-- Whether a printed line ends as a report does. -/
def isReportLine (line : String) : Bool := (ending ++ "\n").toList.isSuffixOf line.toList

/-- A text that ends otherwise than a report, whatever stands before it. -/
def Quiet (text : String) : Prop := ∀ pre : List Char, ¬ ending.toList <:+ pre ++ text.toList

theorem ending_suffix_text (m : Misplacement) : ending.toList <:+ m.text.toList := by
  unfold text
  rw [String.toList_append]
  exact List.suffix_append _ _

theorem isReport_report (m : Misplacement) : isReport m.report = true := by
  unfold isReport
  rw [List.isSuffixOf_iff_suffix]
  unfold report
  rw [String.toList_append]
  exact (ending_suffix_text m).trans (List.suffix_append _ _)

/-- A text is quiet when it ends in a tail that neither ends as a report does nor is the end of
one. -/
theorem Quiet.of_tail {text : String} (tail : String) (ends : tail.toList <:+ text.toList)
    (apart : ¬ ending.toList <:+ tail.toList ∧ ¬ tail.toList <:+ ending.toList) : Quiet text := by
  intro pre reported
  have tailed : tail.toList <:+ pre ++ text.toList := ends.trans (List.suffix_append pre _)
  rcases List.suffix_or_suffix_of_suffix reported tailed with longer | shorter
  · exact apart.1 longer
  · exact apart.2 shorter

/-- A text of no variable part is quiet when it neither ends as a report does nor is the end of
one. -/
theorem Quiet.whole {text : String}
    (apart : ¬ ending.toList <:+ text.toList ∧ ¬ text.toList <:+ ending.toList) : Quiet text :=
  .of_tail _ (List.suffix_refl _) apart

theorem Quiet.not_report {text : String} (quiet : Quiet text) (pre : String) :
    isReport (pre ++ text) = false := by
  rw [isReport, String.toList_append, Bool.eq_false_iff, ne_eq, List.isSuffixOf_iff_suffix]
  exact quiet pre.toList

/-- A message printed as a line is a report line exactly when the message is a report. -/
theorem isReportLine_line (message : String) : isReportLine (message ++ "\n") = isReport message := by
  rw [isReportLine, isReport, Bool.eq_iff_iff, List.isSuffixOf_iff_suffix, List.isSuffixOf_iff_suffix,
    String.toList_append, String.toList_append]
  exact List.suffix_append_self_iff

/-- An unknown name is reported between backticks. -/
theorem Quiet.unknown (name : String) : Quiet s!"nie rozpoznano zmiennej `{name}`!" :=
  .of_tail "`!" (by rw [String.toList_append]; exact List.suffix_append _ _) (by decide)

/-- Operands of types the operator table does not list are reported with their types. -/
theorem Quiet.operands (a b : Option Script.Ty) :
    Quiet s!"działanie na niekompatybilnych typach danych: {Script.Ty.label a} i {Script.Ty.label b}!" := by
  have ends : (Script.Ty.label b ++ "!").toList <:+
      (s!"działanie na niekompatybilnych typach danych: {Script.Ty.label a} i {Script.Ty.label b}!").toList := by
    simp only [String.toList_append]
    exact List.suffix_append_self_iff.mpr (List.suffix_append _ _)
  refine .of_tail _ ends ?_
  rcases b with _ | ⟨_ | _ | _ | _ | _⟩ <;> decide

/-- Two matrices whose sizes do not fit an operator are reported with the operator. -/
theorem Quiet.sizes (op : String) :
    Quiet s!"nie można wykonywać operacji `{op}` na macierzach o różnych wymiarach!" :=
  .of_tail "` na macierzach o różnych wymiarach!"
    (by rw [String.toList_append]; exact List.suffix_append _ _) (by decide)

theorem Quiet.incompatible (op : String) :
    Quiet s!"nie można wykonywać operacji `{op}` na macierzach o niekompatybilnych wymiarach!" :=
  .of_tail "` na macierzach o niekompatybilnych wymiarach!"
    (by rw [String.toList_append]; exact List.suffix_append _ _) (by decide)

end Misplacement

/-! ### Steps that add reports -/

section Steps

variable {ε σ α β γ : Type} {names : σ → List String} {view : σ → List γ}

/-- A step that, when it ends, keeps the names of the open scopes and adds `R ns` to a view of
the state, `ns` being the names open when it starts. -/
structure EStateM.Emits (names : σ → List String) (view : σ → List γ) (R : List String → List γ)
    (x : EStateM ε σ α) : Prop where
  emits : ∀ {s a s'}, x.run s = .ok a s' → names s' = names s ∧ view s' = view s ++ R (names s)

namespace EStateM.Emits

variable {R R' R₁ R₂ : List String → List γ}

theorem congr {x : EStateM ε σ α} (emits : EStateM.Emits names view R x) (same : ∀ ns, R ns = R' ns) :
    EStateM.Emits names view R' x where
  emits ended := by
    rw [← same]
    exact emits.emits ended

theorem pure' (a : α) : EStateM.Emits names view (fun _ => []) (pure a : EStateM ε σ α) where
  emits ended := by
    cases ended
    simp

theorem get' : EStateM.Emits names view (fun _ => []) (get : EStateM ε σ σ) where
  emits ended := by
    cases ended
    simp

theorem throw' (e : ε) : EStateM.Emits names view R (throw e : EStateM ε σ α) where
  emits ended := by cases ended

theorem modify' {g : σ → σ} (keeps : ∀ s, names (g s) = names s)
    (adds : ∀ s, view (g s) = view s ++ R (names s)) :
    EStateM.Emits names view R (modify g : EStateM ε σ PUnit) where
  emits ended := by
    cases ended
    exact ⟨keeps _, adds _⟩

theorem bind' {x : EStateM ε σ α} {f : α → EStateM ε σ β} (first : EStateM.Emits names view R₁ x)
    (rest : ∀ a, EStateM.Emits names view R₂ (f a)) :
    EStateM.Emits names view (fun ns => R₁ ns ++ R₂ ns) (x >>= f) where
  emits ended := by
    obtain ⟨a, s₁, started, ended⟩ := Script.EStateM.bind_ok ended
    obtain ⟨kept₁, added₁⟩ := first.emits started
    obtain ⟨kept₂, added₂⟩ := (rest a).emits ended
    rw [kept₁] at kept₂ added₂
    exact ⟨kept₂, by rw [added₂, added₁, List.append_assoc]⟩

/-- A first step that adds no report. -/
theorem then' {x : EStateM ε σ α} {f : α → EStateM ε σ β}
    (first : EStateM.Emits names view (fun _ => []) x) (rest : ∀ a, EStateM.Emits names view R (f a)) :
    EStateM.Emits names view R (x >>= f) :=
  (first.bind' rest).congr fun _ => List.nil_append _

theorem ite' {c : Prop} [Decidable c] {x y : EStateM ε σ α} (yes : EStateM.Emits names view R x)
    (no : EStateM.Emits names view R y) : EStateM.Emits names view R (if c then x else y) := by
  split
  · exact yes
  · exact no

/-- A step that reads the state first adds what its continuation adds from the state it read. -/
theorem get_bind' {f : σ → EStateM ε σ α} (each : σ → List String → List γ)
    (rest : ∀ s, EStateM.Emits names view (each s) (f s)) (agree : ∀ s, each s (names s) = R (names s)) :
    EStateM.Emits names view R (get >>= f) where
  emits {s a s'} ended := by
    simp only [EStateM.run_bind, EStateM.run_get] at ended
    rw [← agree]
    exact (rest s).emits ended

theorem forIn' {δ : Type} (xs : List δ) (init : β) {g : δ → β → EStateM ε σ (ForInStep β)}
    (pass : ∀ c b, EStateM.Emits names view (fun _ => []) (g c b)) :
    EStateM.Emits names view (fun _ => []) (forIn xs init g) := by
  induction xs generalizing init with
  | nil => exact .pure' init
  | cons c cs ih =>
    rw [List.forIn_cons]
    refine .then' (pass c init) fun step => ?_
    cases step with
    | done b => exact .pure' b
    | yield b => exact ih b

end EStateM.Emits

end Steps

namespace Script

open Misplacement

/-! ### The checker's reports -/

/-- The reports among the checker's errors. -/
def Checker.reports (c : Checker) : List String := c.errors.toList.filter Misplacement.isReport

/-- Whether a loop is among the open scopes. -/
def inLoop (ns : List String) : Bool := ns.any (["for_stmt", "while_stmt"].contains ·)

/-- Whether a block is among the open scopes. -/
def inBlock (ns : List String) : Bool := ns.any (["stmts_set"].contains ·)

@[simp] theorem inLoop_cons (name : String) (ns : List String) :
    inLoop (name :: ns) = (decide (name = "for_stmt") || decide (name = "while_stmt") || inLoop ns) := by
  simp [inLoop, Bool.or_assoc]

@[simp] theorem inBlock_cons (name : String) (ns : List String) :
    inBlock (name :: ns) = (decide (name = "stmts_set") || inBlock ns) := by
  simp [inBlock]

theorem Check.flag_emits (line : Nat) (text : String) :
    EStateM.Emits Checker.names Checker.reports
      (fun _ => [s!"Błąd w linii {line}: {text}"].filter Misplacement.isReport) (Check.flag line text) :=
  .modify' (fun _ => rfl) fun c => by simp [Checker.reports, List.filter_append]

theorem Check.flag_quiet {line : Nat} {text : String} (quiet : Quiet text) :
    EStateM.Emits Checker.names Checker.reports (fun _ => []) (Check.flag line text) :=
  (Check.flag_emits line text).congr fun _ => by
    have dropped : isReport s!"Błąd w linii {line}: {text}" = false := quiet.not_report _
    rw [List.filter_cons, dropped]
    rfl

theorem Check.put_quiet (name : String) (sym : Symbol) :
    EStateM.Emits Checker.names Checker.reports (fun _ => []) (modify (·.put name sym) : Check Unit) :=
  .modify' (fun c => Checker.names_put c name sym) fun c => by simp [Checker.reports]

theorem Check.flag_report (m : Misplacement) :
    EStateM.Emits Checker.names Checker.reports (fun _ => [m.report]) (Check.flag m.line m.text) :=
  (Check.flag_emits m.line m.text).congr fun _ => by
    change [m.report].filter isReport = _
    rw [List.filter_cons, isReport_report]
    rfl

/-- A statement that must stand in a scope of `kinds` is reported when none is open. -/
theorem Check.requireScope_emits (kinds : List String) (line : Nat) (word : String) :
    EStateM.Emits Checker.names Checker.reports
      (fun ns => if ns.any (kinds.contains ·) then [] else [(Misplacement.mk line word).report])
      (Check.requireScope kinds line word) :=
  .get_bind' (fun c _ => if c.within kinds then [] else [(Misplacement.mk line word).report])
    (fun c => by
      cases c.within kinds
      · exact Check.flag_report ⟨line, word⟩
      · exact .pure' _)
    fun c => by rw [Checker.within_eq]

/-- The inside of `inScope` runs with one more scope open. -/
theorem Check.inScope_emits {α : Type} {name : String} {body : Check α}
    {R : List String → List String} (inner : EStateM.Emits Checker.names Checker.reports R body) :
    EStateM.Emits Checker.names Checker.reports (fun ns => R (name :: ns)) (Check.inScope name body) where
  emits ended := by
    obtain ⟨c₁, ran, rfl⟩ := Check.inScope_ok ended
    obtain ⟨kept, added⟩ := inner.emits ran
    simp only [Checker.names_push] at kept added
    -- closing the scope leaves the errors alone
    exact ⟨by simp [kept], by simpa [Checker.reports, Checker.pop, Checker.push] using added⟩

/-! ### Checking expressions adds no report -/

theorem Check.typeOf_quiet (name : String) (line : Nat) :
    EStateM.Emits Checker.names Checker.reports (fun _ => []) (Check.typeOf name line) := by
  unfold Check.typeOf
  refine .then' .get' fun _ => ?_
  split
  · exact .pure' _
  · exact .then' (Check.flag_quiet (Quiet.unknown name)) fun _ => .pure' _

theorem Check.operation_quiet (op : String) (line : Nat) (a b : Option Ty) :
    EStateM.Emits Checker.names Checker.reports (fun _ => []) (Check.operation op line a b) := by
  unfold Check.operation
  split
  · exact .pure' _
  · exact .then' (Check.flag_quiet (Quiet.operands a b)) fun _ => .pure' _

theorem Check.matrixNamed_quiet (id : String) (line : Nat) :
    EStateM.Emits Checker.names Checker.reports (fun _ => []) (Check.matrixNamed id line) := by
  unfold Check.matrixNamed
  refine .then' .get' fun _ => ?_
  split
  · exact .then' (Check.flag_quiet (Quiet.unknown id)) fun _ => .pure' _
  · exact .then' (Check.flag_quiet (Quiet.whole (by decide))) fun _ => .pure' _
  · exact .pure' _

theorem Atom.check_quiet : (a : Atom) →
    EStateM.Emits Checker.names Checker.reports (fun _ => []) a.check
  | .int .. | .float .. | .str .. => .pure' _
  | .var n l => Check.typeOf_quiet n l

theorem Index.check_quiet : (i : Index) →
    EStateM.Emits Checker.names Checker.reports (fun _ => []) i.check
  | .lit .. => .pure' _
  | .name n l => Check.typeOf_quiet n l

theorem Index.literal_quiet : (i : Index) →
    EStateM.Emits Checker.names Checker.reports (fun _ => []) i.literal
  | .lit .. => .pure' _
  | .name .. => .throw' _

/-- A reference checked against a size: each message it records is quiet. -/
theorem Element.check_quiet : (r : Element) →
    EStateM.Emits Checker.names Checker.reports (fun _ => []) r.check
  | .pair id r c l => by
    have wrong : EStateM.Emits Checker.names Checker.reports (fun _ => [])
        (Check.flag l "zły wymiar macierzy!") := Check.flag_quiet (Quiet.whole (by decide))
    refine .then' r.check_quiet fun _ => .then' c.check_quiet fun _ => ?_
    refine .then' (Check.matrixNamed_quiet id l) fun found => ?_
    split
    · exact .pure' _
    · refine .ite' (.then' (Check.flag_quiet (Quiet.whole (by decide))) fun _ => .pure' _) ?_
      refine .then' r.literal_quiet fun _ => .ite' (.then' wrong fun _ => .pure' _) ?_
      exact .then' c.literal_quiet fun _ => .ite' (.then' wrong fun _ => .pure' _) (.pure' _)
  | .single id r l => by
    refine .then' r.check_quiet fun _ => .then' (Check.matrixNamed_quiet id l) fun found => ?_
    split
    · exact .pure' _
    · exact .then' r.literal_quiet fun _ =>
        .ite' (.then' (Check.flag_quiet (Quiet.whole (by decide))) fun _ => .pure' _) (.pure' _)

theorem Slice.check_quiet : (s : Slice) →
    EStateM.Emits Checker.names Checker.reports (fun _ => []) s.check
  | .both id b e l => by
    have wrong : EStateM.Emits Checker.names Checker.reports (fun _ => [])
        (Check.flag l "zły wymiar tablicy!") := Check.flag_quiet (Quiet.whole (by decide))
    refine .then' b.check_quiet fun _ => .then' e.check_quiet fun _ => ?_
    refine .then' (Check.matrixNamed_quiet id l) fun found => ?_
    split
    · exact .pure' _
    · refine .then' e.literal_quiet fun _ => .ite' (.then' wrong fun _ => .pure' _) ?_
      refine .then' b.literal_quiet fun _ => .then' e.literal_quiet fun _ => ?_
      exact .ite' (.then' wrong fun _ => .pure' _) (.pure' _)
  | .upTo id e l => by
    refine .then' e.check_quiet fun _ => .then' (Check.matrixNamed_quiet id l) fun found => ?_
    split
    · exact .pure' _
    · exact .then' e.literal_quiet fun _ =>
        .ite' (.then' (Check.flag_quiet (Quiet.whole (by decide))) fun _ => .pure' _) (.pure' _)
  | .onwards id b l => by
    refine .then' b.check_quiet fun _ => .then' (Check.matrixNamed_quiet id l) fun found => ?_
    split
    · exact .pure' _
    · exact .then' b.literal_quiet fun _ =>
        .ite' (.then' (Check.flag_quiet (Quiet.whole (by decide))) fun _ => .pure' _) (.pure' _)

theorem Target.check_quiet : (t : Target) →
    EStateM.Emits Checker.names Checker.reports (fun _ => []) t.check
  | .var n l => Check.typeOf_quiet n l
  | .element r => .then' r.check_quiet fun _ => .pure' _
  | .slice s => .then' s.check_quiet fun _ => .pure' _

theorem Expr.variableName_quiet : (e : Expr) →
    EStateM.Emits Checker.names Checker.reports (fun _ => []) e.variableName
  | .atom (.var ..) => .pure' _
  | .atom (.int ..) | .atom (.float ..) | .atom (.str ..) => .throw' _
  | .assign _ | .relation _ | .matrixFun .. | .element _ | .negate .. | .literal .. | .transpose ..
  | .paren .. | .arith .. | .dotted .. => .throw' _

theorem Expr.operandName_quiet (e : Expr) :
    EStateM.Emits Checker.names Checker.reports (fun _ => []) e.operandName := by
  unfold Expr.operandName
  split <;> exact Expr.variableName_quiet _

theorem matrixShape_quiet (name : String) :
    EStateM.Emits Checker.names Checker.reports (fun _ => []) (matrixShape name) := by
  unfold matrixShape
  refine .then' .get' fun _ => ?_
  split
  · exact .pure' _
  · exact .throw' _
  · exact .throw' _

theorem Expr.dottedType_quiet (op : String) (l : Nat) (a b : Expr) (ta tb : Option Ty) :
    EStateM.Emits Checker.names Checker.reports (fun _ => []) (Expr.dottedType op l a b ta tb) := by
  unfold Expr.dottedType
  refine .then' (Check.operation_quiet op l _ _) fun found => ?_
  split
  · exact .pure' _
  · refine .ite' ?_ (.pure' _)
    refine .then' a.operandName_quiet fun _ => .then' b.operandName_quiet fun _ => ?_
    refine .then' (matrixShape_quiet _) fun _ => .then' (matrixShape_quiet _) fun _ => ?_
    refine .ite' (.then' (Check.flag_quiet (Quiet.sizes op)) fun _ => .pure' _) ?_
    exact .ite' (.then' (Check.flag_quiet (Quiet.incompatible op)) fun _ => .pure' _) (.pure' _)

theorem Expr.shape_quiet (ty : Option Ty) (line : Nat) : (e : Expr) →
    EStateM.Emits Checker.names Checker.reports (fun _ => []) (e.shape ty line)
  | .literal (.rows _ _) _ =>
    .ite' (.then' (Check.flag_quiet (Quiet.whole (by decide))) fun _ => .pure' _) (.pure' _)
  | .literal (.row _) _ | .matrixFun .. => .pure' _
  | .transpose x _ | .paren x _ => by
    refine .then' .get' fun _ => .then' x.variableName_quiet fun _ => ?_
    split
    · exact .pure' _
    · exact .throw' _
    · exact .pure' _
  | .atom _ | .assign _ | .relation _ | .element _ | .negate .. | .arith .. | .dotted .. => .pure' _

theorem declareShape_quiet (name : String) (shape : Option (Option Ty × (Nat × Nat) × Nat)) :
    EStateM.Emits Checker.names Checker.reports (fun _ => []) (declareShape name shape) := by
  unfold declareShape
  split
  · exact Check.put_quiet _ _
  · exact Check.put_quiet _ _
  · exact .pure' _

mutual
/-- Checking an expression adds no report: expressions hold no statement. -/
theorem Expr.check_quiet : (e : Expr) →
    EStateM.Emits Checker.names Checker.reports (fun _ => []) e.check
  | .atom a => a.check_quiet
  | .assign a => .then' a.check_quiet fun _ => .pure' _
  | .relation c => c.check_quiet
  | .matrixFun .. => .pure' _
  | .element r => r.check_quiet
  | .negate e _ => .then' e.check_quiet fun _ => .pure' _
  | .literal .. => .pure' _
  | .transpose e _ => e.check_quiet
  | .paren e _ => e.check_quiet
  | .arith op a b l =>
    .then' a.check_quiet fun _ => .then' b.check_quiet fun _ => Check.operation_quiet op l _ _
  | .dotted op a b l =>
    .then' a.check_quiet fun _ => .then' b.check_quiet fun _ => Expr.dottedType_quiet op l a b _ _

theorem Assign.check_quiet : (a : Assign) →
    EStateM.Emits Checker.names Checker.reports (fun _ => []) a.check
  | .declare (.element r) v _ => .then' v.check_quiet fun _ => .then' r.check_quiet fun _ => .pure' _
  | .declare (.slice s) v _ => .then' v.check_quiet fun _ => .then' s.check_quiet fun _ => .pure' _
  | .declare (.var name _) v l =>
    .then' v.check_quiet fun ty => .then' (v.shape_quiet ty l) fun shape =>
      declareShape_quiet name shape
  | .update op t v l =>
    .then' t.check_quiet fun _ => .then' v.check_quiet fun _ =>
      .then' (Check.operation_quiet op l _ _) fun _ => .pure' _

theorem Compare.check_quiet : (c : Compare) →
    EStateM.Emits Checker.names Checker.reports (fun _ => []) c.check
  | .mk op a b l =>
    .then' a.check_quiet fun _ => .then' b.check_quiet fun _ => Check.operation_quiet op l _ _
end

theorem Bound.check_quiet : (b : Bound) →
    EStateM.Emits Checker.names Checker.reports (fun _ => []) b.check
  | .index i => i.check_quiet
  | .arith op a b l =>
    .then' a.check_quiet fun _ => .then' b.check_quiet fun _ => Check.operation_quiet op l _ _

theorem PrintItem.check_quiet : (p : PrintItem) →
    EStateM.Emits Checker.names Checker.reports (fun _ => []) p.check
  | .value e => .then' e.check_quiet fun _ => .pure' _
  | .arith op a b l =>
    .then' a.check_quiet fun _ => .then' b.check_quiet fun _ =>
      .then' (Check.operation_quiet op l _ _) fun _ => .pure' _

theorem Printed.check_quiet : (p : Printed) →
    EStateM.Emits Checker.names Checker.reports (fun _ => []) p.check
  | .single i => i.check_quiet
  | .more rest i _ => .then' rest.check_quiet fun _ => i.check_quiet

/-! ### Misplaced statements in the syntax -/

mutual
/-- The control statements of a statement that stand where they may not, in order: each
`break` and `continue` outside every loop body, each `return` outside every block. `loop` and
`block` say whether the statement itself stands in a loop body and in a block. -/
def Stmt.misplaced (loop block : Bool) : Stmt → List Misplacement
  | .control w l => if loop then [] else [⟨l, w⟩]
  | .block body _ => Stmt.misplacedAll loop true body
  | .ifElse _ y n _ => Stmt.misplacedOpt loop block y ++ Stmt.misplacedOpt loop block n
  | .ifThen _ y _ => Stmt.misplacedOpt loop block y
  | .whileLoop _ b _ => Stmt.misplacedOpt true block b
  | .forLoop _ _ _ b _ => Stmt.misplacedOpt true block b
  | .assign _ | .print .. => []
  | .ret _ l => if block then [] else [⟨l, "return"⟩]

/-- The misplaced control statements of a possibly empty statement. -/
def Stmt.misplacedOpt (loop block : Bool) : Option Stmt → List Misplacement
  | none => []
  | some s => Stmt.misplaced loop block s

/-- The misplaced control statements of statements in order. -/
def Stmt.misplacedAll (loop block : Bool) : List (Option Stmt) → List Misplacement
  | [] => []
  | s :: ss => Stmt.misplacedOpt loop block s ++ Stmt.misplacedAll loop block ss
end

/-! ### Checking statements -/

mutual
/-- Checking a statement that ends adds the reports of its misplaced statements: the scopes
open at each statement are those of its syntactic ancestors. -/
theorem Stmt.check_reports : (s : Stmt) → EStateM.Emits Checker.names Checker.reports
    (fun ns => (s.misplaced (inLoop ns) (inBlock ns)).map Misplacement.report) s.check
  | .control w l => (Check.requireScope_emits _ l w).congr fun ns => by
    change (if inLoop ns then [] else _) = _
    cases inLoop ns <;> simp [Stmt.misplaced]
  | .block body _ => (Check.inScope_emits (Stmt.checkAll_reports body)).congr fun ns => by
    simp [Stmt.misplaced]
  | .ifElse c y n _ =>
    (EStateM.Emits.then' c.check_quiet fun _ =>
      (Check.inScope_emits (Stmt.checkOpt_reports y)).bind' fun _ =>
        Check.inScope_emits (Stmt.checkOpt_reports n)).congr fun ns => by
      simp [Stmt.misplaced]
  | .ifThen c y _ =>
    (EStateM.Emits.then' c.check_quiet fun _ =>
      Check.inScope_emits (Stmt.checkOpt_reports y)).congr fun ns => by
      simp [Stmt.misplaced]
  | .whileLoop c b _ =>
    (EStateM.Emits.then' c.check_quiet fun _ =>
      Check.inScope_emits (Stmt.checkOpt_reports b)).congr fun ns => by
      simp [Stmt.misplaced]
  | .forLoop _ a b body _ =>
    (Check.inScope_emits (EStateM.Emits.then' (Check.put_quiet _ _) fun _ =>
      .then' a.check_quiet fun _ => .then' b.check_quiet fun _ =>
        Stmt.checkOpt_reports body)).congr fun ns => by
      simp [Stmt.misplaced]
  | .assign a => a.check_quiet.congr fun ns => by simp [Stmt.misplaced]
  | .print items _ => items.check_quiet.congr fun ns => by simp [Stmt.misplaced]
  | .ret e l =>
    ((Check.requireScope_emits _ l _).bind' fun _ => .then' e.check_quiet fun _ => .pure' _).congr
      fun ns => by
        change (if inBlock ns then [] else _) ++ [] = _
        cases inBlock ns <;> simp [Stmt.misplaced]

theorem Stmt.checkOpt_reports : (s : Option Stmt) → EStateM.Emits Checker.names Checker.reports
    (fun ns => (Stmt.misplacedOpt (inLoop ns) (inBlock ns) s).map Misplacement.report)
    (Stmt.checkOpt s)
  | some s => Stmt.check_reports s
  | none => .throw' _

theorem Stmt.checkAll_reports : (ss : List (Option Stmt)) → EStateM.Emits Checker.names
    Checker.reports (fun ns => (Stmt.misplacedAll (inLoop ns) (inBlock ns) ss).map Misplacement.report)
    (Stmt.checkAll ss)
  | [] => .pure' _
  | s :: ss =>
    ((Stmt.checkOpt_reports s).bind' fun _ => Stmt.checkAll_reports ss).congr fun ns => by
      simp [Stmt.misplacedAll]
end

/-- For every program the checker accepts, the reports among its errors are those of the
misplaced `break`, `continue` and `return` of the program, one each, in order. -/
theorem Program.check_reports {p : Program} {c : Checker} (checked : p.check = .ok c) :
    c.reports = (Stmt.misplacedAll false false p).map Misplacement.report := by
  obtain ⟨-, added⟩ := (Stmt.checkAll_reports p).emits (Program.check_ok checked)
  simpa [Checker.reports, Checker.names, inLoop, inBlock] using added

end Script

end MatrixLang
