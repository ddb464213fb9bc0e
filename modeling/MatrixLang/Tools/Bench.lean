import MatrixLang.Tools.Scripts

/-!
# The benchmark suite

The repository measures its tools with a suite of benchmarks, each a function of one size
parameter that returns what it computed. The suite loads its own copy of every version, in which
`.*` is the matrix product.

* The lexer benchmarks of versions 1 and 2 call a lexer action on a lexer that has not started
  scanning, which has no line counter yet: they stop at once.
* The outline benchmark parses `n` copies of a program in version 3 and measures the outline
  (each copy adds `outlineLength` characters), along with the outline of an empty program, of a
  hand-built tree and of a number.
* The checking and pipeline benchmarks of versions 4 and 5 parse `n` copies of an error-free
  program and then visit a node that is no statement; with no copies the parse gives nothing,
  which they visit instead.
* The interpreter benchmark runs `n` copies of a statement group that counts in `total` and
  sets `y` and `E`, and reads those three variables back.
* The matrix benchmark multiplies `ones(n)` by `eye(n)` with `.*`.
* The script benchmark runs every command line script and lists their file names.
-/
namespace MatrixLang.Tools

/-- The number of characters each copy of the outline benchmark's program adds to the outline. -/
def outlineLength : Nat := 1368

/-- The statement group the interpreter benchmark repeats. -/
def countingGroup : String := "total += 1; y = 4.0 / 2; E = ones(3);\n"

/-- The file names of the scripts the script benchmark runs, in order. -/
def scriptFiles : List String :=
  ["main.py", "scanner.py", "main.py", "scanner.py", "main.py", "scanner.py", "main.py", "main.py",
   "main.py", "scanner.py", "scanner.py", "scanner.py", "scanner mine.py", "main.py", "main.py",
   "main.py", "scanner.py"]

/-- The failure of visiting a node that has no children to visit. -/
def childlessFailure (cls : String) : Failure := ⟨"AttributeError", s!"'{cls}' object has no attribute 'children'"⟩

/-- The console after parsing an empty text twice, as the benchmarks of versions 4 and 5 do
when they have no copies. -/
def emptyParses (parse : String → Console → Console) : Console := parse "" (parse "" {})

/-- The outline benchmark of version 3. -/
def outlineBench (n : Int) : Reply :=
  let empty : Outline.Program := { body := [] }
  let handBuilt := Layout.labelled "root" [.leaf "raw", .leaf "1"]
  .ok [("result", .list [.int (n.toNat * outlineLength), .int empty.render.length,
    .text (handBuilt.render 0), .text (handBuilt.render 0), .text ((Outline.Expr.int 7).layout.render 0)])] {}

/-- The checking benchmark of version 4. -/
def checkBench (n : Int) : Reply :=
  if n ≤ 0 then .failed (childlessFailure "NoneType") (emptyParses fun s c => (Annotated.parse s c).2)
  else .failed (childlessFailure "Error") {}

/-- The pipeline benchmark of version 5. -/
def pipelineBench (n : Int) : Reply :=
  if n ≤ 0 then
    .failed ⟨"AttributeError", "'NoneType' object has no attribute 'printTree'"⟩
      (emptyParses fun s c => (Script.parse s c).2)
  else .failed (childlessFailure "Error") {}

/-- The values of some variables of a machine's outermost frame, nothing for those it lacks. -/
def globalsOf (m : Script.Machine) (names : List String) : Dump :=
  let frame := (m.frames.getLast?.map (·.vars)).getD []
  .list (names.map fun n => ((frame.lookup n).map m.heap.dump).getD .none)

/-- Runs a program text in version 5 and reads variables back from the final machine. -/
def runAndRead (src : String) (product : Bool) (names : List String) : Reply :=
  match Script.parse src with
  | (.error s, console) => .failed s.failure console
  | (.ok none, console) => .ok [("result", .none)] console
  | (.ok (some p), console) =>
    match Script.Program.run p product with
    | .ok m => .ok [("result", globalsOf m names)] (console.append m.console)
    | .error (f, m) => .failed (Script.Fault.failure f) (console.append m.console)

/-- The interpreter benchmark of version 5. -/
def interpretBench (n : Int) : Reply :=
  runAndRead ("total = 0;\n" ++ String.join (List.replicate n.toNat countingGroup)) false
    ["total", "y", "E"]

/-- The program of the matrix benchmark: `ones(n)` and `eye(n)` on lines of their own, a row of
`n` ones written out on the third line, and the product of the first two on the fourth. With no
ones the row is the empty literal, which does not parse. -/
def matrixProgram (n : Int) : String :=
  let row := ", ".intercalate (List.replicate n.toNat "1")
  s!"A = ones({n});\nB = eye({n});\nv = [{row}];\nC = A .* B;\n"

/-- The matrix benchmark of version 5: the product of `ones(n)` and `eye(n)`. -/
def matrixBench (n : Int) : Reply :=
  match runAndRead (matrixProgram n) true ["C"] with
  | { results := [("result", .list [c])], console, failure := none, exit } =>
    { results := [("result", c)], console, failure := none, exit }
  | r => r

/-- The script benchmark. -/
def scriptsBench (n : Int) : Reply :=
  .ok [("result", .list [.int n, .list (scriptFiles.map Dump.text)])] {}

/-- A benchmark: its name, its parameter with the default value, and what it does. -/
structure Benchmark where
  name : String
  param : String
  default : Int
  run : Int → Reply

/-- The benchmarks of the suite. -/
def benchmarks : List Benchmark :=
  [⟨"bench_lab1_tokenize", "n_tokens", 1000, fun _ => .failed benchLexerFailure {}⟩,
   ⟨"bench_lab2_scan_parse", "n_tokens", 1000, fun _ => .failed benchLexerFailure {}⟩,
   ⟨"bench_lab3_ast_print", "n_copies", 30, outlineBench⟩,
   ⟨"bench_lab4_typecheck", "n_copies", 4, checkBench⟩,
   ⟨"bench_lab5_interpret", "n_copies", 12, interpretBench⟩,
   ⟨"bench_lab5_matrix_ops", "mat_dim", 18, matrixBench⟩,
   ⟨"bench_lab5_pipeline", "n_copies", 4, pipelineBench⟩,
   ⟨"bench_main_entrypoints", "loop_iters", 2000, scriptsBench⟩]

/-- Runs a benchmark by name with its keyword parameters. A missing benchmark and an unknown
parameter are named between plain single quotes, as they are; a name that is no benchmark's is
quoted as a literal. -/
def bench (name : String) (params : List (String × Int)) : Reply :=
  if !name.startsWith "bench_" then
    .failed ⟨"ValueError", s!"not a bench function: {Quote.quote name}"⟩ {}
  else match benchmarks.find? (·.name == name) with
    | none => .failed ⟨"AttributeError", s!"module 'microbench' has no attribute '{name}'"⟩ {}
    | some b =>
      match params.find? (·.1 != b.param) with
      | some (p, _) => .failed ⟨"TypeError", s!"{name}() got an unexpected keyword argument '{p}'"⟩ {}
      | none => b.run ((params.lookup b.param).getD b.default)

end MatrixLang.Tools
