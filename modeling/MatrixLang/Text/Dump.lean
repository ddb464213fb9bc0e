/-!
# Record views of syntax trees

Tools that inspect a syntax tree see it as a record view: each node is its class name and its
named fields, and the fields hold texts, numbers, lists, nested nodes or nothing. The views of
the different syntaxes, of symbol tables and of the interpreter's memory all use this one shape;
a `record` is a table of named entries with no class.
-/
namespace MatrixLang

/-- A record view. -/
inductive Dump where
  | node (cls : String) (fields : List (String × Dump))
  | record (fields : List (String × Dump))
  | list (items : List Dump)
  | text (s : String)
  | int (n : Int)
  | float (x : Float)
  | bool (b : Bool)
  | none
  deriving Inhabited

end MatrixLang
