/-!
# Indented outlines

Syntax trees are shown as outlines: each labelled node is one line, indented by `|  ` once per
labelled ancestor, and its children follow it in order. A node without a label writes nothing
and passes its indentation on unchanged, so it only groups its children.
-/
namespace MatrixLang

/-- An outline: a node with an optional label and its children. -/
inductive Layout where
  | node (label : Option String) (children : List Layout)
  deriving Inhabited

namespace Layout

/-- A labelled leaf. -/
def leaf (label : String) : Layout := .node (some label) []

/-- A labelled node. -/
def labelled (label : String) (children : List Layout) : Layout := .node (some label) children

/-- A node that only groups its children. -/
def group (children : List Layout) : Layout := .node none children

mutual
/-- The text of an outline whose labelled nodes start at indentation `k`. -/
def render (k : Nat) : Layout → String
  | .node label children =>
    let own := match label with
      | some l => String.join (List.replicate k "|  ") ++ l ++ "\n"
      | none => ""
    own ++ renderAll (if label.isSome then k + 1 else k) children

/-- The texts of several outlines, one after the other. -/
def renderAll (k : Nat) : List Layout → String
  | [] => ""
  | t :: ts => render k t ++ renderAll k ts
end

end Layout
end MatrixLang
