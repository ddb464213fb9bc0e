import MatrixLang.Text.Layout
import MatrixLang.Outline.Syntax

/-!
# Outlines are preorder listings

`Layout.render` threads an indentation through the tree and raises it only below labelled
nodes. This module gives the outline a second, flat reading: `Layout.nodes` lists every node in
preorder together with the labels of its proper ancestors, and `Layout.line` turns one such entry
into its line, `|  ` once for the starting indentation and once for each labelled ancestor, then
the label. The main statement, `render_preorder`, says the two readings agree: the printed outline
is exactly one line per labelled node, in preorder, and unlabelled nodes print nothing and add no
indentation. For the outlines of version 3 programs it follows that a program prints as its
instructions one after the other, and a block prints its instructions at its own indentation.
-/
namespace MatrixLang

namespace Layout

mutual
/-- Every node of an outline in preorder, each with the labels of its proper ancestors (the
root's first) and its own label. -/
def nodes : Layout → List (List (Option String) × Option String)
  | .node label children => ([], label) :: (nodesAll children).map fun e => (label :: e.1, e.2)

/-- The nodes of several outlines, one outline after the other. -/
def nodesAll : List Layout → List (List (Option String) × Option String)
  | [] => []
  | t :: ts => nodes t ++ nodesAll ts
end

/-- The number of labelled nodes among some ancestors. -/
def depth (ancestors : List (Option String)) : Nat := ancestors.countP Option.isSome

/-- The line a node prints when the outline starts at indentation `k`: nothing for an unlabelled
node, else its label indented once per level. -/
def line (k : Nat) (entry : List (Option String) × Option String) : Option String :=
  entry.2.map fun l => String.join (List.replicate (k + depth entry.1) "|  ") ++ l ++ "\n"

/-- A labelled ancestor in front counts as one more level of indentation. -/
theorem line_cons (k : Nat) (label : Option String) (ancestors : List (Option String))
    (own : Option String) :
    line k (label :: ancestors, own) = line (if label.isSome then k + 1 else k) (ancestors, own) := by
  cases label with
  | none => simp [line, depth]
  | some l =>
    have shift : k + depth (some l :: ancestors) = k + 1 + depth ancestors := by
      simp only [depth, List.countP_cons, Option.isSome_some, if_true]
      omega
    simp only [line, shift, Option.isSome_some, if_true]

/-- The lines of nodes below a common parent are those of the same nodes seen from the parent,
one level deeper when the parent is labelled. -/
theorem filterMap_line_below (k : Nat) (label : Option String)
    (entries : List (List (Option String) × Option String)) :
    (entries.map fun e => (label :: e.1, e.2)).filterMap (line k) =
      entries.filterMap (line (if label.isSome then k + 1 else k)) := by
  rw [List.filterMap_map]
  congr 1
  funext e
  exact line_cons k label e.1 e.2

mutual
/-- An outline prints one line per labelled node, in preorder. -/
theorem render_eq_lines (k : Nat) :
    (t : Layout) → t.render k = String.join (t.nodes.filterMap (line k))
  | .node label children => by
    simp only [render, nodes]
    rw [List.filterMap_cons, filterMap_line_below, renderAll_eq_lines _ children]
    cases label <;> simp [line, depth]

/-- Several outlines print one line per labelled node, in preorder. -/
theorem renderAll_eq_lines (k : Nat) :
    (ts : List Layout) → renderAll k ts = String.join ((nodesAll ts).filterMap (line k))
  | [] => by simp [renderAll, nodesAll]
  | t :: ts => by
    simp [renderAll, nodesAll, List.filterMap_append, String.join_append,
      render_eq_lines k t, renderAll_eq_lines k ts]
end

/-- Several outlines print one after the other. -/
theorem renderAll_eq_join (k : Nat) (ts : List Layout) :
    renderAll k ts = String.join (ts.map (render k)) := by
  induction ts with
  | nil => simp [renderAll]
  | cons t ts ih => simp [renderAll, ih]

/-- The children of a node that only groups them print one after the other, at the node's own
indentation. -/
theorem render_group (k : Nat) (children : List Layout) :
    (group children).render k = String.join (children.map (render k)) := by
  simp [group, render, renderAll_eq_join]

end Layout

namespace Outline

/-- The outlines of some instructions are those instructions' outlines, in order. -/
theorem layoutAll_eq_map (body : List Instr) : Instr.layoutAll body = body.map Instr.layout := by
  induction body with
  | nil => rfl
  | cons i is ih => simp [Instr.layoutAll, ih]

end Outline

/-- Rendering an outline lists its labelled nodes in preorder, one line each, indented once per
labelled ancestor beyond the starting indentation; unlabelled nodes print nothing. Hence a
version 3 program prints its instructions one after the other from indentation `0`, and a block
prints its instructions at the block's own indentation. -/
theorem render_preorder :
    (∀ (k : Nat) (t : Layout), t.render k = String.join (t.nodes.filterMap (Layout.line k))) ∧
    (∀ p : Outline.Program,
      p.render = String.join (p.body.map fun i => i.layout.render 0)) ∧
    (∀ (k : Nat) (body : List Outline.Instr),
      (Outline.Instr.block body).layout.render k = String.join (body.map fun i => i.layout.render k)) := by
  refine ⟨Layout.render_eq_lines, fun p => ?_, fun k body => ?_⟩
  · simp [Outline.Program.render, Outline.Program.layout, Layout.render_group,
      Outline.layoutAll_eq_map, Function.comp_def]
  · simp [Outline.Instr.layout, Layout.render_group, Outline.layoutAll_eq_map, Function.comp_def]

end MatrixLang
