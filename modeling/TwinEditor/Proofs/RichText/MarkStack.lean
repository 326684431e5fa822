import TwinEditor.RichText.Conversion

/-!
# The stack of marks

A walk over inline nodes keeps the marks of the wrappers around it on one stack, shared by all nodes.
A wrapper takes off only what it has put on, so every walk leaves the stack as it was found, and the
runs of a node are those that it has when the marks around it are simply handed inwards.
-/

namespace TwinEditor
namespace RichText

mutual

/-- The text runs of an inline node inside wrappers with the given marks. -/
def runsOfInline (marks : List Mark) : Markdown.Node → List Node
  | .text value => run value marks
  | .inlineCode value => run value (Mark.code.addTo marks)
  | .strong children => runsOfInlines (Mark.bold.addTo marks) children
  | .emphasis children => runsOfInlines (Mark.italic.addTo marks) children
  | .link url children => runsOfInlines ((Mark.linkTo url).addTo marks) children
  | _ => []

/-- The text runs of a sequence of inline nodes inside wrappers with the given marks. -/
def runsOfInlines (marks : List Mark) : List Markdown.Node → List Node
  | [] => []
  | node :: rest => runsOfInline marks node ++ runsOfInlines marks rest

end

namespace Walk

/-- A walk that adds runs and leaves the stack alone leaves it alone in a wrapper too: a mark that
was put on is the last one when it is taken off. -/
theorem within_eq
    {mark : Mark}
    {inside : Walk → Walk}
    {walk : Walk}
    {added : List Node}
    (adds : inside { walk with marks := mark.addTo walk.marks } =
      ⟨mark.addTo walk.marks, walk.runs ++ added⟩) :
    walk.within mark inside = ⟨walk.marks, walk.runs ++ added⟩ := by
  rw [within, adds]
  by_cases present : mark ∈ walk.marks
  · simp only [present, if_true, Mark.addTo]
  · simp only [present, if_false, Mark.addTo, List.dropLast_concat]

mutual

/-- Walking over a node adds its runs below the marks on the stack, which stays as it was. -/
theorem visit_eq :
    (node : Markdown.Node) →
    (walk : Walk) →
    visit node walk = ⟨walk.marks, walk.runs ++ runsOfInline walk.marks node⟩
  | .text _, _ => rfl
  | .inlineCode _, _ => within_eq rfl
  | .strong children, _ => within_eq (visitAll_eq children _)
  | .emphasis children, _ => within_eq (visitAll_eq children _)
  | .link _ children, _ => within_eq (visitAll_eq children _)
  | .heading .., _ | .paragraph _, _ | .list .., _ | .listItem _, _ | .code .., _
  | .blockquote _, _ | .thematicBreak, _ | .delete _, _ | .lineBreak, _ | .html _, _
  | .image .., _ | .table .., _ | .tableRow _, _ | .tableCell _, _ => by
      simp [visit, runsOfInline]

/-- Walking over nodes adds their runs in order, and the stack stays as it was. -/
theorem visitAll_eq :
    (nodes : List Markdown.Node) →
    (walk : Walk) →
    visitAll nodes walk = ⟨walk.marks, walk.runs ++ runsOfInlines walk.marks nodes⟩
  | [], walk => by rw [visitAll, runsOfInlines, List.append_nil]
  | node :: rest, walk => by
      rw [visitAll, visit_eq node walk, visitAll_eq rest, runsOfInlines, List.append_assoc]

end

end Walk

@[simp] theorem inlineRuns_eq (children : List Markdown.Node) :
    inlineRuns children = runsOfInlines [] children := by
  rw [inlineRuns, Walk.visitAll_eq]
  rfl

end RichText
end TwinEditor
