import TwinEditor.Proofs.Markdown.MarkedTree

/-!
# Normalized text

A text is normalized by being read and written again. Normalized text stays as it is for documents of
text with marks and without long references, whatever quotes and lists stand around it, where no mark has
to be kept apart from its neighbours; a hard break in a heading does not.
-/

namespace TwinEditor
namespace Markdown

/-- A text in the style of the writer. -/
def normalize
    (options : Options)
    (source : String) :
    String :=
  (Tree.ofMarkdown options source).toMarkdown

/-- Normalizing changes nothing more once it has been done, where the tree of the text comes back from
what is written for it. -/
theorem normalize_normalize_of_isMarked
    {options : Options}
    {source : String}
    (marked : (Tree.ofMarkdown options source).isMarked options = true) :
    normalize options (normalize options source) = normalize options source := by
  rw [normalize, normalize, Tree.ofMarkdown_toMarkdown_of_isMarked marked]

/-- A setext heading, lists and a quote with marks of all kinds are written in another style, and stay
so. -/
theorem normalize_normalize_of_setext_heading :
    let source := "*Title* __a__\n===\n\n* ~~b~~  \n  <i>c</i>\n* [`d`](<e f>)\n\n1) > ![g](h)\n+ <ij:k>\n" ++
      "\nl|*m\\|*\n:-|-\nn\n\n<p>\no\n"
    (Tree.ofMarkdown .all source).isMarked .all = true ∧ normalize .all source ≠ source ∧
      normalize .all (normalize .all source) = normalize .all source :=
  ⟨by decide +kernel, by decide +kernel, normalize_normalize_of_isMarked (by decide +kernel)⟩

/-- A hard break in a heading: it is written as a backslash and a space, and that backslash is escaped
when the heading is written again. -/
theorem normalize_changes_of_hard_break_in_heading :
    normalize .all "a\\\nb\n===\n" = "# a\\ b\n" ∧
      normalize .all (normalize .all "a\\\nb\n===\n") = "# a\\\\ b\n" ∧
      normalize .all (normalize .all "a\\\nb\n===\n") ≠ normalize .all "a\\\nb\n===\n" := by
  decide +kernel

end Markdown
end TwinEditor
