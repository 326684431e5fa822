import TwinEditor.Proofs.Markdown.MarkedTree
import TwinEditor.RichText.Conversion

/-!
# Written text that stays as it is

A written document is stable if it is written in the same way once it has been read back. Documents of
plain text and of text with marks that need not be kept apart from their neighbours are, whatever quotes
and lists stand around it, as long as no long reference is in the text; links are not always.
-/

namespace TwinEditor
namespace RichText
namespace Document

/-- What is written for plain and marked text in headings, paragraphs, code, quotes and lists is stable. -/
theorem written_stable_of_isMarked
    {options : Markdown.Options}
    {document : Document}
    (marked : document.toMarkdown.isMarked options = true) :
    let written := document.toMarkdown.toMarkdown
    (Markdown.Tree.ofMarkdown options written).toMarkdown = written := by
  intro written
  rw [Markdown.Tree.ofMarkdown_toMarkdown_of_isMarked marked]

/-- Text that looks like markup, marks of every kind, two neighbouring lists, and a list in an item behind
its paragraph. -/
theorem written_stable_of_neighbouring_lists :
    let document : Document :=
      ⟨[.heading 2 [.text "C#" []],
        .paragraph [.text "*a* & [b](c) &copy;\n- d\n1. e\n# f" []],
        .heading 1 [.text "k" [.bold], .text " l " [], .text "m" [.italic, .link "n o" none]],
        .paragraph [.text "p" [.bold, .italic], .text " and " [], .text "q`r" [.code]],
        .bulletList [.listItem [.paragraph [.text "+ g" []],
          .orderedList [.listItem [.paragraph [.text "h" []], .codeBlock (some "c++") []]]]],
        .bulletList [.listItem [.blockquote [.horizontalRule, .paragraph [.text "i" []]]]],
        .codeBlock none [.text "```\n\n    j" []]]⟩
    document.toMarkdown.isMarked .all = true ∧
      (Markdown.Tree.ofMarkdown .all document.toMarkdown.toMarkdown).toMarkdown =
        document.toMarkdown.toMarkdown :=
  ⟨by decide +kernel, written_stable_of_isMarked (by decide +kernel)⟩

/-- A link whose destination has the shape of a character reference: it is written as it stands, read
back as the character that it names, and then written as that character. -/
theorem written_changes_of_reference_in_destination :
    let document : Document := ⟨[.paragraph [.text "a" [.link "&copy;" none]]]⟩
    let written := document.toMarkdown.toMarkdown
    let again := (Markdown.Tree.ofMarkdown .all written).toMarkdown
    written = "[a](&copy;)\n" ∧ again = "[a](©)\n" ∧ again ≠ written := by
  decide +kernel

end Document
end RichText
end TwinEditor
