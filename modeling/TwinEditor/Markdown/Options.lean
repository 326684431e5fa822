/-!
# Reader options

The extensions of the Markdown grammar that a reader may have on or off.
-/

namespace TwinEditor
namespace Markdown

/-- Which extensions of the grammar are on. -/
structure Options where
  tables : Bool
  strikethrough : Bool
  autolink : Bool
  tasklist : Bool
  deriving Repr, DecidableEq

namespace Options

/-- All extensions are on. -/
def all : Options :=
  ⟨true, true, true, true⟩

/-- All extensions are off. -/
def plain : Options :=
  ⟨false, false, false, false⟩

end Options
end Markdown
end TwinEditor
