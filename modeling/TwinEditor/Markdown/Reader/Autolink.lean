import TwinEditor.Markdown.Reader.Emphasis
import TwinEditor.Text.Blank

/-!
# Bare addresses

Addresses in plain text that become links without any markup: those that begin with `www.`, with one
of three schemes, and mail addresses. Punctuation at the end of an address does not belong to it,
and nothing between brackets becomes a link.
-/

namespace TwinEditor
namespace Markdown
namespace Reader
namespace Autolink

/-- Whether a character may stand in the name of a host. -/
def isHostChar (c : Char) : Bool :=
  !Text.isBlank c && !Text.isPunctuation c

/-- Whether a text begins with a host name, where `dots` dots have passed and `previous` and `current`
count the underscores of the last two labels. Underscores are not allowed there, except in names with
more than ten dots; a name without dots is allowed only where it is short. A backslash is passed over,
unless it is the last character. -/
def beginsWithHost (allowShort : Bool) (dots previous current : Nat) : List Char → Bool
  | [] =>
      !((0 < previous || 0 < current) && dots ≤ 10) && (allowShort || 0 < dots)
  | c :: rest =>
      if c = '\\' ∧ !rest.isEmpty then beginsWithHost allowShort dots previous current rest
      else if c = '_' then beginsWithHost allowShort dots previous (current + 1) rest
      else if c = '.' then beginsWithHost allowShort (dots + 1) current 0 rest
      else if !isHostChar c && c != '-' then
        previous == 0 && current == 0 && (allowShort || 0 < dots)
      else beginsWithHost allowShort dots previous current rest

/-- Whether a character at the end of an address does not belong to it. -/
def isTrailingMark (c : Char) : Bool :=
  c == '?' || c == '!' || c == '.' || c == ',' || c == ':' || c == '*' || c == '_' || c == '~' ||
    c == '\x27' || c == '"'

/-- An address in reverse without what does not belong to its end: punctuation, character references
and right parentheses that are not opened inside it. The count bounds the number of steps. -/
def trimReversed : Nat → List Char → List Char
  | 0, address => address
  | _ + 1, [] => []
  | bound + 1, c :: before =>
      if isTrailingMark c then trimReversed bound before
      else if c = ';' then
        let name := before.takeWhile Char.isAlpha
        match name.isEmpty, before.dropWhile Char.isAlpha with
        | false, '&' :: rest => trimReversed bound rest
        | _, _ => trimReversed bound before
      else if c = ')' ∧ (c :: before).count '(' < (c :: before).count ')' then
        trimReversed bound before
      else c :: before

/-- An address without what does not belong to its end. A left angle bracket ends it. -/
def trimEnd (address : List Char) : List Char :=
  let address := address.takeWhile (· != '<')
  (trimReversed address.length address.reverse).reverse

/-- A link found in a text: how many characters before the one at which it was found belong to it, its
text and its destination. -/
structure Found where
  reach : Nat
  text : List Char
  destination : List Char
  deriving Repr, DecidableEq

/-- An address that begins with `www.`, at its first character. -/
def web? (before : List Char) (text : List Char) : Option Found :=
  let admitted := before.head?.all fun c =>
    Text.isAsciiSpace c || c == '*' || c == '_' || c == '~' || c == '(' || c == '['
  if admitted && "www.".toList.isPrefixOf text && beginsWithHost false 0 0 0 text then
    let address := trimEnd (text.takeWhile (!Text.isAsciiSpace ·))
    some ⟨0, address, "http://".toList ++ address⟩
  else none

/-- An address with a scheme, at the colon behind the scheme. -/
def url? (before : List Char) (text : List Char) : Option Found :=
  match text with
  | ':' :: '/' :: '/' :: c :: rest =>
      let scheme := (before.takeWhile Char.isAlpha).reverse
      if ["http".toList, "https".toList, "ftp".toList].contains scheme &&
          beginsWithHost true 0 0 0 (c :: rest) then
        let address := scheme ++ trimEnd (text.takeWhile (!Text.isAsciiSpace ·))
        some ⟨scheme.length, address, address⟩
      else none
  | _ => none

/-- Whether a character may stand in the local part of a mail address. -/
def isMailboxChar (c : Char) : Bool :=
  c.isAlphanum || c == '.' || c == '+' || c == '-' || c == '_'

/-- The local part before an at sign, in reverse: its length, whether it names its scheme, and whether
that scheme allows a slash behind the at sign. -/
def mailbox (named slashed : Bool) : List Char → Nat × Bool × Bool
  | [] => (0, named, slashed)
  | c :: before =>
      if isMailboxChar c then
        let (length, named, slashed) := mailbox named slashed before
        (length + 1, named, slashed)
      else if c = ':' then
        let scheme := (before.takeWhile Char.isAlpha).reverse
        if scheme = "mailto".toList then
          let (length, named, slashed) := mailbox true slashed before
          (length + 1, named, slashed)
        else if scheme = "xmpp".toList then
          let (length, named, slashed) := mailbox true true before
          (length + 1, named, slashed)
        else (0, named, slashed)
      else (0, named, slashed)

/-- The characters of a mail address behind its at sign, with whether they hold a dot between labels.
A second at sign means that there is no address. -/
def mailDomain? (slashed : Bool) : List Char → Option (List Char × Bool)
  | [] => some ([], false)
  | c :: rest =>
      if c = '@' then none
      else
        let isDot := c == '.' && rest.head?.any Char.isAlphanum
        if c.isAlphanum || isDot || (c == '/' && slashed) || c == '-' || c == '_' then
          (mailDomain? slashed rest).map fun (domain, dotted) => (c :: domain, dotted || isDot)
        else some ([], false)

/-- A mail address, at its at sign. -/
def mail? (before : List Char) (text : List Char) : Option Found := do
  let '@' :: after := text | none
  let (reach, named, slashed) := mailbox false false before
  if reach = 0 then none
  let (domain, dotted) ← mailDomain? slashed after
  if dotted && domain.getLast?.any (fun c => c.isAlpha || c == '.') then
    let tail := trimEnd ('@' :: domain)
    if tail.isEmpty then none
    let address := (before.take reach).reverse ++ tail
    return ⟨reach, address, if named then address else "mailto:".toList ++ address⟩
  else none

/-- The first link in a text: the text before it in reverse, the link and the text behind it. `depth`
is the number of brackets that are open; nothing is found inside one. -/
def find? (before : List Char) (depth : Int) : List Char → Option (List Char × Found × List Char)
  | [] => none
  | c :: rest =>
      let depth := if c = '[' then depth + 1 else if c = ']' then depth - 1 else depth
      let found :=
        if 0 < depth then none
        else if c = ':' then url? before (c :: rest)
        else if c = 'w' then web? before (c :: rest)
        else if c = '@' then mail? before (c :: rest)
        else none
      match found with
      | some found =>
          some (before.drop found.reach, found, (c :: rest).drop (found.text.length - found.reach))
      | none => find? (c :: before) depth rest

/-- The nodes of a plain text with the addresses in it made links. The count bounds their number. -/
def expandWithin : Nat → List Char → List Inline
  | 0, text => [.text text]
  | bound + 1, text =>
      match find? [] 0 text with
      | some (before, found, rest) =>
          .text before.reverse :: .link found.destination [.text found.text] ::
            expandWithin bound rest
      | none => [.text text]

/-- The nodes of a plain text with the addresses in it made links. -/
def expand (text : List Char) : List Inline :=
  expandWithin text.length text

end Autolink
end Reader
end Markdown
end TwinEditor
