import TwinEditor.Text.Blank

/-!
# Raw HTML and addresses in angle brackets

Recognizers for what may follow a left angle bracket in inline content. Each returns the text behind
what it recognizes.
-/

namespace TwinEditor
namespace Markdown
namespace Reader

/-- Whether a character may stand in the name of a tag, after the first letter. -/
def isTagNameChar (c : Char) : Bool :=
  c.isAlphanum || c == '-'

/-- A tag name, which begins with a letter. -/
def tagName? : List Char → Option (List Char)
  | c :: rest => if c.isAlpha then some (rest.dropWhile isTagNameChar) else none
  | [] => none

/-- An attribute name. -/
def attributeName? : List Char → Option (List Char)
  | c :: rest =>
      if c.isAlpha || c == '_' || c == ':' then
        some (rest.dropWhile fun d => d.isAlphanum || d == ':' || d == '.' || d == '_' || d == '-')
      else none
  | [] => none

/-- Whether a character may stand in an attribute value without quotes. -/
def isUnquotedValueChar (c : Char) : Bool :=
  !Text.isAsciiSpace c && c != '"' && c != '\x27' && c != '=' && c != '<' && c != '>' && c != '\x60'

/-- The text behind the next occurrence of a character. -/
def pastNext? (target : Char) (text : List Char) : Option (List Char) :=
  match text.dropWhile (· != target) with
  | _ :: rest => some rest
  | [] => none

/-- An attribute value, with or without quotes. -/
def attributeValue? : List Char → Option (List Char)
  | '"' :: rest => pastNext? '"' rest
  | '\x27' :: rest => pastNext? '\x27' rest
  | c :: rest => if isUnquotedValueChar c then some (rest.dropWhile isUnquotedValueChar) else none
  | [] => none

/-- Attributes, white space and the end of an opening tag. The count bounds the number of
attributes. -/
def openTagEnd? : Nat → List Char → Option (List Char)
  | 0, _ => none
  | bound + 1, text =>
      match text.dropWhile Text.isAsciiSpace with
      | '>' :: rest => some rest
      | '/' :: '>' :: rest => some rest
      | trimmed =>
          if text.head?.any Text.isAsciiSpace then do
            let afterName ← attributeName? trimmed
            match afterName.dropWhile Text.isAsciiSpace with
            | '=' :: value =>
                openTagEnd? bound (← attributeValue? (value.dropWhile Text.isAsciiSpace))
            | _ => openTagEnd? bound afterName
          else none

/-- An opening tag behind its left angle bracket. -/
def openTag? (text : List Char) : Option (List Char) := do
  openTagEnd? (text.length + 1) (← tagName? text)

/-- A closing tag behind its left angle bracket. -/
def closeTag? : List Char → Option (List Char)
  | '/' :: rest => do
      match (← tagName? rest).dropWhile Text.isAsciiSpace with
      | '>' :: after => some after
      | _ => none
  | _ => none

/-- An opening or closing tag behind its left angle bracket. -/
def tag? (text : List Char) : Option (List Char) :=
  (closeTag? text).or (openTag? text)

/-- The text behind the first two hyphens in a row, and the text before them. -/
def splitAtHyphens : List Char → Option (List Char × List Char)
  | '-' :: '-' :: rest => some ([], rest)
  | c :: rest => (splitAtHyphens rest).map fun (before, after) => (c :: before, after)
  | [] => none

/-- A comment behind the two hyphens that open it. Its content does not begin with a right angle
bracket, with or without a hyphen before it, and has no two hyphens in a row. -/
def comment? (text : List Char) : Option (List Char) := do
  let (content, after) ← splitAtHyphens text
  match content, after with
  | '>' :: _, _ | '-' :: '>' :: _, _ => none
  | _, '>' :: rest => some rest
  | _, _ => none

/-- The end of a processing instruction, taking characters in steps: a question mark goes together
with the character behind it. -/
def processingInstructionEnd? : List Char → Option (List Char)
  | '?' :: '>' :: rest => some rest
  | '?' :: _ :: rest => processingInstructionEnd? rest
  | '?' :: [] => none
  | _ :: rest => processingInstructionEnd? rest
  | [] => none

/-- The end of a character data section, taking characters in steps: a right bracket goes together
with the character behind it, and two of them with the one behind both. -/
def characterDataEnd? : List Char → Option (List Char)
  | ']' :: ']' :: '>' :: rest => some rest
  | ']' :: ']' :: _ :: rest => characterDataEnd? rest
  | ']' :: ']' :: [] => none
  | ']' :: _ :: rest => characterDataEnd? rest
  | ']' :: [] => none
  | _ :: rest => characterDataEnd? rest
  | [] => none

/-- A declaration behind its exclamation mark: a name in capital letters, white space and whatever comes
before the next right angle bracket. -/
def declaration? (text : List Char) : Option (List Char) :=
  let afterName := text.dropWhile Char.isUpper
  if afterName.length < text.length ∧ afterName.head?.any Text.isAsciiSpace then
    pastNext? '>' afterName
  else none

/-- The text behind a given start, whose ASCII letters may be of either case. -/
def dropFolded? (start text : List Char) : Option (List Char) :=
  if (text.take start.length).map Char.toLower = start then some (text.drop start.length) else none

/-- Raw HTML behind its left angle bracket. -/
def inlineHtml? : List Char → Option (List Char)
  | '!' :: '-' :: '-' :: rest => comment? rest
  | '!' :: '[' :: rest => (dropFolded? "cdata[".toList rest).bind characterDataEnd?
  | '!' :: rest => declaration? rest
  | '?' :: rest => processingInstructionEnd? rest
  | text => tag? text

/-- Whether a character may stand in the scheme of an address. -/
def isSchemeChar (c : Char) : Bool :=
  c.isAlphanum || c == '.' || c == '+' || c == '-'

/-- An absolute address and its right angle bracket: a scheme of two to thirty-two characters, a colon
and no white space, control characters or angle brackets. -/
def bracketedUri? (text : List Char) : Option (List Char) :=
  let scheme := text.takeWhile isSchemeChar
  match text.dropWhile isSchemeChar with
  | ':' :: rest =>
      if text.head?.any Char.isAlpha && 2 ≤ scheme.length && scheme.length ≤ 32 then
        match rest.dropWhile fun c => 0x20 < c.toNat && c != '<' && c != '>' with
        | '>' :: after => some after
        | _ => none
      else none
  | _ => none

/-- Whether a character may stand in the local part of a mail address. -/
def isMailboxChar (c : Char) : Bool :=
  c.isAlphanum || ".!#$%&\x27*+/=?^_\x60\x7b|\x7d~-".toList.contains c

/-- A label of a domain name: letters, digits and inner hyphens, at most sixty-three characters. -/
def isDomainLabel (label : List Char) : Bool :=
  1 ≤ label.length && label.length ≤ 63 && label.head?.any Char.isAlphanum &&
    label.getLast?.any Char.isAlphanum && label.all isTagNameChar

/-- A domain name and the right angle bracket behind it. The bound is on the number of labels. -/
def domainInBracket? : Nat → List Char → Option (List Char)
  | 0, _ => none
  | bound + 1, text =>
      if isDomainLabel (text.takeWhile isTagNameChar) then
        match text.dropWhile isTagNameChar with
        | '>' :: rest => some rest
        | '.' :: rest => domainInBracket? bound rest
        | _ => none
      else none

/-- A mail address and its right angle bracket. -/
def bracketedMail? (text : List Char) : Option (List Char) :=
  if (text.takeWhile isMailboxChar).isEmpty then none
  else
    match text.dropWhile isMailboxChar with
    | '@' :: rest => domainInBracket? (rest.length + 1) rest
    | _ => none

end Reader
end Markdown
end TwinEditor
