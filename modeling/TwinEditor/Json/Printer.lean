import TwinEditor.Json.Value

/-!
# Writing JSON

A value is written on one line without spaces, or over several lines with two spaces for each level
of nesting. Strings escape the quote, the backslash and the control characters below U+0020.
-/

namespace TwinEditor
namespace Json

/-- The hexadecimal digit of a number below sixteen, in lower case. -/
def hexDigit (value : Nat) : Char :=
  if value < 10 then Char.ofNat (48 + value) else Char.ofNat (87 + value)

/-- A character as it stands inside a JSON string. -/
def escapeChar (c : Char) : List Char :=
  if c = '"' then ['\\', '"']
  else if c = '\\' then ['\\', '\\']
  else if c = '\n' then ['\\', 'n']
  else if c = '\r' then ['\\', 'r']
  else if c = '\t' then ['\\', 't']
  else if c = '\x08' then ['\\', 'b']
  else if c = '\x0c' then ['\\', 'f']
  else if c.toNat < 0x20 then
    ['\\', 'u', '0', '0', hexDigit (c.toNat / 16), hexDigit (c.toNat % 16)]
  else [c]

/-- A text as a JSON string with its quotes. -/
def quote (text : List Char) : List Char :=
  '"' :: (text.flatMap escapeChar ++ ['"'])

/-- How the parts of an array or object are laid out. -/
inductive Layout
  /-- Everything on one line, without spaces. -/
  | compact
  /-- One line for each part, indented by two spaces for each level, at the given level. -/
  | indented (level : Nat)
  deriving Repr, DecidableEq

namespace Layout

/-- The layout of the parts of a value that is itself laid out like this. -/
def inner : Layout → Layout
  | .compact => .compact
  | .indented level => .indented (level + 1)

/-- What stands before a part, or before the bracket that closes the value. -/
def lineBreak : Layout → List Char
  | .compact => []
  | .indented level => '\n' :: List.replicate (2 * level) ' '

/-- What stands between the name of a member and its value. -/
def colon : Layout → List Char
  | .compact => [':']
  | .indented _ => [':', ' ']

end Layout

/-- The decimal digits of an integer. -/
def integerDigits (value : Int) : List Char :=
  if value < 0 then '-' :: Nat.toDigits 10 value.natAbs else Nat.toDigits 10 value.natAbs

mutual

/-- The text of a value in a layout. -/
def write (layout : Layout) : Json → List Char
  | .null => ['n', 'u', 'l', 'l']
  | .bool true => ['t', 'r', 'u', 'e']
  | .bool false => ['f', 'a', 'l', 's', 'e']
  | .integer value => integerDigits value
  | .numeral spelling => spelling.toList
  | .string value => quote value.toList
  | .valueless => ['n', 'u', 'l', 'l']
  | .array [] => ['[', ']']
  | .array (item :: rest) =>
      '[' :: (layout.inner.lineBreak ++ item.write layout.inner ++
        writeItems layout.inner rest ++ layout.lineBreak ++ [']'])
  | .object [] => ['\x7b', '\x7d']
  | .object ((name, value) :: rest) =>
      '\x7b' :: (layout.inner.lineBreak ++ quote name.toList ++ layout.colon ++
        value.write layout.inner ++ writeMembers layout.inner rest ++ layout.lineBreak ++ ['\x7d'])

/-- The items of an array after the first. -/
def writeItems (layout : Layout) : List Json → List Char
  | [] => []
  | item :: rest => ',' :: (layout.lineBreak ++ item.write layout ++ writeItems layout rest)

/-- The members of an object after the first. -/
def writeMembers (layout : Layout) : List (String × Json) → List Char
  | [] => []
  | (name, value) :: rest =>
      ',' :: (layout.lineBreak ++ quote name.toList ++ layout.colon ++ value.write layout ++
        writeMembers layout rest)

end

/-- The text of a value on one line. -/
def compress (value : Json) : String :=
  String.ofList (value.write .compact)

/-- The text of a value over several lines. -/
def pretty (value : Json) : String :=
  String.ofList (value.write (.indented 0))

end Json
end TwinEditor
