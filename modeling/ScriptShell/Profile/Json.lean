/-!
# JSON documents

The documents that the profile is written as, in two forms: on one line without blanks, and with
one item a line, indented by two blanks for each level. Both quote text in the same way: a quote
and a backslash are escaped, control characters below U+0020 by their short escape or by their
number, and every other character stands for itself.
-/

namespace ScriptShell

/-- A JSON document. A number is the token it is written with. -/
inductive Json where
  | number (token : String)
  | boolean (value : Bool)
  | text (value : String)
  | array (items : List Json)
  | object (fields : List (String × Json))
  deriving Inhabited

namespace Json

/-! ## Quoting -/

/-- The digit of a number below sixteen, in lower case. -/
def hexDigit (digit : Nat) : Char :=
  if digit < 10 then Char.ofNat (48 + digit) else Char.ofNat (87 + digit)

/-- A character inside quotes. -/
def quoteChar (c : Char) : List Char :=
  if c = '"' then ['\\', '"']
  else if c = '\\' then ['\\', '\\']
  else if c = '\x08' then ['\\', 'b']
  else if c = '\t' then ['\\', 't']
  else if c = '\n' then ['\\', 'n']
  else if c = '\x0c' then ['\\', 'f']
  else if c = '\r' then ['\\', 'r']
  else if c.toNat < 0x20 then
    ['\\', 'u', '0', '0', hexDigit (c.toNat / 0x10), hexDigit (c.toNat % 0x10)]
  else [c]

/-- A text in quotes. -/
def quote (text : String) : List Char :=
  '"' :: (text.toList.flatMap quoteChar ++ ['"'])

/-! ## Writing -/

/-- The word of a boolean. -/
def word (value : Bool) : List Char :=
  if value then ['t', 'r', 'u', 'e'] else ['f', 'a', 'l', 's', 'e']

mutual

/-- A document on one line. -/
def compact : Json → List Char
  | .number token => token.toList
  | .boolean value => word value
  | .text value => quote value
  | .array items => '[' :: (compactItems items ++ [']'])
  | .object fields => '{' :: (compactFields fields ++ ['}'])

/-- Items with a comma between each two. -/
def compactItems : List Json → List Char
  | [] => []
  | [last] => last.compact
  | item :: next :: rest => item.compact ++ ',' :: compactItems (next :: rest)

/-- Fields with a comma between each two. -/
def compactFields : List (String × Json) → List Char
  | [] => []
  | [(name, value)] => quote name ++ ':' :: value.compact
  | (name, value) :: next :: rest =>
    quote name ++ ':' :: (value.compact ++ ',' :: compactFields (next :: rest))

end

/-- A line break and the blanks of a level. -/
def lineBreak (level : Nat) : List Char :=
  '\n' :: List.replicate (2 * level) ' '

mutual

/-- A document with one item a line, at a level of indentation. -/
def pretty (level : Nat) : Json → List Char
  | .number token => token.toList
  | .boolean value => word value
  | .text value => quote value
  | .array [] => ['[', ']']
  | .array (item :: rest) =>
    '[' :: (prettyItems (level + 1) (item :: rest) ++ (lineBreak level ++ [']']))
  | .object [] => ['{', '}']
  | .object (field :: rest) =>
    '{' :: (prettyFields (level + 1) (field :: rest) ++ (lineBreak level ++ ['}']))

/-- Items, each on a line of its own. -/
def prettyItems (level : Nat) : List Json → List Char
  | [] => []
  | [last] => lineBreak level ++ pretty level last
  | item :: next :: rest =>
    lineBreak level ++ (pretty level item ++ ',' :: prettyItems level (next :: rest))

/-- Fields, each on a line of its own. -/
def prettyFields (level : Nat) : List (String × Json) → List Char
  | [] => []
  | [(name, value)] => lineBreak level ++ (quote name ++ ':' :: ' ' :: pretty level value)
  | (name, value) :: next :: rest =>
    lineBreak level ++ (quote name ++ ':' :: ' ' ::
      (pretty level value ++ ',' :: prettyFields level (next :: rest)))

end

end Json

end ScriptShell
