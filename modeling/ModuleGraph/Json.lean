/-!
# JSON

The part of JSON that reports are made of, and its indented form: two blanks for each level, an
item or a field on each line, and nothing between the brackets of what is empty.
-/

namespace ModuleGraph

/-- A JSON value without numbers and truth values. The fields of an object keep their order. -/
inductive Json where
  | null
  | string (text : String)
  | array (items : List Json)
  | object (fields : List (String × Json))
  deriving Repr

namespace Json

/-- A digit of a number below sixteen. -/
def hexDigit (n : Nat) : Char :=
  if n < 10 then Char.ofNat (48 + n) else Char.ofNat (87 + n)

/-- A character as it stands in a string. Quotes, backslashes and control characters are escaped,
by one letter where there is one. -/
def escaped (c : Char) : List Char :=
  if c = '"' then ['\\', '"']
  else if c = '\\' then ['\\', '\\']
  else if c = '\n' then ['\\', 'n']
  else if c = '\r' then ['\\', 'r']
  else if c = '\t' then ['\\', 't']
  else if c = '\x08' then ['\\', 'b']
  else if c = '\x0c' then ['\\', 'f']
  else if c.toNat < 32 then ['\\', 'u', '0', '0', hexDigit (c.toNat / 16), hexDigit (c.toNat % 16)]
  else [c]

/-- A string with its quotes. -/
def quoted (text : String) : List Char :=
  '"' :: text.toList.flatMap escaped ++ ['"']

/-- The end of a line, and the blanks that the next one starts with. -/
def newline (depth : Nat) : List Char :=
  '\n' :: List.replicate (2 * depth) ' '

/-- What stands between brackets: items behind their indentation, with a comma between each two. -/
def enclosed (opening closing : Char) (depth : Nat) (items : List (List Char)) : List Char :=
  match items with
  | [] => [opening, closing]
  | _ =>
    let lines := items.map fun item => newline (depth + 1) ++ item
    opening :: [','].intercalate lines ++ newline depth ++ [closing]

mutual

/-- The indented form of a value that is so many levels deep. -/
def pretty (depth : Nat) : Json → List Char
  | .null => ['n', 'u', 'l', 'l']
  | .string text => quoted text
  | .array items => enclosed '[' ']' depth (prettyItems (depth + 1) items)
  | .object fields => enclosed '\x7b' '\x7d' depth (prettyFields (depth + 1) fields)

/-- The indented forms of items. -/
def prettyItems (depth : Nat) : List Json → List (List Char)
  | [] => []
  | item :: rest => item.pretty depth :: prettyItems depth rest

/-- The indented forms of fields. -/
def prettyFields (depth : Nat) : List (String × Json) → List (List Char)
  | [] => []
  | (key, value) :: rest =>
    (quoted key ++ [':', ' '] ++ value.pretty depth) :: prettyFields depth rest

end

/-- The indented form of a value. -/
def text (json : Json) : String :=
  String.ofList (json.pretty 0)

end Json

end ModuleGraph
