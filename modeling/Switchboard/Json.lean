/-!
# JSON, written

The answers of the command line are JSON values, written with two blanks of indentation for each
level. Objects keep the order they are given. An empty list or object is written without a line end.
Quotes, backslashes and control characters are escaped, all other characters stand for themselves.
-/

namespace Switchboard

/-- **A JSON value**, as far as answers need them. -/
inductive Json where
  /-- A whole number. -/
  | number (n : Nat)
  /-- A text. -/
  | string (text : String)
  /-- A list. -/
  | array (items : List Json)
  /-- An object. -/
  | object (fields : List (String × Json))

namespace Json

/-- The lower-case hexadecimal digit of a value below 16. -/
def hexDigit (n : Nat) : Char :=
  if n < 10 then Char.ofNat (0x30 + n) else Char.ofNat (0x57 + n)

/-- A character as it is written in a text. -/
def escaped (c : Char) : List Char :=
  if c = '"' then ['\\', '"']
  else if c = '\\' then ['\\', '\\']
  else if c = '\n' then ['\\', 'n']
  else if c = '\r' then ['\\', 'r']
  else if c = '\t' then ['\\', 't']
  else if c = '\x08' then ['\\', 'b']
  else if c = '\x0c' then ['\\', 'f']
  else if c.toNat < 0x20 then
    ['\\', 'u', '0', '0', hexDigit (c.toNat / 16), hexDigit (c.toNat % 16)]
  else [c]

/-- A text in quotes. -/
def quoted (s : String) : String :=
  String.ofList ('"' :: s.toList.flatMap escaped ++ ['"'])

/-- The blanks before a line at a level. -/
def indent (level : Nat) : String :=
  String.ofList (List.replicate (2 * level) ' ')

/-- Lines between an opening and a closing bracket, each at the level inside. -/
def block (level : Nat) (opening closing : String) (lines : List String) : String :=
  if lines.isEmpty then opening ++ closing
  else
    opening ++ "\n" ++
      String.intercalate ",\n" (lines.map fun line => indent (level + 1) ++ line) ++
      "\n" ++ indent level ++ closing

mutual

/-- **Writing a value** at a level. -/
def render (level : Nat) : Json → String
  | .number n => n.repr
  | .string text => quoted text
  | .array items => block level "[" "]" (itemLines (level + 1) items)
  | .object fields => block level "\x7b" "\x7d" (fieldLines (level + 1) fields)

/-- The items of a list, written at a level. -/
def itemLines (level : Nat) : List Json → List String
  | [] => []
  | item :: items => render level item :: itemLines level items

/-- The fields of an object, written at a level. -/
def fieldLines (level : Nat) : List (String × Json) → List String
  | [] => []
  | (name, value) :: fields =>
    (quoted name ++ ": " ++ render level value) :: fieldLines level fields

end

end Json

end Switchboard
