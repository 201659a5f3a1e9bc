import EntitySync.Json

/-!
# JSON text

A value is written compactly, or spread over lines with an indentation. Strings are written raw
except for the quote, the backslash and the control characters.
-/

namespace EntitySync

/-- How much white space is written around the parts of a value. -/
inductive JsonLayout where
  | compact
  /-- One element or member a line, indented by so many spaces a level. -/
  | indented (width : Nat)

namespace JsonLayout

def lineBreak (layout : JsonLayout) (depth : Nat) : List Char :=
  match layout with
  | .compact => []
  | .indented width => '\n' :: List.replicate (width * depth) ' '

def colon : JsonLayout → List Char
  | .compact => [':']
  | .indented _ => [':', ' ']

end JsonLayout

namespace Json

/-- A character inside a string literal. -/
def escape (c : Char) : List Char :=
  if c = '"' then ['\\', '"']
  else if c = '\\' then ['\\', '\\']
  else if c = '\x08' then ['\\', 'b']
  else if c = '\t' then ['\\', 't']
  else if c = '\n' then ['\\', 'n']
  else if c = '\x0c' then ['\\', 'f']
  else if c = '\r' then ['\\', 'r']
  else if c.toNat < 0x20 then
    ['\\', 'u', '0', '0', (c.toNat / 16).digitChar, (c.toNat % 16).digitChar]
  else [c]

/-- A string literal. -/
def quote (s : String) : List Char :=
  '"' :: s.toList.flatMap escape ++ ['"']

mutual

/-- Text of a value that stands at the given depth. -/
def render (layout : JsonLayout) (depth : Nat) : Json → List Char
  | .null => ['n', 'u', 'l', 'l']
  | .bool true => ['t', 'r', 'u', 'e']
  | .bool false => ['f', 'a', 'l', 's', 'e']
  | .number n => n.text
  | .string s => quote s
  | .array [] => ['[', ']']
  | .array (e :: es) =>
    '[' :: layout.lineBreak (depth + 1) ++ render layout (depth + 1) e ++
      renderElements layout (depth + 1) es ++ layout.lineBreak depth ++ [']']
  | .object [] => ['{', '}']
  | .object ((k, v) :: ms) =>
    '{' :: layout.lineBreak (depth + 1) ++ quote k ++ layout.colon ++
      render layout (depth + 1) v ++ renderMembers layout (depth + 1) ms ++
      layout.lineBreak depth ++ ['}']

/-- The elements after the first, a comma before each. -/
def renderElements (layout : JsonLayout) (depth : Nat) : List Json → List Char
  | [] => []
  | e :: es =>
    ',' :: layout.lineBreak depth ++ render layout depth e ++ renderElements layout depth es

/-- The members after the first, a comma before each. -/
def renderMembers (layout : JsonLayout) (depth : Nat) : List (String × Json) → List Char
  | [] => []
  | (k, v) :: ms =>
    ',' :: layout.lineBreak depth ++ quote k ++ layout.colon ++ render layout depth v ++
      renderMembers layout depth ms

end

/-- Text without white space. -/
def compact (value : Json) : String :=
  String.ofList (value.render .compact 0)

/-- Text over several lines, two spaces a level. -/
def pretty (value : Json) : String :=
  String.ofList (value.render (.indented 2) 0)

end Json

end EntitySync
