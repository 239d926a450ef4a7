import TiffStrip.Text.Hex

/-!
# JSON

The values a report is made of, and their text over several lines, two spaces to a level, as a library
prints them for the program.
-/

namespace TiffStrip.Text

inductive Json where
  | null
  | bool (value : Bool)
  | number (value : Nat)
  | text (value : String)
  | list (items : List Json)
  | object (members : List (String × Json))

namespace Json

/-- A character inside a JSON string. Only quotes, backslashes and controls are escaped. -/
def escape (c : Char) : String :=
  match c with
  | '"' => "\\\""
  | '\\' => "\\\\"
  | '\n' => "\\n"
  | '\r' => "\\r"
  | '\t' => "\\t"
  | '\x08' => "\\b"
  | '\x0c' => "\\f"
  | c => if c.toNat < 0x20 then "\\u" ++ hex 4 c.toNat else c.toString

def quoted (s : String) : String :=
  "\"" ++ String.join (s.toList.map escape) ++ "\""

/-- Items on lines of their own between brackets, one level deeper than the brackets. -/
def block (first last : String) (level : Nat) (items : List String) : String :=
  let margin := fun n => "\n" ++ "".pushn ' ' (2 * n)
  if items.isEmpty then first ++ last
  else first ++ ",".intercalate (items.map (margin (level + 1) ++ ·)) ++ margin level ++ last

mutual

/-- The value as text whose first line starts at the given level. -/
def render (level : Nat) : Json → String
  | null => "null"
  | bool b => if b then "true" else "false"
  | number n => toString n
  | text s => quoted s
  | list items => block "[" "]" level (renderItems (level + 1) items)
  | object members => block "\x7b" "\x7d" level (renderMembers (level + 1) members)

def renderItems (level : Nat) : List Json → List String
  | [] => []
  | item :: rest => render level item :: renderItems level rest

def renderMembers (level : Nat) : List (String × Json) → List String
  | [] => []
  | (key, value) :: rest =>
    (quoted key ++ ": " ++ render level value) :: renderMembers level rest

end

/-- The value as text. -/
def pretty (value : Json) : String :=
  render 0 value

end Json

end TiffStrip.Text
