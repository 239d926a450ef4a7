import TiffStrip.Text.Hex
import TiffStrip.Text.Visible

namespace TiffStrip.Text

/-- A character inside quoted text. Characters that cannot be shown are written as their code
point in braces. -/
def quoteChar (c : Char) : String :=
  match c with
  | '\x00' => "\\0"
  | '\t' => "\\t"
  | '\n' => "\\n"
  | '\r' => "\\r"
  | '"' => "\\\""
  | '\\' => "\\\\"
  | c => if isVisible c then c.toString else "\\u\x7b" ++ hex 1 c.toNat ++ "\x7d"

def quote (s : String) : String :=
  "\"" ++ String.join (s.toList.map quoteChar) ++ "\""

/-- A byte inside a quoted byte string; only printable ASCII is shown as itself. -/
def quoteByte (b : UInt8) : String :=
  match b.toNat with
  | 0 => "\\0"
  | 9 => "\\t"
  | 10 => "\\n"
  | 13 => "\\r"
  | 34 => "\\\""
  | 92 => "\\\\"
  | n => if 0x20 ≤ n ∧ n < 0x7f then (Char.ofNat n).toString else "\\x" ++ hex 2 n

/-- A byte string between double quotes, marked by a leading `b`. -/
def quoteBytes (bytes : List UInt8) : String :=
  "b\"" ++ String.join (bytes.map quoteByte) ++ "\""

end TiffStrip.Text
