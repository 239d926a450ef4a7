import TiffStrip.Text.Hex

/-!
# Text on a terminal

A log may quote names that someone else has chosen. The characters in them that a terminal would
carry out are shown by their numbers instead, as the library does that the log is left to.
-/

namespace TiffStrip.Text

/-- Whether a terminal carries a character out: the bell, backspace, form feed, escape, delete, and
the controls of eight bits. Tabs and the ends of lines are left to the terminal. -/
def isTerminalControl (c : Char) : Bool :=
  c.toNat ∈ [0x07, 0x08, 0x0c, 0x1b, 0x7f] || (0x80 ≤ c.toNat && c.toNat ≤ 0x9f)

def terminalChar (c : Char) : String :=
  if !isTerminalControl c then c.toString
  else if c.toNat < 0x80 then "\\x" ++ hex 2 c.toNat
  else "\\u\x7b" ++ hex 2 c.toNat ++ "\x7d"

/-- Text as a log shows it. -/
def terminalText (s : String) : String :=
  String.join (s.toList.map terminalChar)

end TiffStrip.Text
