/-!
# UTF-8

Bytes as text. A sequence that is cut short or out of range is replaced by U+FFFD as far as it
could have been the start of a character, and decoding resumes with the byte after it.
-/

namespace TiffStrip.Text

structure PartialChar where
  /-- The bits read so far. -/
  code : Nat
  /-- How many bytes are still to come, at least one. -/
  missing : Nat
  /-- The smallest value the next byte may have. -/
  least : Nat
  /-- The largest value the next byte may have. -/
  greatest : Nat
  deriving DecidableEq, Repr

/-- Stands in for bytes that are not the encoding of any character. -/
def replacement : Char := '\uFFFD'

/-- What has been decoded, latest character first, and what is still incomplete. -/
structure Utf8State where
  done : List Char := []
  open? : Option PartialChar := none
  deriving DecidableEq, Repr

namespace Utf8State

def emit (s : Utf8State) (c : Char) : Utf8State :=
  { done := c :: s.done, open? := none }

def await (s : Utf8State) (code missing least greatest : Nat) : Utf8State :=
  { s with open? := some { code, missing, least, greatest } }

/-- Reads a byte that no character is waiting for. The bounds on the second byte exclude overlong
forms, surrogates and numbers above the last code point. -/
def begin (s : Utf8State) (b : Nat) : Utf8State :=
  if b < 0x80 then s.emit (Char.ofNat b)
  else if b < 0xC2 then s.emit replacement
  else if b < 0xE0 then s.await (b - 0xC0) 1 0x80 0xBF
  else if b = 0xE0 then s.await 0 2 0xA0 0xBF
  else if b = 0xED then s.await 0xD 2 0x80 0x9F
  else if b < 0xF0 then s.await (b - 0xE0) 2 0x80 0xBF
  else if b = 0xF0 then s.await 0 3 0x90 0xBF
  else if b < 0xF4 then s.await (b - 0xF0) 3 0x80 0xBF
  else if b = 0xF4 then s.await 4 3 0x80 0x8F
  else s.emit replacement

def step (s : Utf8State) (byte : UInt8) : Utf8State :=
  let b := byte.toNat
  match s.open? with
  | none => s.begin b
  | some p =>
    if p.least ≤ b ∧ b ≤ p.greatest then
      let code := p.code * 64 + (b - 0x80)
      if p.missing = 1 then s.emit (Char.ofNat code)
      else s.await code (p.missing - 1) 0x80 0xBF
    else (s.emit replacement).begin b

/-- The characters read, in order; an incomplete last one is replaced. -/
def finish (s : Utf8State) : List Char :=
  match s.open? with
  | none => s.done.reverse
  | some _ => (replacement :: s.done).reverse

end Utf8State

/-- The text that bytes encode, with U+FFFD for what is not UTF-8. -/
def decodeUtf8 (bytes : List UInt8) : String :=
  String.ofList (bytes.foldl Utf8State.step {}).finish

end TiffStrip.Text
