import TiffStrip.Bytes.Address
import TiffStrip.Bytes.Chunk
import TiffStrip.Stream.Error
import TiffStrip.Text.Quoted

namespace TiffStrip

inductive AccessMode where
  | read
  | write
  deriving DecidableEq, Repr

def AccessMode.name : AccessMode → String
  | .read => "Read"
  | .write => "Write"

/-- How a buffer grows: from the buffer and the length it has to reach, whether the request is
granted and the buffer afterwards. -/
abbrev Growth := Array UInt8 → Nat → Bool × Array UInt8

/-- Growth that fills up with copies of one byte, to the length asked for or to one near it. -/
def Growth.fill (byte : UInt8) (reach : Nat → Nat) : Growth := fun buffer length =>
  (true, buffer.extract 0 (reach length) ++ Array.replicate (reach length - buffer.size) byte)

def Growth.zeros : Growth := .fill 0 id

def Growth.refuse : Growth := fun buffer _ => (false, buffer)

inductive SeekTarget where
  /-- So many bytes from the start. -/
  | start (offset : Nat)
  /-- So many bytes forward, or back, from the cursor. -/
  | cursor (distance : Int)
  /-- So many bytes past, or before, the end. -/
  | finish (distance : Int)
  deriving DecidableEq, Repr

structure Stream where
  contents : Array UInt8
  position : Nat := 0
  mode : AccessMode := .read
  growth? : Option Growth := none
  /-- Whether the buffer may be looked at without moving the cursor. -/
  mapped : Bool := true
  /-- The name of the stream in messages. -/
  name : String := "memory"
  /-- The lengths asked of the growth so far. -/
  requests : List Nat := []

namespace Stream

def ofBytes (contents : Array UInt8) : Stream :=
  { contents }

def size (s : Stream) : Nat :=
  s.contents.size

/-- The bytes from an offset on, as many as there are up to a length. -/
def slice (s : Stream) (offset length : Nat) : List UInt8 :=
  (s.contents.extract offset (offset + length)).toList

def map? (s : Stream) : Option (Array UInt8) :=
  if s.mapped then some s.contents else none

/-- Takes up to `length` bytes from the cursor, none at or past the end. -/
def take (length : Nat) : EStateM StreamError Stream (List UInt8) := fun s =>
  let bytes := s.slice s.position length
  .ok bytes { s with position := s.position + bytes.length }

/-- Fills the front of a buffer from the cursor. Answers the number of bytes taken and the
buffer, whose rest is as before. -/
def readInto (buffer : List UInt8) : EStateM StreamError Stream (Nat × List UInt8) := do
  let bytes ← take buffer.length
  return (bytes.length, overwrite bytes buffer)

/-- The stream with bytes laid over its buffer at the cursor, and the cursor behind them. -/
def place (s : Stream) (bytes : List UInt8) : Stream :=
  let stop := s.position + bytes.length
  { s with
    contents := s.contents.extract 0 s.position ++ bytes.toArray
      ++ s.contents.extract stop s.contents.size
    position := stop }

/-- Writes at the cursor, growing the buffer if it ends too early. -/
def write (bytes : List UInt8) : EStateM StreamError Stream Nat := fun s =>
  let stop := s.position + bytes.length
  if s.mode = .read then .error (.readOnly s.name) s
  else if Address.top < stop then .error (.growFailed s.name Address.top .overflow) s
  else if stop ≤ s.size then .ok bytes.length (s.place bytes)
  else match s.growth? with
    | none => .error (.growFailed s.name stop .fixed) s
    | some grow =>
      let (granted, contents) := grow s.contents stop
      let grown := { s with contents, requests := s.requests ++ [stop] }
      if granted ∧ stop ≤ grown.size then .ok bytes.length (grown.place bytes)
      else .error (.growFailed s.name stop .declined) grown

/-- The position a target stands for. Only a stream that is written may be sent past its end by
a distance from there. -/
def locate (s : Stream) : SeekTarget → Except SeekFault Nat
  | .start offset => .ok offset
  | .cursor distance =>
    match Address.shift? s.position distance with
    | some position => .ok position
    | none => .error .outOfRange
  | .finish distance =>
    if 0 < distance ∧ s.mode = .read then .error .pastEnd
    else match Address.shift? s.size distance with
      | some position => .ok position
      | none => .error .outOfRange

/-- Moves the cursor and answers where it is. -/
def seek (target : SeekTarget) : EStateM StreamError Stream Nat := fun s =>
  match s.locate target with
  | .ok position => .ok position { s with position }
  | .error fault => .error (.invalidSeek s.name fault) s

/-- Reads exactly `length` bytes at an offset; a range that leaves the buffer is refused before
the cursor moves. -/
def readExactAt (offset length : Nat) : EStateM StreamError Stream (List UInt8) := do
  let size := (← get).size
  let outside := StreamError.rangeOutOfBounds offset length size
  match Address.add? offset length with
  | some stop => if size < stop then throw outside
  | none => throw outside
  let _ ← seek (.start offset)
  let bytes ← take length
  if bytes.length < length then throw outside
  return bytes

/-- The state of the stream in one line. -/
def describe (s : Stream) : String :=
  "MemoryStream \x7b identifier: " ++ Text.quote s.name ++ s!", size: {s.size}, position: "
    ++ s!"{s.position}, mode: " ++ s.mode.name ++ ", growable: " ++ toString s.growth?.isSome
    ++ " \x7d"

end Stream

end TiffStrip
