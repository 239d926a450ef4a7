namespace TiffStrip

inductive GrowthFault where
  /-- The end of the write is beyond every address. -/
  | overflow
  /-- The stream has no way to grow. -/
  | fixed
  /-- Growing was refused or fell short. -/
  | declined
  deriving DecidableEq, Repr

inductive SeekFault where
  /-- A stream that is only read has nothing past its end. -/
  | pastEnd
  /-- The target is not an address. -/
  | outOfRange
  deriving DecidableEq, Repr

inductive StreamError where
  | rangeOutOfBounds (offset requested size : Nat)
  | readOnly (stream : String)
  | growFailed (stream : String) (requested : Nat) (fault : GrowthFault)
  | invalidSeek (stream : String) (fault : SeekFault)
  deriving DecidableEq, Repr

def GrowthFault.message : GrowthFault → String
  | .overflow => "write length overflows"
  | .fixed => "no grow callback registered"
  | .declined => "grow callback declined"

def SeekFault.message : SeekFault → String
  | .pastEnd => "cannot seek past end of data in read mode"
  | .outOfRange => "position out of range"

def StreamError.message : StreamError → String
  | .rangeOutOfBounds offset requested size =>
    s!"Range out of bounds: requested {requested} bytes at offset {offset}, size is {size}"
  | .readOnly stream => s!"Stream {stream} is read-only"
  | .growFailed stream requested fault =>
    s!"Cannot grow stream {stream} to {requested} bytes: " ++ fault.message
  | .invalidSeek stream fault => s!"Invalid seek on {stream}: " ++ fault.message

end TiffStrip
