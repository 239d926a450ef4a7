namespace TiffStrip

inductive Photometric where
  /-- Gray, zero is white. -/
  | minIsWhite
  /-- Gray, zero is black. -/
  | minIsBlack
  /-- Red, green and blue. -/
  | rgb
  /-- Indices into a color map. -/
  | palette
  | transparencyMask
  /-- Inks, mostly cyan, magenta, yellow and black. -/
  | separated
  | yCbCr
  | cieLab
  /-- Any number without a name of its own. -/
  | other (code : Nat)
  deriving DecidableEq, Repr

namespace Photometric

def ofCode : Nat → Photometric
  | 0 => .minIsWhite
  | 1 => .minIsBlack
  | 2 => .rgb
  | 3 => .palette
  | 4 => .transparencyMask
  | 5 => .separated
  | 6 => .yCbCr
  | 8 => .cieLab
  | code => .other code

def code : Photometric → Nat
  | .minIsWhite => 0
  | .minIsBlack => 1
  | .rgb => 2
  | .palette => 3
  | .transparencyMask => 4
  | .separated => 5
  | .yCbCr => 6
  | .cieLab => 8
  | .other code => code

def name : Photometric → String
  | .minIsWhite => "min-is-white"
  | .minIsBlack => "min-is-black"
  | .rgb => "RGB"
  | .palette => "palette"
  | .transparencyMask => "transparency mask"
  | .separated => "separated"
  | .yCbCr => "YCbCr"
  | .cieLab => "CIE L*a*b*"
  | .other _ => "unknown"

end Photometric

inductive Planar where
  /-- Next to each other. -/
  | contiguous
  /-- Each in a plane of its own. -/
  | separate
  deriving DecidableEq, Repr

namespace Planar

def ofCode? : Nat → Option Planar
  | 1 => some .contiguous
  | 2 => some .separate
  | _ => none

def name : Planar → String
  | .contiguous => "Contiguous"
  | .separate => "Separate"

end Planar

end TiffStrip
