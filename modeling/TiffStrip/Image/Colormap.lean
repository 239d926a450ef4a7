import TiffStrip.Image.Info

/-!
# Color maps

The colors of a palette image: three tables of equal length. Values are meant to use 16 bits; a map
none of whose values exceeds 255 is taken to use 8 bits, any other is scaled down to them.
-/

namespace TiffStrip

structure Colormap where
  red : Array UInt16
  green : Array UInt16
  blue : Array UInt16
  green_size : green.size = red.size
  blue_size : blue.size = red.size
  deriving DecidableEq, Repr

/-- How many bits the values of a map were found to use. -/
inductive ColormapDepth where
  | eight
  | sixteen
  deriving DecidableEq, Repr

namespace Colormap

/-- The map of three tables, if they are equally long. -/
def ofChannels? (red green blue : Array UInt16) : Option Colormap :=
  if h : green.size = red.size ∧ blue.size = red.size then
    some { red, green, blue, green_size := h.1, blue_size := h.2 }
  else none

def size (map : Colormap) : Nat :=
  map.red.size

/-- The color at an index, as stored. -/
def color? (map : Colormap) (index : Nat) : Option (UInt16 × UInt16 × UInt16) := do
  let r ← map.red[index]?
  let g ← map.green[index]?
  let b ← map.blue[index]?
  return (r, g, b)

/-- The bytes drawn for an index: the high byte of each value, or black past the end. -/
def rgb (map : Colormap) (index : Nat) : List UInt8 :=
  match map.color? index with
  | some (r, g, b) => [(r / 256).toUInt8, (g / 256).toUInt8, (b / 256).toUInt8]
  | none => [0, 0, 0]

def scale (value : UInt16) : UInt16 :=
  UInt16.ofNat (value.toNat * 255 / 65535)

theorem scale_toNat (value : UInt16) : (scale value).toNat = value.toNat / 257 := by
  have h := value.toNat_lt
  rw [scale, UInt16.toNat_ofNat']
  omega

/-- Whether some value does not fit 8 bits. -/
def isDeep (map : Colormap) : Bool :=
  map.red.any (255 < ·) || map.green.any (255 < ·) || map.blue.any (255 < ·)

/-- The map with every value changed in the same way. -/
def mapValues (f : UInt16 → UInt16) (map : Colormap) : Colormap :=
  { red := map.red.map f, green := map.green.map f, blue := map.blue.map f
    green_size := by simp [map.green_size], blue_size := by simp [map.blue_size] }

/-- Finds the depth of a map and scales it down to 8 bits if need be. -/
def correct (map : Colormap) : ColormapDepth × Colormap :=
  if map.isDeep then (.sixteen, map.mapValues scale) else (.eight, map)

/-- The map of the first three tables of so many values: the reds, the greens, the blues. -/
def ofThirds? (size : Nat) (values : List UInt16) : Option Colormap :=
  let values := values.toArray
  if 3 * size ≤ values.size then
    ofChannels? (values.extract 0 size) (values.extract size (2 * size))
      (values.extract (2 * size) (3 * size))
  else none

/-- The most bits that a sample of a palette image may have. -/
def maxBits : Nat := 16

open FieldSource ScanlineSource

variable {σ : Type} [ScanlineSource σ]

/-- The color map of the selected image, nothing if it is not a palette image. -/
def read : EStateM DecodeError σ (Option Colormap) := do
  let info ← ImageInfo.read none
  if info.photometric ≠ .palette then return none
  let bits := info.bitsPerSample
  if maxBits < bits then throw (.unsupported (.paletteDepth bits))
  let size := 1 <<< bits
  match ← request (field .colorMap) with
  | none => throw (.missingColormap (name (← get)))
  | some value =>
    match value.words?.filter fun words => words.length = 3 * size with
    | none => throw (.format (.invalidValue (.tag .colorMap) (.wrongMapSize (3 * size) bits)))
    | some words =>
      match ofThirds? size words with
      | some map => return some map.correct.2
      | none => throw (.missingColormap (name (← get)))

end Colormap

end TiffStrip
