import TiffStrip.Bytes.Chunk
import TiffStrip.Image.Colormap
import TiffStrip.Image.RowForm

/-!
# Decoding

An image is decoded in two steps. A plan settles everything that can refuse the image without
reading a scanline of it. Then the scanlines are read, plane after plane and row after row, into one
buffer, and what the plan takes of each is laid down in the raster. A scanline that cannot be read
ends the decode; what was laid down before stays.
-/

namespace TiffStrip

inductive DecodeStatus where
  | complete
  /-- A scanline could not be read. -/
  | aborted (row sample : Nat) (cause : FormatError)
  deriving DecidableEq, Repr

structure Outcome where
  info : ImageInfo
  status : DecodeStatus
  /-- Bytes of raster that were laid down. -/
  written : Nat
  deriving DecidableEq, Repr

/-- What is known of an image before its scanlines are read. -/
structure Plan where
  info : ImageInfo
  form : RowForm
  colormap? : Option Colormap
  /-- Bytes of one scanline as the source hands them out. -/
  scanlineSize : Nat

namespace Plan

open FieldSource ScanlineSource

/-- Bytes taken from each scanline. -/
def inputLength (plan : Plan) : Nat :=
  plan.form.inputLength plan.info

def lines (plan : Plan) : Nat :=
  plan.form.planes plan.info * plan.info.height

/-- Bytes of the buffer that scanlines are read into. -/
def bufferLength (plan : Plan) : Nat :=
  max plan.scanlineSize plan.inputLength

/-- The raster bytes of what is taken from a scanline. -/
def expand (plan : Plan) (input : List UInt8) : List UInt8 :=
  match plan.colormap? with
  | some map => input.flatMap fun index => map.rgb index.toNat
  | none => input

variable {σ : Type} [ScanlineSource σ]

/-- The color map of a palette image. -/
def readColormap (info : ImageInfo) : EStateM DecodeError σ (Option Colormap) := do
  if info.photometric ≠ .palette then return none
  match ← Colormap.read with
  | some map => return some map
  | none => throw (.missingColormap (name (← get)))

/-- Selects an image and plans its decode into so many bytes; without an index the selected image
is planned. -/
def read (index? : Option Nat) (room : Nat) : EStateM DecodeError σ Plan := do
  let info ← ImageInfo.read index?
  let colormap? ← readColormap info
  let form ← MonadExcept.ofExcept info.rowForm
  let required ← MonadExcept.ofExcept info.rasterLength
  if room < required then throw (.bufferTooSmall required room)
  return { info, form, colormap?, scanlineSize := ← request ScanlineSource.scanlineSize }

/-- Reads the last `remaining` scanlines into the buffer one after the other. Answers the raster
bytes laid down so far, how the reading ended, and the source. -/
def readLines (plan : Plan) :
    (remaining : Nat) → (buffer : List UInt8) → (raster : Array UInt8) → σ →
    Array UInt8 × DecodeStatus × σ
  | 0, _, raster, source => (raster, .complete, source)
  | remaining + 1, buffer, raster, source =>
    let line := plan.lines - (remaining + 1)
    let row := line % plan.info.height
    let sample := line / plan.info.height
    match readScanline row sample buffer source with
    | .error cause source => (raster, .aborted row sample cause, source)
    | .ok buffer source =>
      let raster := raster ++ plan.expand (buffer.take plan.inputLength)
      readLines plan remaining buffer raster source

/-- Reads all scanlines, into a buffer that holds zeros at first; without scanlines its length makes
no difference. That the buffer can be had is taken for granted here: see `shortage?`. -/
def readRaster (plan : Plan) (source : σ) : Array UInt8 × DecodeStatus × σ :=
  let buffer := if plan.lines = 0 then [] else List.replicate plan.bufferLength 0
  plan.readLines plan.lines buffer #[] source

end Plan

/-- What is left after a decode: its result, the caller's raster and the source. -/
structure Decoded (σ : Type) where
  result : Except DecodeError Outcome
  raster : Array UInt8
  source : σ

section

open ScanlineSource

variable {σ : Type} [ScanlineSource σ]

/-- Decodes an image into a raster that the caller provides; without an index the selected image is
decoded. A refused decode leaves the raster as it was, any other overwrites its front. -/
def decodeInto (index? : Option Nat) (raster : Array UInt8) (source : σ) : Decoded σ :=
  match Plan.read index? raster.size source with
  | .error error source => { result := .error error, raster, source }
  | .ok plan source =>
    let (bytes, status, source) := plan.readRaster source
    { result := .ok {
        info := { plan.info with damaged := status ≠ .complete }
        status
        written := bytes.size }
      raster := bytes ++ raster.extract bytes.size raster.size
      source }

/-- The longest raster that can be allocated. -/
def maxRaster : Nat := 0x7FFFFFFFFFFFFFFF

/-- Refuses an image that needs more bytes of image data than the source holds, or whose raster
cannot be allocated. -/
def checkSize (info : ImageInfo) (required : Nat) (held? : Option Nat) :
    Except DecodeError Unit := do
  let needed := required / (info.rowForm?.map RowForm.expansion).getD 1
  if let some held := held? then
    if held < needed then
      throw (.unsupported (.dataMissing info.width info.height needed held))
  if maxRaster < required then throw (.unsupported (.tooLarge info.width info.height))

/-- Decodes an image into a raster of zeros of just the length it needs. -/
def decodeImage (index? : Option Nat) : EStateM DecodeError σ (Outcome × Array UInt8) := do
  let info ← ImageInfo.read index?
  let required ← MonadExcept.ofExcept info.rasterLength
  MonadExcept.ofExcept (checkSize info required (dataSize? (← get)))
  fun source =>
    let decoded := decodeInto none (Array.replicate required 0) source
    match decoded.result with
    | .ok outcome =>
      .ok ({ outcome with info := { outcome.info with index? } }, decoded.raster) decoded.source
    | .error error => .error error decoded.source

/-- A decode of a whole image up to its raster: the description, and the length of the raster. -/
def measureImage (index? : Option Nat) : EStateM DecodeError σ (ImageInfo × Nat) := do
  let info ← ImageInfo.read index?
  let required ← MonadExcept.ofExcept info.rasterLength
  MonadExcept.ofExcept (checkSize info required (dataSize? (← get)))
  return (info, required)

/-- A decode of a whole image up to its first scanline: the length of the raster, and the plan. -/
def planImage (index? : Option Nat) : EStateM DecodeError σ (Nat × Plan) := do
  let info ← ImageInfo.read index?
  let required ← MonadExcept.ofExcept info.rasterLength
  MonadExcept.ofExcept (checkSize info required (dataSize? (← get)))
  return (required, ← Plan.read none required)

inductive Shortage where
  /-- A raster is refused. -/
  | raster (width height : Nat)
  /-- Without a buffer for scanlines, of so many bytes, the program is aborted. -/
  | buffer (length : Nat)
  deriving DecidableEq, Repr

/-- What a decode of a whole image comes to lack where at most `memory` bytes can be had at once. The
buffer is taken whether there are scanlines or not. -/
def shortage? (memory : Nat) (index? : Option Nat) (source : σ) : Option Shortage :=
  match measureImage index? source with
  | .error .. => none
  | .ok (info, required) _ =>
    if memory < required then some (.raster info.width info.height)
    else match planImage index? source with
      | .error .. => none
      | .ok (_, plan) _ =>
        if memory < plan.bufferLength then some (.buffer plan.bufferLength) else none

end

end TiffStrip
