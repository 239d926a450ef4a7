import TiffStrip.FieldValue

namespace TiffStrip

inductive Tag where
  | subfileType
  | imageWidth
  | imageLength
  | bitsPerSample
  | compression
  | photometricInterpretation
  | imageDescription
  | stripOffsets
  | samplesPerPixel
  | rowsPerStrip
  | stripByteCounts
  | planarConfiguration
  | colorMap
  | tileWidth
  | tileLength
  | tileOffsets
  | tileByteCounts
  deriving DecidableEq, Repr

namespace Tag

def code : Tag → Nat
  | .subfileType => 254
  | .imageWidth => 256
  | .imageLength => 257
  | .bitsPerSample => 258
  | .compression => 259
  | .photometricInterpretation => 262
  | .imageDescription => 270
  | .stripOffsets => 273
  | .samplesPerPixel => 277
  | .rowsPerStrip => 278
  | .stripByteCounts => 279
  | .planarConfiguration => 284
  | .colorMap => 320
  | .tileWidth => 322
  | .tileLength => 323
  | .tileOffsets => 324
  | .tileByteCounts => 325

def ofCode? : Nat → Option Tag
  | 254 => some .subfileType
  | 256 => some .imageWidth
  | 257 => some .imageLength
  | 258 => some .bitsPerSample
  | 259 => some .compression
  | 262 => some .photometricInterpretation
  | 270 => some .imageDescription
  | 273 => some .stripOffsets
  | 277 => some .samplesPerPixel
  | 278 => some .rowsPerStrip
  | 279 => some .stripByteCounts
  | 284 => some .planarConfiguration
  | 320 => some .colorMap
  | 322 => some .tileWidth
  | 323 => some .tileLength
  | 324 => some .tileOffsets
  | 325 => some .tileByteCounts
  | _ => none

def name : Tag → String
  | .subfileType => "SubfileType"
  | .imageWidth => "ImageWidth"
  | .imageLength => "ImageLength"
  | .bitsPerSample => "BitsPerSample"
  | .compression => "Compression"
  | .photometricInterpretation => "PhotometricInterpretation"
  | .imageDescription => "ImageDescription"
  | .stripOffsets => "StripOffsets"
  | .samplesPerPixel => "SamplesPerPixel"
  | .rowsPerStrip => "RowsPerStrip"
  | .stripByteCounts => "StripByteCounts"
  | .planarConfiguration => "PlanarConfiguration"
  | .colorMap => "ColorMap"
  | .tileWidth => "TileWidth"
  | .tileLength => "TileLength"
  | .tileOffsets => "TileOffsets"
  | .tileByteCounts => "TileByteCounts"

/-- What the format prescribes where the tag is absent. -/
def default? : Tag → Option FieldValue
  | .subfileType => some (.unsigned [0])
  | .bitsPerSample | .compression | .samplesPerPixel | .planarConfiguration =>
    some (.unsigned [1])
  | .rowsPerStrip => some (.unsigned [0xFFFFFFFF])
  | _ => none

theorem ofCode?_code (tag : Tag) : ofCode? tag.code = some tag := by
  cases tag <;> rfl

end Tag

end TiffStrip
