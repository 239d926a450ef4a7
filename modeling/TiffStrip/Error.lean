import TiffStrip.Compression
import TiffStrip.FieldType
import TiffStrip.Stream.Error
import TiffStrip.Tag

namespace TiffStrip

inductive Place where
  | directory
  | entry
  | tag (tag : Tag)
  deriving DecidableEq, Repr

def Place.name : Place → String
  | .directory => "IFD"
  | .entry => "IFD entry"
  | .tag t => t.name

inductive ValueFault where
  /-- A directory of so many entries cannot be addressed. -/
  | entryCountOverflow (count : Nat)
  /-- Numbers were wanted of a field of another type. -/
  | notNumbers (type : FieldType)
  /-- Text was wanted of a field of another type. -/
  | notText (type : FieldType)
  /-- A value of the wrong kind or range. -/
  | unexpected (value : FieldValue)
  /-- A number that stands for nothing. -/
  | unknown (code : Nat)
  | tooFewStrips (expected found : Nat)
  | noStrip (strip : Nat)
  | shortStrip (strip held row needed : Nat)
  | stripOverflow (strip : Nat)
  /-- A color map of the wrong size for the depth of the samples. -/
  | wrongMapSize (expected bits : Nat)
  deriving DecidableEq, Repr

def ValueFault.message : ValueFault → String
  | .entryCountOverflow count => s!"entry count {count} overflows"
  | .notNumbers type => "expected an integer type, got " ++ type.name
  | .notText type => "expected Ascii type for string, got " ++ type.name
  | .unexpected value => "unexpected value " ++ value.describe
  | .unknown code => s!"unknown value {code}"
  | .tooFewStrips expected found => s!"expected {expected} strips, found {found}"
  | .noStrip strip => s!"no entry for strip {strip}"
  | .shortStrip strip held row needed =>
    s!"strip {strip} holds {held} bytes, row {row} needs {needed}"
  | .stripOverflow strip => s!"strip {strip} offset overflows"
  | .wrongMapSize expected bits =>
    s!"expected {expected} 16-bit values for {bits}-bit samples"

inductive FormatError where
  | stream (error : StreamError)
  | invalidMagic (magic : Nat)
  | invalidVersion (version : Nat)
  | invalidOffsetSize (size : Nat)
  | fileTooSmall (required actual : Nat)
  | invalidDirectoryOffset (offset : Nat)
  | noDirectories
  | directoryOutOfRange (index count : Nat)
  | missingTag (tag : Tag)
  | invalidValue (place : Place) (fault : ValueFault)
  | unsupportedCompression (code : Nat)
  | tiled
  | scanlineOutOfRange (row sample height samples : Nat)
  | scanlineBufferTooSmall (required actual : Nat)
  | unknownFieldType (code : Nat)
  deriving DecidableEq, Repr

namespace FormatError

/-- The error of a tag whose value is of the wrong kind or range. -/
def unexpected (tag : Tag) (value : FieldValue) : FormatError :=
  .invalidValue (.tag tag) (.unexpected value)

def message : FormatError → String
  | .stream error => "I/O error: " ++ error.message
  | .invalidMagic magic =>
    "Invalid TIFF magic bytes: expected 0x4949 (II) or 0x4D4D (MM), got 0x"
      ++ Text.hexUpper 4 magic
  | .invalidVersion version =>
    s!"Invalid TIFF version: expected 42 (TIFF) or 43 (BigTIFF), got {version}"
  | .invalidOffsetSize size => s!"Invalid BigTIFF offset byte size: expected 8, got {size}"
  | .fileTooSmall required actual =>
    s!"File too small: need at least {required} bytes, got {actual}"
  | .invalidDirectoryOffset offset => s!"Invalid IFD offset: {offset}"
  | .noDirectories => "File contains no image directories"
  | .directoryOutOfRange index count =>
    s!"Directory {index} out of range: file has {count} directories"
  | .missingTag tag => "Missing required tag: " ++ tag.name
  | .invalidValue place fault => "Invalid tag value for " ++ place.name ++ ": " ++ fault.message
  | .unsupportedCompression code =>
    "Unsupported compression: " ++ Compression.describe code
      ++ " (only uncompressed strips can be read by scanline)"
  | .tiled => "Unsupported organization: cannot read scanlines from a tiled image"
  | .scanlineOutOfRange row sample height samples =>
    s!"Scanline out of range: row {row}, sample {sample} "
      ++ s!"(image has {height} rows, {samples} samples)"
  | .scanlineBufferTooSmall required actual =>
    s!"Scanline buffer too small: need {required} bytes, got {actual}"
  | .unknownFieldType code => s!"Unknown field type: {code}"

end FormatError

end TiffStrip
