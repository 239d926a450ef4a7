namespace TiffStrip

inductive Compression where
  | uncompressed
  | huffmanRuns
  | faxGroup3
  | faxGroup4
  | lzw
  | oldJpeg
  | jpeg
  | deflate
  | packBits
  | adobeDeflate
  deriving DecidableEq, Repr

namespace Compression

def ofCode? : Nat → Option Compression
  | 1 => some .uncompressed
  | 2 => some .huffmanRuns
  | 3 => some .faxGroup3
  | 4 => some .faxGroup4
  | 5 => some .lzw
  | 6 => some .oldJpeg
  | 7 => some .jpeg
  | 8 => some .deflate
  | 32773 => some .packBits
  | 32946 => some .adobeDeflate
  | _ => none

/-- Whether scanlines can be read of strips compressed like this. -/
def isReadable (scheme : Compression) : Bool :=
  scheme = .uncompressed

def name : Compression → String
  | .uncompressed => "None"
  | .huffmanRuns => "CCITT RLE"
  | .faxGroup3 => "CCITT Group 3"
  | .faxGroup4 => "CCITT Group 4"
  | .lzw => "LZW"
  | .oldJpeg => "Old JPEG"
  | .jpeg => "JPEG"
  | .deflate => "Deflate"
  | .packBits => "PackBits"
  | .adobeDeflate => "Adobe Deflate"

/-- How a message names the scheme that a number stands for. -/
def describe (code : Nat) : String :=
  match ofCode? code with
  | some scheme => scheme.name
  | none => s!"scheme {code}"

end Compression

end TiffStrip
