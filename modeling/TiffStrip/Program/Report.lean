import TiffStrip.File
import TiffStrip.Image.Decode
import TiffStrip.Image.Png
import TiffStrip.Program.FileSystem
import TiffStrip.Program.Settings
import TiffStrip.Text.Terminal

namespace TiffStrip

inductive Event where
  | badSettings (fault : SettingsFault)
  | inputNotFound (path : String) (error : PathError)
  | inputTooLarge (path : String) (size limit : Nat)
  | inputNotRead (path : String) (error : PathError)
  | inputNotOpened (path : String) (error : FormatError)
  | imageNotDescribed (index : Nat) (error : DecodeError)
  | imageNotDecoded (path : String) (error : DecodeError)
  | decodeStopped (row sample : Nat) (cause : FormatError)
  | noPicture (error : PictureError)
  /-- A raster without a picture can still be written as it is. -/
  | rawSuggested
  | outputNotWritten (path : String) (error : PathError)
  | outputWritten (path : String) (width height : Nat) (content : Content)
  deriving DecidableEq, Repr

namespace Event

def level : Event → String
  | .rawSuggested => "WARN"
  | .outputWritten .. => "INFO"
  | _ => "ERROR"

def message (event : Event) (png : Picture → Array UInt8 := Png.encode) : String :=
  match event with
  | .badSettings fault => "Configuration error: " ++ fault.message
  | .inputNotFound path error => s!"Cannot stat {path}: " ++ error.message
  | .inputTooLarge path size limit =>
    s!"{path} is {size} bytes, above the {limit} byte limit (--max-input-size)"
  | .inputNotRead path error => s!"Cannot read {path}: " ++ error.message
  | .inputNotOpened path error => s!"Cannot open {path}: " ++ error.message
  | .imageNotDescribed index error => s!"Image {index}: " ++ error.message
  | .imageNotDecoded path error => s!"Cannot decode {path}: " ++ error.message
  | .decodeStopped row sample cause =>
    s!"Decoding stopped at row {row} (sample {sample}): " ++ cause.message
  | .noPicture error => error.message
  | .rawSuggested => "Use --format raw to write the decoded bytes as they are"
  | .outputNotWritten path error => s!"Cannot write {path}: " ++ error.message
  | .outputWritten path width height content =>
    s!"Wrote {path} ({width} x {height}, " ++ toString (content.bytes png).size ++ " bytes)"

def line (event : Event) : String :=
  event.level ++ " " ++ Text.terminalText event.message

end Event

/-- The description of an image in lines, after an empty one. -/
def ImageInfo.lines (info : ImageInfo) : List String :=
  let samples := toString info.samplesPerPixel ++ " x " ++ toString info.bitsPerSample
  let description := info.description?.toList.map ("  Description:   " ++ ·)
  ["",
    "Image " ++ toString (info.index?.getD 0 + 1) ++ " of " ++ toString info.imageCount,
    "  Size:          " ++ toString info.width ++ " x " ++ toString info.height,
    "  Samples:       " ++ samples ++ " bit (" ++ info.planar.name ++ ")",
    "  Photometric:   " ++ info.photometric.name,
    "  Compression:   " ++ toString info.compression,
    "  Subfile type:  " ++ toString info.subfileType] ++ description

def Format.name : Format → String
  | .classic => "TIFF"
  | .big => "BigTIFF"

def Header.line (header : Header) (path : String) : String :=
  path ++ " (" ++ header.encoding.format.name ++ ", " ++ header.encoding.order.name ++ ")"

/-- Lines as text, each with its end. -/
def unlines (lines : List String) : String :=
  String.join (lines.map (· ++ "\n"))

/-- The descriptions of images as the program prints them, for one way to print JSON. -/
def printInfos (json : Text.Json → String) (settings : InfoSettings) (header : Header)
    (infos : List ImageInfo) : String :=
  if settings.json then unlines [json (.list (infos.map ImageInfo.json))]
  else unlines (header.line settings.input :: infos.flatMap ImageInfo.lines)

end TiffStrip
