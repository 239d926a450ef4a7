import TiffStrip.Program.Path

namespace TiffStrip

inductive OutputFormat where
  /-- A PNG file. -/
  | png
  /-- The bytes of the raster. -/
  | raw
  deriving DecidableEq, Repr

structure InfoSettings where
  input : String
  /-- The only image to report on. -/
  image? : Option Nat
  json : Bool
  maxInputSize : Nat
  verbose : Bool
  deriving DecidableEq, Repr

structure DecodeSettings where
  input : String
  output : String
  image? : Option Nat
  format : OutputFormat
  maxInputSize : Nat
  verbose : Bool
  deriving DecidableEq, Repr

inductive Command where
  | info (settings : InfoSettings)
  | decode (settings : DecodeSettings)
  deriving DecidableEq, Repr

inductive SettingsFault where
  | noInput
  | sizeLimitTooSmall
  | noOutput
  | sameFile
  deriving DecidableEq, Repr

def SettingsFault.message : SettingsFault → String
  | .noInput => "Input path is required"
  | .sizeLimitTooSmall => "max_input_size must be at least 8 bytes (one TIFF header)"
  | .noOutput => "Output path is required. Set --output"
  | .sameFile => "Output path must differ from the input path"

/-- The largest input that is read unless the settings say otherwise: 1 GiB. -/
def defaultMaxInputSize : Nat := 1024 * 1024 * 1024

def checkInput (input : String) (maxInputSize : Nat) : Except SettingsFault Unit :=
  if input.isEmpty then .error .noInput
  else if maxInputSize < 8 then .error .sizeLimitTooSmall
  else .ok ()

def InfoSettings.check (settings : InfoSettings) : Except SettingsFault Unit :=
  checkInput settings.input settings.maxInputSize

def DecodeSettings.check (settings : DecodeSettings) : Except SettingsFault Unit := do
  checkInput settings.input settings.maxInputSize
  if settings.output.isEmpty then throw .noOutput
  if Path.same settings.output settings.input then throw .sameFile

end TiffStrip
