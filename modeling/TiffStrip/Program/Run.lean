import TiffStrip.Image.Png
import TiffStrip.Program.Command
import TiffStrip.Program.CommandLine

/-!
# The program

The program on a platform of its own. Its command lines, its JSON and its PNGs stand in for those of
other libraries: they agree with them where it matters to a run, but not in the wording of help or the
bytes of a PNG. No property of a run rests on them.
-/

namespace TiffStrip

def versionLine : String := "tiff-raster 0.1.0\n"

def usage : String := unlines [
  "Usage: tiff-raster info [OPTIONS] <INPUT>",
  "       tiff-raster decode [OPTIONS] --output <OUTPUT> <INPUT>",
  "",
  "  -o, --output <OUTPUT>         where to write the decoded image",
  "  -i, --image <INDEX>           the image, counted from zero",
  "  -f, --format <FORMAT>         png or raw",
  "      --json                    print JSON",
  "      --max-input-size <BYTES>  the largest input that is read",
  "  -v, --verbose                 log more",
  "  -h, --help                    print this",
  "  -V, --version                 print the version"]

/-- What a refused command line leads to. -/
def CommandLine.Refusal.result : CommandLine.Refusal → RunResult
  | .help => { exitCode := 0, stdout := usage }
  | .version => { exitCode := 0, stdout := versionLine }
  | _ => { exitCode := 2, stderr := usage }

namespace Platform

def standard : Platform where
  parse words environment :=
    match CommandLine.parse words environment with
    | .ok command => .ok command
    | .error refusal => .error refusal.result
  json := Text.Json.pretty
  png := Png.encode
  memory := maxRaster

end Platform

def run {m : Type → Type} [Monad m] (system : FileSystem m) (words : List String)
    (environment : List (String × String)) : m RunResult :=
  Platform.standard.run system words environment

end TiffStrip
