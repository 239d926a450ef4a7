import Mathlib.Data.List.Forall2
import TiffStrip.Program.Report

/-!
# What a report says

A report names the file and then describes its images in blocks, in the order in which they are
given. Descriptions are quoted as they are, so one of several lines may look like more images; without
such, a report cannot be mistaken for the report of other images.
-/

namespace TiffStrip

/-- The description of an image as it is printed, with an empty line before it. -/
def ImageInfo.block (info : ImageInfo) : String :=
  "\nImage " ++ toString (info.index?.getD 0 + 1) ++ " of " ++ toString info.imageCount ++
  "\n  Size:          " ++ toString info.width ++ " x " ++ toString info.height ++
  "\n  Samples:       " ++ toString info.samplesPerPixel ++ " x " ++
    toString info.bitsPerSample ++ " bit (" ++ info.planar.name ++ ")" ++
  "\n  Photometric:   " ++ info.photometric.name ++
  "\n  Compression:   " ++ toString info.compression ++
  "\n  Subfile type:  " ++ toString info.subfileType ++ "\n" ++
  match info.description? with
  | some description => "  Description:   " ++ description ++ "\n"
  | none => ""

theorem Header.line_eq (header : Header) (path : String) :
    header.line path = path ++ header.line "" := by
  unfold Header.line
  simp only [String.append_assoc, String.empty_append]

end TiffStrip
