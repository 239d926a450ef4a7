import TiffStrip.Proofs.Decode.Continued
import TiffStrip.Proofs.File.Continued

/-!
# Truncated files

Every value that a decode needs is read as a whole or fails the decode, defaults and fallbacks
included. So a file that lost bytes at its end may be refused or stop early, but it never shows
anything that the whole file does not.
-/

namespace TiffStrip.File

/-- A decode of a file goes on where one of a shorter file ends. -/
theorem goesOn_of_continues {strict : Prop} {file whole : File}
    (h : file.Continues strict whole) {index? : Option Nat} {raster : Array UInt8}
    {outcome : Outcome} (hok : (decodeInto index? raster file).result = .ok outcome) :
    ∃ other, (decodeInto index? raster whole).result = .ok other ∧
      GoesOn outcome (decodeInto index? raster file).raster other
        (decodeInto index? raster whole).raster := by
  have hplan := (describes_continues strict).readPlan agrees_select index? raster.size
  exact goesOn_of_agrees hplan agrees_readScanline h hok

/-- **Truncation only loses.** If a stream opens, it opens with more bytes behind it, with the same
header and the same directories. Whatever image is decoded into whatever raster, the decode is
refused, or the longer stream decodes as well: with the same description, and with a raster that
begins with all that was laid down. If the first decode is complete, the second is the same in
everything. -/
theorem truncation_only_loses {stream : Stream} {file : File} (hopen : ofStream stream = .ok file)
    (rest : Array UInt8) :
    ∃ whole, ofStream { stream with contents := stream.contents ++ rest } = .ok whole ∧
      whole.header = file.header ∧ whole.directories = file.directories ∧
      ∀ (index? : Option Nat) (raster : Array UInt8) (outcome : Outcome),
        (decodeInto index? raster file).result = .ok outcome →
        ∃ other, (decodeInto index? raster whole).result = .ok other ∧
          GoesOn outcome (decodeInto index? raster file).raster other
            (decodeInto index? raster whole).raster := by
  have hlonger : stream.Continues False { stream with contents := stream.contents ++ rest } :=
    ⟨rfl, ⟨rest.toList, Array.toList_append.symm⟩, False.elim, .inl rfl⟩
  obtain ⟨whole, hwhole, hcontinues⟩ := opened_of_continues hlonger hopen
  exact ⟨whole, hwhole, hcontinues.header.symm, hcontinues.directories.symm,
    fun _ _ _ hok => goesOn_of_continues hcontinues hok⟩

/-- A stream of two images and its last five bytes, cut off: one of the second plane of the second
image, and the third plane. -/
def cutSample : Stream × Array UInt8 :=
  let bytes := StoredFile.bytes ⟨.little, .classic⟩ StoredFile.grayAndColors
  (Stream.ofBytes (bytes.take 301).toArray, (bytes.drop 301).toArray)

theorem truncation_only_loses_cutSample :
    ∃ file whole, ofStream cutSample.1 = .ok file ∧ ofStream sample.1 = .ok whole ∧
      whole.directories = file.directories ∧
      let raster := Array.replicate 14 99
      ∃ outcome other, (decodeInto (some 1) raster file).result = .ok outcome ∧
        outcome.written = 6 ∧ outcome.status ≠ .complete ∧
        (decodeInto (some 1) raster whole).result = .ok other ∧
        GoesOn outcome (decodeInto (some 1) raster file).raster other
          (decodeInto (some 1) raster whole).raster := by
  have hdecodes : ((ofStream cutSample.1).toOption.bind fun file =>
      (decodeInto (some 1) (Array.replicate 14 99) file).result.toOption.map fun outcome =>
        (outcome.written, decide (outcome.status = .complete))) = some (6, false) := by
    decide +kernel
  obtain ⟨file, hfile, hdecoded⟩ := Option.bind_eq_some_iff.mp hdecodes
  obtain ⟨outcome, houtcome, hpair⟩ := Option.map_eq_some_iff.mp hdecoded
  obtain ⟨hwritten, hstatus⟩ := Prod.mk.inj hpair
  have hopen := except_toOption_eq_some.mp hfile
  have hok := except_toOption_eq_some.mp houtcome
  obtain ⟨whole, hwhole, _, hdirectories, hgoesOn⟩ := truncation_only_loses hopen cutSample.2
  have hcontents : cutSample.1.contents ++ cutSample.2 = sample.1.contents := by
    simp only [cutSample, sample, Stream.ofBytes, List.append_toArray, List.take_append_drop]
  rw [hcontents] at hwhole
  obtain ⟨other, hother, hmore⟩ := hgoesOn _ _ outcome hok
  exact ⟨file, whole, hopen, hwhole, hdirectories, outcome, other, hok, hwritten,
    of_decide_eq_false hstatus, hother, hmore⟩

end TiffStrip.File
