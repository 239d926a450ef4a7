import TiffStrip.Proofs.Colormap.Read
import TiffStrip.Proofs.Decode.Palette
import TiffStrip.Proofs.Decode.Zeroed
import TiffStrip.Proofs.File.Failing

namespace TiffStrip

open FieldSource ScanlineSource

/-- Whether an error is about a color map that is missing. -/
def DecodeError.OfMap : DecodeError → Prop
  | .missingColormap _ => True
  | _ => False

section

variable {σ : Type} [ScanlineSource σ] {index? : Option Nat} {s : σ}

theorem ImageInfo.mapless_read (index? : Option Nat) :
    FailsWith (fun error => ¬error.OfMap)
      (ImageInfo.read index? : EStateM DecodeError σ ImageInfo) := by
  have mapless {α : Type} (act : EStateM FormatError σ α) :
      FailsWith (fun error => ¬error.OfMap) (request act) :=
    failsWith_adaptExcept act fun _ => id
  have hselected : FailsWith (fun error => ¬error.OfMap)
      (readSelected index? : EStateM DecodeError σ ImageInfo) := by
    unfold readSelected
    iterate 7 refine failsWith_bind (mapless _) fun _ => ?_
    refine failsWith_bind (failsWith_bind (mapless _) fun code? => ?_) fun photometric => ?_
    · cases code? with
      | some code => exact failsWith_pure _
      | none =>
        dsimp only
        split
        · exact failsWith_pure _
        · exact failsWith_throw id
    · exact failsWith_bind (mapless _) fun description? => failsWith_get fun s => failsWith_pure _
  cases index? with
  | none => exact hselected
  | some index => exact failsWith_bind (failsWith_adaptExcept _ fun _ => id) fun _ => hselected

theorem ImageInfo.mapless_rowForm (info : ImageInfo) {error : DecodeError}
    (h : info.rowForm = .error error) : ¬error.OfMap := by
  unfold rowForm at h
  split at h
  · cases h
  · cases h
    exact id

theorem ImageInfo.mapless_rasterLength (info : ImageInfo) {error : DecodeError}
    (h : info.rasterLength = .error error) : ¬error.OfMap := by
  unfold rasterLength at h
  cases hform : info.rowForm with
  | error cause =>
    rw [hform] at h
    cases h
    exact info.mapless_rowForm hform
  | ok form =>
    rw [hform] at h
    dsimp only [bind, Except.bind] at h
    split at h
    · cases h
    · cases h
      exact id

/-- A map is missing from a plan if it was missing when it was read. -/
theorem Plan.answer_ofInfo_missing (room : Nat) (info : ImageInfo) {source : String} :
    answer (Plan.ofInfo room info) s = .error (.missingColormap source) ↔
      answer (readColormap info) s = .error (.missingColormap source) := by
  refine FailsWith.answer_bind_first (P := DecodeError.OfMap) (fun colormap? => ?_) trivial
  refine failsWith_bind (failsWith_ofExcept fun _ => info.mapless_rowForm) fun form => ?_
  refine failsWith_bind (failsWith_ofExcept fun _ => info.mapless_rasterLength) fun required => ?_
  refine failsWith_unless id ?_
  exact failsWith_bind (failsWith_adaptExcept _ fun _ => id) fun size => failsWith_pure _

/-- A map is missing from the plan of an image if it needs one and that was missing when it was
read. -/
theorem Plan.answer_readColormap_missing {info : ImageInfo} {source : String}
    (hfound : info.photometric = .palette → answer Colormap.read s ≠ .ok none) :
    answer (readColormap info) s = .error (.missingColormap source) ↔
      info.photometric = .palette ∧
        answer Colormap.read s = .error (.missingColormap source) := by
  unfold readColormap
  by_cases hpalette : info.photometric = .palette
  · rw [if_neg (not_not_intro hpalette), answer_bind, and_iff_right hpalette]
    match hread : answer Colormap.read s with
    | .error cause => simp only [Except.bind, Except.error.injEq]
    | .ok none => exact absurd hread (hfound hpalette)
    | .ok (some map) => exact iff_of_false nofun nofun
  · rw [if_pos hpalette]
    exact iff_of_false nofun fun h => hpalette h.1

structure FindsMap (index? : Option Nat) (s : σ) : Prop where
  /-- Describing an image leaves what its tags hold. -/
  settled : ∀ tag,
    answer (field tag) (after (ImageInfo.read index?) s) = answer (field tag) (turnedTo index? s)
  /-- An image that has been described as a palette image is not taken for one without a map. -/
  found : ∀ info described, ImageInfo.read index? s = .ok info described →
    info.photometric = .palette → answer Colormap.read described ≠ .ok none
  /-- A map is missing just if the tag of a palette image is, its samples being short enough. -/
  missing : ∀ raster,
    (∃ source, (decodeInto index? raster s).result = .error (.missingColormap source)) ↔
      ∃ info, answer (ImageInfo.read index?) s = .ok info ∧ info.photometric = .palette ∧
        info.bitsPerSample ≤ Colormap.maxBits ∧
        answer (field .colorMap) (turnedTo index? s) = .ok none

/-- A source finds the maps that it needs if it describes its images again as before, and leaves
their tags alone. -/
theorem DescribesAgain.findsMap (h : DescribesAgain index? s)
    (hsettled : ∀ tag, answer (field tag) (after (ImageInfo.read index?) s) =
      answer (field tag) (turnedTo index? s)) : FindsMap index? s := by
  have hfound : ∀ info described, ImageInfo.read index? s = .ok info described →
      info.photometric = .palette → answer Colormap.read described ≠ .ok none :=
    fun info described hinfo hpalette hnone =>
      (Colormap.answer_read_eq_none (h.readInfo_none hinfo).1).mp hnone hpalette
  have hnamed (raster : Array UInt8) (source : String) :
      (decodeInto index? raster s).result = .error (.missingColormap source) ↔
        ∃ info described, ImageInfo.read index? s = .ok info described ∧
          info.photometric = .palette ∧ info.bitsPerSample ≤ Colormap.maxBits ∧
          answer (field .colorMap) (turnedTo index? s) = .ok none ∧
          source = name (after (field .colorMap) (after (ImageInfo.read none) described)) := by
    rw [decodeInto_eq_error, Plan.read_eq,
      FailsWith.answer_bind_rest (P := DecodeError.OfMap) (e := .missingColormap source)
        (ImageInfo.mapless_read index?) trivial]
    refine exists_congr fun info => exists_congr fun described => and_congr_right fun hinfo => ?_
    obtain ⟨hagain, hfields⟩ := h.readInfo_none hinfo
    rw [Plan.answer_ofInfo_missing, Plan.answer_readColormap_missing (hfound info described hinfo)]
    refine and_congr_right fun hpalette => ?_
    rw [Colormap.answer_read_missing hagain hpalette, hfields, ← hsettled, after_of_ok hinfo]
    rfl
  refine ⟨hsettled, hfound, fun raster => ?_⟩
  constructor
  · rintro ⟨source, hmissing⟩
    obtain ⟨info, described, hinfo, hpalette, hbits, htag, _⟩ := (hnamed raster source).mp hmissing
    exact ⟨info, answer_of_ok hinfo, hpalette, hbits, htag⟩
  · rintro ⟨info, hinfo, hpalette, hbits, htag⟩
    exact ⟨_, (hnamed raster _).mpr ⟨info, _, answer_eq_ok.mp hinfo, hpalette, hbits, htag, rfl⟩⟩

end

theorem File.findsMap {file : File} (hfile : file.Genuine) (index? : Option Nat) :
    FindsMap index? file := by
  refine (File.describesAgain hfile index?).findsMap fun tag => ?_
  exact (File.visible_field tag).answer_eq (File.kept_after_readInfo hfile index?).1

theorem LiteralSource.findsMap (source : LiteralSource) (index? : Option Nat) :
    FindsMap index? source := by
  refine (source.describesAgain index?).findsMap fun tag => ?_
  rw [(reads_same (· = turnedTo index? source)).keeps_readInfo index? rfl]

namespace Colormap

/-- **Just the palettes are read.** Once an image has been described, its color map is left out if it is
no palette image, and only then. The map of a palette image is read if its samples have at most 16 bits
and the tag can be read and holds as many numbers as it has to, all of 16 bits; the map is made of the
thirds of the corrected numbers. It is missing if the tag is absent from an image with samples of at
most 16 bits. As many words as there have to be can always be split. No file, whatever it has been
asked before, and no literal source finds a palette image without a map; a map is missing from a decode
only if its tag is. -/
theorem read_accepts_palettes :
    (∀ (σ : Type) [ScanlineSource σ] (s : σ) (info : ImageInfo),
      answer (ImageInfo.read none) s = .ok info →
      let bits := info.bitsPerSample
      let tag := answer (field .colorMap) (after (ImageInfo.read none) s)
      (answer Colormap.read s = .ok none ↔ info.photometric ≠ .palette) ∧
      (info.photometric = .palette →
        ((∃ map, answer Colormap.read s = .ok (some map)) ↔
          bits ≤ 16 ∧ ∃ numbers, tag = .ok (some (.unsigned numbers)) ∧ IsPalette bits numbers) ∧
        (∀ map numbers, answer Colormap.read s = .ok (some map) →
          tag = .ok (some (.unsigned numbers)) → map.size = 2 ^ bits ∧ map.MadeOf bits numbers) ∧
        ((∃ source, answer Colormap.read s = .error (.missingColormap source)) ↔
          bits ≤ 16 ∧ tag = .ok none))) ∧
    (∀ bits words, words.length = 3 * 2 ^ bits →
      ∃ stored, ofThirds? (2 ^ bits) words = some stored) ∧
    (∀ stream opened, File.ofStream stream = .ok opened → ∀ history index?,
      FindsMap index? (afterAll history opened)) ∧
    ∀ (source : LiteralSource) index?, FindsMap index? source := by
  refine ⟨fun σ _ s info hinfo => ?_, fun bits words hlength => ?_,
    fun stream opened hopen history index? => ?_, LiteralSource.findsMap⟩
  · intro bits tag
    refine ⟨answer_read_eq_none hinfo, fun hpalette => ?_⟩
    simp only [answer_read_eq_some hinfo hpalette, answer_read_missing hinfo hpalette]
    refine ⟨⟨?_, ?_⟩, ?_, ⟨?_, ?_⟩⟩
    · rintro ⟨_, hbits, value, stored, htag, hstored, _⟩
      obtain ⟨numbers, rfl, hnumbers⟩ := exists_palette.mp ⟨stored, hstored⟩
      exact ⟨hbits, numbers, htag, hnumbers⟩
    · rintro ⟨hbits, numbers, htag, hnumbers⟩
      obtain ⟨stored, hstored⟩ := exists_palette.mpr ⟨numbers, rfl, hnumbers⟩
      exact ⟨_, hbits, _, stored, htag, hstored, rfl⟩
    · rintro map numbers ⟨_, value, stored, hvalue, hstored, rfl⟩ htag
      obtain rfl := Option.some.inj (Except.ok.inj (hvalue.symm.trans htag))
      have hmade := (madeOf_of_palette hstored).2
      exact ⟨hmade.size 0, hmade⟩
    · rintro ⟨_, hbits, htag, _⟩
      exact ⟨hbits, htag⟩
    · rintro ⟨hbits, htag⟩
      exact ⟨_, hbits, htag, rfl⟩
  · obtain ⟨stored, hstored, _⟩ := exists_thirds hlength
    exact ⟨stored, hstored⟩
  · exact File.findsMap (File.genuine_afterAll (File.genuine_of_ofStream hopen) history) index?

/-- A palette image without a palette. -/
def mapless : List UInt8 :=
  StoredFile.ofFields
    [ ⟨.imageWidth, .short, [2]⟩, ⟨.imageLength, .short, [1]⟩, ⟨.bitsPerSample, .short, [8]⟩,
      ⟨.photometricInterpretation, .short, [3]⟩, ⟨.stripOffsets, .byte, [8]⟩ ]
    []

/-- A map of two colors, and one that is missing from a file. -/
theorem read_accepts_palettes_twoColors :
    (∃ map, answer Colormap.read (twoColors [0x1234, 256, 0x5678, 7, 0xFFFF, 0] [0, 1]) =
        .ok (some map) ∧ map.size = 2 ∧ map.MadeOf 1 [0x1234, 256, 0x5678, 7, 0xFFFF, 0]) ∧
    ∃ opened, File.ofStream (Stream.ofBytes mapless.toArray) = .ok opened ∧
      ∃ source, (decodeInto (some 0) #[] (afterAll [.select 7, .colormap] opened)).result =
        .error (.missingColormap source) := by
  constructor
  · have hruns : (answer (ImageInfo.read none)
        (twoColors [0x1234, 256, 0x5678, 7, 0xFFFF, 0] [0, 1])).toOption.map
          (fun info => (info.photometric, info.bitsPerSample)) = some (.palette, 1) := by
      decide +kernel
    obtain ⟨info, hinfo, hpair⟩ := Option.map_eq_some_iff.mp hruns
    obtain ⟨hpalette, hbits⟩ := Prod.mk.inj hpair
    obtain ⟨_, hmaps⟩ := read_accepts_palettes.1 _ _ info (except_toOption_eq_some.mp hinfo)
    obtain ⟨hread, hmade, _⟩ := hmaps hpalette
    rw [hbits] at hread hmade
    obtain ⟨map, hmap⟩ := hread.mpr ⟨by decide, _, rfl, ⟨rfl, by decide⟩⟩
    exact ⟨map, hmap, hmade map _ hmap rfl⟩
  · have hruns : ((File.ofStream (Stream.ofBytes mapless.toArray)).toOption.bind fun opened =>
        let file := afterAll [.select 7, .colormap] opened
        (answer (ImageInfo.read (some 0)) file).toOption.map fun info =>
          (info.photometric, info.bitsPerSample,
            (answer (field .colorMap) (turnedTo (some 0) file)).toOption)) =
          some (.palette, 8, some none) := by
      decide +kernel
    obtain ⟨opened, hopens, hruns⟩ := Option.bind_eq_some_iff.mp hruns
    obtain ⟨info, hinfo, hruns⟩ := Option.map_eq_some_iff.mp hruns
    simp only [Prod.mk.injEq] at hruns
    obtain ⟨hpalette, hbits, htag⟩ := hruns
    have hopen := except_toOption_eq_some.mp hopens
    have hfinds := read_accepts_palettes.2.2.1 _ opened hopen [.select 7, .colormap] (some 0)
    refine ⟨opened, hopen, (hfinds.missing _).mpr ⟨info, except_toOption_eq_some.mp hinfo, hpalette,
      ?_, except_toOption_eq_some.mp htag⟩⟩
    rw [hbits]
    decide

end Colormap

end TiffStrip
