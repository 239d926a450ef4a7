import TiffStrip.Proofs.File.SizeGuard
import TiffStrip.Proofs.Literal
import TiffStrip.Proofs.Source.Watched

namespace TiffStrip

open ScanlineSource

section

variable {σ : Type} [ScanlineSource σ] {index? : Option Nat} {s : σ}

structure DecodesIntoZeros (index? : Option Nat) (s : σ) : Prop where
  /-- An image that cannot be described cannot be decoded, for the same reason. -/
  undescribed : ∀ error, answer (ImageInfo.read index?) s = .error error →
    answer (decodeImage index?) s = .error error ∧
      ∀ raster, (decodeInto index? raster s).result = .error error
  /-- Any other is refused for the data that the source cannot hold, or else for the length of its
  raster, or it is decoded as into zeros. -/
  described : ∀ info required, answer (ImageInfo.read index?) s = .ok info →
    info.rasterLength = .ok required →
    let decoded := decodeInto index? (Array.replicate required 0) s
    ∃ form, info.rowForm? = some form ∧
      (∀ held, dataSize? s = some held → held < info.taken form →
        answer (decodeImage index?) s =
          .error (.unsupported (.dataMissing info.width info.height (info.taken form) held))) ∧
      ((∀ held, dataSize? s = some held → info.taken form ≤ held) → maxRaster < required →
        answer (decodeImage index?) s =
          .error (.unsupported (.tooLarge info.width info.height))) ∧
      ((∀ held, dataSize? s = some held → info.taken form ≤ held) → required ≤ maxRaster →
        answer (decodeImage index?) s = decoded.result.map (·, decoded.raster))
  /-- A refusal comes before the first scanline. -/
  unread : ∀ error, answer (decodeImage index?) s = .error error →
    let watched := Watched.mk s []
    answer (decodeImage index?) watched = .error error ∧
      (after (decodeImage index?) watched).asked = []

theorem answer_decodeImage_of_undescribed {error : DecodeError}
    (h : answer (ImageInfo.read index?) s = .error error) :
    answer (decodeImage index?) s = .error error := by
  rw [decodeImage_eq, answer_bind, h]
  rfl

theorem decodeInto_of_undescribed {error : DecodeError}
    (h : answer (ImageInfo.read index?) s = .error error) (raster : Array UInt8) :
    (decodeInto index? raster s).result = .error error := by
  rw [decodeInto_eq_error, Plan.read_eq, answer_bind, h]
  rfl

/-- An image whose raster has a length has rows of some form. -/
theorem ImageInfo.exists_rowForm {info : ImageInfo} {required : Nat}
    (h : info.rasterLength = .ok required) : ∃ form, info.rowForm? = some form := by
  obtain ⟨form, hform, _⟩ := except_bind_eq_ok.mp h
  exact ⟨form, rowForm_eq_ok hform⟩

/-- Up to its first scanline, a decode of a whole image asks for none. -/
theorem asked_after_planImage (index? : Option Nat) (s : σ) :
    (after (planImage index?) (Watched.mk s [])).asked = [] :=
  ((Watched.selects_asked []).planImage index? (Watched.mk s []) _ ⟨rfl, rfl⟩).2.2

/-- The scanlines of an order are rows of the image. -/
theorem Plan.lt_of_mem_order {plan : Plan} {count sample row : Nat} (hcount : count ≤ plan.lines)
    (h : (sample, row) ∈ plan.order count) :
    sample < plan.form.planes plan.info ∧ row < plan.info.height := by
  obtain ⟨line, hline, hplace⟩ := List.mem_map.mp h
  have hless := Nat.lt_of_lt_of_le (List.mem_range.mp hline) hcount
  obtain ⟨plane, rowOfPlane, hrow, hplane, rfl⟩ := Plan.exists_line hless
  rw [Plan.sampleOf_line plane hrow, Plan.rowOf_line plane hrow] at hplace
  cases hplace
  exact ⟨hplane, hrow⟩

/-- Once a whole image has been planned, its scanlines are asked for in order. -/
theorem Plan.asked_after_draw (plan : Plan) (index? : Option Nat) (required : Nat)
    (start : Watched σ) :
    ∃ count ≤ plan.lines,
      (after (plan.draw index? required) start).asked = start.asked ++ plan.order count := by
  have hafter : after (plan.draw index? required) start = (plan.readRaster start).2.2 := rfl
  have hread := Plan.readLines_eq (.none plan start) (Nat.zero_add _) #[] rfl
  rw [Plan.Scan.buffer_zero, Plan.Scan.source_zero, ← Plan.readRaster_eq] at hread
  rw [hafter]
  obtain ⟨whole, _, _, hleft⟩ | ⟨row, sample, cause, stopped, _⟩ := hread
  · refine ⟨plan.lines, Nat.le_refl _, ?_⟩
    rw [hleft, whole.asked (Nat.le_refl _)]
  · exact ⟨_, Plan.line_lt stopped.sample_lt stopped.row_lt, stopped.asked⟩

/-- A scanline that is asked for is a row of an image that has been planned. -/
theorem planned_of_asked {sample row : Nat}
    (h : (sample, row) ∈ (after (decodeImage index?) (Watched.mk s [])).asked) :
    ∃ required plan planned, planImage index? s = .ok (required, plan) planned ∧
      sample < plan.form.planes plan.info ∧ row < plan.info.height := by
  have hunasked := asked_after_planImage index? s
  have hsame := (Watched.serves_source.toSelects.planImage index? s (Watched.mk s []) rfl).1
  rw [decodeImage_eq_planImage, after_bind] at h
  cases hplan : answer (planImage index?) (Watched.mk s []) with
  | error refusal =>
    rw [hplan] at h
    rw [hunasked] at h
    cases h
  | ok planned =>
    obtain ⟨required, plan⟩ := planned
    rw [hplan] at h hsame
    obtain ⟨count, hcount, hasked⟩ := plan.asked_after_draw index? required
      (after (planImage index?) (Watched.mk s []))
    dsimp only at h
    rw [hasked, hunasked, List.nil_append] at h
    exact ⟨required, plan, _, answer_eq_ok.mp hsame, Plan.lt_of_mem_order hcount h⟩

/-- Once scanlines are read, a decode of a whole image is not refused any more. -/
theorem asked_of_refused {error : DecodeError}
    (h : answer (decodeImage index?) (Watched.mk s []) = .error error) :
    (after (decodeImage index?) (Watched.mk s [])).asked = [] := by
  rw [decodeImage_eq_planImage, answer_bind] at h
  rw [decodeImage_eq_planImage, after_bind]
  cases hplan : answer (planImage index?) (Watched.mk s []) with
  | ok planned =>
    rw [hplan] at h
    cases h
  | error refusal => exact asked_after_planImage index? s

/-- A source that describes its images again as before decodes them as into zeros. -/
theorem decodesIntoZeros (h : DescribesAgain index? s) : DecodesIntoZeros index? s where
  undescribed error herror :=
    ⟨answer_decodeImage_of_undescribed herror, decodeInto_of_undescribed herror⟩
  described info required hinfo hlength := by
    intro decoded
    have hanswer := h.answer_decodeImage hinfo hlength
    obtain ⟨form, hform⟩ := info.exists_rowForm hlength
    refine ⟨form, hform, fun held hheld hmissing => ?_, fun hfits hmemory => ?_,
      fun hfits hmemory => ?_⟩
    · rw [hanswer, hheld, checkSize_some hform hlength, if_pos hmissing]
      rfl
    · have hcheck := checkSize_of_fits hform hlength hfits
      rw [if_pos hmemory] at hcheck
      rw [hanswer, hcheck]
      rfl
    · have hcheck := checkSize_of_fits hform hlength hfits
      rw [if_neg (Nat.not_lt.mpr hmemory)] at hcheck
      rw [hanswer, hcheck]
      rfl
  unread error herror := by
    intro watched
    have hsame := (Watched.serves_source.decodeImage index? s watched rfl).1
    have hwatched := hsame.symm.trans herror
    exact ⟨hwatched, asked_of_refused hwatched⟩

end

namespace LiteralSource

theorem dataSize_turnedTo (index? : Option Nat) (source : LiteralSource) :
    (turnedTo index? source).dataSize? = source.dataSize? := by
  cases index? with
  | none => rfl
  | some index =>
    change (after (select index) source).dataSize? = source.dataSize?
    unfold select
    rw [after_get]
    by_cases hindex : index < source.images.length
    · rw [if_pos hindex]
      rfl
    · rw [if_neg hindex]
      rfl

theorem describesAgain (source : LiteralSource) (index? : Option Nat) :
    DescribesAgain index? source := by
  intro info described hinfo
  have hturned : described = turnedTo index? source := by
    rw [← after_of_ok hinfo]
    exact (reads_same (· = turnedTo index? source)).keeps_readInfo index? rfl
  obtain ⟨selected, hselected⟩ := ImageInfo.readSelected_of_read hinfo
  have hsame : described = selected := by
    rw [← after_of_ok hselected]
    exact simulates_self_iff.mp ((reads_same (· = selected)).readSelected index?) selected rfl
  refine ⟨?_, _, described, reads_same fun _ => True, ?_, rfl, trivial⟩
  · rw [hturned]
    exact dataSize_turnedTo index? source
  · rwa [← hsame] at hselected

end LiteralSource

/-- **A whole image is decoded as into zeros.** That goes for every file, whatever it has been asked
before, and for every literal source. An image that cannot be described is refused for the same reason
whichever way it is decoded. Any other is refused if more would be taken from its scanlines than the
source holds, or if its raster is too long; otherwise the answer is that of a decode into a raster of
zeros, refusals, index and damage included, together with that raster. Where there is a refusal, no
scanline has been asked for. -/
theorem decodeImage_into_zeros :
    (∀ stream opened, File.ofStream stream = .ok opened → ∀ history index?,
      DecodesIntoZeros index? (afterAll history opened)) ∧
    ∀ (source : LiteralSource) index?, DecodesIntoZeros index? source := by
  constructor
  · intro stream opened hopen history index?
    have hgenuine := File.genuine_afterAll (File.genuine_of_ofStream hopen) history
    exact decodesIntoZeros (File.describesAgain hgenuine index?)
  · intro source index?
    exact decodesIntoZeros (source.describesAgain index?)

/-- Two rows of a file that has been used before, and an image that it does not have. -/
theorem decodeImage_into_zeros_twoRows :
    ∃ opened, File.ofStream (Stream.ofBytes StoredFile.twoRows.toArray) = .ok opened ∧
      let file := afterAll [.select 7, .readScanline 1 0 [0, 0]] opened
      let decoded := decodeInto (some 0) (Array.replicate 4 0) file
      let missing := Watched.mk file []
      answer (decodeImage (some 0)) file = decoded.result.map (·, decoded.raster) ∧
        answer (decodeImage (some 7)) missing = .error (.selection 7 (.directoryOutOfRange 7 1)) ∧
        (after (decodeImage (some 7)) missing).asked = [] := by
  have hruns : ((File.ofStream (Stream.ofBytes StoredFile.twoRows.toArray)).toOption.bind
      fun opened =>
        let file := afterAll [.select 7, .readScanline 1 0 [0, 0]] opened
        (answer (ImageInfo.read (some 0)) file).toOption.map fun info =>
          (info.rasterLength.toOption, info.rowForm?,
            decide (info.taken .graySamples ≤ file.stream.size),
            refusal? (answer (decodeImage (some 7)) file))) =
        some (some 4, some .graySamples, true, some (.selection 7 (.directoryOutOfRange 7 1))) := by
    decide +kernel
  obtain ⟨opened, hopens, hruns⟩ := Option.bind_eq_some_iff.mp hruns
  obtain ⟨info, hinfo, hruns⟩ := Option.map_eq_some_iff.mp hruns
  simp only [Prod.mk.injEq, decide_eq_true_eq] at hruns
  obtain ⟨hlength, hgray, hroom, hmissing⟩ := hruns
  have hopen := except_toOption_eq_some.mp hopens
  have hzeros := decodeImage_into_zeros.1 _ opened hopen [.select 7, .readScanline 1 0 [0, 0]]
  obtain ⟨form, hform, _, _, hdecoded⟩ := (hzeros (some 0)).described info 4
    (except_toOption_eq_some.mp hinfo) (except_toOption_eq_some.mp hlength)
  obtain rfl : RowForm.graySamples = form := Option.some.inj (hgray.symm.trans hform)
  obtain ⟨hrefused, hunread⟩ := (hzeros (some 7)).unread _ (refusal?_eq_some.mp hmissing)
  refine ⟨opened, hopen, hdecoded (fun held hheld => ?_) (by decide), hrefused, hunread⟩
  cases hheld
  exact hroom

end TiffStrip
