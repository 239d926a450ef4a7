import Mathlib.Algebra.Group.Nat.Defs
import Mathlib.Logic.Basic
import TiffStrip.Proofs.Colormap.Correct
import TiffStrip.Proofs.Simulation

namespace TiffStrip

theorem FieldValue.words?_eq_some {value : FieldValue} {words : List UInt16} :
    value.words? = some words ↔ ∃ numbers, value = .unsigned numbers ∧
      (∀ n ∈ numbers, n ≤ 65535) ∧ words = numbers.map UInt16.ofNat := by
  cases value with
  | ascii text => simp [words?, numbers?]
  | undefined bytes => simp [words?, numbers?]
  | unsigned numbers =>
    have hwords : words? (.unsigned numbers) =
        if numbers.all (· < 0x10000) then some (numbers.map UInt16.ofNat) else none := rfl
    have hfits : numbers.all (· < 0x10000) = true ↔ ∀ n ∈ numbers, n ≤ 65535 := by
      simp only [List.all_eq_true, decide_eq_true_eq]
      exact forall₂_congr fun n _ => Nat.lt_succ_iff
    simp only [hwords, hfits, Option.ite_none_right_eq_some, Option.some.injEq, unsigned.injEq,
      exists_eq_left', @eq_comm _ words]

namespace Colormap

/-- The table of a channel: red, green or blue. -/
def channel (map : Colormap) : Fin 3 → Array UInt16
  | 0 => map.red
  | 1 => map.green
  | 2 => map.blue

theorem size_channel (map : Colormap) (c : Fin 3) : (map.channel c).size = map.size := by
  match c with
  | 0 => rfl
  | 1 => exact map.green_size
  | 2 => exact map.blue_size

theorem channel_mapValues (f : UInt16 → UInt16) (map : Colormap) (c : Fin 3) :
    (map.mapValues f).channel c = (map.channel c).map f := by
  match c with
  | 0 | 1 | 2 => rfl

section

variable {size : Nat} {stored : Colormap}

/-- Three times as many words as a channel has can be split into three channels. -/
theorem exists_thirds {words : List UInt16} (h : words.length = 3 * size) :
    ∃ stored, ofThirds? size words = some stored ∧ stored.values = words.toArray ∧
      ∀ c, (stored.channel c).size = size := by
  have hsize : words.toArray.size = 3 * size := h
  have hred : (words.toArray.extract 0 size).size = size := by
    rw [Array.size_extract]
    omega
  have hgreen : (words.toArray.extract size (2 * size)).size = size := by
    rw [Array.size_extract]
    omega
  have hblue : (words.toArray.extract (2 * size) (3 * size)).size = size := by
    rw [Array.size_extract]
    omega
  have heven := And.intro (hgreen.trans hred.symm) (hblue.trans hred.symm)
  refine ⟨⟨_, _, _, heven.1, heven.2⟩, ?_, ?_, ?_⟩
  · rw [ofThirds?, if_pos (Nat.le_of_eq hsize.symm), ofChannels?, dif_pos heven]
  · simp only [values, Array.extract_append_extract, Nat.zero_min,
      Nat.max_eq_right (show size ≤ 2 * size by omega),
      Nat.max_eq_right (show 2 * size ≤ 3 * size by omega)]
    rw [← hsize, Array.extract_size]
  · intro c
    exact (size_channel _ c).trans hred

theorem getElem?_channel (h : ∀ c, (stored.channel c).size = size) (c : Fin 3) {i : Nat}
    (hi : i < size) : (stored.channel c)[i]? = stored.values[c * size + i]? := by
  have hred : stored.red.size = size := h 0
  have hgreen : stored.green.size = size := h 1
  match c with
  | 0 =>
    change stored.red[i]? = (stored.red ++ stored.green ++ stored.blue)[0 * size + i]?
    rw [Nat.zero_mul, Nat.zero_add, Array.append_assoc, Array.getElem?_append_left (by omega)]
  | 1 =>
    change stored.green[i]? = (stored.red ++ stored.green ++ stored.blue)[1 * size + i]?
    rw [Nat.one_mul, Array.append_assoc, Array.getElem?_append_right (by omega), hred,
      Nat.add_sub_cancel_left, Array.getElem?_append_left (by omega)]
  | 2 =>
    change stored.blue[i]? = (stored.red ++ stored.green ++ stored.blue)[2 * size + i]?
    have hfront : (stored.red ++ stored.green).size = 2 * size := by
      rw [Array.size_append]
      omega
    rw [Array.getElem?_append_right (by omega), hfront, Nat.add_sub_cancel_left]

end

/-- Whether numbers are a palette for samples of so many bits: for each of three channels one for each
value of a sample, all of them of 16 bits. -/
structure IsPalette (bits : Nat) (numbers : List Nat) : Prop where
  length : numbers.length = 3 * 2 ^ bits
  fits : ∀ n ∈ numbers, n ≤ 65535

/-- A number of a palette when the palette has been corrected: as it is if none exceeds 255, and else
scaled down like all of them. -/
def corrected (numbers : List Nat) (n : Nat) : Nat :=
  if ∀ m ∈ numbers, m ≤ 255 then n else n * 255 / 65535

structure MadeOf (map : Colormap) (bits : Nat) (numbers : List Nat) : Prop where
  size : ∀ c, (map.channel c).size = 2 ^ bits
  value : ∀ (c : Fin 3) (i : Nat), i < 2 ^ bits →
    (map.channel c)[i]?.map UInt16.toNat = numbers[c * 2 ^ bits + i]?.map (corrected numbers)

section

variable {bits : Nat} {numbers : List Nat} {stored : Colormap}

theorem IsPalette.toNat_ofNat (h : IsPalette bits numbers) {n : Nat} (hn : n ∈ numbers) :
    (UInt16.ofNat n).toNat = n :=
  UInt16.toNat_ofNat_of_lt' (Nat.lt_succ_of_le (h.fits n hn))

/-- A palette is scaled down just if not all of its numbers have 8 bits. -/
theorem IsPalette.isDeep_iff (h : IsPalette bits numbers)
    (hvalues : stored.values = (numbers.map UInt16.ofNat).toArray) :
    stored.isDeep = true ↔ ¬∀ m ∈ numbers, m ≤ 255 := by
  rw [Colormap.isDeep_iff, hvalues]
  simp only [List.mem_toArray, List.mem_map, exists_exists_and_eq_and, not_forall, Nat.not_le,
    exists_prop]
  refine exists_congr fun n => and_congr_right fun hn => ?_
  rw [h.toNat_ofNat hn]

theorem IsPalette.toNat_correction (h : IsPalette bits numbers)
    (hvalues : stored.values = (numbers.map UInt16.ofNat).toArray) {n : Nat} (hn : n ∈ numbers) :
    (stored.correction (UInt16.ofNat n)).toNat = corrected numbers n := by
  unfold correction corrected
  by_cases hshallow : ∀ m ∈ numbers, m ≤ 255
  · have hdeep : ¬stored.isDeep = true := fun hdeep => (h.isDeep_iff hvalues).mp hdeep hshallow
    rw [if_neg hdeep, if_pos hshallow]
    exact h.toNat_ofNat hn
  · rw [if_pos ((h.isDeep_iff hvalues).mpr hshallow), if_neg hshallow, scale_toNat,
      h.toNat_ofNat hn]
    omega

theorem IsPalette.madeOf (h : IsPalette bits numbers)
    (hvalues : stored.values = (numbers.map UInt16.ofNat).toArray)
    (hsize : ∀ c, (stored.channel c).size = 2 ^ bits) : stored.correct.2.MadeOf bits numbers := by
  rw [correct_eq_mapValues]
  constructor
  · intro c
    rw [channel_mapValues, Array.size_map, hsize]
  · intro c i hi
    rw [channel_mapValues, Array.getElem?_map, getElem?_channel hsize c hi, hvalues,
      List.getElem?_toArray, List.getElem?_map, Option.map_map, Option.map_map]
    exact Option.map_congr fun n hn => h.toNat_correction hvalues (List.mem_of_getElem? hn)

/-- The palette that the value of a tag holds, as it is stored. -/
def palette? (bits : Nat) (value : FieldValue) : Option Colormap :=
  (value.words?.filter fun words => words.length = 3 * 2 ^ bits).bind (ofThirds? (2 ^ bits))

/-- What is read of a palette: the palette as it is, and a map that is made of it. -/
theorem madeOf_of_palette (h : palette? bits (.unsigned numbers) = some stored) :
    IsPalette bits numbers ∧ stored.correct.2.MadeOf bits numbers := by
  obtain ⟨words, hwords, hstored⟩ := Option.bind_eq_some_iff.mp h
  obtain ⟨hwords, hlength⟩ := Option.filter_eq_some_iff.mp hwords
  obtain ⟨_, ⟨⟩, hfits, rfl⟩ := FieldValue.words?_eq_some.mp hwords
  have hlength := of_decide_eq_true hlength
  obtain ⟨split, hsplit, hvalues, hsize⟩ := exists_thirds hlength
  obtain rfl := Option.some.inj (hsplit.symm.trans hstored)
  have hpalette : IsPalette bits numbers := ⟨(List.length_map _).symm.trans hlength, hfits⟩
  exact ⟨hpalette, hpalette.madeOf hvalues hsize⟩

/-- A value holds a palette just if it is a list of numbers that are one. -/
theorem exists_palette {value : FieldValue} :
    (∃ stored, palette? bits value = some stored) ↔
      ∃ numbers, value = .unsigned numbers ∧ IsPalette bits numbers := by
  constructor
  · rintro ⟨stored, hstored⟩
    obtain ⟨words, hwords, _⟩ := Option.bind_eq_some_iff.mp hstored
    obtain ⟨numbers, rfl, _⟩ := FieldValue.words?_eq_some.mp (Option.filter_eq_some_iff.mp hwords).1
    exact ⟨numbers, rfl, (madeOf_of_palette hstored).1⟩
  · rintro ⟨numbers, rfl, hpalette⟩
    have hwords := FieldValue.words?_eq_some.mpr ⟨numbers, rfl, hpalette.fits, rfl⟩
    have hlength := (List.length_map UInt16.ofNat).trans hpalette.length
    obtain ⟨stored, hstored, _⟩ := exists_thirds hlength
    refine ⟨stored, Option.bind_eq_some_iff.mpr ⟨_, ?_, hstored⟩⟩
    exact Option.filter_eq_some_iff.mpr ⟨hwords, decide_eq_true hlength⟩

/-- The map of a palette image, by what the source answers for its tag. -/
def ofTag (bits : Nat) (source : String) :
    Except FormatError (Option FieldValue) → Except DecodeError Colormap
  | .error cause => .error (.format cause)
  | .ok none => .error (.missingColormap source)
  | .ok (some value) =>
    match palette? bits value with
    | some stored => .ok stored.correct.2
    | none =>
      .error (.format (.invalidValue (.tag .colorMap) (.wrongMapSize (3 * 2 ^ bits) bits)))

variable {source : String} {tag : Except FormatError (Option FieldValue)}

theorem ofTag_eq_ok {map : Colormap} :
    ofTag bits source tag = .ok map ↔ ∃ value stored,
      tag = .ok (some value) ∧ palette? bits value = some stored ∧ stored.correct.2 = map := by
  match tag with
  | .error _ | .ok none => simp [ofTag]
  | .ok (some value) => cases hstored : palette? bits value <;> simp [ofTag, hstored]

theorem ofTag_missing {missing : String} :
    ofTag bits source tag = .error (.missingColormap missing) ↔
      tag = .ok none ∧ missing = source := by
  match tag with
  | .error _ => simp [ofTag]
  | .ok none => simp [ofTag, eq_comm]
  | .ok (some value) => cases hstored : palette? bits value <;> simp [ofTag, hstored]

end

section

open FieldSource ScanlineSource

variable {σ : Type} [ScanlineSource σ] {info : ImageInfo} {s : σ}

/-- A map, as it is read once the image has been described. The words of a palette can be split, so
there is no failing for want of a third. -/
theorem answer_read_of_described (h : answer (ImageInfo.read none) s = .ok info) :
    let described := after (ImageInfo.read none) s
    answer Colormap.read s =
      if info.photometric ≠ .palette then .ok none
      else if maxBits < info.bitsPerSample then
        .error (.unsupported (.paletteDepth info.bitsPerSample))
      else
        (ofTag info.bitsPerSample (name (after (field .colorMap) described))
          (answer (field .colorMap) described)).map some := by
  intro described
  unfold Colormap.read
  rw [answer_bind, h]
  dsimp only [Except.bind]
  by_cases hpalette : info.photometric ≠ .palette
  · rw [if_pos hpalette, if_pos hpalette]
    rfl
  rw [if_neg hpalette, if_neg hpalette]
  by_cases hbits : maxBits < info.bitsPerSample
  · rw [if_pos hbits, if_pos hbits]
    rfl
  rw [if_neg hbits, if_neg hbits, answer_bind, request, answer_adaptExcept, after_adaptExcept]
  match answer (field .colorMap) described with
  | .error cause => rfl
  | .ok none => rfl
  | .ok (some value) =>
    dsimp only [Except.mapError, Except.bind, ofTag]
    rw [Nat.one_shiftLeft, palette?]
    cases hwords : value.words?.filter fun words => words.length = 3 * 2 ^ info.bitsPerSample with
    | none => rfl
    | some words =>
      have hlength := of_decide_eq_true (Option.filter_eq_some_iff.mp hwords).2
      obtain ⟨stored, hstored, _⟩ := exists_thirds hlength
      simp only [Option.bind_some, hstored, answer_pure]
      rfl

/-- Only a palette image has a map, and it is never left out. -/
theorem answer_read_eq_none (h : answer (ImageInfo.read none) s = .ok info) :
    answer Colormap.read s = .ok none ↔ info.photometric ≠ .palette := by
  rw [answer_read_of_described h]
  by_cases hpalette : info.photometric ≠ .palette
  · exact iff_of_true (if_pos hpalette) hpalette
  · rw [if_neg hpalette]
    refine iff_of_false ?_ hpalette
    split
    · exact nofun
    · rw [except_map_eq_ok]
      rintro ⟨map, _, ⟨⟩⟩

/-- A map is read if the samples are short enough and their palette is in the tag. -/
theorem answer_read_eq_some {map : Colormap} (h : answer (ImageInfo.read none) s = .ok info)
    (hpalette : info.photometric = .palette) :
    answer Colormap.read s = .ok (some map) ↔ info.bitsPerSample ≤ maxBits ∧ ∃ value stored,
      answer (field .colorMap) (after (ImageInfo.read none) s) = .ok (some value) ∧
      palette? info.bitsPerSample value = some stored ∧ stored.correct.2 = map := by
  rw [answer_read_of_described h, if_neg (not_not_intro hpalette)]
  by_cases hbits : maxBits < info.bitsPerSample
  · rw [if_pos hbits]
    exact iff_of_false nofun fun hread => Nat.not_le.mpr hbits hread.1
  · rw [if_neg hbits, except_map_eq_ok]
    simp only [Option.some.injEq, exists_eq_right, ofTag_eq_ok, Nat.not_lt.mp hbits, true_and]

/-- What is known once a map has been read. -/
theorem read_ok {map : Colormap} {s t : σ} (h : Colormap.read s = .ok (some map) t) :
    ∃ info, answer (ImageInfo.read none) s = .ok info ∧ info.bitsPerSample ≤ maxBits ∧
      ∃ stored : Colormap, stored.correct.2 = map := by
  obtain ⟨info, described, hinfo, _⟩ := bind_eq_ok h
  have hinfo := answer_of_ok hinfo
  have hread := answer_of_ok h
  have hpalette : info.photometric = .palette := by
    apply Decidable.byContradiction
    intro hother
    cases ((answer_read_eq_none hinfo).mpr hother).symm.trans hread
  obtain ⟨hbits, _, stored, _, _, hmap⟩ := (answer_read_eq_some hinfo hpalette).mp hread
  exact ⟨info, hinfo, hbits, stored, hmap⟩

/-- A map is missing if the samples are short enough and there is no tag. -/
theorem answer_read_missing {missing : String} (h : answer (ImageInfo.read none) s = .ok info)
    (hpalette : info.photometric = .palette) :
    answer Colormap.read s = .error (.missingColormap missing) ↔ info.bitsPerSample ≤ maxBits ∧
      answer (field .colorMap) (after (ImageInfo.read none) s) = .ok none ∧
      missing = name (after (field .colorMap) (after (ImageInfo.read none) s)) := by
  rw [answer_read_of_described h, if_neg (not_not_intro hpalette)]
  by_cases hbits : maxBits < info.bitsPerSample
  · rw [if_pos hbits]
    exact iff_of_false nofun fun hread => Nat.not_le.mpr hbits hread.1
  · rw [if_neg hbits, except_map_eq_error, ofTag_missing]
    simp only [Nat.not_lt.mp hbits, true_and]

end

end Colormap

end TiffStrip
