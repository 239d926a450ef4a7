import TiffStrip.Proofs.Entry.Numbers
import TiffStrip.Proofs.Text.Utf8

/-!
# Text in entries

The text of an entry ends at its first zero byte, or with its last byte if none is zero. No character
but the zero character has a zero byte in its encoding, so the end cuts no character, and text without
zero characters is read as it was written, whatever is behind its end.
-/

namespace TiffStrip

namespace Text

/-- The bytes in front of the first zero byte. -/
def beforeZero (bytes : List UInt8) : List UInt8 :=
  bytes.takeWhile (· ≠ 0)

theorem zero_not_mem_beforeZero (bytes : List UInt8) : 0 ∉ beforeZero bytes := by
  intro h
  have hstays := List.all_eq_true.mp (List.all_takeWhile) 0 h
  exact absurd hstays (by decide)

theorem beforeZero_append {bytes rest : List UInt8} (hbytes : 0 ∉ bytes)
    (hrest : ∀ byte ∈ rest.head?, byte = 0) : beforeZero (bytes ++ rest) = bytes := by
  have hnonzero : ∀ byte ∈ bytes, decide (byte ≠ 0) = true := by
    intro byte hbyte
    rw [decide_eq_true_iff]
    rintro rfl
    exact hbytes hbyte
  have hstop : beforeZero rest = [] := by
    cases rest with
    | nil => rfl
    | cons byte rest => rw [hrest byte rfl, beforeZero, List.takeWhile_cons_of_neg (by decide)]
  rw [beforeZero, List.takeWhile_append_of_pos hnonzero]
  exact (congrArg (bytes ++ ·) hstop).trans (List.append_nil bytes)

theorem zero_mem_toUTF8 {text : String} : 0 ∈ text.toUTF8.data.toList ↔ '\x00' ∈ text.toList := by
  rw [toList_toUTF8, List.mem_flatMap]
  simp only [zero_mem_utf8EncodeChar, exists_eq_right]

/-- Text without zero characters is all that is in front of a zero byte behind it. -/
theorem beforeZero_toUTF8_append {text : String} {rest : List UInt8} (htext : '\x00' ∉ text.toList)
    (hrest : ∀ byte ∈ rest.head?, byte = 0) :
    beforeZero (text.toUTF8.data.toList ++ rest) = text.toUTF8.data.toList :=
  beforeZero_append (mt zero_mem_toUTF8.mp htext) hrest

end Text

namespace Entry

variable {entry : Entry} {encoding : Encoding} {s : Stream} {bytes : List UInt8}

/-- Text is read of what is in front of the first zero byte. -/
theorem Carries.answer_readValue_beforeZero (h : entry.Carries encoding s .ascii bytes)
    (hsize : s.size < Address.limit) :
    answer (entry.readValue encoding) s = .ok (.ascii (Text.decodeUtf8 (Text.beforeZero bytes))) :=
  h.answer_readValue_text hsize

/-- An entry that is read as text carries the bytes that are read as this text. -/
theorem text_of_readValue (hsound : entry.Sound encoding) {text : String}
    (h : answer (entry.readValue encoding) s = .ok (.ascii text)) :
    ∃ bytes, entry.Carries encoding s .ascii bytes ∧
      Text.Reads (Text.beforeZero bytes) text.toList := by
  rw [answer_readValue_eq] at h
  cases htype : entry.type? with
  | none =>
    rw [htype] at h
    cases h
  | some type =>
    rw [htype] at h
    cases type with
    | ascii =>
      obtain ⟨_, htext, hvalue⟩ := except_map_eq_ok.mp h
      cases hvalue
      rw [answer_readText_eq htype] at htext
      obtain ⟨bytes, hbytes, rfl⟩ := except_map_eq_ok.mp htext
      exact ⟨bytes, carries_of_readBytes hsound htype hbytes, Text.reads_decodeUtf8 _⟩
    | undefined | byte | short | long | long8 =>
      obtain ⟨_, _, hvalue⟩ := except_map_eq_ok.mp h
      cases hvalue

/-- **Text is read exactly as it is stored.** Text without zero characters whose encoding an entry
carries, in its field or at an offset, is read back, at the end of the values as well as in front of a
zero byte and anything else. Whatever bytes an entry of text carries, it is read as the text that the
bytes in front of the first zero byte say, in which what is no encoding of a character is replaced; and
no other text is read of an entry of a directory. No text that is read has a zero character, and
entries of any encodings that carry the same bytes in front of their first zero byte are read alike. -/
theorem text_read_exactly (encoding : Encoding) (s : Stream) (hsize : s.size < Address.limit) :
    (∀ (entry : Entry) (text : String) (rest : List UInt8),
      '\x00' ∉ text.toList → (∀ byte ∈ rest.head?, byte = 0) →
      entry.Carries encoding s .ascii (text.toUTF8.data.toList ++ rest) →
      answer (entry.readValue encoding) s = .ok (.ascii text)) ∧
    (∀ (entry : Entry) (bytes : List UInt8), entry.Carries encoding s .ascii bytes →
      ∃ text, answer (entry.readValue encoding) s = .ok (.ascii text) ∧ '\x00' ∉ text.toList ∧
        ∀ other : String, Text.Reads (Text.beforeZero bytes) other.toList ↔ other = text) ∧
    (∀ stored directory, Directory.parse encoding stored = .ok directory →
      ∀ entry ∈ directory.entries, ∀ text,
        answer (entry.readValue encoding) s = .ok (.ascii text) →
        '\x00' ∉ text.toList ∧ ∃ bytes, entry.Carries encoding s .ascii bytes ∧
          Text.Reads (Text.beforeZero bytes) text.toList) ∧
    ∀ (again : Encoding) (other : Stream), other.size < Address.limit →
      ∀ (first second : Entry) (bytes more : List UInt8),
        first.Carries encoding s .ascii bytes → second.Carries again other .ascii more →
        Text.beforeZero bytes = Text.beforeZero more →
        answer (first.readValue encoding) s = answer (second.readValue again) other := by
  refine ⟨?_, ?_, ?_, ?_⟩
  · intro entry text rest htext hrest hcarries
    rw [hcarries.answer_readValue_beforeZero hsize, Text.beforeZero_toUTF8_append htext hrest,
      Text.decodeUtf8_toUTF8]
  · intro entry bytes hcarries
    have hreads := Text.reads_decodeUtf8 (Text.beforeZero bytes)
    refine ⟨_, hcarries.answer_readValue_beforeZero hsize,
      hreads.zero_not_mem (Text.zero_not_mem_beforeZero bytes), fun other => ?_⟩
    rw [← Text.decodeUtf8_eq_iff, eq_comm]
  · intro stored directory hparse entry hentry text hvalue
    obtain ⟨bytes, hcarries, hreads⟩ := text_of_readValue (sound_of_parse hparse hentry) hvalue
    exact ⟨hreads.zero_not_mem (Text.zero_not_mem_beforeZero bytes), bytes, hcarries, hreads⟩
  · intro again other hother first second bytes more hfirst hsecond hsame
    rw [hfirst.answer_readValue_beforeZero hsize, hsecond.answer_readValue_beforeZero hother, hsame]

/-- Two characters of together three bytes, in the entry itself. -/
def shortText : Entry :=
  { tag := 315, typeCode := 2, count := 4, field := [0xC3, 0xA9, 0x41, 0] }

/-- Three characters of together nine bytes, with the beginning of another one behind their end. -/
def longText : Entry :=
  { tag := 305, typeCode := 2, count := 12, field := [0, 0, 0, 30] }

/-- Text in an entry and text behind the directory, and an entry in another format with the same
text. -/
theorem text_read_exactly_samples :
    let encoding : Encoding := ⟨.big, .classic⟩
    let directory : Directory := { entries := [shortText, longText], next := 0 }
    let long := "ß€😀".toUTF8.data.toList ++ [0, 0xE2, 0x82]
    let s : Stream := .ofBytes (directory.serialize encoding ++ long).toArray
    let again : Encoding := ⟨.little, .big⟩
    let field : List UInt8 := [0xC3, 0xA9, 0x41, 0, 0xFF, 0, 1, 0]
    let inline : Entry := { longText with count := 8, field }
    answer (longText.readValue encoding) s = .ok (.ascii "ß€😀") ∧
      longText.Carries encoding s .ascii long ∧
      (∃ bytes, shortText.Carries encoding s .ascii bytes ∧
        Text.Reads (Text.beforeZero bytes) "éA".toList) ∧
      answer (shortText.readValue encoding) s = answer (inline.readValue again) s := by
  intro encoding directory long s again field inline
  obtain ⟨hstored, _, hback, hsame⟩ := text_read_exactly encoding s (by decide)
  have hlong : longText.Carries encoding s .ascii long := by
    have hholds : s.Holds 30 long := ⟨directory.serialize encoding, [], by decide, by decide⟩
    exact .of_offset (by decide) (by decide) (by decide) (by decide) (by decide) hholds
  have hshort : shortText.Carries encoding s .ascii ("éA".toUTF8.data.toList ++ [0]) :=
    .of_inline (by decide) (by decide) (by decide) (by decide)
  have hinline : inline.Carries again s .ascii field :=
    .of_inline (by decide) (by decide) (by decide) (by decide)
  have hparse : Directory.parse encoding (directory.serialize encoding) = .ok directory :=
    except_toOption_eq_some.mp (by decide +kernel)
  have hread := hstored shortText "éA" [0] (by decide) (by simp) hshort
  obtain ⟨_, hreads⟩ := hback _ _ hparse shortText List.mem_cons_self "éA" hread
  exact ⟨hstored longText "ß€😀" [0, 0xE2, 0x82] (by decide) (by simp) hlong, hlong, hreads,
    hsame again s (by decide) shortText inline _ _ hshort hinline (by decide)⟩

end Entry

end TiffStrip
