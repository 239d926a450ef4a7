import TiffStrip.Header
import TiffStrip.Proofs.Layout.Number
import TiffStrip.Proofs.Simulation

/-!
# Headers and their bytes

What a header looks like is laid down field by field. Bytes are read as a header just if they begin with
one, except that a big header is read whatever the field holds that is reserved for zero.
-/

namespace TiffStrip

namespace ByteOrder

/-- The letters that announce an order. -/
def letters : ByteOrder → List UInt8
  | .little => "II".toUTF8.data.toList
  | .big => "MM".toUTF8.data.toList

theorem length_letters (order : ByteOrder) : order.letters.length = 2 := by
  cases order <;> decide

theorem take_letters_append (order : ByteOrder) (rest : List UInt8) :
    (order.letters ++ rest).take 2 = order.letters :=
  List.take_left' order.length_letters

theorem drop_letters_append (order : ByteOrder) (k : Nat) (rest : List UInt8) :
    (order.letters ++ rest).drop (2 + k) = rest.drop k := by
  rw [← List.drop_drop, List.drop_left' order.length_letters]

theorem encode_magic (writer order : ByteOrder) : writer.encode 2 order.magic = order.letters := by
  cases writer <;> cases order <;> decide

theorem ofMagic?_eq_some {n : Nat} {order : ByteOrder} :
    ofMagic? n = some order ↔ n = order.magic := by
  constructor
  · intro h
    unfold ofMagic? at h
    split at h <;> cases h <;> rfl
  · rintro rfl
    cases order <;> rfl

theorem announced_iff {bytes : List UInt8} {order : ByteOrder} (h : 2 ≤ bytes.length) :
    ofMagic? (little.read 2 bytes) = some order ↔ bytes.take 2 = order.letters := by
  rw [ofMagic?_eq_some, ← encode_magic .little order, ← little.encode_read h]
  constructor
  · intro hread
    rw [hread]
  · intro hspelled
    have hmagic : order.magic < wordLimit 2 := by
      cases order <;> decide
    have hdecoded := congrArg little.decode hspelled
    rwa [decode_encode, decode_encode, Nat.mod_eq_of_lt (little.read_lt 2 bytes),
      Nat.mod_eq_of_lt hmagic] at hdecoded

end ByteOrder

theorem Format.ofVersion?_eq_some {n : Nat} {format : Format} :
    ofVersion? n = some format ↔ n = format.version := by
  constructor
  · intro h
    unfold ofVersion? at h
    split at h <;> cases h <;> rfl
  · rintro rfl
    cases format <;> rfl

namespace Header

/-- Bytes that begin with a header, field by field, with a number in the field of a big header that is
reserved for zero. A classic header has no such field, as if it were zero. -/
inductive LaidOut : Header → (reserved : Nat) → List UInt8 → Prop where
  | classic (order : ByteOrder) {first : Nat} (hfirst : first < wordLimit 4) (rest : List UInt8) :
    LaidOut ⟨⟨order, .classic⟩, first⟩ 0
      (order.letters ++ (order.encode 2 42 ++ (order.encode 4 first ++ rest)))
  | big (order : ByteOrder) {first reserved : Nat} (hfirst : first < wordLimit 8)
      (hreserved : reserved < wordLimit 2) (rest : List UInt8) :
    LaidOut ⟨⟨order, .big⟩, first⟩ reserved
      (order.letters ++ (order.encode 2 43 ++ (order.encode 2 8 ++
        (order.encode 2 reserved ++ (order.encode 8 first ++ rest)))))

variable {bytes : List UInt8} {header : Header} {order : ByteOrder} {first reserved fileSize : Nat}

theorem laidOut_classic_iff :
    LaidOut ⟨⟨order, .classic⟩, first⟩ reserved bytes ↔
      reserved = 0 ∧ 8 ≤ bytes.length ∧ bytes.take 2 = order.letters ∧
        order.read 2 (bytes.drop 2) = 42 ∧ order.read 4 (bytes.drop 4) = first := by
  constructor
  · intro h
    cases h with
    | classic _ hfirst rest =>
      have hversion : 42 < wordLimit 2 := by decide
      refine ⟨rfl, ?_, order.take_letters_append _, ?_, ?_⟩
      · simp only [List.length_append, ByteOrder.length_letters, ByteOrder.length_encode]
        omega
      · change order.read 2 (List.drop (2 + 0) _) = 42
        rw [ByteOrder.drop_letters_append]
        exact order.read_encode_append hversion _
      · change order.read 4 (List.drop (2 + (2 + 0)) _) = first
        rw [ByteOrder.drop_letters_append, ByteOrder.drop_encode_append]
        exact order.read_encode_append hfirst _
  · rintro ⟨rfl, hlength, hannounced, hversion, hfirst⟩
    have hfits : first < wordLimit 4 := hfirst ▸ order.read_lt _ _
    have hfront := LaidOut.classic order hfits (bytes.drop 8)
    have h4 : order.encode 4 first ++ bytes.drop 8 = bytes.drop 4 :=
      order.encode_append_drop hlength hfirst
    have h2 : order.encode 2 42 ++ bytes.drop 4 = bytes.drop 2 :=
      order.encode_append_drop (by omega) hversion
    rwa [h4, h2, ← hannounced, List.take_append_drop] at hfront

theorem laidOut_big_iff :
    LaidOut ⟨⟨order, .big⟩, first⟩ reserved bytes ↔
      16 ≤ bytes.length ∧ bytes.take 2 = order.letters ∧ order.read 2 (bytes.drop 2) = 43 ∧
        order.read 2 (bytes.drop 4) = 8 ∧ order.read 2 (bytes.drop 6) = reserved ∧
        order.read 8 (bytes.drop 8) = first := by
  constructor
  · intro h
    cases h with
    | big _ hfirst hreserved rest =>
      have hversion : 43 < wordLimit 2 := by decide
      have hsize : 8 < wordLimit 2 := by decide
      refine ⟨?_, order.take_letters_append _, ?_, ?_, ?_, ?_⟩
      · simp only [List.length_append, ByteOrder.length_letters, ByteOrder.length_encode]
        omega
      · change order.read 2 (List.drop (2 + 0) _) = 43
        rw [ByteOrder.drop_letters_append]
        exact order.read_encode_append hversion _
      · change order.read 2 (List.drop (2 + (2 + 0)) _) = 8
        rw [ByteOrder.drop_letters_append, ByteOrder.drop_encode_append]
        exact order.read_encode_append hsize _
      · change order.read 2 (List.drop (2 + (2 + (2 + 0))) _) = reserved
        simp only [ByteOrder.drop_letters_append, ByteOrder.drop_encode_append]
        exact order.read_encode_append hreserved _
      · change order.read 8 (List.drop (2 + (2 + (2 + (2 + 0)))) _) = first
        simp only [ByteOrder.drop_letters_append, ByteOrder.drop_encode_append]
        exact order.read_encode_append hfirst _
  · rintro ⟨hlength, hannounced, hversion, hsize, hreserved, hfirst⟩
    have hfits : first < wordLimit 8 := hfirst ▸ order.read_lt _ _
    have hword : reserved < wordLimit 2 := hreserved ▸ order.read_lt _ _
    have hfront := LaidOut.big order hfits hword (bytes.drop 16)
    have h8 : order.encode 8 first ++ bytes.drop 16 = bytes.drop 8 :=
      order.encode_append_drop hlength hfirst
    have h6 : order.encode 2 reserved ++ bytes.drop 8 = bytes.drop 6 :=
      order.encode_append_drop (by omega) hreserved
    have h4 : order.encode 2 8 ++ bytes.drop 6 = bytes.drop 4 :=
      order.encode_append_drop (by omega) hsize
    have h2 : order.encode 2 43 ++ bytes.drop 4 = bytes.drop 2 :=
      order.encode_append_drop (by omega) hversion
    rwa [h8, h6, h4, h2, ← hannounced, List.take_append_drop] at hfront

theorem parseOffset_classic_eq_ok :
    parseOffset ⟨order, .classic⟩ bytes = .ok first ↔ order.read 4 (bytes.drop 4) = first := by
  simp only [parseOffset, Except.ok.injEq]

/-- The offset of a big header is read without a look at the reserved field. -/
theorem parseOffset_big_eq_ok :
    parseOffset ⟨order, .big⟩ bytes = .ok first ↔
      16 ≤ bytes.length ∧ order.read 2 (bytes.drop 4) = 8 ∧ order.read 8 (bytes.drop 8) = first := by
  simp only [parseOffset, Format.headerSize]
  by_cases hshort : bytes.length < 16
  · simp [hshort, Nat.not_le.mpr hshort]
  by_cases hsize : order.read 2 (bytes.drop 4) = 8
  · simp [hshort, hsize, Nat.not_lt.mp hshort]
  · simp [hshort, hsize]

/-- What is checked of bytes before they are read as a header. -/
theorem parse_eq_ok :
    parse bytes fileSize = .ok header ↔
      8 ≤ bytes.length ∧ bytes.take 2 = header.encoding.order.letters ∧
        header.encoding.order.read 2 (bytes.drop 2) = header.encoding.format.version ∧
        parseOffset header.encoding bytes = .ok header.firstDirectory ∧
        header.firstDirectory < fileSize := by
  constructor
  · intro h
    unfold parse at h
    obtain ⟨hshort, h⟩ := unless_eq_ok.mp h
    have hlength : 8 ≤ bytes.length := Nat.le_of_not_lt hshort
    dsimp only at h
    cases horder : ByteOrder.ofMagic? (ByteOrder.little.read 2 bytes) with
    | none =>
      rw [horder] at h
      cases h
    | some order =>
      simp only [horder] at h
      cases hformat : Format.ofVersion? (order.read 2 (bytes.drop 2)) with
      | none =>
        rw [hformat] at h
        cases h
      | some format =>
        simp only [hformat] at h
        obtain ⟨first, hfirst, h⟩ := except_bind_eq_ok.mp h
        obtain ⟨hinside, h⟩ := unless_eq_ok.mp h
        cases h
        exact ⟨hlength, (ByteOrder.announced_iff (by omega)).mp horder,
          Format.ofVersion?_eq_some.mp hformat, hfirst, Nat.lt_of_not_le hinside⟩
  · rintro ⟨hlength, hannounced, hversion, hfirst, hinside⟩
    unfold parse
    refine unless_eq_ok.mpr ⟨Nat.not_lt.mpr hlength, ?_⟩
    dsimp only
    rw [(ByteOrder.announced_iff (by omega)).mpr hannounced]
    dsimp only
    rw [Format.ofVersion?_eq_some.mpr hversion]
    exact except_bind_eq_ok.mpr ⟨_, hfirst, unless_eq_ok.mpr ⟨Nat.not_le_of_lt hinside, rfl⟩⟩

/-- Bytes are read as a header if they begin with it, whatever its reserved field holds, and its
directory is inside the file. -/
theorem parse_iff_laidOut :
    parse bytes fileSize = .ok header ↔
      (∃ reserved, header.LaidOut reserved bytes) ∧ header.firstDirectory < fileSize := by
  obtain ⟨⟨order, format⟩, first⟩ := header
  cases format with
  | classic =>
    simp only [parse_eq_ok, parseOffset_classic_eq_ok, laidOut_classic_iff, Format.version,
      exists_eq_left, and_assoc]
  | big =>
    simp only [parse_eq_ok, parseOffset_big_eq_ok, laidOut_big_iff, Format.version]
    constructor
    · rintro ⟨_, hannounced, hversion, ⟨hlength, hsize, hfirst⟩, hinside⟩
      exact ⟨⟨_, hlength, hannounced, hversion, hsize, rfl, hfirst⟩, hinside⟩
    · rintro ⟨⟨_, hlength, hannounced, hversion, hsize, _, hfirst⟩, hinside⟩
      exact ⟨by omega, hannounced, hversion, ⟨hlength, hsize, hfirst⟩, hinside⟩

/-- Only a big header has anything but zero in its reserved field. -/
theorem exists_laidOut_iff :
    (∃ reserved, header.LaidOut reserved bytes) ↔
      header.LaidOut 0 bytes ∨ header.encoding.format = .big ∧
        ∃ reserved, reserved ≠ 0 ∧ header.LaidOut reserved bytes := by
  constructor
  · rintro ⟨reserved, h⟩
    by_cases hzero : reserved = 0
    · exact .inl (hzero ▸ h)
    · cases h with
      | classic => exact absurd rfl hzero
      | big order hfirst hreserved rest =>
        exact .inr ⟨rfl, reserved, hzero, .big order hfirst hreserved rest⟩
  · rintro (h | ⟨_, reserved, _, h⟩)
    · exact ⟨0, h⟩
    · exact ⟨reserved, h⟩

namespace LaidOut

/-- Bytes begin with one header at most, and with one number in its reserved field. -/
theorem unique {header' : Header} {reserved' : Nat} (h : header.LaidOut reserved bytes)
    (h' : header'.LaidOut reserved' bytes) : header' = header ∧ reserved' = reserved := by
  -- In a file that is large enough for both, both are what is read.
  let fileSize := max header.firstDirectory header'.firstDirectory + 1
  have hread : parse bytes fileSize = .ok header := parse_iff_laidOut.mpr ⟨⟨_, h⟩, by omega⟩
  have hread' : parse bytes fileSize = .ok header' := parse_iff_laidOut.mpr ⟨⟨_, h'⟩, by omega⟩
  obtain rfl : header = header' := Except.ok.inj (hread.symm.trans hread')
  obtain ⟨⟨order, format⟩, first⟩ := header
  cases format with
  | classic =>
    obtain ⟨rfl, _⟩ := laidOut_classic_iff.mp h
    obtain ⟨rfl, _⟩ := laidOut_classic_iff.mp h'
    exact ⟨rfl, rfl⟩
  | big =>
    obtain ⟨_, _, _, _, hreserved, _⟩ := laidOut_big_iff.mp h
    obtain ⟨_, _, _, _, hreserved', _⟩ := laidOut_big_iff.mp h'
    exact ⟨rfl, hreserved'.symm.trans hreserved⟩

theorem append (h : header.LaidOut reserved bytes) (more : List UInt8) :
    header.LaidOut reserved (bytes ++ more) := by
  cases h with
  | classic order hfirst rest =>
    simp only [List.append_assoc]
    exact .classic order hfirst _
  | big order hfirst hreserved rest =>
    simp only [List.append_assoc]
    exact .big order hfirst hreserved _

end LaidOut

theorem length_serialize (header : Header) :
    header.serialize.length = header.encoding.format.headerSize := by
  unfold serialize
  cases header.encoding.format <;> simp [Format.headerSize]

theorem laidOut_serialize {header : Header}
    (h : header.firstDirectory < wordLimit header.encoding.format.offsetSize) (rest : List UInt8) :
    header.LaidOut 0 (header.serialize ++ rest) := by
  obtain ⟨⟨order, format⟩, first⟩ := header
  cases format with
  | classic =>
    simp only [serialize, ByteOrder.encode_magic, List.append_assoc]
    exact .classic order h rest
  | big =>
    have hzero : 0 < wordLimit 2 := by decide
    simp only [serialize, ByteOrder.encode_magic, List.append_assoc]
    exact .big order h hzero rest

theorem parse_serialize {header : Header} {fileSize : Nat}
    (hfirst : header.firstDirectory < wordLimit header.encoding.format.offsetSize)
    (hsize : header.firstDirectory < fileSize) (rest : List UInt8) :
    parse (header.serialize ++ rest) fileSize = .ok header :=
  parse_iff_laidOut.mpr ⟨⟨0, laidOut_serialize hfirst rest⟩, hsize⟩

/-- Bytes are read just as a header has to be, unless they begin with one whose reserved field is not
zero. -/
theorem parse_iff_reserved :
    (∀ header, parse bytes fileSize = .ok header ↔
      header.LaidOut 0 bytes ∧ header.firstDirectory < fileSize) ↔
      ∀ header reserved, LaidOut header reserved bytes → header.firstDirectory < fileSize →
        reserved = 0 := by
  constructor
  · intro h header reserved hbytes hinside
    have hread : parse bytes fileSize = .ok header :=
      parse_iff_laidOut.mpr ⟨⟨reserved, hbytes⟩, hinside⟩
    obtain ⟨hzero, _⟩ := (h header).mp hread
    exact (hzero.unique hbytes).2
  · intro h header
    rw [parse_iff_laidOut]
    constructor
    · rintro ⟨⟨reserved, hbytes⟩, hinside⟩
      obtain rfl := h header reserved hbytes hinside
      exact ⟨hbytes, hinside⟩
    · rintro ⟨hzero, hinside⟩
      exact ⟨⟨0, hzero⟩, hinside⟩

/-- **A header is read whatever its reserved field holds.** Bytes are read as a header just if they begin
with it, field by field, and its directory is inside the file; then what is read is its byte order, its
format and the offset of its directory. Only the field that a big header reserves for zero has no part in
this: so bytes are read as they have to be unless they begin with a header in which it is not zero. No
bytes begin with two headers, so not with a classic header and a big one either. A header that has been
written has zero in its reserved field, and is read back whatever follows it. -/
theorem accepts_any_reserved (bytes : List UInt8) (fileSize : Nat) :
    (∀ header, parse bytes fileSize = .ok header ↔
      (header.LaidOut 0 bytes ∨ header.encoding.format = .big ∧
        ∃ reserved, reserved ≠ 0 ∧ header.LaidOut reserved bytes) ∧
      header.firstDirectory < fileSize) ∧
    ((∀ header, parse bytes fileSize = .ok header ↔
      header.LaidOut 0 bytes ∧ header.firstDirectory < fileSize) ↔
      ∀ header reserved, LaidOut header reserved bytes → header.firstDirectory < fileSize →
        reserved = 0) ∧
    (∀ header header' reserved reserved', LaidOut header reserved bytes →
      LaidOut header' reserved' bytes → header' = header ∧ reserved' = reserved) ∧
    ∀ header : Header, header.firstDirectory < wordLimit header.encoding.format.offsetSize →
      header.firstDirectory < fileSize →
      header.LaidOut 0 (header.serialize ++ bytes) ∧
        parse (header.serialize ++ bytes) fileSize = .ok header := by
  refine ⟨?_, parse_iff_reserved, ?_, ?_⟩
  · intro header
    rw [parse_iff_laidOut, exists_laidOut_iff]
  · intro header header' reserved reserved' h h'
    exact h.unique h'
  · intro header hfits hinside
    exact ⟨laidOut_serialize hfits bytes, parse_serialize hfits hinside bytes⟩

/-- A big header with one in its reserved field, and a classic one that is followed by something else. -/
theorem accepts_any_reserved_samples :
    let odd : Header := ⟨⟨.little, .big⟩, 16⟩
    let plain : Header := ⟨⟨.big, .classic⟩, 8⟩
    let bytes := ByteOrder.little.letters ++ [43, 0, 8, 0, 1, 0, 16, 0, 0, 0, 0, 0, 0, 0]
    let written := plain.serialize ++ [7, 7]
    odd.LaidOut 1 bytes ∧ parse bytes 100 = .ok odd ∧
      (∀ header reserved, LaidOut header reserved bytes → header = odd ∧ reserved = 1) ∧
      plain.LaidOut 0 written ∧ parse written 10 = .ok plain ∧
      ∀ header, parse written 10 = .ok header ↔
        header.LaidOut 0 written ∧ header.firstDirectory < 10 := by
  intro odd plain bytes written
  have hodd : odd.LaidOut 1 bytes := .big .little (by decide) (by decide) []
  obtain ⟨hread, _, hunique, _⟩ := accepts_any_reserved bytes 100
  obtain ⟨_, _, _, hwritten⟩ := accepts_any_reserved [7, 7] 10
  obtain ⟨_, hmeant, honly, _⟩ := accepts_any_reserved written 10
  obtain ⟨hplain, hback⟩ := hwritten plain (by decide) (by decide)
  refine ⟨hodd, (hread odd).mpr ⟨.inr ⟨rfl, 1, by decide, hodd⟩, by decide⟩, ?_, hplain, hback,
    hmeant.mpr ?_⟩
  · intro header reserved h
    exact hunique odd header 1 reserved hodd h
  · intro header reserved h _
    exact (honly plain header 0 reserved hplain h).2

/-- A big header is read although its reserved field is not zero, as it has to be. -/
theorem reserved_accepted :
    let bytes : List UInt8 := [0x49, 0x49, 43, 0, 8, 0, 1, 0, 16, 0, 0, 0, 0, 0, 0, 0]
    parse bytes 100 = .ok ⟨⟨.little, .big⟩, 16⟩ ∧
      ¬∃ header : Header, header.LaidOut 0 bytes ∧ header.firstDirectory < 100 := by
  intro bytes
  have hodd : LaidOut ⟨⟨.little, .big⟩, 16⟩ 1 bytes := .big .little (by decide) (by decide) []
  refine ⟨parse_iff_laidOut.mpr ⟨⟨1, hodd⟩, by decide⟩, ?_⟩
  rintro ⟨header, hzero, _⟩
  exact absurd (hodd.unique hzero).2 (by decide)

end Header

end TiffStrip
