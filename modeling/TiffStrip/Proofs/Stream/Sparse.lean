import Mathlib.Data.List.GetD
import TiffStrip.Proofs.Stream.Call

/-!
# Streams as sparse files

A stream that is written and grows by zeros is a file without an end: one may write anywhere, and
what was never written reads as zeros up to the last byte that was.
-/

namespace TiffStrip

/-- Bytes and a cursor, which may be behind all of them. -/
@[ext] structure SparseFile where
  bytes : List UInt8
  cursor : Nat
  deriving DecidableEq, Repr

namespace SparseFile

/-- The byte at an offset when `data` has been written at the cursor: one of the data, or the one
that was there, or a zero if there was none. -/
def byteAfter (file : SparseFile) (data : List UInt8) (offset : Nat) : UInt8 :=
  if file.cursor ≤ offset ∧ offset < file.cursor + data.length then
    data.getD (offset - file.cursor) 0
  else file.bytes.getD offset 0

/-- The file when `data` has been written at the cursor. -/
def put (file : SparseFile) (data : List UInt8) : SparseFile where
  bytes :=
    (List.range (max file.bytes.length (file.cursor + data.length))).map (file.byteAfter data)
  cursor := file.cursor + data.length

def slice (file : SparseFile) (offset length : Nat) : List UInt8 :=
  (file.bytes.drop offset).take length

def locate? (file : SparseFile) : SeekTarget → Option Nat
  | .start offset => some offset
  | .cursor distance => Address.shift? file.cursor distance
  | .finish distance => Address.shift? file.bytes.length distance

/-- A call on the file, which messages call by a name. -/
def run (name : String) : (call : Stream.Call) → EStateM StreamError SparseFile call.Result
  | .read buffer => fun file =>
    let found := file.slice file.cursor buffer.length
    .ok (found.length, overwrite found buffer) { file with cursor := file.cursor + found.length }
  | .write data => fun file =>
    if file.cursor + data.length < Address.limit then .ok data.length (file.put data)
    else .error (.growFailed name Address.top .overflow) file
  | .seek target => fun file =>
    match file.locate? target with
    | some cursor => .ok cursor { file with cursor }
    | none => .error (.invalidSeek name .outOfRange) file
  | .readExactAt offset length => fun file =>
    if offset + length < Address.limit ∧ offset + length ≤ file.bytes.length then
      .ok (file.slice offset length) { file with cursor := offset + length }
    else .error (.rangeOutOfBounds offset length file.bytes.length) file

def afterCalls (name : String) (calls : List Stream.Call) (file : SparseFile) : SparseFile :=
  calls.foldl (fun file call => after (run name call) file) file

variable (file : SparseFile)

@[simp] theorem length_put (data : List UInt8) :
    (file.put data).bytes.length = max file.bytes.length (file.cursor + data.length) := by
  simp only [put, List.length_map, List.length_range]

theorem getElem?_put {data : List UInt8} {offset : Nat}
    (h : offset < max file.bytes.length (file.cursor + data.length)) :
    (file.put data).bytes[offset]? = some (file.byteAfter data offset) := by
  rw [put, List.getElem?_map, List.getElem?_range h, Option.map_some]

/-- Behind the end there are zeros. -/
theorem getD_put (data : List UInt8) (offset : Nat) :
    (file.put data).bytes.getD offset 0 = file.byteAfter data offset := by
  by_cases h : offset < max file.bytes.length (file.cursor + data.length)
  · rw [List.getD_eq_getElem?_getD, getElem?_put file h, Option.getD_some]
  · have hold : file.bytes.length ≤ offset := by omega
    have hnew : ¬(file.cursor ≤ offset ∧ offset < file.cursor + data.length) := by omega
    rw [byteAfter, if_neg hnew, List.getD_eq_default _ _ hold, List.getD_eq_default]
    rw [length_put]
    omega

/-- Files of one length hold the same bytes if they do at every offset. -/
theorem bytes_eq {first second : List UInt8} (hlength : first.length = second.length)
    (h : ∀ offset, first.getD offset 0 = second.getD offset 0) : first = second := by
  refine List.ext_getElem hlength fun offset hfirst hsecond => ?_
  have hoffset := h offset
  rwa [List.getD_eq_getElem _ _ hfirst, List.getD_eq_getElem _ _ hsecond] at hoffset

theorem byteAfter_append (first second : List UInt8) (offset : Nat) :
    (file.put first).byteAfter second offset = file.byteAfter (first ++ second) offset := by
  have hcursor : (file.put first).cursor = file.cursor + first.length := rfl
  rw [byteAfter, getD_put, hcursor]
  unfold byteAfter
  rw [List.length_append]
  by_cases hsecond : file.cursor + first.length ≤ offset ∧
      offset < file.cursor + first.length + second.length
  · rw [if_pos hsecond, if_pos (by omega), List.getD_append_right _ _ _ _ (by omega), Nat.sub_sub]
  rw [if_neg hsecond]
  by_cases hfirst : file.cursor ≤ offset ∧ offset < file.cursor + first.length
  · rw [if_pos hfirst, if_pos (by omega), List.getD_append _ _ _ _ (by omega)]
  · rw [if_neg hfirst, if_neg (by omega)]

/-- Bytes may be written in pieces. -/
theorem put_put (first second : List UInt8) :
    (file.put first).put second = file.put (first ++ second) := by
  have hcursor : ((file.put first).put second).cursor = (file.put (first ++ second)).cursor := by
    simp only [put, List.length_append, Nat.add_assoc]
  have hbytes : ((file.put first).put second).bytes = (file.put (first ++ second)).bytes := by
    refine bytes_eq ?_ fun offset => ?_
    · rw [length_put, length_put, length_put, List.length_append]
      change max _ (file.cursor + first.length + second.length) = _
      omega
    · rw [getD_put, getD_put, byteAfter_append]
  exact SparseFile.ext hbytes hcursor

/-- What was written is read back. -/
theorem slice_put (data : List UInt8) : (file.put data).slice file.cursor data.length = data := by
  have hlength : ((file.put data).slice file.cursor data.length).length = data.length := by
    rw [slice, List.length_take, List.length_drop, length_put]
    omega
  refine List.ext_getElem hlength fun i _ hi => ?_
  apply Option.some.inj
  rw [← List.getElem?_eq_getElem, slice, List.getElem?_take_of_lt hi, List.getElem?_drop,
    getElem?_put file (by omega), byteAfter, if_pos (by omega), Nat.add_sub_cancel_left,
    List.getD_eq_getElem _ _ hi]

end SparseFile

namespace Stream

/-- The stream as a file. -/
def sparse (s : Stream) : SparseFile :=
  ⟨s.contents.toList, s.position⟩

structure Growing (name : String) (s : Stream) : Prop where
  mode : s.mode = .write
  growth : s.growth? = some .zeros
  name : s.name = name

variable {name : String} {s : Stream}

theorem Growing.after_run (h : s.Growing name) (call : Call) : (after call.run s).Growing name := by
  have hopened := opened_after_run call s
  exact ⟨hopened.mode.trans h.mode, hopened.growth.trans h.growth, hopened.name.trans h.name⟩

theorem toList_place (s : Stream) (bytes : List UInt8) :
    (s.place bytes).contents.toList =
      s.contents.toList.take s.position ++
        (bytes ++ s.contents.toList.drop (s.position + bytes.length)) := by
  have hrest : (s.contents.toList.drop (s.position + bytes.length)).length =
      s.contents.size - (s.position + bytes.length) := by
    rw [List.length_drop, Array.length_toList]
  simp only [place, Array.toList_append, Array.toList_extract, List.extract_eq_take_drop,
    List.drop_zero, Nat.sub_zero, List.append_assoc, List.take_of_length_le (Nat.le_of_eq hrest)]

/-- Bytes that are laid over a buffer which reaches far enough. -/
theorem getD_place {s : Stream} {bytes : List UInt8} (h : s.position + bytes.length ≤ s.size)
    (offset : Nat) :
    (s.place bytes).contents.toList.getD offset 0 =
      if s.position ≤ offset ∧ offset < s.position + bytes.length then
        bytes.getD (offset - s.position) 0
      else s.contents.toList.getD offset 0 := by
  have hfront : (s.contents.toList.take s.position).length = s.position := by
    rw [List.length_take, Array.length_toList]
    unfold size at h
    omega
  rw [toList_place]
  rcases Nat.lt_or_ge offset s.position with hbefore | hbehind
  · rw [if_neg (by omega), List.getD_append _ _ _ _ (by omega), List.getD_eq_getElem?_getD,
      List.getElem?_take_of_lt hbefore, List.getD_eq_getElem?_getD]
  rw [List.getD_append_right _ _ _ _ (by omega), hfront]
  by_cases hnew : offset < s.position + bytes.length
  · rw [if_pos ⟨hbehind, hnew⟩, List.getD_append _ _ _ _ (by omega)]
  · have hold : s.position + bytes.length + (offset - s.position - bytes.length) = offset := by
      omega
    rw [if_neg (by omega), List.getD_append_right _ _ _ _ (by omega), List.getD_eq_getElem?_getD,
      List.getElem?_drop, hold, List.getD_eq_getElem?_getD]

/-- What a write leaves, if its buffer has been filled up with zeros as far as that was needed. -/
theorem sparse_place {bytes : List UInt8} {padded : Stream}
    (hcursor : padded.position = s.position)
    (hsize : padded.size = max s.size (s.position + bytes.length))
    (hzeros : ∀ offset, padded.contents.toList.getD offset 0 = s.contents.toList.getD offset 0) :
    (padded.place bytes).sparse = s.sparse.put bytes := by
  have hfits : padded.position + bytes.length ≤ padded.size := by
    rw [hsize, hcursor]
    exact Nat.le_max_right _ _
  have hbytes : (padded.place bytes).contents.toList = (s.sparse.put bytes).bytes := by
    refine SparseFile.bytes_eq ?_ fun offset => ?_
    · rw [SparseFile.length_put, Array.length_toList]
      exact (size_place hfits).trans hsize
    · rw [SparseFile.getD_put, getD_place hfits, hcursor, hzeros]
      rfl
  exact SparseFile.ext hbytes (congrArg (· + bytes.length) hcursor)

/-- A buffer that grows by zeros is filled up to just the length asked for. -/
theorem size_grown_zeros (s : Stream) {stop : Nat} (h : s.size ≤ stop) :
    (s.grown .zeros stop).size = stop := by
  have hkept : s.contents.extract 0 stop = s.contents := Array.extract_eq_self_of_le h
  simp only [size, grown, Growth.zeros, Growth.fill, id_eq, hkept, Array.size_append,
    Array.size_replicate] at h ⊢
  omega

theorem getD_grown_zeros (s : Stream) {stop : Nat} (h : s.size ≤ stop) (offset : Nat) :
    (s.grown .zeros stop).contents.toList.getD offset 0 = s.contents.toList.getD offset 0 := by
  have hkept : s.contents.extract 0 stop = s.contents := Array.extract_eq_self_of_le h
  have hcontents : (s.grown .zeros stop).contents.toList =
      s.contents.toList ++ List.replicate (stop - s.contents.size) 0 := by
    simp only [grown, Growth.zeros, Growth.fill, id_eq, hkept, Array.toList_append,
      Array.toList_replicate]
  rw [hcontents]
  rcases Nat.lt_or_ge offset s.contents.toList.length with hold | hnew
  · exact List.getD_append _ _ _ _ hold
  · rw [List.getD_append_right _ _ _ _ hnew, List.getD_eq_default _ _ hnew,
      List.getD_eq_getElem?_getD, List.getElem?_replicate]
    split <;> rfl

/-- A write succeeds wherever its end can be addressed, and does what it does to the file. -/
theorem sparse_write (h : s.Growing name) {bytes : List UInt8}
    (haddress : s.position + bytes.length < Address.limit) :
    answer (write bytes) s = .ok bytes.length ∧
      (after (write bytes) s).sparse = s.sparse.put bytes := by
  have htop : s.position + bytes.length ≤ Address.top := Nat.le_sub_one_of_lt haddress
  by_cases hfits : s.position + bytes.length ≤ s.size
  · have hwrite := write_fitting h.mode htop hfits
    rw [answer_of_ok hwrite, after_of_ok hwrite]
    exact ⟨rfl, sparse_place rfl (Nat.max_eq_left hfits).symm fun _ => rfl⟩
  · have hshort := Nat.lt_of_not_le hfits
    have hsize := size_grown_zeros s (Nat.le_of_lt hshort)
    have hwrite := (write_growing h.mode htop h.growth hshort).trans
      (if_pos ⟨rfl, Nat.le_of_eq hsize.symm⟩)
    rw [answer_of_ok hwrite, after_of_ok hwrite]
    refine ⟨rfl, sparse_place rfl ?_ (getD_grown_zeros s (Nat.le_of_lt hshort))⟩
    rw [hsize, Nat.max_eq_right (Nat.le_of_lt hshort)]

theorem sparse_slice (s : Stream) (offset length : Nat) :
    s.sparse.slice offset length = s.slice offset length := by
  rw [SparseFile.slice, slice, Array.toList_extract, List.extract_eq_take_drop,
    Nat.add_sub_cancel_left]
  rfl

/-- A target is found where the file has it: a stream that is written may be sent past its end. -/
theorem locate_eq (h : s.Growing name) (target : SeekTarget) :
    s.locate target =
      match s.sparse.locate? target with
      | some position => .ok position
      | none => .error .outOfRange := by
  cases target with
  | start offset => rfl
  | cursor distance => rfl
  | finish distance =>
    have hmode : ¬(0 < distance ∧ s.mode = .read) := by
      rw [h.mode]
      exact fun hread => nomatch hread.2
    exact if_neg hmode

/-- A call does to a stream what it does to the file. -/
def Follows (name : String) (call : Call) (s : Stream) : Prop :=
  answer call.run s = answer (SparseFile.run name call) s.sparse ∧
    (after call.run s).sparse = after (SparseFile.run name call) s.sparse

theorem follows_of_ok {call : Call} {result : call.Result} {left : Stream}
    (h : call.run s = .ok result left)
    (hfile : SparseFile.run name call s.sparse = .ok result left.sparse) : Follows name call s := by
  rw [Follows, answer_of_ok h, answer_of_ok hfile, after_of_ok h, after_of_ok hfile]
  exact ⟨rfl, rfl⟩

theorem follows_of_error {call : Call} {error : StreamError} {left : Stream}
    (h : call.run s = .error error left)
    (hfile : SparseFile.run name call s.sparse = .error error left.sparse) :
    Follows name call s := by
  rw [Follows, answer_of_error h, answer_of_error hfile, after_of_error h, after_of_error hfile]
  exact ⟨rfl, rfl⟩

theorem follows_read (buffer : List UInt8) (s : Stream) : Follows name (.read buffer) s := by
  refine follows_of_ok (readInto_eq buffer s) ?_
  rw [← sparse_slice]
  rfl

theorem follows_write (h : s.Growing name) (bytes : List UInt8) : Follows name (.write bytes) s := by
  by_cases haddress : s.position + bytes.length < Address.limit
  · have hfile : SparseFile.run name (.write bytes) s.sparse = _ := if_pos haddress
    rw [Follows, answer_of_ok hfile, after_of_ok hfile]
    exact sparse_write h haddress
  · have htop : Address.top < Address.limit := by decide
    have hwrite := write_overflowing h.mode (Nat.lt_of_lt_of_le htop (Nat.le_of_not_lt haddress))
    rw [h.name] at hwrite
    exact follows_of_error hwrite (if_neg haddress)

theorem follows_seek (h : s.Growing name) (target : SeekTarget) :
    Follows name (.seek target) s := by
  have hlocate := locate_eq h target
  cases hfound : s.sparse.locate? target with
  | some position =>
    rw [hfound] at hlocate
    have hseek : seek target s = .ok position { s with position } := by
      rw [seek, hlocate]
    refine follows_of_ok hseek ?_
    simp only [SparseFile.run, hfound]
    rfl
  | none =>
    rw [hfound] at hlocate
    have hseek : seek target s = .error (.invalidSeek name .outOfRange) s := by
      rw [seek, hlocate, h.name]
    refine follows_of_error hseek ?_
    simp only [SparseFile.run, hfound]

theorem follows_readExactAt (offset length : Nat) (s : Stream) :
    Follows name (.readExactAt offset length) s := by
  have hread := readExactAt_eq s offset length
  by_cases hinside : offset + length < Address.limit ∧ offset + length ≤ s.size
  · rw [← sparse_slice] at hread
    exact follows_of_ok (hread.trans (if_pos hinside)) (if_pos hinside)
  · exact follows_of_error (hread.trans (if_neg hinside)) (if_neg hinside)

/-- A stream that grows by zeros does what the file does, and is as the file is afterwards. -/
theorem simulates_run (name : String) (call : Call) :
    Simulates (fun s file => s.Growing name ∧ s.sparse = file) call.run (SparseFile.run name call) := by
  rintro s _ ⟨h, rfl⟩
  have hfollows : Follows name call s := by
    cases call with
    | read buffer => exact follows_read buffer s
    | write bytes => exact follows_write h bytes
    | seek target => exact follows_seek h target
    | readExactAt offset length => exact follows_readExactAt offset length s
  exact ⟨hfollows.1, h.after_run call, hfollows.2⟩

/-- After any calls the stream is still as the file is after them. -/
theorem simulates_afterCalls (calls : List Call) {file : SparseFile} (h : s.Growing name)
    (hfile : s.sparse = file) :
    (afterCalls calls s).Growing name ∧
      (afterCalls calls s).sparse = SparseFile.afterCalls name calls file := by
  induction calls generalizing s file with
  | nil => exact ⟨h, hfile⟩
  | cons call calls ih =>
    obtain ⟨_, hgrowing, hsparse⟩ := simulates_run name call s file ⟨h, hfile⟩
    exact ih hgrowing hsparse

/-- Writing bytes piece by piece leaves what writing them at once leaves. -/
theorem sparse_afterWrites (h : s.Growing name) (first : List UInt8) (rest : List (List UInt8))
    (haddress : s.position + (first ++ rest.flatten).length < Address.limit) :
    (afterCalls ((first :: rest).map .write) s).sparse = s.sparse.put (first ++ rest.flatten) := by
  induction rest generalizing s first with
  | nil =>
    rw [List.flatten_nil, List.append_nil] at haddress ⊢
    exact (sparse_write h haddress).2
  | cons second rest ih =>
    have hlength : (first ++ (second :: rest).flatten).length =
        first.length + (second ++ rest.flatten).length := List.length_append
    have hfirst : s.position + first.length < Address.limit := by omega
    have hwrite := (sparse_write h hfirst).2
    have hposition : (after (write first) s).position = s.position + first.length :=
      congrArg SparseFile.cursor hwrite
    have hrest := ih (h.after_run (.write first)) second (by
      change (after (write first) s).position + _ < _
      omega)
    change (afterCalls ((second :: rest).map .write) (after (write first) s)).sparse = _
    rw [List.flatten_cons, ← SparseFile.put_put, ← hwrite]
    exact hrest

theorem answer_reread (h : s.Growing name) {bytes buffer : List UInt8}
    (haddress : s.position + bytes.length < Address.limit) (hbuffer : buffer.length = bytes.length) :
    answer (readInto buffer) (afterCalls [.write bytes, .seek (.start s.position)] s) =
      .ok (bytes.length, bytes) := by
  have hslice : (after (write bytes) s).slice s.position buffer.length = bytes := by
    rw [← sparse_slice, (sparse_write h haddress).2, hbuffer]
    exact SparseFile.slice_put s.sparse bytes
  change answer (readInto buffer) { after (write bytes) s with position := s.position } = _
  rw [answer_of_ok (readInto_eq buffer _)]
  change Except.ok (((after (write bytes) s).slice s.position buffer.length).length,
    overwrite ((after (write bytes) s).slice s.position buffer.length) buffer) = _
  rw [hslice, overwrite_of_length_eq hbuffer.symm]

/-- **A stream that may be written and grows by zeros is a sparse file.** After any calls it answers
every call as the file does, and holds what the file holds. A write whose end can be addressed
succeeds: it puts its bytes at the cursor, fills a gap before them with zeros and changes no other
byte. It makes no difference in how many pieces bytes are written, and they are read back where they
were written. -/
theorem growing_stream_is_sparse (contents : Array UInt8) (name : String) (calls : List Call) :
    let start : Stream :=
      { ofBytes contents with mode := .write, growth? := some .zeros, name }
    let used := afterCalls calls start
    let file := SparseFile.afterCalls name calls ⟨contents.toList, 0⟩
    (used.sparse = file ∧
      ∀ call : Call, answer call.run used = answer (SparseFile.run name call) file) ∧
    (∀ bytes, used.position + bytes.length < Address.limit →
      answer (write bytes) used = .ok bytes.length ∧
        (after (write bytes) used).sparse = file.put bytes) ∧
    (∀ first rest, used.position + (first ++ rest.flatten).length < Address.limit →
      (afterCalls ((first :: rest).map .write) used).sparse =
        (after (write (first ++ rest.flatten)) used).sparse) ∧
    ∀ bytes buffer, used.position + bytes.length < Address.limit → buffer.length = bytes.length →
      answer (readInto buffer) (afterCalls [.write bytes, .seek (.start used.position)] used) =
        .ok (bytes.length, bytes) := by
  intro start used file
  have hstart : start.Growing name := ⟨rfl, rfl, rfl⟩
  obtain ⟨hused, hfile⟩ := simulates_afterCalls calls hstart rfl
  have hsame (call : Call) : answer call.run used = answer (SparseFile.run name call) file :=
    (simulates_run name call used file ⟨hused, hfile⟩).1
  refine ⟨⟨hfile, hsame⟩, fun bytes haddress => ?_, fun first rest haddress => ?_,
    fun bytes buffer haddress hbuffer => answer_reread hused haddress hbuffer⟩
  · have hwrite := sparse_write hused haddress
    exact ⟨hwrite.1, hwrite.2.trans (congrArg (·.put bytes) hfile)⟩
  · exact (sparse_afterWrites hused first rest haddress).trans (sparse_write hused haddress).2.symm

theorem growing_stream_fills_gap :
    let start : Stream :=
      { ofBytes #[1, 2, 3] with mode := .write, growth? := some .zeros, name := "scratch" }
    let used := afterCalls [.seek (.start 5)] start
    let filled : SparseFile := ⟨[1, 2, 3, 0, 0, 8, 9], 7⟩
    answer (write [8, 9]) used = .ok 2 ∧ (after (write [8, 9]) used).sparse = filled ∧
      (afterCalls [.write [8], .write [], .write [9]] used).sparse = filled ∧
      answer (readInto [4, 4]) (afterCalls [.write [8, 9], .seek (.start 5)] used) =
        .ok (2, [8, 9]) := by
  intro start used filled
  obtain ⟨_, hwrite, hpieces, hreread⟩ :=
    growing_stream_is_sparse #[1, 2, 3] "scratch" [.seek (.start 5)]
  have haddress : 5 + [8, 9].length < Address.limit := by decide
  obtain ⟨hanswer, hleft⟩ := hwrite [8, 9] haddress
  have hfilled : SparseFile.put ⟨[1, 2, 3], 5⟩ [8, 9] = filled := by decide
  exact ⟨hanswer, hleft.trans hfilled,
    (hpieces [8] [[], [9]] haddress).trans (hleft.trans hfilled),
    hreread [8, 9] [4, 4] haddress rfl⟩

end Stream

end TiffStrip
