namespace TiffStrip

/-- At most `count` records of `width` bytes, in order; a short remainder is dropped. -/
def chunks (width count : Nat) (bytes : List UInt8) : List (List UInt8) :=
  go [] count bytes
where
  /-- Collects records in reverse until the count or the bytes run out. -/
  go (done : List (List UInt8)) : Nat → List UInt8 → List (List UInt8)
    | 0, _ => done.reverse
    | count + 1, bytes =>
      let record := bytes.take width
      if record.length < width then done.reverse
      else go (record :: done) count (bytes.drop width)

theorem chunks_go_eq (width : Nat) (done : List (List UInt8)) (count : Nat)
    (bytes : List UInt8) :
    chunks.go width done count bytes = done.reverse ++ chunks width count bytes := by
  unfold chunks
  induction count generalizing done bytes with
  | zero => simp [chunks.go]
  | succ count ih =>
    simp only [chunks.go]
    split
    · simp
    · rw [ih, ih [bytes.take width]]
      simp

@[simp] theorem chunks_zero (width : Nat) (bytes : List UInt8) : chunks width 0 bytes = [] := rfl

theorem chunks_append {width count : Nat} {record : List UInt8} (h : record.length = width)
    (rest : List UInt8) :
    chunks width (count + 1) (record ++ rest) = record :: chunks width count rest := by
  subst h
  have hgo := chunks_go_eq record.length [record] count rest
  simpa [chunks, chunks.go] using hgo

theorem chunks_flatMap {α : Type} {width : Nat} {write : α → List UInt8} {records : List α}
    (h : ∀ record ∈ records, (write record).length = width) (rest : List UInt8) :
    chunks width records.length (records.flatMap write ++ rest) = records.map write := by
  induction records with
  | nil => rfl
  | cons record records ih =>
    rw [List.flatMap_cons, List.append_assoc, List.length_cons,
      chunks_append (h record List.mem_cons_self),
      ih fun record hrecord => h record (List.mem_cons_of_mem _ hrecord), List.map_cons]

theorem length_flatMap_of_length {α β : Type} {width : Nat} {write : α → List β} {records : List α}
    (h : ∀ record ∈ records, (write record).length = width) :
    (records.flatMap write).length = records.length * width := by
  induction records with
  | nil => simp
  | cons record records ih =>
    rw [List.flatMap_cons, List.length_append, h record List.mem_cons_self,
      ih fun record hrecord => h record (List.mem_cons_of_mem _ hrecord), List.length_cons,
      Nat.succ_mul, Nat.add_comm]

/-- The buffer with its front replaced. -/
def overwrite (front buffer : List UInt8) : List UInt8 :=
  front ++ buffer.drop front.length

theorem length_overwrite {front buffer : List UInt8} (h : front.length ≤ buffer.length) :
    (overwrite front buffer).length = buffer.length := by
  simp [overwrite]
  omega

theorem overwrite_of_length_eq {front buffer : List UInt8} (h : front.length = buffer.length) :
    overwrite front buffer = front := by
  simp [overwrite, h]

theorem take_overwrite (front buffer : List UInt8) :
    (overwrite front buffer).take front.length = front := by
  simp [overwrite]

theorem drop_overwrite (front buffer : List UInt8) :
    (overwrite front buffer).drop front.length = buffer.drop front.length := by
  simp [overwrite]

end TiffStrip
