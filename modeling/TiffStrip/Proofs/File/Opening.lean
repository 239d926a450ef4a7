import TiffStrip.File
import TiffStrip.Proofs.Layout.Header
import TiffStrip.Proofs.Stream.Continued

namespace TiffStrip

theorem Header.parse_append {bytes : List UInt8} {size size' : Nat} {header : Header}
    (h : parse bytes size = .ok header) (rest : List UInt8) (hsize : size ≤ size') :
    parse (bytes ++ rest) size' = .ok header := by
  obtain ⟨⟨reserved, hbytes⟩, hinside⟩ := parse_iff_laidOut.mp h
  exact parse_iff_laidOut.mpr ⟨⟨reserved, hbytes.append rest⟩, Nat.lt_of_lt_of_le hinside hsize⟩

namespace File

variable {encoding : Encoding}

section

variable {R : Stream → Stream → Prop} {strict : Prop}
  (h : ∀ offset length,
    Agrees strict R (Stream.readExactAt offset length) (Stream.readExactAt offset length))

include h

theorem agrees_read (offset length : Nat) :
    Agrees strict R (Stream.readExactAt offset length : EStateM FormatError Stream _)
      (Stream.readExactAt offset length : EStateM FormatError Stream _) :=
  agrees_adaptExcept _ (h offset length)

theorem agrees_readDirectory (offset : Nat) :
    Agrees strict R (readDirectory encoding offset) (readDirectory encoding offset) := by
  apply agrees_bind (agrees_read h _ _)
  intro bytes
  cases Directory.size? encoding.format (encoding.readCount bytes) with
  | none => exact (simulates_throw _).agrees
  | some size =>
    exact agrees_bind (agrees_read h _ _) fun bytes => (simulates_ofExcept _).agrees

theorem agrees_readDirectories (remaining : Nat) (visited : List Nat) (offset : Nat) :
    Agrees strict R (readDirectories encoding remaining visited offset)
      (readDirectories encoding remaining visited offset) := by
  induction remaining generalizing visited offset with
  | zero => exact (simulates_pure []).agrees
  | succ remaining ih =>
    apply agrees_ite (simulates_pure []).agrees
    apply agrees_bind (agrees_readDirectory h _)
    intro directory
    exact agrees_bind (ih _ _) fun rest => (simulates_pure _).agrees

end

theorem steady_read (offset length : Nat) :
    Steady Stream.rewound (Stream.readExactAt offset length : EStateM FormatError Stream _) :=
  fun b => simulates_adaptExcept _ (Stream.steady_readExactAt offset length b)

theorem steady_readDirectory (offset : Nat) :
    Steady Stream.rewound (readDirectory encoding offset) :=
  fun b => agrees_true.mp (agrees_readDirectory
    (fun offset length => (Stream.steady_readExactAt offset length b).agrees) offset)

theorem steady_readDirectories (remaining : Nat) (visited : List Nat) (offset : Nat) :
    Steady Stream.rewound (readDirectories encoding remaining visited offset) :=
  fun b => agrees_true.mp (agrees_readDirectories
    (fun offset length => (Stream.steady_readExactAt offset length b).agrees) _ _ _)

/-- One directory, then the others. -/
theorem answer_readDirectories_succ (remaining : Nat) {visited : List Nat} {offset : Nat}
    (hnew : ¬(offset = 0 ∨ offset ∈ visited)) (s : Stream) :
    answer (readDirectories encoding (remaining + 1) visited offset) s = do
      let directory ← answer (readDirectory encoding offset) s
      let rest ← answer (readDirectories encoding remaining (offset :: visited) directory.next) s
      return directory :: rest := by
  rw [readDirectories, if_neg hnew]
  refine (steady_readDirectory offset).answer_bind (fun directory t ht => ?_) rfl
  exact (steady_readDirectories _ _ _).answer_bind (fun rest u hu => rfl) ht

def readHeader : EStateM FormatError Stream Header := do
  let size := (← get).size
  let bytes ← Stream.readExactAt 0 (min size Format.big.headerSize)
  MonadExcept.ofExcept (Header.parse bytes size)

theorem readStructure_eq :
    readStructure = readHeader >>= fun header => do
      let directories ← readDirectories header.encoding maxDirectories [] header.firstDirectory
      return (header, directories) := by
  unfold readStructure readHeader
  simp only [bind_assoc]

theorem steady_readHeader : Steady Stream.rewound readHeader := by
  intro b
  apply simulates_get
  intro s t hst
  have hsize : s.size = t.size :=
    show s.rewound.size = t.rewound.size by rw [hst.1, hst.2]
  rw [hsize]
  exact simulates_bind (steady_read _ _ b) fun bytes => simulates_ofExcept _

theorem steady_readStructure : Steady Stream.rewound readStructure := by
  intro b
  rw [readStructure_eq]
  apply simulates_bind (steady_readHeader b)
  intro header
  exact simulates_bind (steady_readDirectories _ _ _ b) fun directories => simulates_pure _

theorem answer_readStructure_eq (s : Stream) :
    answer readStructure s = do
      let header ← answer readHeader s
      let directories ←
        answer (readDirectories header.encoding maxDirectories [] header.firstDirectory) s
      return (header, directories) := by
  rw [readStructure_eq]
  refine steady_readHeader.answer_bind (fun header t ht => ?_) rfl
  exact (steady_readDirectories _ _ _).answer_bind (fun directories u hu => rfl) ht

theorem answer_readHeader (s : Stream) :
    answer readHeader s =
      Header.parse (s.slice 0 (min s.size Format.big.headerSize)) s.size := by
  have hfits : 0 + min s.size Format.big.headerSize < Address.limit ∧
      0 + min s.size Format.big.headerSize ≤ s.size := by
    have hsmall : Format.big.headerSize < Address.limit := by decide
    omega
  unfold readHeader
  rw [answer_get, answer_bind]
  change (answer (EStateM.adaptExcept FormatError.stream (Stream.readExactAt _ _)) s).bind _ = _
  rw [answer_adaptExcept, Stream.answer_readExactAt, if_pos hfits]
  exact answer_ofExcept _ _

variable {strict : Prop}

/-- The front of a stream that goes on is longer, and holds the same header. -/
theorem agrees_readHeader : Agrees strict (Stream.Continues strict) readHeader readHeader := by
  intro s t hst hcounts
  refine ⟨?_, hst.of_rewound (steady_readHeader.view_after s) (steady_readHeader.view_after t)⟩
  have hfront : s.slice 0 (min s.size Format.big.headerSize) =
      t.slice 0 (min s.size Format.big.headerSize) := hst.slice (by omega)
  rw [answer_readHeader] at hcounts
  rw [answer_readHeader, answer_readHeader]
  obtain hstrict | ⟨header, hheader⟩ := hcounts
  · rw [← hst.whole hstrict, hfront]
  · have hle := hst.size_le
    have htake : s.slice 0 (min s.size Format.big.headerSize) =
        (t.slice 0 (min t.size Format.big.headerSize)).take (min s.size Format.big.headerSize) := by
      rw [hfront]
      simp only [Stream.slice, Array.toList_extract, List.extract_eq_take_drop, List.drop_zero,
        List.take_take]
      congr 1
      omega
    have hsplit := List.take_append_drop (min s.size Format.big.headerSize)
      (t.slice 0 (min t.size Format.big.headerSize))
    rw [← htake] at hsplit
    rw [hheader, ← hsplit, Header.parse_append hheader _ hle]

theorem agrees_readStructure :
    Agrees strict (Stream.Continues strict) readStructure readStructure := by
  rw [readStructure_eq]
  apply agrees_bind agrees_readHeader
  intro header
  apply agrees_bind (agrees_readDirectories Stream.agrees_readExactAt _ _ _)
  intro directories
  exact (simulates_pure _).agrees

end File

end TiffStrip
