import TiffStrip.Proofs.File.Lines
import TiffStrip.Proofs.File.Opening

/-!
# Files that go on

Two files opened from streams of which the second goes on where the first ends. Everything that a
file is asked comes from ranges of its stream, and none of them is read in part. So whatever the
first file can answer, the second answers alike.
-/

namespace TiffStrip.File

/-- Genuine files with the same header, the same directories and the same selection, the second on a
stream that goes on where that of the first ends. -/
structure Continues (strict : Prop) (f g : File) : Prop where
  stream : f.stream.Continues strict g.stream
  header : f.header = g.header
  directories : f.directories = g.directories
  current : f.current = g.current
  left : f.Genuine
  right : g.Genuine

variable {strict : Prop} {f g f' g' : File}

namespace Continues

theorem directory (h : f.Continues strict g) : f.directory = g.directory := by
  have hdirectories := h.directories
  have hcurrent := h.current
  obtain ⟨stream, header, directories, current, current_lt, strips?⟩ := f
  obtain ⟨stream', header', directories', current', current_lt', strips?'⟩ := g
  obtain rfl : directories = directories' := hdirectories
  obtain rfl : current = current' := hcurrent
  rfl

/-- Neither the cursors nor the strip tables make a difference. -/
theorem of_reopened (h : f.Continues strict g) (hf : f'.reopened = f.reopened)
    (hg : g'.reopened = g.reopened) (hcurrent : f'.current = g'.current) (hleft : f'.Genuine)
    (hright : g'.Genuine) : f'.Continues strict g' where
  stream := h.stream.of_rewound (congrArg File.stream hf) (congrArg File.stream hg)
  header := (congrArg File.header hf).trans (h.header.trans (congrArg File.header hg).symm)
  directories := (directories_eq hf).trans (h.directories.trans (directories_eq hg).symm)
  current := hcurrent
  left := hleft
  right := hright

end Continues

/-- Actions that leave a genuine file as it was agree if their answers do. -/
theorem agrees_of_answers {ε α : Type} {act : EStateM ε File α}
    (hafter : ∀ f : File, f.Genuine → (after act f).bare = f.bare ∧ (after act f).Genuine)
    (hanswer : ∀ f g, f.Continues strict g → (strict ∨ ∃ a, answer act f = .ok a) →
      answer act f = answer act g) :
    Agrees strict (Continues strict) act act := by
  intro f g hfg hcounts
  obtain ⟨hleft, hgenuine⟩ := hafter f hfg.left
  obtain ⟨hright, hgenuine'⟩ := hafter g hfg.right
  refine ⟨hanswer f g hfg hcounts, hfg.of_reopened (reopened_eq hleft) (reopened_eq hright) ?_
    hgenuine hgenuine'⟩
  exact (current_eq hleft).trans (hfg.current.trans (current_eq hright).symm)

theorem Visible.agrees {ε α : Type} {act : EStateM ε File α} (h : Visible act)
    (hanswer : ∀ f g, f.Continues strict g → (strict ∨ ∃ a, answer act f = .ok a) →
      answer act f = answer act g) :
    Agrees strict (Continues strict) act act :=
  agrees_of_answers (fun f hf => ⟨h.bare_after f, genuine_after h hf⟩) hanswer

theorem agrees_onStream {α : Type} {act : EStateM FormatError Stream α}
    (hsteady : Steady Stream.rewound act) (hact : Agrees strict (Stream.Continues strict) act act) :
    Agrees strict (Continues strict) (onStream act) (onStream act) := by
  refine (visible_onStream hsteady).agrees fun f g hfg hcounts => ?_
  rw [answer_onStream] at hcounts
  rw [answer_onStream, answer_onStream]
  exact (hact _ _ hfg.stream hcounts).1

theorem agrees_field : FieldsAgree strict (Continues strict) := by
  intro tag
  change Agrees strict _ (field tag) (field tag)
  unfold field
  apply agrees_get
  intro f g hfg
  rw [hfg.directory, hfg.header]
  cases g.directory.find? tag with
  | none => exact (simulates_pure none).agrees
  | some entry =>
    have hvalue : Agrees strict (Stream.Continues strict) (entry.readValue g.header.encoding)
        (entry.readValue g.header.encoding) :=
      Entry.agrees_readValue Stream.agrees_readExactAt _ _
    exact agrees_bind (agrees_onStream (entry.steady_readValue _) hvalue) fun value =>
      (simulates_pure _).agrees

/-- A range is read from the first file just when it is inside, so it is inside the second as well.
It makes no difference which of the two shows its buffer. -/
theorem agrees_readRange (offset length : Nat) :
    Agrees strict (Continues strict) (readRange offset length) (readRange offset length) := by
  refine (visible_readRange offset length).agrees fun f g hfg hcounts => ?_
  have haddress (hinside : offset + length ≤ f.stream.size) :
      (f.stream.mapped ∨ offset + length < Address.limit) ↔
        (g.stream.mapped ∨ offset + length < Address.limit) := by
    obtain hmapped | hsize := hfg.stream.shown
    · rw [hmapped]
    · have hlimit := Nat.lt_of_le_of_lt hinside hsize
      exact ⟨fun _ => .inr hlimit, fun _ => .inr hlimit⟩
  rw [answer_readRange] at hcounts
  rw [answer_readRange, answer_readRange]
  refine guarded_eq hcounts (fun hrange => ?_) fun hstrict => ?_
  · have hbeyond := Nat.le_trans hrange.2 hfg.stream.size_le
    exact ⟨⟨(haddress hrange.2).mp hrange.1, hbeyond⟩, hfg.stream.slice hrange.2⟩
  · have hsize := hfg.stream.whole hstrict
    rw [← hsize]
    exact ⟨fun hrange => ⟨(haddress hrange.2).mpr hrange.1, hrange.2⟩, rfl⟩

theorem agrees_strips : Agrees strict (Continues strict) strips strips := by
  refine agrees_of_answers (fun f hf => (strips_spec hf).2) fun f g hfg hcounts => ?_
  rw [(strips_spec hfg.left).1] at hcounts
  rw [(strips_spec hfg.left).1, (strips_spec hfg.right).1]
  exact (agrees_loadStrips agrees_field (fun _ _ h => h.directory) f g hfg hcounts).1

theorem agrees_readScanline (row sample : Nat) (buffer : List UInt8) :
    Agrees strict (Continues strict) (readScanline row sample buffer)
      (readScanline row sample buffer) := by
  apply agrees_bind agrees_strips
  intro table
  refine agrees_bind (simulates_ofExcept _).agrees fun offset => agrees_unless _ ?_
  exact agrees_bind (agrees_readRange _ _) fun bytes => (simulates_pure _).agrees

theorem agrees_select (index : Nat) :
    Agrees strict (Continues strict) (select index) (select index) := by
  intro f g hfg _
  have hcount : f.directories.length = g.directories.length :=
    congrArg List.length hfg.directories
  refine ⟨?_, hfg.of_reopened (reopened_after_select index f) (reopened_after_select index g) ?_
    (genuine_after_select index hfg.left) (genuine_after_select index hfg.right)⟩
  · rw [answer_select, answer_select, hcount]
  · rw [current_after_select, current_after_select, hcount, hfg.current]

theorem describes_continues (strict : Prop) : Describes strict (Continues strict) where
  name _ _ h := h.stream.name
  imageCount _ _ h := congrArg List.length h.directories
  field := agrees_field
  scanlineSize := agrees_scanlineSize agrees_field

theorem serves_continues : Serves (Continues True) where
  name _ _ h := h.stream.name
  imageCount _ _ h := congrArg List.length h.directories
  dataSize _ _ h := congrArg some (h.stream.whole trivial)
  field tag := agrees_true.mp (agrees_field tag)
  scanlineSize := agrees_true.mp (agrees_scanlineSize agrees_field)
  current _ _ h := h.current
  select index := agrees_true.mp (agrees_select index)
  readScanline row sample buffer := agrees_true.mp (agrees_readScanline row sample buffer)

theorem ofStream_eq_ok {stream : Stream} {file : File} :
    ofStream stream = .ok file ↔
      answer readStructure stream = .ok (file.header, file.directories) ∧
        file.stream = after readStructure stream ∧ file.current = 0 ∧ file.strips? = none := by
  unfold ofStream answer after
  cases readStructure stream with
  | error error left => simp
  | ok found left =>
    obtain ⟨header, directories⟩ := found
    cases directories with
    | nil =>
      have hne := List.ne_nil_of_length_pos (Nat.zero_lt_of_lt file.current_lt)
      simpa using fun _ h => absurd h hne
    | cons first rest =>
      obtain ⟨stream', header', directories', current', current_lt', strips?'⟩ := file
      simp only [Except.ok.injEq, mk.injEq, Prod.mk.injEq]
      constructor
      · rintro ⟨rfl, rfl, rfl, rfl, rfl⟩
        exact ⟨⟨rfl, rfl⟩, rfl, rfl, rfl⟩
      · rintro ⟨⟨rfl, rfl⟩, rfl, rfl, rfl⟩
        exact ⟨rfl, rfl, rfl, rfl, rfl⟩

theorem ofStream_eq_error {stream : Stream} {error : FormatError} :
    ofStream stream = .error error ↔
      answer readStructure stream = .error error ∨
        (∃ header, answer readStructure stream = .ok (header, [])) ∧ .noDirectories = error := by
  unfold ofStream answer
  cases readStructure stream with
  | error error left => simp
  | ok found left =>
    obtain ⟨header, directories⟩ := found
    cases directories <;> simp

/-- A stream that goes on opens if the first does, with the same header and the same directories. -/
theorem opened_of_continues {s t : Stream} (hst : s.Continues strict t) {file : File}
    (hopen : ofStream s = .ok file) :
    ∃ other, ofStream t = .ok other ∧ file.Continues strict other := by
  obtain ⟨hread, hstream, hcurrent, hstrips⟩ := ofStream_eq_ok.mp hopen
  obtain ⟨hanswer, hafter⟩ := agrees_readStructure s t hst (.inr ⟨_, hread⟩)
  let other : File := { file with stream := after readStructure t }
  have hother : ofStream t = .ok other :=
    ofStream_eq_ok.mpr ⟨hanswer.symm.trans hread, rfl, hcurrent, hstrips⟩
  rw [← hstream] at hafter
  exact ⟨other, hother, hafter, rfl, rfl, rfl, genuine_of_ofStream hopen,
    genuine_of_ofStream hother⟩

/-- A stream that ends at the same byte is refused for the same reason. -/
theorem refused_of_continues {s t : Stream} (hst : s.Continues True t) {error : FormatError}
    (hrefused : ofStream s = .error error) : ofStream t = .error error := by
  rw [ofStream_eq_error, (agrees_readStructure s t hst (.inl trivial)).1] at hrefused
  exact ofStream_eq_error.mpr hrefused

end TiffStrip.File
