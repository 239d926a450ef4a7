import TiffStrip.File
import TiffStrip.Proofs.Source.Simulation
import TiffStrip.Proofs.Stream.Range

/-!
# What an open file hides

An open file carries two things that no answer may depend on: the cursor of its stream, and the
strip table that it keeps. The cursor has no influence because every value is read at an offset of
its own. The table has none as long as it is the one that would be built anew: `Genuine` says so.
-/

namespace TiffStrip.File

/-- What answers depend on: the file without its cursor and its strip table. -/
def bare (file : File) : File :=
  { file with stream := file.stream.rewound, strips? := none }

/-- An action that sees the bare file only, and changes nothing but the cursor. -/
def Visible {ε α : Type} (act : EStateM ε File α) : Prop :=
  ∀ b table? other?, Simulates
    (fun f g => (f.bare = b ∧ f.strips? = table?) ∧ g.bare = b ∧ g.strips? = other?) act act

namespace Visible

variable {ε α : Type} {act : EStateM ε File α}

theorem steady (h : Visible act) : Steady bare act := by
  rintro b f g ⟨hf, hg⟩
  obtain ⟨hanswer, hleft, hright⟩ := h b f.strips? g.strips? f g ⟨⟨hf, rfl⟩, hg, rfl⟩
  exact ⟨hanswer, hleft.1, hright.1⟩

theorem answer_eq (h : Visible act) {f g : File} (hfg : f.bare = g.bare) :
    answer act f = answer act g :=
  h.steady.answer_eq hfg

theorem bare_after (h : Visible act) (f : File) : (after act f).bare = f.bare :=
  h.steady.view_after f

theorem strips_after (h : Visible act) (f : File) : (after act f).strips? = f.strips? :=
  (h f.bare f.strips? f.strips? f f ⟨⟨rfl, rfl⟩, rfl, rfl⟩).2.1.2

end Visible

theorem answer_onStream {α : Type} (act : EStateM FormatError Stream α) (file : File) :
    answer (onStream act) file = answer act file.stream := by
  unfold answer onStream
  cases act file.stream <;> rfl

theorem visible_onStream {α : Type} {act : EStateM FormatError Stream α}
    (h : Steady Stream.rewound act) : Visible (onStream act) := by
  have hafter (file : File) :
      after (onStream act) file = { file with stream := after act file.stream } := by
    unfold after onStream
    cases act file.stream <;> rfl
  have hbare (file : File) : (after (onStream act) file).bare = file.bare := by
    rw [hafter]
    exact congrArg (fun stream => { file with stream, strips? := none })
      (h.view_after file.stream)
  rintro b _ _ f g ⟨⟨rfl, rfl⟩, hg, rfl⟩
  refine ⟨?_, ⟨hbare f, by rw [hafter]⟩, (hbare g).trans hg, by rw [hafter]⟩
  rw [answer_onStream, answer_onStream]
  exact h.answer_eq (congrArg stream hg).symm

theorem directory_eq {f g : File} (h : f.bare = g.bare) : f.directory = g.directory :=
  show f.bare.directory = g.bare.directory by rw [h]

theorem header_eq {f g : File} (h : f.bare = g.bare) : f.header = g.header :=
  show f.bare.header = g.bare.header by rw [h]

theorem answer_field_of_none {file : File} {tag : Tag} (h : file.directory.find? tag = none) :
    answer (field tag) file = .ok none := by
  rw [field, answer_get, h]
  rfl

/-- The value of the entry, for a tag that the directory has. -/
theorem answer_field_of_entry {file : File} {tag : Tag} {entry : Entry} {value : FieldValue}
    (h : file.directory.find? tag = some entry)
    (hvalue : answer (entry.readValue file.header.encoding) file.stream = .ok value) :
    answer (field tag) file = .ok (some value) := by
  rw [field, answer_get, h]
  dsimp only
  rw [answer_bind, answer_onStream, hvalue]
  rfl

theorem visible_field (tag : Tag) : Visible (field tag) := by
  intro b table? other?
  apply simulates_get
  rintro f g ⟨⟨hf, _⟩, hg, _⟩
  rw [directory_eq (hf.trans hg.symm), header_eq (hf.trans hg.symm)]
  cases g.directory.find? tag with
  | none => exact simulates_pure none
  | some entry =>
    exact simulates_bind (visible_onStream (entry.steady_readValue _) b table? other?) fun value =>
      simulates_pure _

theorem visible_fieldOrDefault (tag : Tag) : Visible (FieldSource.fieldOrDefault tag) :=
  fun b table? other? =>
    SameFields.fieldOrDefault (fun tag => visible_field tag b table? other?) tag

theorem visible_defaulted16 (tag : Tag) : Visible (FieldSource.defaulted16 tag) :=
  fun b table? other? => SameFields.defaulted16 (fun tag => visible_field tag b table? other?) tag

theorem visible_required32 (tag : Tag) : Visible (FieldSource.required32 tag) :=
  fun b table? other? => SameFields.required32 (fun tag => visible_field tag b table? other?) tag

theorem visible_fieldAs {α : Type} (tag : Tag) (read? : FieldValue → Option α) :
    Visible (FieldSource.fieldAs? tag read?) :=
  fun b table? other? =>
    SameFields.fieldAs (fun tag => visible_field tag b table? other?) tag read?

theorem visible_planar : Visible FieldSource.planar :=
  fun b table? other? => SameFields.planar fun tag => visible_field tag b table? other?

section

variable {R : File → File → Prop} {strict : Prop} (h : FieldsAgree strict R)

include h

theorem agrees_scanlineSize : Agrees strict R scanlineSize scanlineSize := by
  apply agrees_bind (h.required32 _)
  intro width
  apply agrees_bind (h.defaulted16 _)
  intro bits
  apply agrees_bind (h.defaulted16 _)
  intro samples
  exact agrees_bind h.planar fun planar => (simulates_pure _).agrees

theorem agrees_loadStrips (hdirectory : ∀ f g, R f g → f.directory = g.directory) :
    Agrees strict R loadStrips loadStrips := by
  unfold loadStrips
  apply agrees_bind (h.defaulted16 _)
  intro compression
  apply agrees_unless _
  apply agrees_get
  intro f g hfg
  rw [hdirectory f g hfg]
  apply agrees_unless _
  apply agrees_bind (h.required32 _)
  intro height
  apply agrees_bind (h.defaulted16 _)
  intro samples
  apply agrees_bind h.planar
  intro planar
  apply agrees_bind (agrees_scanlineSize h)
  intro size
  apply agrees_bind (h.fieldOrDefault _)
  intro rows
  apply agrees_bind (h.fieldAs _ _)
  intro offsets?
  cases offsets? with
  | none => exact fun _ _ hfg _ => ⟨rfl, hfg⟩
  | some offsets =>
    refine agrees_bind (simulates_pure _).agrees fun offsets => agrees_unless _ ?_
    exact agrees_bind (h _) fun counts => (simulates_pure _).agrees

end

theorem visible_scanlineSize : Visible scanlineSize :=
  fun b table? other? =>
    agrees_true.mp (agrees_scanlineSize fun tag => (visible_field tag b table? other?).agrees)

theorem visible_loadStrips : Visible loadStrips :=
  fun b table? other? =>
    agrees_true.mp (agrees_loadStrips (fun tag => (visible_field tag b table? other?).agrees)
      fun _ _ h => directory_eq (h.1.1.trans h.2.1.symm))

theorem visible_readRange (offset length : Nat) : Visible (readRange offset length) := by
  intro b table? other?
  apply simulates_get
  rintro f g ⟨⟨hf, _⟩, hg, _⟩
  have hmap : f.stream.map? = g.stream.map? :=
    show f.bare.stream.map? = g.bare.stream.map? by rw [hf, hg]
  dsimp only
  rw [hmap]
  cases g.stream.map? with
  | none =>
    have hread : Steady Stream.rewound
        (Stream.readExactAt offset length : EStateM FormatError Stream _) :=
      fun v => simulates_adaptExcept _ (Stream.steady_readExactAt offset length v)
    exact visible_onStream hread b table? other?
  | some contents => exact simulates_ite (simulates_pure _) (simulates_throw _)

/-- What a file says about its image is settled by what is left of it when it is bare. -/
theorem inspects_bare (b : File) : Inspects fun f g : File => f.bare = b ∧ g.bare = b where
  name f g h := show f.bare.stream.name = g.bare.stream.name by rw [h.1, h.2]
  imageCount f g h := show f.bare.directories.length = g.bare.directories.length by rw [h.1, h.2]
  dataSize f g h := show some f.bare.stream.size = some g.bare.stream.size by rw [h.1, h.2]
  field tag := (visible_field tag).steady b
  scanlineSize := visible_scanlineSize.steady b

/-- The strip table that the file keeps, if it keeps one, is the one it would build. -/
def Genuine (file : File) : Prop :=
  ∀ table, file.strips? = some table → answer loadStrips file = .ok table

theorem genuine_of_none {file : File} (h : file.strips? = none) : file.Genuine := by
  intro table htable
  rw [h] at htable
  cases htable

theorem genuine_after {ε α : Type} {act : EStateM ε File α} (h : Visible act) {file : File}
    (hfile : file.Genuine) : (after act file).Genuine := by
  intro table htable
  rw [h.strips_after] at htable
  rw [visible_loadStrips.answer_eq (h.bare_after file)]
  exact hfile table htable

/-- Asking a genuine file for its strip table is as good as building it, and leaves it genuine. -/
theorem strips_spec {file : File} (h : file.Genuine) :
    answer strips file = answer loadStrips file ∧ (after strips file).bare = file.bare ∧
      (after strips file).Genuine := by
  have hbare := visible_loadStrips.bare_after file
  have hgenuine := genuine_after visible_loadStrips h
  cases hkept : file.strips? with
  | some table =>
    have hstrips : strips file = .ok table file := by
      unfold strips
      rw [get_bind, hkept]
      rfl
    rw [h table hkept, answer, after, hstrips]
    exact ⟨rfl, rfl, h⟩
  | none =>
    have hbuild : strips file = (loadStrips >>= fun table => do
        modify fun file => { file with strips? := some table }
        return table) file := by
      unfold strips
      rw [get_bind, hkept]
    cases hload : loadStrips file with
    | error error loaded =>
      have hstrips : strips file = .error error loaded := by
        rw [hbuild]
        simp only [bind, EStateM.bind, hload]
      simp only [after, hload] at hbare hgenuine
      rw [answer, after, hstrips, answer, hload]
      exact ⟨rfl, hbare, hgenuine⟩
    | ok table loaded =>
      have hstrips : strips file = .ok table { loaded with strips? := some table } := by
        rw [hbuild]
        simp only [bind, EStateM.bind, hload]
        rfl
      simp only [after, hload] at hbare
      have hanswer : answer loadStrips file = .ok table := answer_of_ok hload
      rw [answer, after, hstrips]
      refine ⟨hanswer.symm, hbare, ?_⟩
      rintro _ ⟨rfl⟩
      refine (visible_loadStrips.answer_eq ?_).trans hanswer
      exact hbare

/-- The file as it is when it has just been opened. -/
def reopened (file : File) : File :=
  { file.bare with current := 0, current_lt := Nat.zero_lt_of_lt file.current_lt }

theorem reopened_eq {f g : File} (h : f.bare = g.bare) : f.reopened = g.reopened :=
  show f.bare.reopened = g.bare.reopened by rw [h]

theorem current_eq {f g : File} (h : f.bare = g.bare) : f.current = g.current :=
  show f.bare.current = g.bare.current by rw [h]

theorem directories_eq {f g : File} (h : f.reopened = g.reopened) :
    f.directories = g.directories :=
  show f.reopened.directories = g.reopened.directories by rw [h]

/-- The contents and the selection are all there is to a bare file. -/
theorem bare_eq {f g : File} (hopened : f.reopened = g.reopened)
    (hcurrent : f.current = g.current) : f.bare = g.bare := by
  obtain ⟨stream, header, directories, current, current_lt, strips?⟩ := f
  obtain ⟨stream', header', directories', current', current_lt', strips?'⟩ := g
  simp only [reopened, bare, mk.injEq] at hopened hcurrent ⊢
  exact ⟨hopened.1, hopened.2.1, hopened.2.2.1, hcurrent, trivial⟩

/-- Two genuine files with the same selection, opened from the same stream. -/
structure Twins (base f g : File) : Prop where
  left_opened : f.reopened = base
  right_opened : g.reopened = base
  current : f.current = g.current
  left : f.Genuine
  right : g.Genuine

theorem Twins.refl {file : File} (h : file.Genuine) : Twins file.reopened file file :=
  ⟨rfl, rfl, rfl, h, h⟩

variable {base : File}

theorem Twins.bare {f g : File} (h : Twins base f g) : f.bare = g.bare :=
  bare_eq (h.left_opened.trans h.right_opened.symm) h.current

/-- Twins agree on actions that answer by the bare file and keep it genuine. -/
theorem simulates_twins {ε α : Type} {act : EStateM ε File α}
    (hanswer : ∀ f g : File, f.bare = g.bare → f.Genuine → g.Genuine → answer act f = answer act g)
    (hafter : ∀ f : File, f.Genuine → (after act f).bare = f.bare ∧ (after act f).Genuine) :
    Simulates (Twins base) act act := by
  intro f g h
  have hopened {f : File} (hf : f.Genuine) : (after act f).reopened = f.reopened :=
    reopened_eq (hafter f hf).1
  have hcurrent {f : File} (hf : f.Genuine) : (after act f).current = f.current :=
    current_eq (hafter f hf).1
  exact ⟨hanswer f g h.bare h.left h.right, (hopened h.left).trans h.left_opened,
    (hopened h.right).trans h.right_opened,
    ((hcurrent h.left).trans h.current).trans (hcurrent h.right).symm,
    (hafter f h.left).2, (hafter g h.right).2⟩

theorem Visible.simulates_twins {ε α : Type} {act : EStateM ε File α} (h : Visible act) :
    Simulates (Twins base) act act :=
  File.simulates_twins (fun _ _ hfg _ _ => h.answer_eq hfg)
    fun f hf => ⟨h.bare_after f, genuine_after h hf⟩

theorem simulates_strips : Simulates (Twins base) strips strips := by
  refine simulates_twins (fun f g hfg hf hg => ?_) fun f hf => (strips_spec hf).2
  rw [(strips_spec hf).1, (strips_spec hg).1]
  exact visible_loadStrips.answer_eq hfg

theorem simulates_readScanline (row sample : Nat) (buffer : List UInt8) :
    Simulates (Twins base) (readScanline row sample buffer) (readScanline row sample buffer) := by
  apply simulates_bind simulates_strips
  intro table
  refine simulates_bind (simulates_ofExcept _) fun offset => simulates_unless _ ?_
  exact simulates_bind (visible_readRange _ _).simulates_twins fun bytes => simulates_pure _

theorem answer_select (index : Nat) (file : File) :
    answer (select index) file =
      if index < file.directories.length then .ok ()
      else .error (.directoryOutOfRange index file.directories.length) := by
  unfold answer select
  by_cases h : index < file.directories.length
  · by_cases hcurrent : index = file.current <;> simp [h, hcurrent, file.current_lt]
  · simp [h]

theorem reopened_after_select (index : Nat) (file : File) :
    (after (select index) file).reopened = file.reopened := by
  unfold after select
  by_cases h : index < file.directories.length
  · by_cases hcurrent : index = file.current
    · simp only [hcurrent, file.current_lt, dif_pos, if_true]
    · simp only [h, hcurrent, dif_pos, if_false]
      rfl
  · simp only [h, dif_neg, not_false_eq_true]

theorem current_after_select (index : Nat) (file : File) :
    (after (select index) file).current =
      if index < file.directories.length then index else file.current := by
  unfold after select
  by_cases h : index < file.directories.length
  · by_cases hcurrent : index = file.current <;> simp [h, hcurrent, file.current_lt]
  · simp [h]

/-- Selecting another image drops the strip table, and nothing else changes it. -/
theorem genuine_after_select (index : Nat) {file : File} (hfile : file.Genuine) :
    (after (select index) file).Genuine := by
  unfold after select
  by_cases h : index < file.directories.length
  · by_cases hcurrent : index = file.current
    · simp only [hcurrent, file.current_lt, dif_pos, if_true]
      exact hfile
    · simp only [h, hcurrent, dif_pos, if_false]
      exact genuine_of_none rfl
  · simp only [h, dif_neg, not_false_eq_true]
    exact hfile

theorem simulates_select (index : Nat) :
    Simulates (Twins base) (select index) (select index) := by
  intro f g h
  have hcount : f.directories.length = g.directories.length :=
    congrArg List.length (directories_eq (reopened_eq h.bare))
  refine ⟨?_, (reopened_after_select index f).trans h.left_opened,
    (reopened_after_select index g).trans h.right_opened, ?_, genuine_after_select index h.left,
    genuine_after_select index h.right⟩
  · rw [answer_select, answer_select, hcount]
  · rw [current_after_select, current_after_select, hcount, h.current]

theorem serves_twins (base : File) : Serves (Twins base) where
  name f g h := show f.bare.stream.name = g.bare.stream.name by rw [h.bare]
  imageCount f g h := congrArg List.length (directories_eq (reopened_eq h.bare))
  dataSize f g h := show some f.bare.stream.size = some g.bare.stream.size by rw [h.bare]
  field tag := (visible_field tag).simulates_twins
  scanlineSize := visible_scanlineSize.simulates_twins
  current f g h := h.current
  select := simulates_select
  readScanline := simulates_readScanline

end TiffStrip.File
