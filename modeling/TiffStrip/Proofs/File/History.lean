import TiffStrip.Proofs.File.Hidden
import TiffStrip.Proofs.Layout.Basic
import TiffStrip.Proofs.Source.Request

namespace TiffStrip.File

/-- A stream that opens gives a genuine file: there is no strip table yet. -/
theorem genuine_of_ofStream {stream : Stream} {file : File} (h : ofStream stream = .ok file) :
    file.Genuine := by
  unfold ofStream at h
  split at h
  · cases h
  · cases h
  · cases h
    exact genuine_of_none rfl

theorem genuine_afterAll {file : File} (h : file.Genuine) (history : List Request) :
    (afterAll history file).Genuine :=
  ((serves_twins _).afterAll history file file (.refl h)).left

theorem reopened_afterAll {file : File} (h : file.Genuine) (history : List Request) :
    (afterAll history file).reopened = file.reopened :=
  ((serves_twins _).afterAll history file file (.refl h)).left_opened

theorem directories_afterAll {file : File} (h : file.Genuine) (history : List Request) :
    (afterAll history file).directories = file.directories :=
  directories_eq (reopened_afterAll h history)

theorem keeps_bare {ε α : Type} {act : EStateM ε File α} (h : Visible act) (b : File) :
    Simulates (fun f g => f = g ∧ f.bare = b ∧ f.Genuine) act act :=
  simulates_self_iff.mpr fun f hf => ⟨(h.bare_after f).trans hf.1, genuine_after h hf.2⟩

/-- Nothing but selecting changes what a genuine file shows. -/
theorem reads_bare (b : File) : Reads fun f g : File => f = g ∧ f.bare = b ∧ f.Genuine where
  name f g h := by rw [h.1]
  imageCount f g h := by rw [h.1]
  dataSize f g h := by rw [h.1]
  field tag := keeps_bare (visible_field tag) b
  scanlineSize := keeps_bare visible_scanlineSize b
  readScanline row sample buffer := by
    have strips := simulates_self_iff.mpr fun (f : File) (hf : f.bare = b ∧ f.Genuine) =>
      ⟨(strips_spec hf.2).2.1.trans hf.1, (strips_spec hf.2).2.2⟩
    apply simulates_bind strips
    intro table
    refine simulates_bind (simulates_ofExcept _) fun offset => simulates_unless _ ?_
    exact simulates_bind (keeps_bare (visible_readRange _ _) b) fun bytes => simulates_pure _

theorem genuine_turnedTo {file : File} (h : file.Genuine) (index? : Option Nat) :
    (turnedTo index? file).Genuine := by
  cases index? with
  | none => exact h
  | some index => exact genuine_after_select index h

theorem reopened_turnedTo (file : File) (index? : Option Nat) :
    (turnedTo index? file).reopened = file.reopened := by
  cases index? with
  | none => rfl
  | some index => exact reopened_after_select index file

/-- A file whose image has been described is as it was when it was turned to the image. -/
theorem kept_after_readInfo {file : File} (h : file.Genuine) (index? : Option Nat) :
    (after (ImageInfo.read index?) file).bare = (turnedTo index? file).bare ∧
      (after (ImageInfo.read index?) file).Genuine :=
  (reads_bare _).keeps_readInfo index? ⟨rfl, genuine_turnedTo h index?⟩

/-- The image that is selected after a request: the one it asks for, if there is such an image. -/
theorem current_after_ask {file : File} (h : file.Genuine) (request : Request) :
    (ask request file).2.current =
      match request.index? with
      | some index => if index < file.directories.length then index else file.current
      | none => file.current := by
  have hbare := ((reads_bare _).keeps_ask request ⟨rfl, genuine_turnedTo h _⟩).1
  rw [current_eq hbare]
  cases request.index? with
  | none => rfl
  | some index => exact current_after_select index file

/-- Turning the opened file to the image selected now gives a twin of the file as it is now. -/
theorem twins_turned {file used : File} (hfile : file.Genuine) (hused : used.Genuine)
    (h : used.reopened = file.reopened) :
    Twins file.reopened used (after (select used.current) file) := by
  have hcount : used.directories.length = file.directories.length :=
    congrArg List.length (directories_eq h)
  refine ⟨h, reopened_after_select _ _, ?_, hused, genuine_after_select _ hfile⟩
  rw [current_after_select, if_pos (hcount ▸ used.current_lt)]

/-- **Files have no history.** After any history of requests, failed ones included, a file answers
every request as it would if it had just been opened and turned to its selected image. The selected
image exists, and only a selection that succeeds changes it: any other leaves the whole file as it
is. A strip table is kept only as long as it is the one that would be built. -/
theorem answers_without_history {stream : Stream} {file : File}
    (hopen : ofStream stream = .ok file) (history : List Request) :
    let used := afterAll history file
    (∀ request, (ask request used).1 = (ask request (after (select used.current) file)).1) ∧
    used.directories = file.directories ∧ used.current < file.directories.length ∧
    (∀ request, (ask request used).2.current =
      match request.index? with
      | some index => if index < file.directories.length then index else used.current
      | none => used.current) ∧
    (∀ index, file.directories.length ≤ index →
      select index used =
        .error (.directoryOutOfRange index file.directories.length) used) ∧
    ∀ table, used.strips? = some table → answer loadStrips used = .ok table := by
  intro used
  have hfile := genuine_of_ofStream hopen
  have hused : used.Genuine := genuine_afterAll hfile history
  have hdirectories : used.directories = file.directories := directories_afterAll hfile history
  have htwins := twins_turned hfile hused (reopened_afterAll hfile history)
  refine ⟨fun request => ((serves_twins _).ask request _ _ htwins).1, hdirectories,
    hdirectories ▸ used.current_lt, fun request => ?_, fun index hindex => ?_, hused⟩
  · rw [← hdirectories]
    exact current_after_ask hused request
  · rw [← hdirectories] at hindex ⊢
    exact dif_neg (Nat.not_lt.mpr hindex)

/-- A stream of two images, and a history of it: its second image is decoded, then a scanline has no
room in its buffer and an image that is asked for does not exist. -/
def sample : Stream × List Request :=
  (Stream.ofBytes (StoredFile.bytes ⟨.little, .classic⟩ StoredFile.grayAndColors).toArray,
    [.decodeImage (some 1), .readScanline 0 0 [], .select 7])

theorem answers_without_history_sample :
    ∃ file, ofStream sample.1 = .ok file ∧
      let used := afterAll sample.2 file
      used.current = 1 ∧ used.strips?.isSome = true ∧
      (∀ request, (ask request used).1 = (ask request (after (select 1) file)).1) ∧
      ∀ table, used.strips? = some table → answer loadStrips used = .ok table := by
  have hopens : ((ofStream sample.1).toOption.map fun file =>
      ((afterAll sample.2 file).current, (afterAll sample.2 file).strips?.isSome)) =
        some (1, true) := by
    decide +kernel
  obtain ⟨file, hfile, hused⟩ := Option.map_eq_some_iff.mp hopens
  obtain ⟨hcurrent, hstrips⟩ := Prod.mk.inj hused
  have hopen := except_toOption_eq_some.mp hfile
  obtain ⟨hanswers, _, _, _, _, htable⟩ := answers_without_history hopen sample.2
  rw [hcurrent] at hanswers
  exact ⟨file, hopen, hcurrent, hstrips, hanswers, htable⟩

end TiffStrip.File
