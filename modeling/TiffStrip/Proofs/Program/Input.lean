import TiffStrip.Proofs.Program.Run

/-!
# What becomes of the input

A decode is refused if its output path and its input path have the same components. What the paths
lead to is another question: a dot at the start is a component, and it leads nowhere.
-/

namespace TiffStrip

variable {σ Place : Type} {platform : Platform} {system : FileSystem (StateM σ)}
  {view : FileView σ Place} {settings : DecodeSettings} {s : σ}

/-- A decode that yields content has a file for its input. -/
theorem DecodeSettings.Yields.place? {memory : Nat} {info : ImageInfo} {content : Content}
    (h : settings.Yields memory system s info content) (hwhole : system.Whole platform.png view) :
    ∃ place, view.place? s settings.input = some place := by
  obtain ⟨_, _, _, ⟨bytes, hread, _⟩, _⟩ := h
  obtain ⟨place, hplace, _⟩ := hwhole.read_all s settings.input bytes hread
  exact ⟨place, hplace⟩

/-- The file that the input path leads to is kept by a decode, unless the output path leads to it as
well and what is written is not what it held. -/
theorem DecodeSettings.held?_after_run (hwhole : system.Whole platform.png view) {place : Place}
    (hplace : view.place? s settings.input = some place) :
    let ran := (settings.run platform system).run s
    view.held? ran.2 place = view.held? s place ↔
      (ran.1.exitCode = 0 → view.place? s settings.output = some place →
        ∃ info content, settings.Yields platform.memory system s info content ∧
          view.held? s place = some (content.bytes platform.png)) := by
  intro ran
  obtain ⟨info, content, written, hyields, _, hout, hexit, _, hreplaced⟩ |
    ⟨_, ⟨stop, hended⟩, hunchanged⟩ := settings.run_spec hwhole s
  · by_cases hsame : written = place
    · subst hsame
      rw [hreplaced.held?_eq]
      constructor
      · intro hkept _ _
        exact ⟨info, content, hyields, hkept.symm⟩
      · intro hkept
        obtain ⟨_, _, hother, hheld⟩ := hkept hexit hout
        obtain ⟨_, rfl⟩ := yields_unique hwhole hyields hother
        exact hheld.symm
    · refine iff_of_true (hreplaced.others place (Ne.symm hsame)) fun _ hclash => ?_
      exact absurd (Option.some.inj (hout.symm.trans hclash)) hsame
  · refine iff_of_true (congrFun hunchanged.held?_eq place) fun hzero => ?_
    rw [show ran.1 = stop.result from hended] at hzero
    exact absurd hzero stop.exitCode_result

/-- A decode that succeeds with two spellings of one path replaces its input. -/
theorem DecodeSettings.place?_of_respelled (hwhole : system.Whole platform.png view)
    (hdots : view.IgnoresDots) (hspelled : Path.Respelled settings.output settings.input)
    (hzero : ((settings.run platform system).run s).1.exitCode = 0) :
    view.place? s settings.output = view.place? s settings.input := by
  obtain ⟨info, content, written, hyields, _, hout, _⟩ | ⟨_, ⟨stop, hended⟩, _⟩ :=
    settings.run_spec hwhole s
  · obtain ⟨place, hplace⟩ := hyields.place? hwhole
    rw [hout, hplace, hdots s _ _ _ _ hspelled hout hplace]
  · rw [hended] at hzero
    exact absurd hzero stop.exitCode_result

/-- **When a run leaves its input as it was.** A run that is not a decode, or fails, changes no file.
A decode that succeeds replaces the file that its input path leads to just when the output path leads
to it as well, and then keeps what it held only if the content happens to be the same. Sound settings
do not rule that out, not even for two spellings of one path: a dot may be at the start of one. -/
theorem input_after_run (hwhole : system.Whole platform.png view) (hdots : view.IgnoresDots)
    (words : List String) (environment : List (String × String)) (s : σ) :
    let ended := ((platform.run system words environment).run s).1
    let after := ((platform.run system words environment).run s).2
    match platform.parse words environment with
    | .error _ | .ok (.info _) => after = s
    | .ok (.decode settings) =>
      (ended.exitCode ≠ 0 → view.Unchanged s after) ∧
      (∀ place, view.place? s settings.input = some place →
        (view.held? after place = view.held? s place ↔
          (ended.exitCode = 0 → view.place? s settings.output = some place →
            ∃ info content, settings.Yields platform.memory system s info content ∧
              view.held? s place = some (content.bytes platform.png)))) ∧
      (Path.Respelled settings.output settings.input →
        (settings.check = .ok () →
          (Path.StartsHere settings.output ↔ ¬Path.StartsHere settings.input)) ∧
        (ended.exitCode = 0 →
          view.place? s settings.output = view.place? s settings.input)) := by
  unfold Platform.run
  cases platform.parse words environment with
  | error result => rfl
  | ok command =>
    cases command with
    | info settings =>
      dsimp only [Command.run]
      obtain ⟨_, _, _, hran⟩ | ⟨_, _, hran⟩ :=
        InfoSettings.run_spec hwhole settings platform s
      · exact congrArg Prod.snd hran
      · exact congrArg Prod.snd hran
    | decode settings =>
      dsimp only [Command.run]
      refine ⟨fun hfailed => ?_, fun place hplace => DecodeSettings.held?_after_run hwhole hplace,
        fun hspelled => ⟨fun hcheck => ?_, DecodeSettings.place?_of_respelled hwhole hdots hspelled⟩⟩
      · obtain ⟨_, _, _, _, _, _, hexit, _⟩ | ⟨_, _, hunchanged⟩ :=
          settings.run_spec hwhole s
        · exact absurd hexit hfailed
        · exact hunchanged
      · obtain ⟨_, _, _, hdot⟩ := DecodeSettings.check_eq_ok.mp hcheck
        exact hdot hspelled

/-- A decode that keeps its input, and one to another spelling of the path of its input. -/
theorem input_after_run_twoRows :
    let system := Folder.system Png.encode
    let view := Folder.view Png.encode
    (((Platform.standard.run system ["decode", "two.tif", "-o", "two.raw", "-fraw"] []).run
        twoRowsFolder).1.exitCode = 0 ∧
      view.held? ((Platform.standard.run system ["decode", "two.tif", "-o", "two.raw", "-fraw"]
        []).run twoRowsFolder).2 ["work", "two.tif"] = view.held? twoRowsFolder ["work", "two.tif"]) ∧
    ((Platform.standard.run system ["decode", "two.tif", "-o", "./two.tif", "-fraw"] []).run
        twoRowsFolder).1.exitCode = 0 ∧
      view.place? twoRowsFolder "./two.tif" = view.place? twoRowsFolder "two.tif" := by
  intro system view
  have hwhole : system.Whole Platform.standard.png view := Folder.whole Png.encode
  have hdots : view.IgnoresDots := Folder.ignoresDots Png.encode
  constructor
  · obtain ⟨_, hkept, _⟩ := input_after_run hwhole hdots
      ["decode", "two.tif", "-o", "two.raw", "-fraw"] [] twoRowsFolder
    have hother : view.place? twoRowsFolder "two.raw" ≠ some ["work", "two.tif"] := by
      decide +kernel
    refine ⟨by decide +kernel, (hkept ["work", "two.tif"] (by decide +kernel)).mpr ?_⟩
    exact fun _ hclash => absurd hclash hother
  · obtain ⟨_, _, hspelled⟩ := input_after_run hwhole hdots
      ["decode", "two.tif", "-o", "./two.tif", "-fraw"] [] twoRowsFolder
    have hzero : ((Platform.standard.run system
        ["decode", "two.tif", "-o", "./two.tif", "-fraw"] []).run twoRowsFolder).1.exitCode = 0 := by
      decide +kernel
    exact ⟨hzero, (hspelled (by decide +kernel)).2 hzero⟩

/-- A dot at the start of the output path, and the input is gone. So it is with a path from the root,
and with one that leaves the directory and comes back. -/
theorem input_overwritten :
    let settings : DecodeSettings :=
      { input := "two.tif", output := "./two.tif", image? := none, format := .raw
        maxInputSize := defaultMaxInputSize, verbose := false }
    let system := Folder.system Png.encode
    twoRowsFolder.read Png.encode settings.input = .ok StoredFile.twoRows.toArray ∧
      StoredFile.twoRows.toArray ≠ #[1, 2, 3, 4] ∧
      ∀ output ∈ ["./two.tif", "/work/two.tif", "../work/two.tif"],
        let ran := (({ settings with output }.run Platform.standard system).run twoRowsFolder)
        { settings with output }.check = .ok () ∧ ran.1.exitCode = 0 ∧
          ran.2.read Png.encode settings.input = .ok #[1, 2, 3, 4] := by
  decide +kernel

end TiffStrip
