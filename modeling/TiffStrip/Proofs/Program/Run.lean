import Mathlib.Data.List.Forall2
import TiffStrip.Program.Run
import TiffStrip.Proofs.Decode.Whole
import TiffStrip.Proofs.File.Described
import TiffStrip.Proofs.File.History
import TiffStrip.Proofs.Program.Folder
import TiffStrip.Proofs.Program.Report

namespace TiffStrip

variable {σ Place : Type}

/-- There is memory for the image asked for, and all of it is decoded. -/
def File.DecodesWithin (file : File) (memory : Nat) (index? : Option Nat) (info : ImageInfo)
    (raster : Array UInt8) : Prop :=
  (∃ required plan planned, planImage index? file = .ok (required, plan) planned ∧
    required ≤ memory ∧ plan.bufferLength ≤ memory) ∧
  ∃ outcome left, decodeImage index? file = .ok (outcome, raster) left ∧
    outcome.status = .complete ∧ outcome.info = info

/-- What is written of a raster. -/
def OutputFormat.Makes (format : OutputFormat) (info : ImageInfo) (raster : Array UInt8)
    (content : Content) : Prop :=
  match format with
  | .raw => content = .raw raster
  | .png => ∃ picture, Picture.ofRaster info raster = .ok picture ∧ content = .png picture

/-- What a decode of an input comes to: content, if the image asked for is decoded completely and has
the form that is asked for. -/
def DecodeSettings.Yields (settings : DecodeSettings) (memory : Nat)
    (system : FileSystem (StateM σ)) (s : σ) (info : ImageInfo) (content : Content) : Prop :=
  settings.check = .ok () ∧ ∃ file raster,
    system.Opens s settings.input settings.maxInputSize file ∧
    file.DecodesWithin memory settings.image? info raster ∧
    settings.format.Makes info raster content

/-- An input is a file, and the images of it that are asked for are each described in the file as it
was opened. -/
def InfoSettings.Describes (settings : InfoSettings) (system : FileSystem (StateM σ)) (s : σ)
    (file : File) (infos : List ImageInfo) : Prop :=
  settings.check = .ok () ∧ system.Opens s settings.input settings.maxInputSize file ∧
    List.Forall₂ (fun index info => answer (ImageInfo.read (some index)) file = .ok info)
      (match settings.image? with
        | some index => [index]
        | none => List.range file.directories.length) infos

theorem Stop.exitCode_result (stop : Stop) : stop.result.exitCode ≠ 0 := by
  cases stop with
  | failed log => exact Nat.one_ne_zero
  | crashed crash =>
    cases crash with
    | emptyPlanes => exact Nat.succ_ne_zero 100
    | outOfMemory length => exact Nat.succ_ne_zero 133

theorem mapError_eq_ok {ε ε' α : Type} {f : ε → ε'} {r : Except ε α} {a : α} :
    r.mapError f = .ok a ↔ r = .ok a := by
  cases r <;> simp [Except.mapError]

theorem openInput_eq_ok {path : String} {bytes : Array UInt8} {file : File} :
    openInput path bytes = .ok file ↔ File.ofBytes (Path.displayName path) bytes = .ok file := by
  unfold openInput
  cases File.ofBytes (Path.displayName path) bytes with
  | ok opened => simp only [Except.ok.injEq]
  | error error => simp only [reduceCtorEq]

/-- Reads of an opened file, one after the other, describe every image as it is described first. -/
theorem File.answer_mapM_readInfo {file opened : File} (h : file.reopened = opened.reopened)
    {indices : List Nat} {infos : List ImageInfo} :
    answer (indices.mapM fun index => EStateM.adaptExcept (Event.imageNotDescribed index)
        (ImageInfo.read (some index) : EStateM DecodeError File ImageInfo)) file = .ok infos ↔
      List.Forall₂ (fun index info => answer (ImageInfo.read (some index)) opened = .ok info)
        indices infos := by
  induction indices generalizing file infos with
  | nil =>
    rw [List.mapM_nil, answer_pure]
    constructor
    · rintro ⟨⟩
      exact .nil
    · rintro ⟨⟩
      rfl
  | cons index indices ih =>
    rw [List.mapM_cons, answer_bind, answer_adaptExcept, after_adaptExcept, answer_readInfo h,
      List.forall₂_cons_left_iff]
    cases hfirst : answer (ImageInfo.read (some index) : EStateM DecodeError File ImageInfo)
      opened with
    | error error =>
      constructor
      · intro hfailed
        cases hfailed
      · rintro ⟨info, rest, hread, _⟩
        cases hread
    | ok info =>
      have hread : answer (ImageInfo.read (some index)) file = .ok info :=
        (answer_readInfo h index).trans hfirst
      have hleft := bare_of_readInfo (answer_eq_ok.mp hread)
      have hsame := (reopened_eq hleft).trans ((reopened_turnedTo file _).trans h)
      change (answer (_ >>= fun rest => pure (info :: rest)) _ = .ok infos) ↔ _
      rw [answer_bind]
      constructor
      · intro hdone
        obtain ⟨rest, hrest, hcons⟩ := except_bind_eq_ok.mp hdone
        cases hcons
        exact ⟨info, rest, rfl, (ih hsame).mp hrest, rfl⟩
      · rintro ⟨_, rest, ⟨⟩, hrest, rfl⟩
        exact except_bind_eq_ok.mpr ⟨rest, (ih hsame).mpr hrest, rfl⟩

namespace InfoSettings

variable {settings : InfoSettings} {system : FileSystem (StateM σ)} {s : σ}

theorem describe_eq_ok {bytes : Array UInt8} {header : Header} {infos : List ImageInfo} :
    settings.describe bytes = .ok (header, infos) ↔
      ∃ file, File.ofBytes (Path.displayName settings.input) bytes = .ok file ∧
        file.header = header ∧
        List.Forall₂ (fun index info => answer (ImageInfo.read (some index)) file = .ok info)
          (settings.indices file) infos := by
  unfold describe
  rw [except_bind_eq_ok]
  refine exists_congr fun file => and_congr openInput_eq_ok ?_
  rw [← File.answer_mapM_readInfo rfl, answer]
  dsimp only
  cases (settings.indices file).mapM (fun index => EStateM.adaptExcept
    (Event.imageNotDescribed index) (ImageInfo.read (some index))) file with
  | ok found left =>
    constructor
    · rintro ⟨⟩
      exact ⟨rfl, rfl⟩
    · rintro ⟨rfl, ⟨⟩⟩
      rfl
  | error event left =>
    constructor
    · rintro ⟨⟩
    · rintro ⟨_, ⟨⟩⟩

/-- What a run does before it prints. -/
def prepare (settings : InfoSettings) (system : FileSystem (StateM σ)) (s : σ) :
    Except Stop (Header × List ImageInfo) := do
  settings.check.mapError fun fault => .failed [.badSettings fault]
  let contents ← system.input s settings.input settings.maxInputSize
  settings.describe contents

section

variable {png : Picture → Array UInt8} {view : FileView σ Place} (h : system.Whole png view)

include h

theorem prepare_eq_ok {header : Header} {infos : List ImageInfo} :
    settings.prepare system s = .ok (header, infos) ↔
      ∃ file, file.header = header ∧ settings.Describes system s file infos := by
  unfold prepare
  simp only [except_bind_eq_ok, mapError_eq_ok, h.input_eq_ok, describe_eq_ok, Describes,
    FileSystem.Opens, indices]
  constructor
  · rintro ⟨_, hcheck, bytes, ⟨hread, hsize⟩, file, hopen, hheader, hinfos⟩
    exact ⟨file, hheader, hcheck, ⟨bytes, hread, hsize, hopen⟩, hinfos⟩
  · rintro ⟨file, hheader, hcheck, ⟨bytes, hread, hsize, hopen⟩, hinfos⟩
    exact ⟨(), hcheck, bytes, ⟨hread, hsize⟩, file, hopen, hheader, hinfos⟩

/-- A run prints what has been prepared, or ends because it could not be. -/
theorem run_eq (platform : Platform) :
    (settings.run platform system).run s =
      match settings.prepare system s with
      | .error stop => (stop.result, s)
      | .ok (header, infos) =>
        ({ exitCode := 0, stdout := printInfos platform.json settings header infos }, s) := by
  unfold InfoSettings.run prepare
  cases settings.check with
  | error fault => rfl
  | ok _ =>
    rw [run_bind (h.run_readInput s _ _)]
    dsimp only [Except.mapError, bind, Except.bind]
    cases system.input s settings.input settings.maxInputSize with
    | error stop => rfl
    | ok contents =>
      dsimp only
      cases settings.describe contents with
      | error stop => rfl
      | ok described => rfl

/-- Either the images are described and printed, or there is no description of them all and nothing
is printed. All files stay as they are. -/
theorem run_spec (settings : InfoSettings) (platform : Platform) (s : σ) :
    let ran := (settings.run platform system).run s
    (∃ file infos, settings.Describes system s file infos ∧
      ran = ({ exitCode := 0, stdout := printInfos platform.json settings file.header infos }, s)) ∨
    (∀ file infos, ¬settings.Describes system s file infos) ∧
      ∃ stop : Stop, ran = (stop.result, s) := by
  intro ran
  have hrun : ran = _ := run_eq h platform
  cases hprepare : settings.prepare system s with
  | ok described =>
    obtain ⟨header, infos⟩ := described
    obtain ⟨file, rfl, hdescribes⟩ := (prepare_eq_ok h).mp hprepare
    rw [hprepare] at hrun
    exact .inl ⟨file, infos, hdescribes, hrun⟩
  | error stop =>
    rw [hprepare] at hrun
    refine .inr ⟨fun file infos hdescribes => ?_, stop, hrun⟩
    rw [(prepare_eq_ok h).mpr ⟨file, rfl, hdescribes⟩] at hprepare
    cases hprepare

end

end InfoSettings

namespace DecodeSettings

variable {settings : DecodeSettings} {memory : Nat} {system : FileSystem (StateM σ)} {s : σ}

theorem decode_eq_ok {bytes : Array UInt8} {info : ImageInfo} {raster : Array UInt8} :
    settings.decode memory bytes = .ok (info, raster) ↔
      ∃ file, File.ofBytes (Path.displayName settings.input) bytes = .ok file ∧
        file.DecodesWithin memory settings.image? info raster := by
  unfold decode
  rw [except_bind_eq_ok]
  refine exists_congr fun file => and_congr openInput_eq_ok ?_
  constructor
  · intro hrest
    cases hlacks : shortage? memory settings.image? file with
    | some shortage =>
      rw [hlacks] at hrest
      cases shortage <;> cases hrest
    | none =>
      rw [hlacks] at hrest
      dsimp only at hrest
      cases hdecode : decodeImage settings.image? file with
      | error error left =>
        rw [hdecode] at hrest
        cases hrest
      | ok decoded left =>
        obtain ⟨outcome, held⟩ := decoded
        simp only [hdecode] at hrest
        cases hstatus : outcome.status with
        | complete =>
          rw [hstatus] at hrest
          cases hrest
          have hplanned := hdecode
          rw [decodeImage_eq_planImage] at hplanned
          obtain ⟨⟨required, plan⟩, planned, hplan, _⟩ := bind_eq_ok hplanned
          exact ⟨⟨required, plan, planned, hplan, (shortage?_eq_none hplan).mp hlacks⟩, outcome, left,
            hdecode, hstatus, rfl⟩
        | aborted row sample cause =>
          rw [hstatus] at hrest
          cases hrest
  · rintro ⟨⟨required, plan, planned, hplan, hmemory⟩, outcome, left, hdecode, hcomplete, rfl⟩
    rw [(shortage?_eq_none hplan).mpr hmemory]
    simp only [hdecode, hcomplete]
    rfl

/-- A picture that there is has pixels, so that its planes can be interleaved. -/
theorem not_panics_of_ofRaster {info : ImageInfo} {raster : Array UInt8} {picture : Picture}
    (h : Picture.ofRaster info raster = .ok picture) : Picture.panics info = false := by
  obtain ⟨color, hcolor, h⟩ := except_bind_eq_ok.mp h
  obtain ⟨_, h⟩ := unless_eq_ok.mp h
  obtain ⟨hwidth, h⟩ := unless_eq_ok.mp h
  obtain ⟨hheight, _⟩ := unless_eq_ok.mp h
  have hpixels : info.width * info.height ≠ 0 := Nat.mul_ne_zero hwidth hheight
  simp [Picture.panics, hcolor, hpixels]

theorem content_eq_ok {info : ImageInfo} {raster : Array UInt8} {content : Content} :
    settings.content info raster = .ok content ↔ settings.format.Makes info raster content := by
  unfold DecodeSettings.content OutputFormat.Makes
  cases settings.format with
  | raw =>
    constructor
    · rintro ⟨⟩
      rfl
    · rintro rfl
      rfl
  | png =>
    dsimp only
    cases hraster : Picture.ofRaster info raster with
    | error error =>
      constructor
      · intro h
        split at h <;> cases h
      · rintro ⟨_, ⟨⟩, _⟩
    | ok picture =>
      rw [not_panics_of_ofRaster hraster]
      constructor
      · rintro ⟨⟩
        exact ⟨picture, rfl, rfl⟩
      · rintro ⟨_, ⟨⟩, rfl⟩
        rfl

/-- What a run does before it writes. -/
def prepare (settings : DecodeSettings) (memory : Nat) (system : FileSystem (StateM σ)) (s : σ) :
    Except Stop (ImageInfo × Content) := do
  settings.check.mapError fun fault => .failed [.badSettings fault]
  let contents ← system.input s settings.input settings.maxInputSize
  let (info, raster) ← settings.decode memory contents
  let content ← settings.content info raster
  return (info, content)

section

variable {png : Picture → Array UInt8} {view : FileView σ Place} (h : system.Whole png view)

include h

theorem prepare_eq_ok {info : ImageInfo} {content : Content} :
    settings.prepare memory system s = .ok (info, content) ↔
      settings.Yields memory system s info content := by
  unfold prepare
  simp only [except_bind_eq_ok, mapError_eq_ok, h.input_eq_ok, Prod.exists, decode_eq_ok,
    content_eq_ok, Yields, FileSystem.Opens]
  constructor
  · rintro ⟨_, hcheck, bytes, ⟨hread, hsize⟩, info, raster, ⟨file, hopen, hdecodes⟩, content,
      hcontent, ⟨⟩⟩
    exact ⟨hcheck, file, raster, ⟨bytes, hread, hsize, hopen⟩, hdecodes, hcontent⟩
  · rintro ⟨hcheck, file, raster, ⟨bytes, hread, hsize, hopen⟩, hdecodes, hcontent⟩
    exact ⟨(), hcheck, bytes, ⟨hread, hsize⟩, info, raster, ⟨file, hopen, hdecodes⟩, content,
      hcontent, rfl⟩

theorem yields_unique {info other : ImageInfo} {content held : Content}
    (hyields : settings.Yields memory system s info content)
    (hother : settings.Yields memory system s other held) : info = other ∧ content = held := by
  rw [← prepare_eq_ok h] at hyields hother
  exact Prod.mk.inj (Except.ok.inj (hyields.symm.trans hother))

/-- A run writes what has been prepared, or ends because it could not be. -/
theorem run_eq (platform : Platform) :
    (settings.run platform system).run s =
      match settings.prepare platform.memory system s with
      | .error stop => (stop.result, s)
      | .ok (info, content) =>
        let (written, after) := (system.write settings.output content).run s
        match written with
        | .error error => ((Stop.failed [.outputNotWritten settings.output error]).result, after)
        | .ok () =>
          ({ exitCode := 0
             log := [.outputWritten settings.output info.width info.height content] }, after) := by
  unfold DecodeSettings.run prepare
  cases settings.check with
  | error fault => rfl
  | ok _ =>
    rw [run_bind (h.run_readInput s _ _)]
    dsimp only [Except.mapError, bind, Except.bind]
    cases system.input s settings.input settings.maxInputSize with
    | error stop => rfl
    | ok contents =>
      dsimp only
      cases settings.decode platform.memory contents with
      | error stop => rfl
      | ok decoded =>
        obtain ⟨info, raster⟩ := decoded
        dsimp only
        cases settings.content info raster with
        | error stop => rfl
        | ok content =>
          dsimp only [pure, Except.pure]
          cases hwrite : (system.write settings.output content).run s with
          | mk written after =>
            cases written <;> exact run_bind hwrite

end

/-- Either there is content and it is written, or there is not both and no file is different. -/
theorem run_spec (settings : DecodeSettings) {platform : Platform} {view : FileView σ Place}
    (h : system.Whole platform.png view) (s : σ) :
    let ran := (settings.run platform system).run s
    (∃ info content place, settings.Yields platform.memory system s info content ∧
      ((system.write settings.output content).run s).1 = .ok () ∧
      view.place? s settings.output = some place ∧ ran.1.exitCode = 0 ∧ ran.1.stdout = "" ∧
      view.Replaced s ran.2 place (content.bytes platform.png)) ∨
    (∀ info content, settings.Yields platform.memory system s info content →
      ((system.write settings.output content).run s).1 ≠ .ok ()) ∧
      (∃ stop : Stop, ran.1 = stop.result) ∧ view.Unchanged s ran.2 := by
  intro ran
  have hrun : ran = _ := run_eq h platform
  cases hprepare : settings.prepare platform.memory system s with
  | error stop =>
    rw [hprepare] at hrun
    refine .inr ⟨fun info content hyields => ?_, ⟨stop, congrArg Prod.fst hrun⟩, ?_⟩
    · rw [(prepare_eq_ok h).mpr hyields] at hprepare
      cases hprepare
    · rw [show ran.2 = s from congrArg Prod.snd hrun]
      exact .refl view s
  | ok prepared =>
    obtain ⟨info, content⟩ := prepared
    rw [hprepare] at hrun
    have hyields := (prepare_eq_ok h).mp hprepare
    dsimp only at hrun
    cases hwrite : (system.write settings.output content).run s with
    | mk written after =>
      rw [hwrite] at hrun
      cases written with
      | ok _ =>
        obtain ⟨place, hplace, hreplaced⟩ :=
          h.write_all s settings.output content (congrArg Prod.fst hwrite)
        rw [hwrite] at hreplaced
        refine .inl ⟨info, content, place, hyields, congrArg Prod.fst hwrite, hplace, ?_⟩
        rw [show ran = _ from hrun]
        exact ⟨rfl, rfl, hreplaced⟩
      | error error =>
        have hunchanged :=
          h.write_none s settings.output content error (congrArg Prod.fst hwrite)
        rw [hwrite] at hunchanged
        have hstop : ran.1 = (Stop.failed [.outputNotWritten settings.output error]).result :=
          congrArg Prod.fst hrun
        refine .inr ⟨fun other held hother hok => ?_, ⟨_, hstop⟩, ?_⟩
        · obtain ⟨_, rfl⟩ := yields_unique h hyields hother
          cases (congrArg Prod.fst hwrite).symm.trans hok
        · rwa [show ran.2 = after from congrArg Prod.snd hrun]

end DecodeSettings

/-- A file of two rows in a directory that is worked in. -/
def twoRowsFolder : Folder where
  files := [(["work", "two.tif"], .raw StoredFile.twoRows.toArray)]
  home := ["work"]

end TiffStrip
