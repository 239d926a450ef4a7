import TiffStrip.Image.Decode
import TiffStrip.Proofs.Simulation

/-!
# Sources that simulate each other

Describing, planning and decoding ask a source for its fields, its scanlines and little else. So
two sources that answer these requests alike are described, planned and decoded alike.
-/

namespace TiffStrip

open FieldSource ScanlineSource

section

variable {σ τ : Type} {R : σ → τ → Prop} {strict : Prop}

theorem simulates_view {α : Type} (tag : Tag) (read? : FieldValue → Option α)
    (value : FieldValue) : Simulates R (view tag read? value) (view tag read? value) := by
  unfold view
  cases read? value with
  | some a => exact simulates_pure a
  | none => exact simulates_throw _

variable [FieldSource σ] [FieldSource τ]

def FieldsAgree (strict : Prop) (R : σ → τ → Prop) : Prop :=
  ∀ tag, Agrees strict R (field tag) (field tag)

namespace FieldsAgree

theorem fieldOrDefault (h : FieldsAgree strict R) (tag : Tag) :
    Agrees strict R (fieldOrDefault tag) (fieldOrDefault tag) := by
  apply agrees_bind (h tag)
  intro found
  cases found with
  | some value => exact (simulates_pure value).agrees
  | none =>
    cases tag.default? with
    | some value => exact (simulates_pure value).agrees
    | none => exact (simulates_throw _).agrees

theorem required32 (h : FieldsAgree strict R) (tag : Tag) :
    Agrees strict R (required32 tag) (required32 tag) := by
  apply agrees_bind (h tag)
  intro found
  cases found with
  | some value => exact (simulates_view tag _ value).agrees
  | none => exact (simulates_throw _).agrees

theorem fieldAs {α : Type} (h : FieldsAgree strict R) (tag : Tag) (read? : FieldValue → Option α) :
    Agrees strict R (fieldAs? tag read?) (fieldAs? tag read?) := by
  apply agrees_bind (h tag)
  intro found
  cases found with
  | some value =>
    exact (simulates_bind (simulates_view tag read? value) fun a => simulates_pure _).agrees
  | none => exact (simulates_pure none).agrees

theorem defaulted16 (h : FieldsAgree strict R) (tag : Tag) :
    Agrees strict R (defaulted16 tag) (defaulted16 tag) :=
  agrees_bind (h.fieldOrDefault tag) fun value => (simulates_view tag _ value).agrees

theorem planar (h : FieldsAgree strict R) : Agrees strict R planar planar := by
  apply agrees_bind (h.defaulted16 _)
  intro code
  cases Planar.ofCode? code with
  | some planar => exact (simulates_pure planar).agrees
  | none => exact (simulates_throw _).agrees

end FieldsAgree

/-- Related sources hold the same fields. -/
def SameFields (R : σ → τ → Prop) : Prop :=
  ∀ tag, Simulates R (field tag) (field tag)

namespace SameFields

theorem agree (h : SameFields R) : FieldsAgree strict R :=
  fun tag => (h tag).agrees

theorem fieldOrDefault (h : SameFields R) (tag : Tag) :
    Simulates R (fieldOrDefault tag) (fieldOrDefault tag) :=
  agrees_true.mp (h.agree.fieldOrDefault tag)

theorem required32 (h : SameFields R) (tag : Tag) :
    Simulates R (required32 tag) (required32 tag) :=
  agrees_true.mp (h.agree.required32 tag)

theorem fieldAs {α : Type} (h : SameFields R) (tag : Tag) (read? : FieldValue → Option α) :
    Simulates R (fieldAs? tag read?) (fieldAs? tag read?) :=
  agrees_true.mp (h.agree.fieldAs tag read?)

theorem defaulted16 (h : SameFields R) (tag : Tag) :
    Simulates R (defaulted16 tag) (defaulted16 tag) :=
  agrees_true.mp (h.agree.defaulted16 tag)

theorem planar (h : SameFields R) : Simulates R planar planar :=
  agrees_true.mp h.agree.planar

end SameFields

end

section

variable {σ τ : Type} [ScanlineSource σ] [ScanlineSource τ] {R : σ → τ → Prop} {strict : Prop}

structure Describes (strict : Prop) (R : σ → τ → Prop) : Prop where
  name : ∀ s t, R s t → name s = name t
  imageCount : ∀ s t, R s t → imageCount s = imageCount t
  field : FieldsAgree strict R
  scanlineSize : Agrees strict R scanlineSize scanlineSize

namespace Describes

theorem readPhotometric (h : Describes strict R) (samples : Nat) :
    Agrees strict R (ImageInfo.readPhotometric samples) (ImageInfo.readPhotometric samples) := by
  apply agrees_bind (agrees_adaptExcept _ (h.field.fieldAs _ _))
  intro code?
  cases code? with
  | some code => exact (simulates_pure _).agrees
  | none =>
    cases Photometric.ofSamples? samples with
    | some photometric => exact (simulates_pure photometric).agrees
    | none => exact (simulates_throw _).agrees

theorem readSelected (h : Describes strict R) (index? : Option Nat) :
    Agrees strict R (ImageInfo.readSelected index?) (ImageInfo.readSelected index?) := by
  have fieldAs := fun {α : Type} tag (read? : FieldValue → Option α) =>
    agrees_adaptExcept DecodeError.format (h.field.fieldAs tag read?)
  have defaulted := fun tag => agrees_adaptExcept DecodeError.format (h.field.defaulted16 tag)
  unfold ImageInfo.readSelected
  apply agrees_bind (fieldAs _ _)
  intro width
  apply agrees_bind (fieldAs _ _)
  intro height
  apply agrees_bind (fieldAs _ _)
  intro compression
  apply agrees_bind (fieldAs _ _)
  intro subfileType
  apply agrees_bind (defaulted _)
  intro bits
  apply agrees_bind (defaulted _)
  intro samples
  apply agrees_bind (agrees_adaptExcept _ h.field.planar)
  intro planar
  apply agrees_bind (h.readPhotometric samples)
  intro photometric
  apply agrees_bind (fieldAs _ _)
  intro description
  apply agrees_get
  intro s t hst
  rw [h.imageCount s t hst]
  exact (simulates_pure _).agrees

theorem colormap (h : Describes strict R) : Agrees strict R Colormap.read Colormap.read := by
  unfold Colormap.read
  apply agrees_bind (h.readSelected none)
  intro info
  apply agrees_ite (simulates_pure none).agrees
  apply agrees_unless _
  apply agrees_bind (agrees_adaptExcept _ (h.field _))
  intro found
  cases found with
  | none =>
    apply agrees_get
    intro s t hst
    rw [h.name s t hst]
    exact (simulates_throw _).agrees
  | some value =>
    dsimp only
    cases value.words?.filter fun words => words.length = 3 * (1 <<< info.bitsPerSample) with
    | none => exact (simulates_throw _).agrees
    | some words =>
      dsimp only
      cases Colormap.ofThirds? (1 <<< info.bitsPerSample) words with
      | some map => exact (simulates_pure _).agrees
      | none =>
        apply agrees_get
        intro s t hst
        rw [h.name s t hst]
        exact (simulates_throw _).agrees

theorem readColormap (h : Describes strict R) (info : ImageInfo) :
    Agrees strict R (Plan.readColormap info) (Plan.readColormap info) := by
  unfold Plan.readColormap
  apply agrees_ite (simulates_pure none).agrees
  apply agrees_bind h.colormap
  intro map?
  cases map? with
  | some map => exact (simulates_pure _).agrees
  | none =>
    apply agrees_get
    intro s t hst
    rw [h.name s t hst]
    exact (simulates_throw _).agrees

end Describes

structure Inspects (R : σ → τ → Prop) : Prop where
  name : ∀ s t, R s t → name s = name t
  imageCount : ∀ s t, R s t → imageCount s = imageCount t
  dataSize : ∀ s t, R s t → dataSize? s = dataSize? t
  field : SameFields R
  scanlineSize : Simulates R scanlineSize scanlineSize

structure Selects (R : σ → τ → Prop) : Prop extends Inspects R where
  current : ∀ s t, R s t → current s = current t
  select : ∀ index, Simulates R (select index) (select index)

structure Reads (R : σ → τ → Prop) : Prop extends Inspects R where
  readScanline : ∀ row sample buffer,
    Simulates R (readScanline row sample buffer) (readScanline row sample buffer)

structure Serves (R : σ → τ → Prop) : Prop extends Selects R, Reads R

namespace Inspects

theorem describes (h : Inspects R) : Describes strict R where
  name := h.name
  imageCount := h.imageCount
  field := h.field.agree
  scanlineSize := h.scanlineSize.agrees

theorem readPhotometric (h : Inspects R) (samples : Nat) :
    Simulates R (ImageInfo.readPhotometric samples) (ImageInfo.readPhotometric samples) :=
  agrees_true.mp (h.describes.readPhotometric samples)

theorem readSelected (h : Inspects R) (index? : Option Nat) :
    Simulates R (ImageInfo.readSelected index?) (ImageInfo.readSelected index?) :=
  agrees_true.mp (h.describes.readSelected index?)

theorem readInfo (h : Inspects R) :
    Simulates R (ImageInfo.read none) (ImageInfo.read none) :=
  h.readSelected none

theorem colormap (h : Inspects R) : Simulates R Colormap.read Colormap.read :=
  agrees_true.mp h.describes.colormap

theorem readColormap (h : Inspects R) (info : ImageInfo) :
    Simulates R (Plan.readColormap info) (Plan.readColormap info) :=
  agrees_true.mp (h.describes.readColormap info)

end Inspects

/-- The rest of a plan once the image has been described. -/
def Plan.ofInfo (room : Nat) (info : ImageInfo) : EStateM DecodeError σ Plan := do
  let colormap? ← readColormap info
  let form ← MonadExcept.ofExcept info.rowForm
  let required ← MonadExcept.ofExcept info.rasterLength
  if room < required then throw (.bufferTooSmall required room)
  return { info, form, colormap?, scanlineSize := ← request ScanlineSource.scanlineSize }

theorem Plan.read_eq (index? : Option Nat) (room : Nat) :
    (Plan.read index? room : EStateM DecodeError σ Plan) =
      ImageInfo.read index? >>= Plan.ofInfo room :=
  rfl

theorem Describes.planOfInfo (h : Describes strict R) (room : Nat) (info : ImageInfo) :
    Agrees strict R (Plan.ofInfo room info) (Plan.ofInfo room info) := by
  apply agrees_bind (h.readColormap info)
  intro colormap?
  apply agrees_bind (simulates_ofExcept _).agrees
  intro form
  apply agrees_bind (simulates_ofExcept _).agrees
  intro required
  apply agrees_unless _
  exact agrees_bind (agrees_adaptExcept _ h.scanlineSize) fun size => (simulates_pure _).agrees

theorem Describes.readInfo (h : Describes strict R)
    (hselect : ∀ index, Agrees strict R (select index) (select index)) (index? : Option Nat) :
    Agrees strict R (ImageInfo.read index?) (ImageInfo.read index?) := by
  cases index? with
  | none => exact h.readSelected none
  | some index =>
    exact agrees_bind (agrees_adaptExcept _ (hselect index)) fun _ => h.readSelected (some index)

theorem Describes.readPlan (h : Describes strict R)
    (hselect : ∀ index, Agrees strict R (select index) (select index)) (index? : Option Nat)
    (room : Nat) : Agrees strict R (Plan.read index? room) (Plan.read index? room) :=
  agrees_bind (h.readInfo hselect index?) fun info => h.planOfInfo room info

theorem Inspects.planOfInfo (h : Inspects R) (room : Nat) (info : ImageInfo) :
    Simulates R (Plan.ofInfo room info) (Plan.ofInfo room info) :=
  agrees_true.mp (h.describes.planOfInfo room info)

namespace Selects

theorem readInfo (h : Selects R) (index? : Option Nat) :
    Simulates R (ImageInfo.read index?) (ImageInfo.read index?) :=
  agrees_true.mp (h.describes.readInfo (fun index => (h.select index).agrees) index?)

theorem readPlan (h : Selects R) (index? : Option Nat) (room : Nat) :
    Simulates R (Plan.read index? room) (Plan.read index? room) :=
  agrees_true.mp (h.describes.readPlan (fun index => (h.select index).agrees) index? room)

end Selects

theorem Plan.readLines_succ (plan : Plan) (remaining : Nat) (buffer : List UInt8)
    (raster : Array UInt8) (s : σ) :
    plan.readLines (remaining + 1) buffer raster s =
      let line := plan.lines - (remaining + 1)
      let row := line % plan.info.height
      let sample := line / plan.info.height
      let read := readScanline row sample buffer
      match answer read s with
      | .error cause => (raster, .aborted row sample cause, after read s)
      | .ok buffer =>
        plan.readLines remaining buffer (raster ++ plan.expand (buffer.take plan.inputLength))
          (after read s) := by
  simp only [Plan.readLines, answer, after]
  cases readScanline ((plan.lines - (remaining + 1)) % plan.info.height)
    ((plan.lines - (remaining + 1)) / plan.info.height) buffer s <;> rfl

/-- What a decode leaves, given how the reading of its scanlines ended. -/
def Decoded.ofRead (plan : Plan) (raster : Array UInt8) :
    Array UInt8 × DecodeStatus × σ → Decoded σ
  | (bytes, status, source) =>
    { result := .ok {
        info := { plan.info with damaged := status ≠ .complete }
        status
        written := bytes.size }
      raster := bytes ++ raster.extract bytes.size raster.size
      source }

theorem decodeInto_eq (index? : Option Nat) (raster : Array UInt8) (s : σ) :
    decodeInto index? raster s =
      let planned := after (Plan.read index? raster.size) s
      match answer (Plan.read index? raster.size) s with
      | .error error => { result := .error error, raster, source := planned }
      | .ok plan => .ofRead plan raster (plan.readRaster planned) := by
  unfold decodeInto answer after
  cases Plan.read index? raster.size s <;> rfl

theorem Reads.readLines_alike (h : Reads R) (plan : Plan) (remaining : Nat) (buffer : List UInt8)
    (raster : Array UInt8) (s : σ) (t : τ) (hst : R s t) :
    let read := plan.readLines remaining buffer raster s
    let other := plan.readLines remaining buffer raster t
    read.1 = other.1 ∧ read.2.1 = other.2.1 ∧ R read.2.2 other.2.2 := by
  induction remaining generalizing buffer raster s t with
  | zero => exact ⟨rfl, rfl, hst⟩
  | succ remaining ih =>
    obtain ⟨hanswer, hafter⟩ := h.readScanline ((plan.lines - (remaining + 1)) % plan.info.height)
      ((plan.lines - (remaining + 1)) / plan.info.height) buffer s t hst
    simp only [Plan.readLines_succ, ← hanswer]
    split
    · exact ⟨rfl, rfl, hafter⟩
    · exact ih _ _ _ _ hafter

theorem Reads.readRaster_alike (h : Reads R) (plan : Plan) (s : σ) (t : τ) (hst : R s t) :
    let read := plan.readRaster s
    let other := plan.readRaster t
    read.1 = other.1 ∧ read.2.1 = other.2.1 ∧ R read.2.2 other.2.2 :=
  h.readLines_alike plan plan.lines _ #[] s t hst

theorem Reads.decodeInto_alike (h : Reads R) (index? : Option Nat) (raster : Array UInt8)
    (hplan : Simulates R (Plan.read index? raster.size) (Plan.read index? raster.size)) (s : σ)
    (t : τ) (hst : R s t) :
    let decoded := decodeInto index? raster s
    let other := decodeInto index? raster t
    decoded.result = other.result ∧ decoded.raster = other.raster ∧
      R decoded.source other.source := by
  obtain ⟨hanswer, hafter⟩ := hplan s t hst
  simp only [decodeInto_eq, ← hanswer]
  cases answer (Plan.read index? raster.size) s with
  | error error => exact ⟨rfl, rfl, hafter⟩
  | ok plan =>
    have hread := h.readRaster_alike plan _ _ hafter
    dsimp only at hread ⊢
    generalize plan.readRaster (after _ s) = read at hread ⊢
    generalize plan.readRaster (after _ t) = other at hread ⊢
    obtain ⟨bytes, status, source⟩ := read
    obtain ⟨bytes', status', source'⟩ := other
    obtain ⟨rfl, rfl, hsource⟩ := hread
    exact ⟨rfl, rfl, hsource⟩

/-- The rest of the decode of an image once it has been described. -/
def decodeDescribed (index? : Option Nat) (info : ImageInfo) :
    EStateM DecodeError σ (Outcome × Array UInt8) := do
  let required ← MonadExcept.ofExcept info.rasterLength
  MonadExcept.ofExcept (checkSize info required (dataSize? (← get)))
  fun source =>
    let decoded := decodeInto none (Array.replicate required 0) source
    match decoded.result with
    | .ok outcome =>
      .ok ({ outcome with info := { outcome.info with index? } }, decoded.raster) decoded.source
    | .error error => .error error decoded.source

theorem decodeImage_eq (index? : Option Nat) :
    (decodeImage index? : EStateM DecodeError σ _) =
      ImageInfo.read index? >>= decodeDescribed index? :=
  rfl

theorem Reads.decodeDescribed (h : Reads R) (index? : Option Nat) (info : ImageInfo) :
    Simulates R (decodeDescribed index? info) (decodeDescribed index? info) := by
  have hplan := fun room => simulates_bind h.readInfo fun info => h.planOfInfo room info
  apply simulates_bind (simulates_ofExcept _)
  intro required
  apply simulates_get
  intro s t hst
  rw [h.dataSize s t hst]
  apply simulates_bind (simulates_ofExcept _)
  intro _ s t hst
  obtain ⟨hresult, hraster, hsource⟩ :=
    h.decodeInto_alike none (Array.replicate required 0) (hplan _) s t hst
  simp only [answer, after, ← hresult, ← hraster]
  cases (decodeInto none (Array.replicate required 0) s).result with
  | ok outcome => exact ⟨rfl, hsource⟩
  | error error => exact ⟨rfl, hsource⟩

theorem Serves.decodeInto_alike (h : Serves R) (index? : Option Nat) (raster : Array UInt8)
    (s : σ) (t : τ) (hst : R s t) :
    let decoded := decodeInto index? raster s
    let other := decodeInto index? raster t
    decoded.result = other.result ∧ decoded.raster = other.raster ∧
      R decoded.source other.source :=
  h.toReads.decodeInto_alike index? raster (h.readPlan index? _) s t hst

theorem Serves.decodeImage (h : Serves R) (index? : Option Nat) :
    Simulates R (decodeImage index?) (decodeImage index?) :=
  simulates_bind (h.toSelects.readInfo index?) fun info => h.toReads.decodeDescribed index? info

/-- The source with the image selected that a request asks for. -/
def turnedTo (index? : Option Nat) (s : σ) : σ :=
  match index? with
  | some index => after (select index) s
  | none => s

section

variable {P : σ → Prop}

theorem Inspects.keeps_readInfo (h : Inspects fun s t : σ => s = t ∧ P s) (index? : Option Nat)
    {s : σ} (hs : P (turnedTo index? s)) : P (after (ImageInfo.read index?) s) := by
  have keeps := simulates_self_iff.mp (h.readSelected index?)
  cases index? with
  | none => exact keeps s hs
  | some index =>
    change P (after (EStateM.adaptExcept _ (select index) >>= fun _ => _) s)
    rw [after_bind, after_adaptExcept]
    split
    · exact keeps _ hs
    · exact hs

theorem Inspects.keeps_readPlan (h : Inspects fun s t : σ => s = t ∧ P s) (index? : Option Nat)
    (room : Nat) {s : σ} (hs : P (turnedTo index? s)) : P (after (Plan.read index? room) s) := by
  have hinfo := h.keeps_readInfo index? hs
  rw [Plan.read_eq, after_bind]
  split
  · exact simulates_self_iff.mp (h.planOfInfo room _) _ hinfo
  · exact hinfo

theorem Reads.keeps_decodeInto (h : Reads fun s t : σ => s = t ∧ P s) (index? : Option Nat)
    (raster : Array UInt8) {s : σ} (hs : P (turnedTo index? s)) :
    P (decodeInto index? raster s).source := by
  have hplan := h.keeps_readPlan index? raster.size hs
  rw [decodeInto_eq]
  cases answer (Plan.read index? raster.size) s with
  | error error => exact hplan
  | ok plan => exact (h.readRaster_alike plan _ _ ⟨rfl, hplan⟩).2.2.2

theorem Reads.keeps_decodeImage (h : Reads fun s t : σ => s = t ∧ P s) (index? : Option Nat)
    {s : σ} (hs : P (turnedTo index? s)) : P (after (decodeImage index?) s) := by
  have hinfo := h.keeps_readInfo index? hs
  rw [decodeImage_eq, after_bind]
  split
  · exact simulates_self_iff.mp (h.decodeDescribed index? _) _ hinfo
  · exact hinfo

end

end

end TiffStrip
