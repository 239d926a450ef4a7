import TiffStrip.Proofs.Source.Simulation

namespace TiffStrip

open ScanlineSource

inductive Request where
  | select (index : Nat)
  | field (tag : Tag)
  | fieldOrDefault (tag : Tag)
  | scanlineSize
  | readScanline (row sample : Nat) (buffer : List UInt8)
  | describe (index? : Option Nat)
  | colormap
  | rasterLength (index? : Option Nat)
  | decodeInto (index? : Option Nat) (raster : Array UInt8)
  | decodeImage (index? : Option Nat)
  deriving DecidableEq, Repr

namespace Request

def Answer : Request → Type
  | select _ => Except FormatError Unit
  | field _ => Except FormatError (Option FieldValue)
  | fieldOrDefault _ => Except FormatError FieldValue
  | scanlineSize => Except FormatError Nat
  | readScanline .. => Except FormatError (List UInt8)
  | describe _ => Except DecodeError ImageInfo
  | colormap => Except DecodeError (Option Colormap)
  | rasterLength _ => Except DecodeError Nat
  | decodeInto .. => Except DecodeError Outcome × Array UInt8
  | decodeImage _ => Except DecodeError (Outcome × Array UInt8)

def index? : Request → Option Nat
  | select index => some index
  | describe index? | rasterLength index? | decodeInto index? _ | decodeImage index? => index?
  | _ => none

end Request

section

variable {σ τ : Type} [ScanlineSource σ] [ScanlineSource τ]

def readRasterLength (index? : Option Nat) : EStateM DecodeError σ Nat := do
  MonadExcept.ofExcept (← ImageInfo.read index?).rasterLength

/-- Asks a source: its answer, and the source afterwards. -/
def ask : (request : Request) → σ → request.Answer × σ
  | .select index, s => (answer (select index) s, after (select index) s)
  | .field tag, s => (answer (FieldSource.field tag) s, after (FieldSource.field tag) s)
  | .fieldOrDefault tag, s =>
    (answer (FieldSource.fieldOrDefault tag) s, after (FieldSource.fieldOrDefault tag) s)
  | .scanlineSize, s => (answer scanlineSize s, after scanlineSize s)
  | .readScanline row sample buffer, s =>
    (answer (readScanline row sample buffer) s, after (readScanline row sample buffer) s)
  | .describe index?, s => (answer (ImageInfo.read index?) s, after (ImageInfo.read index?) s)
  | .colormap, s => (answer Colormap.read s, after Colormap.read s)
  | .rasterLength index?, s =>
    (answer (readRasterLength index?) s, after (readRasterLength index?) s)
  | .decodeInto index? raster, s =>
    let decoded := decodeInto index? raster s
    ((decoded.result, decoded.raster), decoded.source)
  | .decodeImage index?, s => (answer (decodeImage index?) s, after (decodeImage index?) s)

/-- What is left of a source after a history of requests. -/
def afterAll (history : List Request) (source : σ) : σ :=
  history.foldl (fun s request => (ask request s).2) source

variable {R : σ → τ → Prop}

theorem Serves.ask (h : Serves R) (request : Request) (s : σ) (t : τ) (hst : R s t) :
    (ask request s).1 = (ask request t).1 ∧ R (ask request s).2 (ask request t).2 := by
  cases request with
  | select index => exact h.select index s t hst
  | field tag => exact h.field tag s t hst
  | fieldOrDefault tag => exact h.field.fieldOrDefault tag s t hst
  | scanlineSize => exact h.scanlineSize s t hst
  | readScanline row sample buffer => exact h.readScanline row sample buffer s t hst
  | describe index? => exact h.readInfo index? s t hst
  | colormap => exact h.colormap s t hst
  | rasterLength index? =>
    exact simulates_bind (h.readInfo index?) (fun _ => simulates_ofExcept _) s t hst
  | decodeInto index? raster =>
    obtain ⟨hresult, hraster, hsource⟩ := h.decodeInto_alike index? raster s t hst
    exact ⟨Prod.ext hresult hraster, hsource⟩
  | decodeImage index? => exact h.decodeImage index? s t hst

theorem Serves.afterAll (h : Serves R) (history : List Request) (s : σ) (t : τ) (hst : R s t) :
    R (afterAll history s) (afterAll history t) := by
  induction history generalizing s t with
  | nil => exact hst
  | cons request history ih => exact ih _ _ (h.ask request s t hst).2

/-- What the selected image keeps, a request keeps, once its image has been selected. -/
theorem Reads.keeps_ask {P : σ → Prop} (h : Reads fun s t : σ => s = t ∧ P s) (request : Request)
    {s : σ} (hs : P (turnedTo request.index? s)) : P (TiffStrip.ask request s).2 := by
  cases request with
  | select index => exact hs
  | field tag => exact simulates_self_iff.mp (h.field tag) s hs
  | fieldOrDefault tag => exact simulates_self_iff.mp (h.field.fieldOrDefault tag) s hs
  | scanlineSize => exact simulates_self_iff.mp h.scanlineSize s hs
  | readScanline row sample buffer =>
    exact simulates_self_iff.mp (h.readScanline row sample buffer) s hs
  | describe index? => exact h.keeps_readInfo index? hs
  | colormap => exact simulates_self_iff.mp h.colormap s hs
  | rasterLength index? =>
    have hinfo := h.keeps_readInfo index? hs
    change P (after (ImageInfo.read index? >>= _) s)
    rw [after_bind]
    split
    · rwa [after_ofExcept]
    · exact hinfo
  | decodeInto index? raster => exact h.keeps_decodeInto index? raster hs
  | decodeImage index? => exact h.keeps_decodeImage index? hs

end

end TiffStrip
