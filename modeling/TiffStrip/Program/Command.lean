import TiffStrip.Program.Report

/-!
# Commands

A run reads one input and either prints what its images are or writes one of them. Whatever goes
wrong is logged, and then nothing is printed and nothing is written.

How command lines are read, JSON is printed and PNGs are made is for others to say, and so is how much
memory there is: a run is on a platform.
-/

namespace TiffStrip

structure RunResult where
  exitCode : Nat
  stdout : String := ""
  stderr : String := ""
  log : List Event := []
  deriving DecidableEq, Repr

/-- An end that the program does not mean to come to. -/
inductive Crash where
  /-- A panic: planes without pixels are to be interleaved. -/
  | emptyPlanes
  /-- The buffer for scanlines cannot be had. -/
  | outOfMemory (length : Nat)
  deriving DecidableEq, Repr

namespace Crash

def exitCode : Crash → Nat
  | .emptyPlanes => 101
  | .outOfMemory _ => 134

def message : Crash → String
  | .emptyPlanes => "chunk size must be non-zero"
  | .outOfMemory length => s!"memory allocation of {length} bytes failed"

end Crash

inductive Stop where
  | failed (log : List Event)
  | crashed (crash : Crash)
  deriving DecidableEq, Repr

def Stop.result : Stop → RunResult
  | .failed log => { exitCode := 1, log }
  | .crashed crash => { exitCode := crash.exitCode, stderr := crash.message ++ "\n" }

/-- What the program is built on. -/
structure Platform where
  /-- Reads the words of a command line and the variables of the environment. What is not a command
  ends the run at once. -/
  parse : List String → List (String × String) → Except RunResult Command
  json : Text.Json → String
  png : Picture → Array UInt8
  /-- The length of the longest buffer that can be had. -/
  memory : Nat

def openInput (path : String) (contents : Array UInt8) : Except Stop File :=
  match File.ofBytes (Path.displayName path) contents with
  | .ok file => .ok file
  | .error error => .error (.failed [.inputNotOpened path error])

/-- The indices of the images to describe: the one asked for, or all. -/
def InfoSettings.indices (settings : InfoSettings) (file : File) : List Nat :=
  match settings.image? with
  | some index => [index]
  | none => List.range file.directories.length

/-- Describes the images of an input, one after the other. -/
def InfoSettings.describe (settings : InfoSettings) (contents : Array UInt8) :
    Except Stop (Header × List ImageInfo) := do
  let file ← openInput settings.input contents
  let read := fun index =>
    EStateM.adaptExcept (Event.imageNotDescribed index)
      (ImageInfo.read (some index) : EStateM DecodeError File ImageInfo)
  match (settings.indices file).mapM read file with
  | .ok infos _ => return (file.header, infos)
  | .error event _ => throw (.failed [event])

/-- Decodes the image asked for, all of it or not at all. -/
def DecodeSettings.decode (settings : DecodeSettings) (memory : Nat) (contents : Array UInt8) :
    Except Stop (ImageInfo × Array UInt8) := do
  let file ← openInput settings.input contents
  let refused := fun error => Stop.failed [.imageNotDecoded settings.input error]
  match shortage? memory settings.image? file with
  | some (.raster width height) => throw (refused (.unsupported (.tooLarge width height)))
  | some (.buffer length) => throw (.crashed (.outOfMemory length))
  | none =>
    match decodeImage settings.image? file with
    | .error error _ => throw (refused error)
    | .ok (outcome, raster) _ =>
      match outcome.status with
      | .complete => return (outcome.info, raster)
      | .aborted row sample cause => throw (.failed [.decodeStopped row sample cause])

/-- What is to be written of a raster. -/
def DecodeSettings.content (settings : DecodeSettings) (info : ImageInfo)
    (raster : Array UInt8) : Except Stop Content :=
  match settings.format with
  | .raw => .ok (.raw raster)
  | .png =>
    if Picture.panics info then .error (.crashed .emptyPlanes)
    else match Picture.ofRaster info raster with
      | .ok picture => .ok (.png picture)
      | .error error => .error (.failed [.noPicture error, .rawSuggested])

section

variable {m : Type → Type} [Monad m] (platform : Platform) (system : FileSystem m)

/-- Reads an input that is not above the size limit. -/
def readInput (path : String) (limit : Nat) : m (Except Stop (Array UInt8)) := do
  match ← system.size path with
  | .error error => return .error (.failed [.inputNotFound path error])
  | .ok size =>
    if limit < size then return .error (.failed [.inputTooLarge path size limit])
    else match ← system.read path with
      | .error error => return .error (.failed [.inputNotRead path error])
      | .ok contents => return .ok contents

def InfoSettings.run (settings : InfoSettings) : m RunResult := do
  match settings.check with
  | .error fault => return (Stop.failed [.badSettings fault]).result
  | .ok () =>
    match ← readInput system settings.input settings.maxInputSize with
    | .error stop => return stop.result
    | .ok contents =>
      match settings.describe contents with
      | .error stop => return stop.result
      | .ok (header, infos) =>
        return { exitCode := 0, stdout := printInfos platform.json settings header infos }

def DecodeSettings.run (settings : DecodeSettings) : m RunResult := do
  match settings.check with
  | .error fault => return (Stop.failed [.badSettings fault]).result
  | .ok () =>
    match ← readInput system settings.input settings.maxInputSize with
    | .error stop => return stop.result
    | .ok contents =>
      match settings.decode platform.memory contents with
      | .error stop => return stop.result
      | .ok (info, raster) =>
        match settings.content info raster with
        | .error stop => return stop.result
        | .ok content =>
          match ← system.write settings.output content with
          | .error error => return (Stop.failed [.outputNotWritten settings.output error]).result
          | .ok () =>
            let event := Event.outputWritten settings.output info.width info.height content
            return { exitCode := 0, log := [event] }

def Command.run : Command → m RunResult
  | .info settings => settings.run platform system
  | .decode settings => settings.run platform system

def Platform.run (words : List String) (environment : List (String × String)) : m RunResult := do
  match platform.parse words environment with
  | .error result => return result
  | .ok command => command.run platform system

end

end TiffStrip
