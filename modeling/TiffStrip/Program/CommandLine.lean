import TiffStrip.Bytes.Address
import TiffStrip.Program.Settings

/-!
# Command lines

The words of a command line and the variables of the environment as a command. The program leaves this
to a library; here is a parser of our own in its place, one that takes the same options and refuses the
same mistakes but has other words for them.

After the name of a command come options and one input, in any order. An option is a long name
after two dashes or a letter after one; letters may be run together. Its value is the rest of the
word, after an equals sign for a long name, or else the next word. Two dashes on their own end the
options. An option is given at most once; a variable stands in for one that is not given.

A value is read when the next option or input begins, so of several mistakes an unknown option is
often found before a bad value that precedes it.
-/

namespace TiffStrip.CommandLine

inductive Refusal where
  /-- Help is asked for. -/
  | help
  /-- The version is asked for. -/
  | version
  /-- There is nothing but options. -/
  | noCommand
  | unknownCommand
  | unknownArgument
  | missingArgument
  /-- An option is given twice. -/
  | repeated
  /-- A value is given to an option that has none. -/
  | needlessValue
  /-- A value is missing or not among those there are. -/
  | invalidValue
  /-- A value is not a number in range. -/
  | invalidNumber
  deriving DecidableEq, Repr

inductive Slot where
  | input
  | output
  | image
  | json
  | format
  | maxInputSize
  | verbose
  | help
  deriving DecidableEq, Repr

inductive Value where
  | path (path : String)
  | number (n : Nat)
  | flag (on : Bool)
  | format (format : OutputFormat)
  deriving DecidableEq, Repr

def digits? (digits : List Char) : Option Nat :=
  if digits.isEmpty ∨ !digits.all Char.isDigit then none
  else some (digits.foldl (fun n c => 10 * n + (c.toNat - '0'.toNat)) 0)

/-- A number of 64 bits, perhaps after a plus sign. -/
def number64? (word : String) : Option Nat := do
  let n ← match word.toList with
    | '+' :: digits => digits? digits
    | digits => digits? digits
  if n < Address.limit then some n else none

/-- A number of 32 bits, perhaps after a sign. Of negative numbers only zero is in range. -/
def number32? (word : String) : Option Nat := do
  let n ← match word.toList with
    | '-' :: digits => do if (← digits? digits) = 0 then some 0 else none
    | '+' :: digits => digits? digits
    | digits => digits? digits
  if n < 0x100000000 then some n else none

namespace Slot

def letter? : Slot → Option Char
  | .output => some 'o'
  | .image => some 'i'
  | .format => some 'f'
  | .verbose => some 'v'
  | .help => some 'h'
  | .input | .json | .maxInputSize => none

def longName? : Slot → Option String
  | .input => none
  | .output => some "output"
  | .image => some "image"
  | .json => some "json"
  | .format => some "format"
  | .maxInputSize => some "max-input-size"
  | .verbose => some "verbose"
  | .help => some "help"

/-- The variable that stands in for an option. -/
def envName? : Slot → Option String
  | .image => some "TIFF_RASTER_IMAGE"
  | .json => some "TIFF_RASTER_JSON"
  | .format => some "TIFF_RASTER_FORMAT"
  | .maxInputSize => some "TIFF_RASTER_MAX_INPUT_SIZE"
  | .input | .output | .verbose | .help => none

def hasValue : Slot → Bool
  | .json | .verbose | .help => false
  | .input | .output | .image | .format | .maxInputSize => true

def read (slot : Slot) (word : String) : Except Refusal Value :=
  match slot with
  | .input | .output => if word.isEmpty then .error .invalidValue else .ok (.path word)
  | .image => ofNumber (number32? word)
  | .maxInputSize => ofNumber (number64? word)
  | .json | .verbose | .help =>
    if word = "true" then .ok (.flag true)
    else if word = "false" then .ok (.flag false)
    else .error .invalidValue
  | .format =>
    if word = "png" then .ok (.format .png)
    else if word = "raw" then .ok (.format .raw)
    else .error .invalidValue
where
  /-- A number, if there is one. -/
  ofNumber : Option Nat → Except Refusal Value
    | some n => .ok (.number n)
    | none => .error .invalidNumber

end Slot

inductive CommandName where
  | info
  | decode
  deriving DecidableEq, Repr

namespace CommandName

def ofWord? : String → Option CommandName
  | "info" => some .info
  | "decode" => some .decode
  | _ => none

/-- The options of a command and its input, in the order in which their variables are read. -/
def slots : CommandName → List Slot
  | .info => [.input, .image, .json, .maxInputSize, .verbose, .help]
  | .decode => [.input, .output, .image, .format, .maxInputSize, .verbose, .help]

end CommandName

structure Reading where
  values : List (Slot × Value) := []
  /-- What has been given last, and its value if that has been given too. -/
  pending? : Option (Slot × Option String) := none
  hasInput : Bool := false
  /-- Whether the options have ended. -/
  ended : Bool := false

namespace Reading

/-- Gives a value to an option or input that has none yet. -/
def assign (r : Reading) (slot : Slot) (word : String) : Except Refusal Reading := do
  if (r.values.lookup slot).isSome then throw .repeated
  return { r with values := (slot, ← slot.read word) :: r.values }

/-- Reads the value of what has been given last. -/
def settle (r : Reading) : Except Refusal Reading :=
  match r.pending? with
  | none => .ok r
  | some (_, none) => .error .invalidValue
  | some (slot, some word) => { r with pending? := none }.assign slot word

def takeFlag (r : Reading) (slot : Slot) : Except Refusal Reading := do
  let r ← r.settle
  if slot = .help then throw .help
  r.assign slot "true"

/-- Takes an option that has a value, which may be in the same word. -/
def takeOption (r : Reading) (slot : Slot) (word? : Option String) : Except Refusal Reading := do
  let r ← r.settle
  match word? with
  | some word => r.assign slot word
  | none => return { r with pending? := some (slot, none) }

/-- Takes the long name of an option, and its value if that is in the same word. -/
def takeLong (slots : List Slot) (r : Reading) (word : List Char) : Except Refusal Reading :=
  let name := String.ofList (word.takeWhile (· ≠ '='))
  let value? := match word.dropWhile (· ≠ '=') with
    | [] => none
    | _ :: value => some (String.ofList value)
  match slots.find? (·.longName? = some name) with
  | none => .error .unknownArgument
  | some slot =>
    if slot.hasValue then r.takeOption slot value?
    else if value?.isSome then .error .needlessValue
    else r.takeFlag slot

/-- Takes letters of options run together. The letters after an option that has a value are the
value, perhaps after an equals sign. -/
def takeLetters (slots : List Slot) (r : Reading) : List Char → Except Refusal Reading
  | [] => .ok r
  | letter :: rest =>
    match slots.find? (·.letter? = some letter) with
    | none => .error .unknownArgument
    | some slot =>
      if slot.hasValue then
        match rest with
        | [] => r.takeOption slot none
        | '=' :: value => r.takeOption slot (some (String.ofList value))
        | value => r.takeOption slot (some (String.ofList value))
      else do takeLetters slots (← r.takeFlag slot) rest

def takeInput (r : Reading) (word : String) : Except Refusal Reading := do
  if r.hasInput then throw .unknownArgument
  let r ← r.settle
  return { r with pending? := some (.input, some word), hasInput := true }

/-- Takes a word that is not an option: the value that the last option is still without, or else
the input. -/
def takeWord (r : Reading) (word : String) : Except Refusal Reading :=
  match r.pending? with
  | some (slot, none) => .ok { r with pending? := some (slot, some word) }
  | _ => r.takeInput word

def take (slots : List Slot) (r : Reading) (word : String) : Except Refusal Reading :=
  if r.ended then r.takeInput word
  else match word.toList with
    | ['-', '-'] => .ok { r with ended := true }
    | '-' :: '-' :: name => r.takeLong slots name
    | ['-'] => r.takeWord word
    | '-' :: letters => r.takeLetters slots letters
    | _ => r.takeWord word

/-- Takes the variables that stand in for options that are not given. -/
def takeVariables (slots : List Slot) (environment : List (String × String)) (r : Reading) :
    Except Refusal Reading :=
  slots.foldlM (fun r slot =>
    match r.values.lookup slot, slot.envName?.bind (environment.lookup ·) with
    | none, some word => r.assign slot word
    | _, _ => return r) r

def ofWords (slots : List Slot) (words : List String) (environment : List (String × String)) :
    Except Refusal Reading := do
  let r ← words.foldlM (take slots) {}
  (← r.settle).takeVariables slots environment

def path (r : Reading) (slot : Slot) : Except Refusal String :=
  match r.values.lookup slot with
  | some (.path path) => .ok path
  | _ => .error .missingArgument

def number? (r : Reading) (slot : Slot) : Option Nat :=
  match r.values.lookup slot with
  | some (.number n) => some n
  | _ => none

def flag (r : Reading) (slot : Slot) : Bool :=
  r.values.lookup slot = some (.flag true)

def outputFormat (r : Reading) : OutputFormat :=
  match r.values.lookup .format with
  | some (.format format) => format
  | _ => .png

end Reading

/-- The command that a reading amounts to. -/
def CommandName.command (name : CommandName) (r : Reading) : Except Refusal Command := do
  let input ← r.path .input
  let image? := r.number? .image
  let maxInputSize := (r.number? .maxInputSize).getD defaultMaxInputSize
  let verbose := r.flag .verbose
  match name with
  | .info => return .info { input, image?, json := r.flag .json, maxInputSize, verbose }
  | .decode =>
    return .decode {
      input, output := ← r.path .output, image?, format := r.outputFormat, maxInputSize, verbose }

/-- What help is asked about: nothing, or one of the commands. -/
def helpOn : List String → Refusal
  | [] | ["help"] => .help
  | [word] => if (CommandName.ofWord? word).isSome then .help else .unknownCommand
  | _ => .unknownCommand

/-- Why a word that is not the name of a command cannot come first. -/
def refuse (word : String) : Refusal :=
  match word.toList with
  | '-' :: '-' :: name =>
    if name.takeWhile (· ≠ '=') = "help".toList then
      if name.contains '=' then .needlessValue else .help
    else if name.takeWhile (· ≠ '=') = "version".toList then
      if name.contains '=' then .needlessValue else .version
    else .unknownArgument
  | ['-'] => .unknownCommand
  | '-' :: 'h' :: _ => .help
  | '-' :: 'V' :: _ => .version
  | '-' :: _ => .unknownArgument
  | _ => .unknownCommand

/-- Why no word can come after the end of the options where a command should be. -/
def refuseEnded : List String → Refusal
  | [] => .noCommand
  | word :: _ =>
    if (CommandName.ofWord? word).isSome ∨ word = "help" then .unknownArgument
    else .unknownCommand

/-- Reads a command line. -/
def parse (words : List String) (environment : List (String × String)) :
    Except Refusal Command := do
  match words with
  | [] => throw .noCommand
  | "--" :: rest => throw (refuseEnded rest)
  | "help" :: rest => throw (helpOn rest)
  | word :: rest =>
    match CommandName.ofWord? word with
    | none => throw (refuse word)
    | some name => name.command (← Reading.ofWords name.slots rest environment)

end TiffStrip.CommandLine
