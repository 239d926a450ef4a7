import TiffStrip.Image.Picture

namespace TiffStrip

inductive PathError where
  | missing
  | notDirectory
  | isDirectory
  | nameTooLong
  /-- Anything else, in the words of the system. -/
  | other (message : String)
  deriving DecidableEq, Repr

def PathError.message : PathError → String
  | .missing => "No such file or directory (os error 2)"
  | .notDirectory => "Not a directory (os error 20)"
  | .isDirectory => "Is a directory (os error 21)"
  | .nameTooLong => "File name too long (os error 36)"
  | .other message => message

/-- What a file is to hold: bytes, or the PNG of a picture. -/
inductive Content where
  | raw (bytes : Array UInt8)
  | png (picture : Picture)
  deriving DecidableEq, Repr

/-- The bytes of a file, for one way to make PNGs. -/
def Content.bytes (png : Picture → Array UInt8) : Content → Array UInt8
  | .raw bytes => bytes
  | .png picture => png picture

structure FileSystem (m : Type → Type) where
  size (path : String) : m (Except PathError Nat)
  read (path : String) : m (Except PathError (Array UInt8))
  write (path : String) (content : Content) : m (Except PathError Unit)

end TiffStrip
