import TiffStrip.Bytes.Checksum
import TiffStrip.Bytes.Order
import TiffStrip.Image.Picture

/-!
# PNG files

A picture as a PNG file, in place of a library's encoder: the picture is the same, the bytes are not.
The image data is stored, not compressed: a zlib stream of stored blocks, of the rows with filter type
zero before each.
-/

namespace TiffStrip.Png

/-- A number of four bytes, most significant first. -/
def word (n : Nat) : Array UInt8 :=
  (ByteOrder.big.encode 4 n).toArray

def signature : Array UInt8 :=
  #[0x89, 0x50, 0x4E, 0x47, 0x0D, 0x0A, 0x1A, 0x0A]

/-- A chunk: the length of its data, its name, the data, and the checksum of name and data. -/
def chunk (name : Array UInt8) (data : Array UInt8) : Array UInt8 :=
  word data.size ++ name ++ data ++ word (crc32 (name ++ data)).toNat

def blockSize : Nat := 65535

/-- A stored block: whether it is the last, its length, the length with all bits flipped, and its
bytes. -/
def storedBlock (last : Bool) (data : Array UInt8) : Array UInt8 :=
  #[if last then 1 else 0] ++ (ByteOrder.little.encode 2 data.size).toArray
    ++ (ByteOrder.little.encode 2 (blockSize - data.size)).toArray ++ data

/-- Bytes as a zlib stream of stored blocks. -/
def store (data : Array UInt8) : Array UInt8 :=
  let blocks := max 1 ((data.size + blockSize - 1) / blockSize)
  let body := (List.range blocks).foldl
    (fun done i => done ++ storedBlock (i + 1 = blocks)
      (data.extract (i * blockSize) ((i + 1) * blockSize)))
    #[]
  #[0x78, 0x01] ++ body ++ word (adler32 data)

def colorCode : ColorType → UInt8
  | .gray => 0
  | .rgb => 2
  | .grayAlpha => 4
  | .rgba => 6

/-- Width, height, bits of a sample, color type, and the only methods of compression, filtering
and interlacing there are. -/
def headerData (picture : Picture) : Array UInt8 :=
  word picture.width ++ word picture.height ++ #[8, colorCode picture.color, 0, 0, 0]

/-- The rows of a picture, each after its filter type. -/
def scanlines (picture : Picture) : Array UInt8 :=
  let length := picture.width * picture.color.channels
  (List.range picture.height).foldl
    (fun done row => done.push 0 ++ picture.samples.extract (row * length) ((row + 1) * length))
    #[]

def encode (picture : Picture) : Array UInt8 :=
  signature ++ chunk "IHDR".toUTF8.data (headerData picture)
    ++ chunk "IDAT".toUTF8.data (store (scanlines picture)) ++ chunk "IEND".toUTF8.data #[]

end TiffStrip.Png
