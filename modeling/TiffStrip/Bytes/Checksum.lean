namespace TiffStrip

/-- The largest prime of 16 bits. -/
def adlerModulus : Nat := 65521

/-- The sum of the bytes, counted from one, and the sum of all the sums on the way. -/
def adlerSums (bytes : Array UInt8) : Nat × Nat :=
  bytes.foldl
    (fun (low, high) b =>
      let low := (low + b.toNat) % adlerModulus
      (low, (high + low) % adlerModulus))
    (1, 0)

def adler32 (bytes : Array UInt8) : Nat :=
  let (low, high) := adlerSums bytes
  high * 0x10000 + low

/-- One step of the division, lowest bit first. -/
def crcBit (r : UInt32) : UInt32 :=
  if r &&& 1 = 1 then (r >>> 1) ^^^ 0xEDB88320 else r >>> 1

/-- The remainder after one more byte. -/
def crcByte (r : UInt32) (b : UInt8) : UInt32 :=
  Nat.repeat crcBit 8 (r ^^^ b.toUInt32)

def crc32 (bytes : Array UInt8) : UInt32 :=
  bytes.foldl crcByte 0xFFFFFFFF ^^^ 0xFFFFFFFF

/-- The check value that CRC-32 is published with. -/
example : crc32 "123456789".toUTF8.data = 0xCBF43926 := by
  decide +kernel

end TiffStrip
