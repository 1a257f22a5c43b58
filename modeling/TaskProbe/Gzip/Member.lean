import TaskProbe.Gzip.Crc32
import TaskProbe.Gzip.Inflate

/-!
# Gzip members

A member is a header with optional fields, compressed data, and a trailer with the check sum and the
length of the data. `gunzip` reads one member and leaves alone what follows it; `gzip` writes a member
whose data is stored as it is.
-/

namespace TaskProbe.Gzip

/-- Why data is not a gzip member. -/
inductive Fault where
  | invalidHeader
  | longField
  | unexpectedEnd
  | deflate (fault : DeflateFault)
  | checkSum
  deriving DecidableEq, Repr

/-- The text of a fault. -/
def Fault.message : Fault → String
  | .invalidHeader => "invalid gzip header"
  | .longField => "gzip header field too long"
  | .unexpectedEnd => "unexpected end of file"
  | .deflate .corrupt => "corrupt deflate stream"
  | .deflate .incomplete => "incomplete deflate stream"
  | .checkSum => "corrupt gzip stream does not have a matching checksum"

/-- Whether the data starts like a gzip member. -/
def isGzip : List UInt8 → Bool
  | 0x1f :: 0x8b :: _ => true
  | _ => false

/-! ## Header -/

/-- The optional fields that the flags of a header announce. -/
structure Flags where
  checkSum : Bool
  extra : Bool
  name : Bool
  comment : Bool
  deriving DecidableEq, Repr

/-- The flags in a byte; the three highest bits must be zero. -/
def Flags.ofByte (b : UInt8) : Option Flags :=
  if b &&& 0xE0 ≠ 0 then none
  else some {
    checkSum := b &&& 2 ≠ 0
    extra := b &&& 4 ≠ 0
    name := b &&& 8 ≠ 0
    comment := b &&& 16 ≠ 0 }

/-- Skips a field that starts with its length in two bytes. -/
def skipExtra : List UInt8 → Except Fault (List UInt8)
  | a :: b :: rest =>
    let n := ofLittleEndian [a, b]
    if rest.length < n then .error .unexpectedEnd else .ok (rest.drop n)
  | _ => .error .unexpectedEnd

/-- The greatest length of a text in a header. -/
def maxText : Nat := 65535

/-- Skips a text up to the zero byte that ends it. -/
def skipText (s : List UInt8) : Except Fault (List UInt8) :=
  let text := s.takeWhile (· ≠ 0)
  if maxText < text.length then .error .longField
  else
    match s.dropWhile (· ≠ 0) with
    | [] => .error .unexpectedEnd
    | _ :: rest => .ok rest

/-- Skips the check sum of the header, after comparing it. `start` is the whole member. -/
def skipHeaderSum (start s : List UInt8) : Except Fault (List UInt8) :=
  match s with
  | a :: b :: rest =>
    let sum := crc32 (start.take (start.length - s.length))
    if ofLittleEndian [a, b] = sum.toNat % 65536 then .ok rest else .error .checkSum
  | _ => .error .unexpectedEnd

/-- `skip` if the field is there. -/
def skipIf (present : Bool) (skip : List UInt8 → Except Fault (List UInt8)) (s : List UInt8) :
    Except Fault (List UInt8) :=
  if present then skip s else .ok s

/-- Skips the header of a member: ten bytes and the optional fields. -/
def skipHeader (start : List UInt8) : Except Fault (List UInt8) := do
  match start with
  | m₀ :: m₁ :: method :: flags :: _ :: _ :: _ :: _ :: _ :: _ :: rest =>
    if (m₀, m₁, method) ≠ (0x1f, 0x8b, 8) then .error .invalidHeader
    else
      match Flags.ofByte flags with
      | none => .error .invalidHeader
      | some flags =>
        let s ← skipIf flags.extra skipExtra rest
        let s ← skipIf flags.name skipText s
        let s ← skipIf flags.comment skipText s
        skipIf flags.checkSum (skipHeaderSum start) s
  | _ => .error .unexpectedEnd

/-! ## Members -/

/-- The trailer of a member that holds `data`: the check sum and the length. -/
def trailer (data : List UInt8) : List UInt8 :=
  littleEndian 4 (crc32 data).toNat ++ littleEndian 4 data.length

/-- The data of the member at the start of the bytes. -/
def gunzip (bytes : List UInt8) : Except Fault (List UInt8) := do
  let s ← skipHeader bytes
  match inflate s with
  | .error e => .error (.deflate e)
  | .ok (data, rest) =>
    if rest.length < 8 then .error .unexpectedEnd
    else if rest.take 8 = trailer data then .ok data
    else .error .checkSum

/-- The header of a written member: no optional fields, no time, no system. -/
def plainHeader : List UInt8 := [0x1f, 0x8b, 8, 0, 0, 0, 0, 0, 0, 0xff]

/-- The greatest length of a stored block. -/
def maxStored : Nat := 65535

/-- A block that holds the data as it is; its first byte is one if it is the last block. -/
def storedBlock (last : Bool) (data : List UInt8) : List UInt8 :=
  (if last then 1 else 0) :: littleEndian 2 data.length
    ++ littleEndian 2 (maxStored - data.length) ++ data

/-- The data in stored blocks, each but the last as long as can be. -/
def deflateStored (data : List UInt8) : List UInt8 :=
  if data.length ≤ maxStored then storedBlock true data
  else storedBlock false (data.take maxStored) ++ deflateStored (data.drop maxStored)
termination_by data.length
decreasing_by simp only [List.length_drop, maxStored] at *; omega

/-- A member that holds the data, given its compressed form. -/
def member (compressed data : List UInt8) : List UInt8 :=
  plainHeader ++ compressed ++ trailer data

/-- A member that holds the data as it is. -/
def gzip (data : List UInt8) : List UInt8 := member (deflateStored data) data

/-! ## Other ways of compressing -/

/-- How data is compressed, for whoever does not want it stored as it is. -/
class Deflater where
  deflate : List UInt8 → List UInt8

/-- A member that holds the data, compressed as the `Deflater` does it. -/
def pack [Deflater] (data : List UInt8) : List UInt8 := member (Deflater.deflate data) data

end TaskProbe.Gzip
