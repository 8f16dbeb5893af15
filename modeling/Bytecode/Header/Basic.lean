import Bytecode.Bytes
import Bytecode.ByteOrder
import Bytecode.LoadError
import Bytecode.Text.Utf8

/-!
# The header of an executable

An executable starts with a packed header of 20 bytes:

* 8 bytes, the signature `ESET-VM2`;
* 4 bytes, the size of the code;
* 4 bytes, the size of the data segment at run time;
* 4 bytes, the size of the data that the segment starts with.

All numbers have their lowest byte first. The code follows the header, and the
initial data follows the code. The size of the data segment is only carried
along: no check of the executable depends on it.
-/

namespace Bytecode

/-- The header of an executable. A header that was parsed carries the signature;
one that was put together by hand may carry any eight bytes. -/
structure Header where
  magic : Vector UInt8 8
  codeSize : UInt32
  /-- The size of the data segment at run time. -/
  dataSize : UInt32
  /-- The size of the data that the segment starts with. -/
  initialDataSize : UInt32
deriving DecidableEq

namespace Header

abbrev byteCount : Nat := 20

/-- The bytes of `ESET-VM2`, with which every executable starts. -/
def signature : Vector UInt8 8 :=
  #v[0x45, 0x53, 0x45, 0x54, 0x2d, 0x56, 0x4d, 0x32]

/-- A header that carries the signature. -/
def ofSizes (codeSize dataSize initialDataSize : UInt32) : Header :=
  { magic := signature, codeSize, dataSize, initialDataSize }

/-- Whether the executable brings data for its data segment to start with. -/
def hasData (header : Header) : Bool :=
  header.initialDataSize != 0

/-- Where the code starts in the executable. -/
def codeOffset (_ : Header) : Nat :=
  byteCount

/-- Where the initial data starts in the executable. -/
def dataOffset (header : Header) : Nat :=
  header.codeOffset + header.codeSize.toNat

/-- The length of an executable with this header, as an exact number. -/
def fileSize (header : Header) : Nat :=
  header.dataOffset + header.initialDataSize.toNat

/-! ## The packed form -/

def toBytes (header : Header) : Vector UInt8 byteCount :=
  ⟨(header.magic.toList ++ toLittleEndian 4 header.codeSize.toNat ++
      toLittleEndian 4 header.dataSize.toNat ++
      toLittleEndian 4 header.initialDataSize.toNat).toArray, by simp⟩

/-- The number in the four bytes from `start` on. -/
def sizeAt (bytes : Vector UInt8 byteCount) (start : Nat) : UInt32 :=
  UInt32.ofNat (ofLittleEndian (bytes.toArray.extract start (start + 4)).toList)

/-- Checks that the first bytes of an executable are the signature. Fewer than
eight bytes never are. -/
def checkSignature (start : Bytes) : Except LoadError Unit :=
  if start = signature.toArray then
    .ok ()
  else
    .error (.invalidSignature (String.ofList (Text.ofUtf8Lossy start.toList)))

/-- Reads the 20 bytes of a header. They must start with the signature; the
sizes are not checked, since that takes the length of the whole executable. -/
def parse (bytes : Vector UInt8 byteCount) : Except LoadError Header := do
  checkSignature (bytes.toArray.extract 0 8)
  return {
    magic := ⟨bytes.toArray.extract 0 8, by simp [byteCount]⟩
    codeSize := sizeAt bytes 8
    dataSize := sizeAt bytes 12
    initialDataSize := sizeAt bytes 16 }

/-- Accepts the header of an executable from its length and its first bytes, at
most 20 of them. The signature is checked first, then that the header is
complete, then that the length is the declared one. -/
def accept (length : Nat) (start : Bytes) : Except LoadError Header := do
  checkSignature (start.extract 0 8)
  if whole : start.size = byteCount then
    let header ← parse ⟨start, whole⟩
    if length = header.fileSize then
      return header
    else
      throw (.invalidSize header.fileSize length)
  else
    throw (.invalidSize byteCount length)

end Header

end Bytecode
