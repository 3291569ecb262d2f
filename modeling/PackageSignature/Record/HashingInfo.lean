import PackageSignature.Record.Cursor
import PackageSignature.Record.Encoding
/-! The commitment of a signature to the content of a package: the parameters of the
hash tree over it and the root of that tree. -/

namespace PackageSignature

structure HashingInfo where
  hashAlgorithm : UInt32
  log2BlockSize : UInt8
  salt : Bytes
  rootHash : Bytes
deriving DecidableEq, Repr

namespace HashingInfo

def sha256 : UInt32 := 1

def log2BlockSize4096 : UInt8 := 12

def read : Reader HashingInfo := do
  let hashAlgorithm ← Reader.u32 .hashAlgorithm
  let log2BlockSize ← Reader.u8 .log2BlockSize
  let salt ← Reader.bytes .salt
  let rootHash ← Reader.bytes .rootHash
  return { hashAlgorithm, log2BlockSize, salt, rootHash }

/-- The record at the head of a buffer; what follows it is ignored. -/
def decode (buffer : Bytes) : Except DecodeError HashingInfo :=
  Reader.decode read buffer

def toBytes (info : HashingInfo) : Bytes :=
  Encoding.u32 info.hashAlgorithm ++ [info.log2BlockSize] ++
    Encoding.prefixed info.salt ++ Encoding.prefixed info.rootHash

end HashingInfo

end PackageSignature
