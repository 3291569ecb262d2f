import PackageSignature.Record.SigningInfo
/-! The signers of an envelope: a default signer that stands inline, and behind it
blocks that bind further signers to the signing blocks of other schemes. The
signer records themselves stay encoded, so a damaged block harms nobody who does
not ask for it. -/

namespace PackageSignature

structure SignerBlock where
  blockId : UInt32
  signingInfo : Bytes
deriving DecidableEq, Repr

namespace SignerBlock

def read : Reader SignerBlock := do
  let blockId ← Reader.u32 .blockId
  let signingInfo ← Reader.bytes .blockSigningInfo
  return { blockId, signingInfo }

def toBytes (block : SignerBlock) : Bytes :=
  Encoding.u32 block.blockId ++ Encoding.prefixed block.signingInfo

theorem remaining_lt_of_read {block : SignerBlock} {cursor after : Cursor}
    (done : Reader.runFrom read cursor = (.ok block, after)) :
    after.remaining < cursor.remaining := by
  rw [read, Reader.runFrom_bind] at done
  by_cases idFits : 4 ≤ cursor.remaining
  · rw [Reader.runFrom_u32_of_le idFits] at done
    simp only [Reader.bytes, Reader.runFrom_bind] at done
    by_cases lengthFits : 4 ≤ (cursor.advance 4).remaining
    · rw [Reader.runFrom_u32_of_le lengthFits] at done
      simp only at done
      generalize (UInt32.ofNat (Bytes.toNatLE
        (List.take 4 (cursor.advance 4).rest))).toNat = length at done
      by_cases bodyFits : length ≤ ((cursor.advance 4).advance 4).remaining
      · rw [Reader.runFrom_take_of_le bodyFits] at done
        simp only [Reader.runFrom_pure, Prod.mk.injEq] at done
        rw [← done.2]
        simp only [Cursor.remaining_advance]
        omega
      · rw [Reader.runFrom_take_of_lt (Nat.lt_of_not_le bodyFits)] at done
        simp at done
    · rw [Reader.runFrom_u32_of_lt (Nat.lt_of_not_le lengthFits)] at done
      simp at done
  · rw [Reader.runFrom_u32_of_lt (Nat.lt_of_not_le idFits)] at done
    simp at done

def readAll (cursor : Cursor) : Except DecodeError (List SignerBlock) × Cursor :=
  if cursor.remaining = 0 then
    (.ok [], cursor)
  else
    match _step : Reader.runFrom read cursor with
    | (.error error, after) => (.error error, after)
    | (.ok block, after) =>
        match readAll after with
        | (.error error, last) => (.error error, last)
        | (.ok blocks, last) => (.ok (block :: blocks), last)
termination_by cursor.remaining
decreasing_by exact remaining_lt_of_read _step

end SignerBlock

structure SignerList where
  defaultSigner : Bytes
  /-- The blocks in the order of the format; an id may occur more than once. -/
  blocks : List SignerBlock
deriving DecidableEq, Repr

namespace SignerList

/-- Reads a signer list up to the end of the buffer. The default signer is only
walked over; it is the part of the buffer up to where the walk ends. -/
def read : Reader SignerList := do
  SigningInfo.skip
  let behindDefault ← get
  let blocks ← (SignerBlock.readAll : Reader (List SignerBlock))
  return { defaultSigner := behindDefault.buffer.take behindDefault.position, blocks }

def decode (buffer : Bytes) : Except DecodeError SignerList :=
  Reader.decode read buffer

def ofDefault (signer : SigningInfo) : SignerList where
  defaultSigner := signer.toBytes
  blocks := []

def addBlock (signers : SignerList) (blockId : UInt32) (signer : SigningInfo) : SignerList :=
  { signers with blocks := signers.blocks ++ [{ blockId, signingInfo := signer.toBytes }] }

def decodeDefault (signers : SignerList) : Except DecodeError SigningInfo :=
  SigningInfo.decode signers.defaultSigner

def find? (signers : SignerList) (blockId : UInt32) : Option SignerBlock :=
  signers.blocks.find? (fun block => block.blockId == blockId)

def toBytes (signers : SignerList) : Bytes :=
  signers.defaultSigner ++ signers.blocks.flatMap SignerBlock.toBytes

end SignerList

end PackageSignature
