/-! Which signer of a signature is meant. -/

namespace PackageSignature

inductive SignerChoice where
  | default
  | block (blockId : UInt32)
deriving DecidableEq, Repr

namespace SignerChoice

def defaultBlockId : UInt32 := 0xffffffff

/-- The id of the signing block of the third scheme, which the default signer is bound
to. -/
def v3BlockId : UInt32 := 0xf05368c0

/-- The id of the signing block of the third scheme with rotated keys. -/
def v31BlockId : UInt32 := 0x1b93ad61

def ofId (blockId : UInt32) : SignerChoice :=
  if blockId = defaultBlockId ∨ blockId = v3BlockId then default else block blockId

def toId : SignerChoice → UInt32
  | default => defaultBlockId
  | block blockId => blockId

def text : SignerChoice → String
  | default => "Default"
  | block blockId => s!"BlockId({blockId})"

end SignerChoice

end PackageSignature
