import PackageSignature.Der.Value
/-! The record in which a public key travels: an algorithm with parameters and a string
of bits (SubjectPublicKeyInfo). What the bits mean is the algorithm's affair. -/

namespace PackageSignature

structure AlgorithmId where
  id : Der.ObjectId
  parameters : Option Der.Element
deriving DecidableEq, Repr

namespace AlgorithmId

def read : Der.Reader AlgorithmId :=
  Der.Reader.sequence do
    let id ← Der.ObjectId.read
    if ← Der.Reader.atEnd then
      return { id, parameters := none }
    return { id, parameters := some (← Der.Reader.element) }

def parameterId? (algorithm : AlgorithmId) : Option Der.ObjectId := do
  let parameters ← algorithm.parameters
  guard (parameters.tag == Der.Tag.objectId)
  Der.ObjectId.ofContent? parameters.content

def toBytes (algorithm : AlgorithmId) : Bytes :=
  Der.encodeSequence
    [algorithm.id.toBytes, (algorithm.parameters.map Der.Element.toBytes).getD []]

end AlgorithmId

structure SubjectKey where
  algorithm : AlgorithmId
  key : Der.BitString
deriving DecidableEq, Repr

namespace SubjectKey

def read : Der.Reader SubjectKey :=
  Der.Reader.sequence do
    let algorithm ← AlgorithmId.read
    let key ← Der.BitString.read
    return { algorithm, key }

def decode? (encoded : Bytes) : Option SubjectKey :=
  Der.Reader.complete read encoded

def encode (algorithm : AlgorithmId) (key : Bytes) : Bytes :=
  Der.encodeSequence [algorithm.toBytes, Der.encodeBitString key]

def rsaId : Der.ObjectId := Der.ObjectId.ofArcs [1, 2, 840, 113549, 1, 1, 1]

def ecId : Der.ObjectId := Der.ObjectId.ofArcs [1, 2, 840, 10045, 2, 1]

end SubjectKey

end PackageSignature
