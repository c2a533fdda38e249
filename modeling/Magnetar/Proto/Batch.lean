import Magnetar.Proto.Compress

/-!
Contract: splitting the body of a batched entry into its members.

Owns: the packed `[u32 size][SingleMessageMetadata][payload]` layout, the two compressed
layouts a body may have, and how many members each reader can return.

Does not own: which members a consumer surfaces.
-/

namespace Magnetar.Proto.Batch

open Library Pb External Compress Framing

/-- One member of a batched entry: its metadata and its payload. -/
abbrev BatchMember := SingleMessageMetadata × Bytes

variable (single : Prost SingleMessageMetadata) (codecs : Codecs)

/-- Pop one member off the front of the body, or `none` when what is left is malformed. -/
def nextBatchMember (body : Bytes) : Option (BatchMember × Bytes) := do
  let singleSize ← if body.length ≥ 4 then some (BigEndian.get (body.take 4)) else none
  let body := body.drop 4
  let singleBytes ← if body.length ≥ singleSize then some (body.take singleSize) else none
  let body := body.drop singleSize
  let metadata ← single.decode singleBytes
  let payloadSize ← if 0 ≤ metadata.payloadSize then some metadata.payloadSize.toNat else none
  if body.length ≥ payloadSize then
    some ((metadata, body.take payloadSize), body.drop payloadSize)
  else none

/-- At most `wanted` members, up to the first malformed one. -/
def takeBatchMembers : (wanted : Nat) → Bytes → List BatchMember
  | 0, _ => []
  | wanted + 1, body =>
    match nextBatchMember single body with
    | some (member, rest) => member :: takeBatchMembers wanted rest
    | none => []

/-- The members that parse, and whether all `numInBatch` of them did. -/
def splitBatchBody (body : Bytes) (numInBatch : Int) : List BatchMember × Bool :=
  let members := takeBatchMembers single numInBatch.toNat body
  (members, members.length == numInBatch.toNat)

/-- Decompress each member on its own, within one budget shared by the entry. -/
def decompressMembers (kind : CompressionKind) :
    (budget : Nat) → List BatchMember → Option (List BatchMember)
  | _, [] => some []
  | budget, (metadata, payload) :: rest => do
    let plain ← decompressWithin codecs kind payload budget
    let members ← decompressMembers kind (budget - plain.length) rest
    some ((metadata, plain) :: members)

/-- The layout of magnetar 1.7.2 and earlier: a raw body of separately compressed members. -/
def legacyBatchMembers (kind : CompressionKind) (body : Bytes) (numInBatch : Int) :
    Option (List BatchMember) :=
  match splitBatchBody single body numInBatch with
  | (members, true) => decompressMembers codecs kind maxFrameSize members
  | (_, false) => none

/-- The members of a compressed body: the Java layout when it decodes in full, else the legacy
layout, else what the Java layout gave before its first malformed member. -/
def compressedBatchMembers (kind : CompressionKind) (metadata : MessageMetadata) (body : Bytes)
    (numInBatch : Int) : List BatchMember :=
  let java := (metadata.uncompressedSize.bind fun size => decompress codecs kind body size).map
    fun whole => splitBatchBody single whole numInBatch
  match java with
  | some (members, true) => members
  | java =>
    ((legacyBatchMembers single codecs kind body numInBatch).or (java.map Prod.fst)).getD []

/-- The decoded members with the entry's metadata, whose codec is cleared once the surfaced
payloads are plaintext.  An unknown codec yields no member. -/
def unpackBatchMembers (metadata : MessageMetadata) (body : Bytes) (numInBatch : Int) :
    MessageMetadata × List BatchMember :=
  match metadata.compression.map CompressionKind.tryFrom with
  | none | some (some .none) => (metadata, (splitBatchBody single body numInBatch).1)
  | some none => (metadata, [])
  | some (some kind) =>
    let members := compressedBatchMembers single codecs kind metadata body numInBatch
    if members.isEmpty then (metadata, members)
    else ({ metadata with compression := none }, members)

/-- Members that carry no more than a size below 128, at the bytes prost gives them. -/
def memberOfSize : Prost SingleMessageMetadata where
  encode metadata := [24, UInt8.ofNat metadata.payloadSize.toNat]
  decode
    | [24, size] => if size < 128 then some { payloadSize := size.toNat } else none
    | _ => none

end Magnetar.Proto.Batch
