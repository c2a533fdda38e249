import Magnetar.Library.BigEndian
import Magnetar.Proto.External

/-!
Contract: the wire framing of `frame.rs`.

Owns: the frame layout, the two encoders that write a whole frame and the one that leaves the
payload to its caller, the front-of-stream check, and the decoder with each of its errors.

Does not own: the protobuf bytes inside a frame.  The command is only ever handed to its codec,
so its type is a parameter.  Encoding into a growable buffer cannot fail, so
`FrameError::Encode` is left out, and a decode error is kept without its text.
-/

namespace Magnetar.Proto.Framing

open Library Pb External

def magicCrc32c : Nat := 0x0e01

def magicBrokerEntryMetadata : Nat := 0x0e02

/-- The largest total size a decoder accepts. -/
def maxFrameSize : Nat := 5 * 1024 * 1024

def totalSizeLen : Nat := 4

def cmdSizeLen : Nat := 4

def magicLen : Nat := 2

def checksumLen : Nat := 4

def metadataSizeLen : Nat := 4

def bemSizeLen : Nat := 4

inductive FrameError where
  | incomplete (needed : Nat)
  | badLength (size : Nat)
  | decode
  | checksumMismatch (computed expected : Nat)
  | missingMagic (magic : Nat)
  deriving DecidableEq, Repr

structure Payload where
  brokerEntryMetadata : Option BrokerEntryMetadata
  metadata : MessageMetadata
  body : Bytes
  deriving DecidableEq, Repr

structure Frame (Command : Type) where
  command : Command
  payload : Option Payload
  deriving DecidableEq, Repr

/-- The foreign code a frame goes through: one protobuf codec per record, and the checksum. -/
structure Wire (Command : Type) where
  command : Prost Command
  metadata : Prost MessageMetadata
  brokerEntryMetadata : Prost BrokerEntryMetadata
  crc : Crc32c

/-! ### Encoding -/

/-- `u32::try_from` on a size, with the error every encoder maps it to. -/
def sizeToU32 (size : Nat) : Except FrameError Nat :=
  if size < 2 ^ 32 then .ok size else .error (.badLength (2 ^ 32 - 1))

variable {Command : Type} (wire : Wire Command)

def encodeCommand (dst : Bytes) (cmd : Command) : Except FrameError Bytes := do
  let cmdBytes := wire.command.encode cmd
  let totalSize ← sizeToU32 (cmdSizeLen + cmdBytes.length)
  let cmdSize ← sizeToU32 cmdBytes.length
  .ok (dst ++ (BigEndian.put totalSizeLen totalSize ++ BigEndian.put cmdSizeLen cmdSize ++ cmdBytes))

/-- The content of a payload frame before its payload: everything the total size counts. -/
def headerContentSize (cmdSize metaSize : Nat) : Nat :=
  cmdSizeLen + cmdSize + magicLen + checksumLen + metadataSizeLen + metaSize

/-- A payload frame without its payload.  The checksum is fed in two slices, the metadata with
its size and then the payload. -/
def encodePayloadHead (cmd : Command) (metadata : MessageMetadata) (payload : Bytes) :
    Except FrameError Bytes := do
  let cmdBytes := wire.command.encode cmd
  let metaBytes := wire.metadata.encode metadata
  let totalSize ←
    sizeToU32 (headerContentSize cmdBytes.length metaBytes.length + payload.length)
  let cmdSize ← sizeToU32 cmdBytes.length
  let metaSize ← sizeToU32 metaBytes.length
  let checksummed := BigEndian.put metadataSizeLen metaSize ++ metaBytes
  let fullCrc := wire.crc.crc32cAppend (wire.crc.crc32c checksummed) payload
  .ok (BigEndian.put totalSizeLen totalSize ++ BigEndian.put cmdSizeLen cmdSize ++ cmdBytes ++
    BigEndian.put magicLen magicCrc32c ++ BigEndian.put checksumLen fullCrc ++ checksummed)

def encodePayload (dst : Bytes) (cmd : Command) (metadata : MessageMetadata) (payload : Bytes) :
    Except FrameError Bytes := do
  let cmdBytes := wire.command.encode cmd
  let metaBytes := wire.metadata.encode metadata
  let totalSize ←
    sizeToU32 (headerContentSize cmdBytes.length metaBytes.length + payload.length)
  let cmdSize ← sizeToU32 cmdBytes.length
  let metaSize ← sizeToU32 metaBytes.length
  let dst := dst ++ BigEndian.put totalSizeLen totalSize ++ BigEndian.put cmdSizeLen cmdSize ++
    cmdBytes ++ BigEndian.put magicLen magicCrc32c
  let checksummed := BigEndian.put metadataSizeLen metaSize ++ metaBytes
  let fullCrc := wire.crc.crc32cAppend (wire.crc.crc32c checksummed) payload
  .ok (dst ++ BigEndian.put checksumLen fullCrc ++ checksummed ++ payload)

/-! ### Decoding -/

def peekFullFrameLen (inbound : Bytes) : Except FrameError (Option Nat) :=
  if inbound.length < totalSizeLen then .ok none
  else
    let totalSize := BigEndian.get (inbound.take totalSizeLen)
    if totalSize = 0 then .error (.badLength totalSize)
    else if totalSize > maxFrameSize then .error (.badLength totalSize)
    else if inbound.length < totalSizeLen + totalSize then .ok none
    else .ok (some (totalSizeLen + totalSize))

variable (totalSize : Nat) (frameBytes : Bytes)

/-- The optional broker-entry-metadata prelude.  What follows it starts with a magic. -/
def decodeBrokerEntryMetadata : Except FrameError (Option BrokerEntryMetadata × Bytes) :=
  if frameBytes.length < magicLen then .error (.incomplete (magicLen - frameBytes.length))
  else if BigEndian.get (frameBytes.take magicLen) = magicBrokerEntryMetadata then
    let rest := frameBytes.drop magicLen
    if rest.length < bemSizeLen then .error (.incomplete (bemSizeLen - rest.length))
    else
      let bemSize := BigEndian.get (rest.take bemSizeLen)
      let rest := rest.drop bemSizeLen
      if bemSize > rest.length then .error (.badLength totalSize)
      else
        match wire.brokerEntryMetadata.decode (rest.take bemSize) with
        | none => .error .decode
        | some brokerEntryMetadata =>
          let rest := rest.drop bemSize
          if rest.length < magicLen then .error (.incomplete (magicLen - rest.length))
          else .ok (some brokerEntryMetadata, rest)
  else .ok (none, frameBytes)

/-- The checksummed region, from its magic on. -/
def decodeChecksummed : Except FrameError (MessageMetadata × Bytes) :=
  let magic := BigEndian.get (frameBytes.take magicLen)
  if magic ≠ magicCrc32c then .error (.missingMagic magic)
  else
    let rest := frameBytes.drop magicLen
    if rest.length < checksumLen + metadataSizeLen then
      .error (.incomplete (checksumLen + metadataSizeLen - rest.length))
    else
      let expectedCrc := BigEndian.get (rest.take checksumLen)
      let checksummed := rest.drop checksumLen
      let computedCrc := wire.crc.crc32c checksummed
      if computedCrc ≠ expectedCrc then .error (.checksumMismatch computedCrc expectedCrc)
      else
        let metaSize := BigEndian.get (checksummed.take metadataSizeLen)
        let rest := checksummed.drop metadataSizeLen
        if metaSize > rest.length then .error (.badLength totalSize)
        else
          match wire.metadata.decode (rest.take metaSize) with
          | none => .error .decode
          | some metadata => .ok (metadata, rest.drop metaSize)

def decodePayload : Except FrameError Payload := do
  let (brokerEntryMetadata, rest) ← decodeBrokerEntryMetadata wire totalSize frameBytes
  let (metadata, body) ← decodeChecksummed wire totalSize rest
  .ok { brokerEntryMetadata, metadata, body }

/-- The content of a complete frame: the bytes its total size counts. -/
def decodeContent : Except FrameError (Frame Command) :=
  if frameBytes.length < cmdSizeLen then .error (.badLength totalSize)
  else
    let cmdSize := BigEndian.get (frameBytes.take cmdSizeLen)
    let rest := frameBytes.drop cmdSizeLen
    if cmdSize > rest.length then .error (.badLength totalSize)
    else
      match wire.command.decode (rest.take cmdSize) with
      | none => .error .decode
      | some command =>
        let rest := rest.drop cmdSize
        if rest.isEmpty then .ok { command, payload := none }
        else (decodePayload wire totalSize rest).map fun payload =>
          { command, payload := some payload }

/-- Decode one frame off the head of `src`; the second component is what is left of `src`. -/
def decodeOne (src : Bytes) : Except FrameError (Frame Command) × Bytes :=
  if src.length < totalSizeLen then (.error (.incomplete (totalSizeLen - src.length)), src)
  else
    let totalSize := BigEndian.get (src.take totalSizeLen)
    if totalSize = 0 then (.error (.badLength totalSize), src)
    else if totalSize > maxFrameSize then (.error (.badLength totalSize), src)
    else
      let fullFrameLen := totalSizeLen + totalSize
      if src.length < fullFrameLen then (.error (.incomplete (fullFrameLen - src.length)), src)
      else
        (decodeContent wire totalSize ((src.take fullFrameLen).drop totalSizeLen),
          src.drop fullFrameLen)

end Magnetar.Proto.Framing
