import Mathlib.Tactic.Ring
import Magnetar.Proto.Pb

/-!
Contract: the third-party code the protocol layer calls.

Owns: one parameter per foreign function (the protobuf codec, the CRC-32C checksum and the
compression codecs), as plain functions, and the named laws their documentation promises.

Does not own: any use of them.  A result that rests on a law takes it as a hypothesis.
-/

namespace Magnetar.Proto.External

open Pb

/-- The encoder and decoder prost derives for one message type. -/
structure Prost (α : Type) where
  encode : α → Bytes
  decode : Bytes → Option α
  deriving Inhabited

/-- Decoding an encoded value gives it back. -/
def Prost.RoundTrips {α : Type} (codec : Prost α) (value : α) : Prop :=
  codec.decode (codec.encode value) = some value

/-- The `crc32c` crate: a checksum, and its continuation over a further slice. -/
structure Crc32c where
  crc32c : Bytes → Nat
  crc32cAppend : Nat → Bytes → Nat

/-- Feeding a second slice continues the checksum of the first, and a checksum is a `u32`. -/
structure Crc32c.Lawful (crc : Crc32c) : Prop where
  append : ∀ first second, crc.crc32cAppend (crc.crc32c first) second = crc.crc32c (first ++ second)
  bounded : ∀ bytes, crc.crc32c bytes < 2 ^ 32

/-- One bit of the reflected Castagnoli division. -/
def Crc32c.castagnoliBit (crc : BitVec 32) : BitVec 32 :=
  if crc.getLsbD 0 then (crc >>> 1) ^^^ 0x82f63b78#32 else crc >>> 1

def Crc32c.castagnoliByte (crc : BitVec 32) (byte : UInt8) : BitVec 32 :=
  Nat.repeat Crc32c.castagnoliBit 8 (crc ^^^ BitVec.ofNat 32 byte.toNat)

/-- The checksum bit by bit, as the crate's table and hardware versions compute it. -/
def Crc32c.castagnoli : Crc32c where
  crc32c bytes := (~~~ bytes.foldl castagnoliByte (~~~ 0#32)).toNat
  crc32cAppend crc bytes := (~~~ bytes.foldl castagnoliByte (~~~ BitVec.ofNat 32 crc)).toNat

theorem Crc32c.castagnoli_lawful : Crc32c.castagnoli.Lawful where
  append first second := by
    simp only [castagnoli, BitVec.ofNat_toNat, BitVec.setWidth_eq, BitVec.not_not,
      List.foldl_append]
  bounded bytes := BitVec.isLt _

inductive CompressionKind where
  | none
  | lz4
  | zlib
  | zstd
  | snappy
  deriving DecidableEq, Repr

def CompressionKind.toPb : CompressionKind → Int
  | .none => 0
  | .lz4 => 1
  | .zlib => 2
  | .zstd => 3
  | .snappy => 4

/-- The wire value of a compression codec, `None` for a value the schema does not list. -/
def CompressionKind.tryFrom : Int → Option CompressionKind
  | 0 => some .none
  | 1 => some .lz4
  | 2 => some .zlib
  | 3 => some .zstd
  | 4 => some .snappy
  | _ => Option.none

/-- The compression crates.  `inflate` reads a body advertised at a size, `inflateWithin` reads
at most a limit, and `snappyLength` is the size a snappy body announces. -/
structure Codecs where
  deflate : CompressionKind → Bytes → Option Bytes
  inflate : CompressionKind → Bytes → Nat → Option Bytes
  inflateWithin : CompressionKind → Bytes → Nat → Option Bytes
  snappyLength : Bytes → Option Nat
  deriving Inhabited

/-- A codec gives back what it compressed, at its size, and a snappy body announces that size. -/
structure Codecs.Lawful (codecs : Codecs) : Prop where
  inflate : ∀ kind plaintext body, codecs.deflate kind plaintext = some body →
    codecs.inflate kind body plaintext.length = some plaintext
  snappyLength : ∀ plaintext body, codecs.deflate .snappy plaintext = some body →
    codecs.snappyLength body = some plaintext.length

/-- LZ4 as far as one payload: the block that holds it, which any buffer of its length can take. -/
def Codecs.lz4Block (plaintext block : Bytes) : Codecs where
  deflate kind bytes := if kind = .lz4 ∧ bytes = plaintext then some block else none
  inflate kind body size :=
    if kind = .lz4 ∧ body = block ∧ plaintext.length ≤ size then some plaintext else none
  inflateWithin kind body limit :=
    if kind = .lz4 ∧ body = block ∧ plaintext.length ≤ limit then some plaintext else none
  snappyLength _ := none

theorem Codecs.lz4Block_lawful (plaintext block : Bytes) : (lz4Block plaintext block).Lawful where
  inflate := by
    intro kind bytes body deflated
    simp only [lz4Block, Option.ite_none_right_eq_some, Option.some.injEq] at deflated
    obtain ⟨⟨rfl, rfl⟩, rfl⟩ := deflated
    exact if_pos ⟨rfl, rfl, le_rfl⟩
  snappyLength := by
    intro bytes body deflated
    simp [lz4Block] at deflated

theorem CompressionKind.tryFrom_toPb (kind : CompressionKind) : tryFrom kind.toPb = some kind := by
  cases kind <;> rfl

end Magnetar.Proto.External
