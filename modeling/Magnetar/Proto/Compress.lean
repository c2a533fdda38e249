import Magnetar.Proto.Frame

/-!
Contract: the bounded compression wrappers of `compress.rs`.

Owns: the size checks around the foreign codecs, and the round trip of what is within the bound.
An error is `none`: every caller modelled here reads a failed call only as a failure.
-/

namespace Magnetar.Proto.Compress

open Pb External Framing

def verifySize (output : Bytes) (expected : Nat) : Option Bytes :=
  if output.length = expected then some output else none

def compress (codecs : Codecs) (kind : CompressionKind) (plaintext : Bytes) : Option Bytes :=
  match kind with
  | .none => some plaintext
  | kind => codecs.deflate kind plaintext

def decompress (codecs : Codecs) (kind : CompressionKind) (ciphertext : Bytes)
    (uncompressedSize : Nat) : Option Bytes :=
  if uncompressedSize > maxFrameSize then none
  else
    match kind with
    | .none => some ciphertext
    | .snappy => do
      -- The announced length is checked before any buffer is allocated.
      let announced ← codecs.snappyLength ciphertext
      if announced > maxFrameSize then none
      else if announced ≠ uncompressedSize then none
      else
        let output ← codecs.inflate .snappy ciphertext uncompressedSize
        verifySize output uncompressedSize
    | kind => do
      let output ← codecs.inflate kind ciphertext uncompressedSize
      verifySize output uncompressedSize

def decompressWithin (codecs : Codecs) (kind : CompressionKind) (ciphertext : Bytes)
    (limit : Nat) : Option Bytes := do
  let limit := min limit maxFrameSize
  let output ←
    match kind with
    | .none => some ciphertext
    | .snappy => do
      let announced ← codecs.snappyLength ciphertext
      if announced > limit then none else codecs.inflateWithin .snappy ciphertext limit
    | kind => codecs.inflateWithin kind ciphertext limit
  if output.length > limit then none else some output

/-! ### Sizes -/

theorem verifySize_eq_some_iff {output verified : Bytes} {expected : Nat} :
    verifySize output expected = some verified ↔ output = verified ∧ verified.length = expected := by
  unfold verifySize
  split
  · rename_i same
    rw [Option.some.injEq]
    constructor
    · rintro rfl
      exact ⟨rfl, same⟩
    · exact And.left
  · rename_i differs
    constructor
    · rintro ⟨⟩
    · rintro ⟨rfl, same⟩
      exact absurd same differs

variable {kind : CompressionKind} {codecs : Codecs}

/-- What a codec reads has the advertised size, and that is within the bound. -/
theorem length_of_decompress (codec : kind ≠ .none)
    {ciphertext output : Bytes} {uncompressedSize : Nat}
    (read : decompress codecs kind ciphertext uncompressedSize = some output) :
    output.length = uncompressedSize ∧ uncompressedSize ≤ maxFrameSize := by
  have verified {found : Option Bytes}
      (step : (found.bind fun output => verifySize output uncompressedSize) = some output) :
      output.length = uncompressedSize := by
    obtain ⟨_, _, checked⟩ := Option.bind_eq_some_iff.mp step
    exact (verifySize_eq_some_iff.mp checked).2
  unfold decompress at read
  split at read
  · cases read
  rename_i inside
  refine ⟨?_, not_lt.mp inside⟩
  split at read
  · exact absurd rfl codec
  · obtain ⟨announced, _, checked⟩ := Option.bind_eq_some_iff.mp read
    split at checked
    · cases checked
    split at checked
    · cases checked
    exact verified checked
  · exact verified read

/-! ### Round trip -/

section

variable (lawful : codecs.Lawful) {plaintext body : Bytes}
  (compressed : compress codecs kind plaintext = some body)

include lawful compressed

theorem decompress_compress (bounded : plaintext.length ≤ maxFrameSize) :
    decompress codecs kind body plaintext.length = some plaintext := by
  have inside : ¬ plaintext.length > maxFrameSize := not_lt.mpr bounded
  unfold decompress
  rw [if_neg inside]
  cases kind with
  | none => exact compressed.symm
  | snappy =>
    have inflated := lawful.inflate .snappy plaintext body compressed
    have announced := lawful.snappyLength plaintext body compressed
    simp [announced, inside, inflated, verifySize]
  | lz4 | zlib | zstd => simp [lawful.inflate _ plaintext body compressed, verifySize]

/-- A compressed payload is read back at its size only, and only within the bound. -/
theorem decompress_eq_some_iff (codec : kind ≠ .none) (size : Nat) :
    decompress codecs kind body size = some plaintext ↔
      size = plaintext.length ∧ plaintext.length ≤ maxFrameSize := by
  constructor
  · intro read
    obtain ⟨rfl, bounded⟩ := length_of_decompress codec read
    exact ⟨rfl, bounded⟩
  · rintro ⟨rfl, bounded⟩
    exact decompress_compress lawful compressed bounded

end

end Magnetar.Proto.Compress
