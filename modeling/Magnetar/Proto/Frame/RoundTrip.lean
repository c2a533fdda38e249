import Magnetar.Proto.Frame

/-!
Contract: the decoder reads back what the encoders write.

Owns: the layout a whole frame has, with and without a payload and a broker-entry prelude, that
the encoders write exactly this layout, and that decoding it in front of any bytes gives the
parts back and leaves those bytes.

Does not own: frames no encoder writes.
-/

namespace Magnetar.Proto.Framing

open Library Pb External BigEndian

variable {Command : Type} (wire : Wire Command)

/-! ### Layout -/

/-- A frame around its content: the total size, then what it counts. -/
def layoutFrame (content : Bytes) : Bytes :=
  BigEndian.put totalSizeLen content.length ++ content

variable (cmd : Command) (entry : Option BrokerEntryMetadata) (metadata : MessageMetadata)
  (payload : Bytes)

def layoutCommand (rest : Bytes) : Bytes :=
  BigEndian.put cmdSizeLen (wire.command.encode cmd).length ++ (wire.command.encode cmd ++ rest)

/-- The prelude a broker puts before the checksummed region of a dispatched entry. -/
def layoutBrokerEntryMetadata (rest : Bytes) : Bytes :=
  match entry with
  | none => rest
  | some entry =>
    BigEndian.put magicLen magicBrokerEntryMetadata ++
      (BigEndian.put bemSizeLen (wire.brokerEntryMetadata.encode entry).length ++
        (wire.brokerEntryMetadata.encode entry ++ rest))

def layoutMetadata : Bytes :=
  BigEndian.put metadataSizeLen (wire.metadata.encode metadata).length ++
    (wire.metadata.encode metadata ++ payload)

/-- The checksummed region, under one checksum over all of it. -/
def layoutChecksummed : Bytes :=
  BigEndian.put magicLen magicCrc32c ++
    (BigEndian.put checksumLen (wire.crc.crc32c (layoutMetadata wire metadata payload)) ++
      layoutMetadata wire metadata payload)

/-- A whole payload frame as it travels, with the broker's prelude if there is one. -/
def layoutPayloadFrame : Bytes :=
  layoutFrame (layoutCommand wire cmd
    (layoutBrokerEntryMetadata wire entry (layoutChecksummed wire metadata payload)))

/-! ### The encoders write the layout -/

theorem sizeToU32_of_lt {size : Nat} (fits : size < 2 ^ 32) : sizeToU32 size = .ok size :=
  if_pos fits

theorem sizeToU32_of_not_lt {size : Nat} (large : ¬ size < 2 ^ 32) :
    sizeToU32 size = .error (.badLength (2 ^ 32 - 1)) :=
  if_neg large

/-- A frame too large for its size field is refused before a byte is written. -/
theorem encodeCommand_eq (dst : Bytes) (cmd : Command) :
    encodeCommand wire dst cmd =
      if cmdSizeLen + (wire.command.encode cmd).length < 2 ^ 32 then
        .ok (dst ++ layoutFrame (layoutCommand wire cmd []))
      else .error (.badLength (2 ^ 32 - 1)) := by
  unfold encodeCommand
  dsimp only
  by_cases fits : cmdSizeLen + (wire.command.encode cmd).length < 2 ^ 32
  · have smaller : (wire.command.encode cmd).length < 2 ^ 32 := by omega
    rw [if_pos fits, sizeToU32_of_lt fits, sizeToU32_of_lt smaller]
    simp [bind, Except.bind, layoutFrame, layoutCommand]
  · rw [if_neg fits, sizeToU32_of_not_lt fits]
    rfl

theorem layoutPayloadFrame_length :
    (layoutPayloadFrame wire cmd none metadata payload).length =
      totalSizeLen + (headerContentSize (wire.command.encode cmd).length
        (wire.metadata.encode metadata).length + payload.length) := by
  simp only [layoutPayloadFrame, layoutFrame, layoutCommand, layoutBrokerEntryMetadata,
    layoutChecksummed, layoutMetadata, headerContentSize, List.length_append, put_length]
  omega

theorem encodePayload_eq (lawful : wire.crc.Lawful) (dst : Bytes) (cmd : Command)
    (metadata : MessageMetadata) (payload : Bytes) :
    encodePayload wire dst cmd metadata payload =
      if headerContentSize (wire.command.encode cmd).length
          (wire.metadata.encode metadata).length + payload.length < 2 ^ 32 then
        .ok (dst ++ layoutPayloadFrame wire cmd none metadata payload)
      else .error (.badLength (2 ^ 32 - 1)) := by
  unfold encodePayload
  dsimp only
  by_cases fits : headerContentSize (wire.command.encode cmd).length
      (wire.metadata.encode metadata).length + payload.length < 2 ^ 32
  · have cmdFits : (wire.command.encode cmd).length < 2 ^ 32 := by
      unfold headerContentSize at fits
      omega
    have metaFits : (wire.metadata.encode metadata).length < 2 ^ 32 := by
      unfold headerContentSize at fits
      omega
    have total : headerContentSize (wire.command.encode cmd).length
        (wire.metadata.encode metadata).length + payload.length =
          (layoutCommand wire cmd (layoutChecksummed wire metadata payload)).length := by
      have length := layoutPayloadFrame_length wire cmd metadata payload
      rw [layoutPayloadFrame, layoutFrame, List.length_append, put_length] at length
      exact (Nat.add_left_cancel length).symm
    rw [if_pos fits, sizeToU32_of_lt fits, sizeToU32_of_lt cmdFits, sizeToU32_of_lt metaFits]
    simp [bind, Except.bind, layoutPayloadFrame, layoutFrame, layoutBrokerEntryMetadata, total,
      layoutCommand, layoutChecksummed, layoutMetadata, lawful.append]
  · rw [if_neg fits, sizeToU32_of_not_lt fits]
    rfl

theorem encodePayloadHead_append (dst payload : Bytes) :
    (encodePayloadHead wire cmd metadata payload).map (fun head => dst ++ head ++ payload) =
      encodePayload wire dst cmd metadata payload := by
  unfold encodePayloadHead encodePayload
  dsimp only
  cases sizeToU32 (headerContentSize (wire.command.encode cmd).length
      (wire.metadata.encode metadata).length + payload.length) with
  | error _ => rfl
  | ok totalSize =>
    cases sizeToU32 (wire.command.encode cmd).length with
    | error => rfl
    | ok =>
      cases sizeToU32 (wire.metadata.encode metadata).length with
      | error => rfl
      | ok => simp [bind, Except.bind, Except.map]

/-! ### The decoder reads the layout -/

theorem decodeOne_layoutFrame {content : Bytes} (suffix : Bytes) (filled : content ≠ [])
    (fits : content.length ≤ maxFrameSize) :
    decodeOne wire (layoutFrame content ++ suffix) =
      (decodeContent wire content.length content, suffix) := by
  have bound : maxFrameSize < 256 ^ totalSizeLen := by decide
  have positive : content.length ≠ 0 := by simpa using filled
  have size : get ((layoutFrame content ++ suffix).take totalSizeLen) =
      content.length := by
    rw [layoutFrame, List.append_assoc]
    exact get_take_put_append _ _ _ (by omega)
  have length : (layoutFrame content ++ suffix).length =
      totalSizeLen + content.length + suffix.length := by
    simp [layoutFrame, Nat.add_assoc]
  have framed : (layoutFrame content).length = totalSizeLen + content.length := by
    simp [layoutFrame]
  have inner : ((layoutFrame content ++ suffix).take (totalSizeLen + content.length)).drop
      totalSizeLen = content := by
    rw [List.take_left' framed, layoutFrame, drop_put_append]
  have left : (layoutFrame content ++ suffix).drop (totalSizeLen + content.length) = suffix :=
    List.drop_left' framed
  unfold decodeOne
  rw [if_neg (by omega), size, if_neg positive, if_neg (by omega), length, if_neg (by omega),
    inner, left]

theorem layoutCommand_ne_nil (rest : Bytes) : layoutCommand wire cmd rest ≠ [] := by
  simp [layoutCommand, cmdSizeLen, put]

variable {cmd : Command}

theorem decodeContent_layoutCommand (rest : Bytes) (totalSize : Nat)
    (decodes : wire.command.RoundTrips cmd)
    (fits : (wire.command.encode cmd).length < 256 ^ cmdSizeLen) :
    decodeContent wire totalSize (layoutCommand wire cmd rest) =
      if rest.isEmpty then .ok { command := cmd, payload := none }
      else (decodePayload wire totalSize rest).map fun payload =>
        { command := cmd, payload := some payload } := by
  have length : (layoutCommand wire cmd rest).length =
      cmdSizeLen + ((wire.command.encode cmd).length + rest.length) := by
    simp [layoutCommand]
  have size : get ((layoutCommand wire cmd rest).take cmdSizeLen) =
      (wire.command.encode cmd).length :=
    get_take_put_append _ _ _ fits
  have after : (layoutCommand wire cmd rest).drop cmdSizeLen = wire.command.encode cmd ++ rest :=
    drop_put_append _ _ _
  unfold decodeContent
  rw [if_neg (by omega), size, after, if_neg (by simp), List.take_left, List.drop_left,
    show wire.command.decode (wire.command.encode cmd) = some cmd from decodes]

variable {metadata : MessageMetadata}

theorem decodeChecksummed_layout (payload : Bytes) (totalSize : Nat)
    (decodes : wire.metadata.RoundTrips metadata) (lawful : wire.crc.Lawful)
    (fits : (wire.metadata.encode metadata).length < 256 ^ metadataSizeLen) :
    decodeChecksummed wire totalSize (layoutChecksummed wire metadata payload) =
      .ok (metadata, payload) := by
  have magic : get ((layoutChecksummed wire metadata payload).take magicLen) =
      magicCrc32c :=
    get_take_put_append _ _ _ (by decide)
  have afterMagic : (layoutChecksummed wire metadata payload).drop magicLen =
      put checksumLen (wire.crc.crc32c (layoutMetadata wire metadata payload)) ++
        layoutMetadata wire metadata payload :=
    drop_put_append _ _ _
  have checksum : get ((put checksumLen
      (wire.crc.crc32c (layoutMetadata wire metadata payload)) ++
        layoutMetadata wire metadata payload).take checksumLen) =
      wire.crc.crc32c (layoutMetadata wire metadata payload) :=
    get_take_put_append _ _ _ (lawful.bounded _)
  have size : get ((layoutMetadata wire metadata payload).take metadataSizeLen) =
      (wire.metadata.encode metadata).length :=
    get_take_put_append _ _ _ fits
  have after : (layoutMetadata wire metadata payload).drop metadataSizeLen =
      wire.metadata.encode metadata ++ payload :=
    drop_put_append _ _ _
  have long : ¬ (put checksumLen (wire.crc.crc32c (layoutMetadata wire metadata payload))
      ++ layoutMetadata wire metadata payload).length < checksumLen + metadataSizeLen := by
    simp [layoutMetadata]
  unfold decodeChecksummed
  rw [magic, if_neg (by simp), afterMagic, if_neg long, drop_put_append, checksum,
    if_neg (by simp), size, after, if_neg (by simp), List.take_left, List.drop_left,
    show wire.metadata.decode (wire.metadata.encode metadata) = some metadata from decodes]

variable {entry : Option BrokerEntryMetadata}

theorem decodeBrokerEntryMetadata_layout {rest : Bytes}
    (totalSize : Nat) (decodes : ∀ present ∈ entry, wire.brokerEntryMetadata.RoundTrips present)
    (fits : ∀ present ∈ entry,
      (wire.brokerEntryMetadata.encode present).length < 256 ^ bemSizeLen)
    (long : magicLen ≤ rest.length) (magic : get (rest.take magicLen) = magicCrc32c) :
    decodeBrokerEntryMetadata wire totalSize (layoutBrokerEntryMetadata wire entry rest) =
      .ok (entry, rest) := by
  cases entry with
  | none =>
    change decodeBrokerEntryMetadata wire totalSize rest = _
    unfold decodeBrokerEntryMetadata
    rw [if_neg (by omega), if_neg (by rw [magic]; decide)]
  | some present =>
    have sized := fits present rfl
    have marker : get
        ((layoutBrokerEntryMetadata wire (some present) rest).take magicLen) =
          magicBrokerEntryMetadata :=
      get_take_put_append _ _ _ (by decide)
    have afterMarker : (layoutBrokerEntryMetadata wire (some present) rest).drop magicLen =
        put bemSizeLen (wire.brokerEntryMetadata.encode present).length ++
          (wire.brokerEntryMetadata.encode present ++ rest) :=
      drop_put_append _ _ _
    unfold decodeBrokerEntryMetadata
    rw [if_neg (by simp [layoutBrokerEntryMetadata]), if_pos marker, afterMarker,
      if_neg (by simp), get_take_put_append _ _ _ sized, drop_put_append,
      if_neg (by simp), List.take_left, List.drop_left,
      show wire.brokerEntryMetadata.decode (wire.brokerEntryMetadata.encode present) =
        some present from decodes present rfl]
    dsimp only
    rw [if_neg (by omega)]

theorem decodePayload_layout (payload : Bytes) (totalSize : Nat)
    (entryDecodes : ∀ present ∈ entry, wire.brokerEntryMetadata.RoundTrips present)
    (entryFits : ∀ present ∈ entry,
      (wire.brokerEntryMetadata.encode present).length < 256 ^ bemSizeLen)
    (metaDecodes : wire.metadata.RoundTrips metadata)
    (metaFits : (wire.metadata.encode metadata).length < 256 ^ metadataSizeLen)
    (lawful : wire.crc.Lawful) :
    decodePayload wire totalSize
        (layoutBrokerEntryMetadata wire entry (layoutChecksummed wire metadata payload)) =
      .ok { brokerEntryMetadata := entry, metadata := metadata, body := payload } := by
  have magic : get ((layoutChecksummed wire metadata payload).take magicLen) =
      magicCrc32c :=
    get_take_put_append _ _ _ (by decide)
  have peeled := decodeBrokerEntryMetadata_layout wire totalSize entryDecodes entryFits
    (by simp [layoutChecksummed]) magic
  have read := decodeChecksummed_layout wire payload totalSize metaDecodes lawful metaFits
  unfold decodePayload
  rw [peeled]
  simp only [bind, Except.bind]
  rw [read]

theorem layoutChecksummed_length (metadata : MessageMetadata) (payload : Bytes) :
    (layoutChecksummed wire metadata payload).length =
      magicLen + checksumLen + metadataSizeLen + (wire.metadata.encode metadata).length +
        payload.length := by
  simp only [layoutChecksummed, layoutMetadata, List.length_append, put_length]
  omega

/-- A prelude is no longer than the bytes in front of `rest`. -/
theorem length_le_layoutBrokerEntryMetadata (entry : Option BrokerEntryMetadata) (rest : Bytes) :
    rest.length ≤ (layoutBrokerEntryMetadata wire entry rest).length ∧
      ∀ present ∈ entry, (wire.brokerEntryMetadata.encode present).length ≤
        (layoutBrokerEntryMetadata wire entry rest).length := by
  cases entry with
  | none => simp [layoutBrokerEntryMetadata]
  | some =>
    simp only [layoutBrokerEntryMetadata, List.length_append, Option.mem_def,
      Option.some.injEq, forall_eq']
    omega

/-- A payload frame, with or without a broker's prelude, in front of any bytes. -/
theorem decodeOne_layoutPayloadFrame
    (payload suffix : Bytes) (cmdDecodes : wire.command.RoundTrips cmd)
    (entryDecodes : ∀ present ∈ entry, wire.brokerEntryMetadata.RoundTrips present)
    (metaDecodes : wire.metadata.RoundTrips metadata) (lawful : wire.crc.Lawful)
    (fits : (layoutPayloadFrame wire cmd entry metadata payload).length ≤
      totalSizeLen + maxFrameSize) :
    decodeOne wire (layoutPayloadFrame wire cmd entry metadata payload ++ suffix) =
      (.ok { command := cmd
             payload := some
               { brokerEntryMetadata := entry, metadata := metadata, body := payload } },
        suffix) := by
  let region := layoutBrokerEntryMetadata wire entry (layoutChecksummed wire metadata payload)
  have limit : maxFrameSize < 256 ^ 4 := by decide
  have contentLength : (layoutCommand wire cmd region).length =
      cmdSizeLen + ((wire.command.encode cmd).length + region.length) := by
    simp [layoutCommand]
  have contentFits : (layoutCommand wire cmd region).length ≤ maxFrameSize := by
    simp only [layoutPayloadFrame, layoutFrame, List.length_append, put_length] at fits
    exact Nat.le_of_add_le_add_left fits
  have checksummedLength := layoutChecksummed_length wire metadata payload
  obtain ⟨regionLength, entryLength⟩ := length_le_layoutBrokerEntryMetadata wire entry
    (layoutChecksummed wire metadata payload)
  have regionFilled : region.isEmpty = false := by
    have nonempty : region.length ≠ 0 := by
      have magic : magicLen = 2 := rfl
      change (layoutBrokerEntryMetadata wire entry _).length ≠ 0
      omega
    cases shape : region with
    | nil => simp [shape] at nonempty
    | cons => rfl
  have read := decodePayload_layout wire payload (layoutCommand wire cmd region).length
    entryDecodes
    (fun present member => by
      have bounded := entryLength present member
      change _ ≤ region.length at bounded
      change _ < 256 ^ 4
      omega)
    metaDecodes
    (by
      change _ ≤ region.length at regionLength
      change _ < 256 ^ 4
      omega)
    lawful
  change decodeOne wire (layoutFrame (layoutCommand wire cmd region) ++ suffix) = _
  rw [decodeOne_layoutFrame wire suffix (layoutCommand_ne_nil wire cmd region) contentFits,
    decodeContent_layoutCommand wire region _ cmdDecodes (by change _ < 256 ^ 4; omega),
    regionFilled]
  change (Except.map _ (decodePayload wire _ (layoutBrokerEntryMetadata wire entry
    (layoutChecksummed wire metadata payload))), suffix) = _
  rw [read]
  rfl

theorem decodeOne_layoutCommandFrame (suffix : Bytes) (cmdDecodes : wire.command.RoundTrips cmd)
    (fits : (layoutFrame (layoutCommand wire cmd [])).length ≤ totalSizeLen + maxFrameSize) :
    decodeOne wire (layoutFrame (layoutCommand wire cmd []) ++ suffix) =
      (.ok { command := cmd, payload := none }, suffix) := by
  have limit : maxFrameSize < 256 ^ 4 := by decide
  have contentLength : (layoutCommand wire cmd []).length =
      cmdSizeLen + (wire.command.encode cmd).length := by
    simp [layoutCommand]
  have contentFits : (layoutCommand wire cmd []).length ≤ maxFrameSize := by
    simp only [layoutFrame, List.length_append, put_length] at fits
    exact Nat.le_of_add_le_add_left fits
  rw [decodeOne_layoutFrame wire suffix (layoutCommand_ne_nil wire cmd []) contentFits,
    decodeContent_layoutCommand wire [] _ cmdDecodes (by change _ < 256 ^ 4; omega)]
  rfl

/-- Whatever an encoder writes within the frame limit, the decoder reads back from in front of any
bytes, which it leaves; so it does for the same frame with a broker's prelude. -/
theorem decodeOne_reads_encoded (lawful : wire.crc.Lawful) (cmd : Command)
    (metadata : MessageMetadata) (entry : Option BrokerEntryMetadata) (payload suffix : Bytes)
    (cmdDecodes : wire.command.RoundTrips cmd) (metaDecodes : wire.metadata.RoundTrips metadata)
    (entryDecodes : ∀ present ∈ entry, wire.brokerEntryMetadata.RoundTrips present) :
    (∀ dst written, encodeCommand wire dst cmd = .ok (dst ++ written) →
      written.length ≤ totalSizeLen + maxFrameSize →
      decodeOne wire (written ++ suffix) = (.ok { command := cmd, payload := none }, suffix)) ∧
    (∀ dst written, encodePayload wire dst cmd metadata payload = .ok (dst ++ written) →
      written.length ≤ totalSizeLen + maxFrameSize →
      decodeOne wire (written ++ suffix) =
        (.ok { command := cmd
               payload := some
                 { brokerEntryMetadata := none, metadata := metadata, body := payload } },
          suffix)) ∧
    ((layoutPayloadFrame wire cmd entry metadata payload).length ≤ totalSizeLen + maxFrameSize →
      decodeOne wire (layoutPayloadFrame wire cmd entry metadata payload ++ suffix) =
        (.ok { command := cmd
               payload := some
                 { brokerEntryMetadata := entry, metadata := metadata, body := payload } },
          suffix)) := by
  refine ⟨?_, ?_, decodeOne_layoutPayloadFrame wire payload suffix cmdDecodes entryDecodes
    metaDecodes lawful⟩
  · intro dst written encoded fits
    rw [encodeCommand_eq] at encoded
    split at encoded
    · obtain rfl := List.append_cancel_left (Except.ok.inj encoded)
      exact decodeOne_layoutCommandFrame wire suffix cmdDecodes fits
    · cases encoded
  · intro dst written encoded fits
    rw [encodePayload_eq wire lawful] at encoded
    split at encoded
    · obtain rfl := List.append_cancel_left (Except.ok.inj encoded)
      exact decodeOne_layoutPayloadFrame wire payload suffix cmdDecodes (by simp) metaDecodes
        lawful fits
    · cases encoded

/-- One record per codec, at the bytes prost gives it: a send of one message by producer 1, an
empty metadata and the broker index 5. -/
private def sampleWire : Wire Unit where
  command :=
    { encode := fun _ => [8, 6, 50, 6, 8, 1, 16, 0, 24, 1]
      decode := fun bytes => if bytes = [8, 6, 50, 6, 8, 1, 16, 0, 24, 1] then some () else none }
  metadata :=
    { encode := fun _ => [10, 0, 16, 0, 24, 0]
      decode := fun bytes => if bytes = [10, 0, 16, 0, 24, 0] then some {} else none }
  brokerEntryMetadata :=
    { encode := fun _ => [16, 5]
      decode := fun bytes => if bytes = [16, 5] then some { index := some 5 } else none }
  crc := Crc32c.castagnoli

theorem decodeOne_reads_encoded_send :
    (encodePayload sampleWire [7] () {} [1, 2, 3] =
        .ok ([7] ++ layoutPayloadFrame sampleWire () none {} [1, 2, 3]) ∧
      decodeOne sampleWire (layoutPayloadFrame sampleWire () none {} [1, 2, 3] ++ [9]) =
        (.ok { command := ()
               payload := some
                 { brokerEntryMetadata := none, metadata := {}, body := [1, 2, 3] } },
          [9])) ∧
    (layoutPayloadFrame sampleWire () (some { index := some 5 }) {} [1, 2, 3]).length = 45 ∧
      decodeOne sampleWire
          (layoutPayloadFrame sampleWire () (some { index := some 5 }) {} [1, 2, 3] ++ [9]) =
        (.ok { command := ()
               payload := some
                 { brokerEntryMetadata := some { index := some 5 }, metadata := {},
                   body := [1, 2, 3] } },
          [9]) := by
  have encoded : encodePayload sampleWire [7] () {} [1, 2, 3] =
      .ok ([7] ++ layoutPayloadFrame sampleWire () none {} [1, 2, 3]) :=
    (encodePayload_eq sampleWire Crc32c.castagnoli_lawful [7] () {} [1, 2, 3]).trans
      (if_pos (by decide))
  have length : (layoutPayloadFrame sampleWire () (some { index := some 5 }) {}
      [1, 2, 3]).length = 45 := by decide
  have reads := decodeOne_reads_encoded sampleWire Crc32c.castagnoli_lawful () {}
    (some { index := some 5 }) [1, 2, 3] [9] rfl rfl (by rintro present ⟨⟩; rfl)
  exact ⟨⟨encoded, reads.2.1 [7] _ encoded (by decide)⟩, length, reads.2.2 (length ▸ by decide)⟩

end Magnetar.Proto.Framing
