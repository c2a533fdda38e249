import Magnetar.Proto.Frame

/-!
Contract: where one frame ends and the next begins.

Owns: that the front-of-stream check and the decoder draw the same boundary, when a buffer is too
short for its announced frame, and that later bytes never change a verdict already reached.

Does not own: what a complete frame decodes to.
-/

namespace Magnetar.Proto.Framing

open Library Pb External

variable {Command : Type} (wire : Wire Command)

/-- The total size a buffer of at least four bytes announces. -/
def announcedSize (src : Bytes) : Nat :=
  BigEndian.get (src.take totalSizeLen)

theorem peekFullFrameLen_eq (src : Bytes) :
    peekFullFrameLen src =
      if src.length < totalSizeLen then .ok none
      else if announcedSize src = 0 then .error (.badLength (announcedSize src))
      else if announcedSize src > maxFrameSize then .error (.badLength (announcedSize src))
      else if src.length < totalSizeLen + announcedSize src then .ok none
      else .ok (some (totalSizeLen + announcedSize src)) :=
  rfl

theorem decodeOne_eq (src : Bytes) :
    decodeOne wire src =
      if src.length < totalSizeLen then (.error (.incomplete (totalSizeLen - src.length)), src)
      else if announcedSize src = 0 then (.error (.badLength (announcedSize src)), src)
      else if announcedSize src > maxFrameSize then (.error (.badLength (announcedSize src)), src)
      else if src.length < totalSizeLen + announcedSize src then
        (.error (.incomplete (totalSizeLen + announcedSize src - src.length)), src)
      else
        (decodeContent wire (announcedSize src)
          ((src.take (totalSizeLen + announcedSize src)).drop totalSizeLen),
          src.drop (totalSizeLen + announcedSize src)) :=
  rfl

/-- Too short to tell, or a legal announcement that the buffer does not hold yet. -/
def AwaitsBytes (src : Bytes) : Prop :=
  src.length < totalSizeLen ∨
    (0 < announcedSize src ∧ announcedSize src ≤ maxFrameSize ∧
      src.length < totalSizeLen + announcedSize src)

/-- An announcement no frame may have. -/
def AnnouncesBadLength (src : Bytes) : Prop :=
  totalSizeLen ≤ src.length ∧ (announcedSize src = 0 ∨ maxFrameSize < announcedSize src)

def HoldsFrame (src : Bytes) : Prop :=
  0 < announcedSize src ∧ announcedSize src ≤ maxFrameSize ∧
    totalSizeLen + announcedSize src ≤ src.length

theorem boundary_cases (src : Bytes) :
    AwaitsBytes src ∨ AnnouncesBadLength src ∨ HoldsFrame src := by
  unfold AwaitsBytes AnnouncesBadLength HoldsFrame
  omega

variable {src : Bytes}

theorem AwaitsBytes.peek (awaits : AwaitsBytes src) : peekFullFrameLen src = .ok none := by
  rw [peekFullFrameLen_eq]
  by_cases short : src.length < totalSizeLen
  · exact if_pos short
  · obtain ⟨positive, legal, truncated⟩ := awaits.resolve_left short
    rw [if_neg short, if_neg (by omega), if_neg (by omega), if_pos truncated]

theorem AnnouncesBadLength.peek (bad : AnnouncesBadLength src) :
    peekFullFrameLen src = .error (.badLength (announcedSize src)) := by
  obtain ⟨long, illegal⟩ := bad
  rw [peekFullFrameLen_eq, if_neg (by omega)]
  rcases illegal with zero | large
  · rw [if_pos zero]
  · rw [if_pos large, ite_self]

theorem HoldsFrame.peek (holds : HoldsFrame src) :
    peekFullFrameLen src = .ok (some (totalSizeLen + announcedSize src)) := by
  obtain ⟨positive, legal, long⟩ := holds
  rw [peekFullFrameLen_eq, if_neg (by omega), if_neg (by omega), if_neg (by omega),
    if_neg (by omega)]

theorem AwaitsBytes.decodeOne (awaits : AwaitsBytes src) :
    ∃ needed, decodeOne wire src = (.error (.incomplete needed), src) := by
  rw [decodeOne_eq]
  by_cases short : src.length < totalSizeLen
  · exact ⟨_, if_pos short⟩
  · obtain ⟨positive, legal, truncated⟩ := awaits.resolve_left short
    rw [if_neg short, if_neg (by omega), if_neg (by omega), if_pos truncated]
    exact ⟨_, rfl⟩

theorem AnnouncesBadLength.decodeOne (bad : AnnouncesBadLength src) :
    decodeOne wire src = (.error (.badLength (announcedSize src)), src) := by
  obtain ⟨long, illegal⟩ := bad
  rw [decodeOne_eq, if_neg (by omega)]
  rcases illegal with zero | large
  · rw [if_pos zero]
  · rw [if_pos large, ite_self]

theorem HoldsFrame.decodeOne (holds : HoldsFrame src) :
    decodeOne wire src =
      (decodeContent wire (announcedSize src)
        ((src.take (totalSizeLen + announcedSize src)).drop totalSizeLen),
        src.drop (totalSizeLen + announcedSize src)) := by
  obtain ⟨positive, legal, long⟩ := holds
  rw [decodeOne_eq, if_neg (by omega), if_neg (by omega), if_neg (by omega), if_neg (by omega)]

theorem HoldsFrame.drop_ne (holds : HoldsFrame src) :
    src.drop (totalSizeLen + announcedSize src) ≠ src := by
  obtain ⟨positive, _, long⟩ := holds
  intro same
  have shorter := congrArg List.length same
  rw [List.length_drop] at shorter
  omega

/-! ### Later bytes -/

theorem announcedSize_append (long : totalSizeLen ≤ src.length) (more : Bytes) :
    announcedSize (src ++ more) = announcedSize src := by
  unfold announcedSize
  rw [List.take_append_of_le_length long]

theorem HoldsFrame.append (holds : HoldsFrame src) (more : Bytes) :
    HoldsFrame (src ++ more) ∧ announcedSize (src ++ more) = announcedSize src := by
  unfold HoldsFrame at holds ⊢
  have same := announcedSize_append (show totalSizeLen ≤ src.length by omega) more
  rw [same, List.length_append]
  omega

theorem AnnouncesBadLength.append (bad : AnnouncesBadLength src) (more : Bytes) :
    AnnouncesBadLength (src ++ more) ∧ announcedSize (src ++ more) = announcedSize src := by
  unfold AnnouncesBadLength at bad ⊢
  have same := announcedSize_append bad.1 more
  rw [same, List.length_append]
  omega

/-! ### Incomplete buffers -/

/-- The decoder asks for more bytes, whatever it leaves of the buffer. -/
def ReturnsIncomplete (src : Bytes) : Prop :=
  ∃ needed, (decodeOne wire src).1 = .error (.incomplete needed)

/-- The bytes of a held frame behind its command. -/
def payloadRegion (src : Bytes) : Bytes :=
  let content := (src.take (totalSizeLen + announcedSize src)).drop totalSizeLen
  (content.drop cmdSizeLen).drop (BigEndian.get (content.take cmdSizeLen))

/-- The region ends inside its magic, or inside the checksum and the metadata size behind it. -/
def checksumCutShort (region : Bytes) : Bool :=
  decide (region.length < magicLen) ||
    (decide (BigEndian.get (region.take magicLen) = magicCrc32c) &&
      decide ((region.drop magicLen).length < checksumLen + metadataSizeLen))

/-- The region ends inside one of the fields of fixed width that its magics call for. -/
def payloadCutShort (region : Bytes) : Bool :=
  if region.length < magicLen then true
  else if BigEndian.get (region.take magicLen) = magicBrokerEntryMetadata then
    let rest := region.drop magicLen
    if rest.length < bemSizeLen then true
    else
      let bemSize := BigEndian.get (rest.take bemSizeLen)
      let rest := rest.drop bemSizeLen
      if bemSize > rest.length then false else checksumCutShort (rest.drop bemSize)
  else checksumCutShort region

/-- A whole frame whose payload region stops in the middle of a field. -/
def InnerCutShort (src : Bytes) : Prop :=
  HoldsFrame src ∧ payloadRegion src ≠ [] ∧ payloadCutShort (payloadRegion src) = true

variable {totalSize needed : Nat} {region : Bytes}

theorem decodeChecksummed_incomplete
    (asks : decodeChecksummed wire totalSize region = .error (.incomplete needed)) :
    checksumCutShort region = true := by
  unfold decodeChecksummed at asks
  dsimp only at asks
  unfold checksumCutShort
  split at asks
  · cases asks
  case isFalse magic =>
    split at asks
    case isTrue short =>
      rw [not_not] at magic
      rw [decide_eq_true magic, decide_eq_true short, Bool.and_true, Bool.or_true]
    case isFalse =>
      -- Past the two fixed fields nothing asks for bytes any more.
      split at asks
      · cases asks
      · split at asks
        · cases asks
        · split at asks <;> cases asks

theorem checksumCutShort_of_short (short : region.length < magicLen) :
    checksumCutShort region = true := by
  rw [checksumCutShort, decide_eq_true short, Bool.true_or]

/-- The prelude asks for bytes only where the region is cut short, and hands on a region that is
cut short exactly when its own is. -/
theorem decodeBrokerEntryMetadata_cut :
    (∀ needed, decodeBrokerEntryMetadata wire totalSize region = .error (.incomplete needed) →
      payloadCutShort region = true) ∧
    ∀ entry, decodeBrokerEntryMetadata wire totalSize region = .ok entry →
      payloadCutShort region = checksumCutShort entry.2 := by
  unfold decodeBrokerEntryMetadata payloadCutShort
  by_cases short : region.length < magicLen
  · rw [if_pos short, if_pos short]
    exact ⟨fun _ _ => rfl, nofun⟩
  rw [if_neg short, if_neg short]
  by_cases prelude : BigEndian.get (region.take magicLen) = magicBrokerEntryMetadata
  · rw [if_pos prelude, if_pos prelude]
    dsimp only
    generalize region.drop magicLen = rest
    by_cases sizeless : rest.length < bemSizeLen
    · rw [if_pos sizeless, if_pos sizeless]
      exact ⟨fun _ _ => rfl, nofun⟩
    rw [if_neg sizeless, if_neg sizeless]
    by_cases outside : BigEndian.get (rest.take bemSizeLen) > (rest.drop bemSizeLen).length
    · rw [if_pos outside, if_pos outside]
      exact ⟨nofun, nofun⟩
    rw [if_neg outside, if_neg outside]
    generalize (rest.drop bemSizeLen).drop (BigEndian.get (rest.take bemSizeLen)) = left
    cases wire.brokerEntryMetadata.decode _ with
    | none => exact ⟨nofun, nofun⟩
    | some =>
      dsimp only
      split
      case isTrue cut => exact ⟨fun _ _ => checksumCutShort_of_short cut, nofun⟩
      case isFalse => exact ⟨nofun, by rintro _ ⟨⟩; rfl⟩
  · rw [if_neg prelude, if_neg prelude]
    exact ⟨nofun, by rintro _ ⟨⟩; rfl⟩

theorem decodePayload_incomplete
    (asks : decodePayload wire totalSize region = .error (.incomplete needed)) :
    payloadCutShort region = true := by
  obtain ⟨cut, handed⟩ := @decodeBrokerEntryMetadata_cut _ wire totalSize region
  unfold decodePayload at asks
  cases entry : decodeBrokerEntryMetadata wire totalSize region with
  | error =>
    rw [entry] at asks cut
    cases asks
    exact cut needed rfl
  | ok entry' =>
    rw [handed entry' entry]
    rw [entry] at asks
    cases checked : decodeChecksummed wire totalSize entry'.2 with
    | error =>
      simp only [bind, Except.bind, checked] at asks
      cases asks
      exact decodeChecksummed_incomplete wire checked
    | ok => simp [bind, Except.bind, checked] at asks

theorem decodeContent_incomplete {content : Bytes}
    (asks : decodeContent wire totalSize content = .error (.incomplete needed)) :
    (content.drop cmdSizeLen).drop (BigEndian.get (content.take cmdSizeLen)) ≠ [] ∧
      payloadCutShort
        ((content.drop cmdSizeLen).drop (BigEndian.get (content.take cmdSizeLen))) = true := by
  unfold decodeContent at asks
  dsimp only at asks
  split at asks
  · cases asks
  · split at asks
    · cases asks
    · split at asks
      · cases asks
      · split at asks
        · cases asks
        case isFalse more =>
          rw [List.isEmpty_iff] at more
          refine ⟨more, ?_⟩
          cases payload : decodePayload wire totalSize
              ((content.drop cmdSizeLen).drop (BigEndian.get (content.take cmdSizeLen))) with
          | error =>
            rw [payload] at asks
            cases asks
            exact decodePayload_incomplete wire payload
          | ok =>
            rw [payload] at asks
            cases asks

/-- Unless a whole frame stops in the middle of an inner field, the decoder asks for more bytes
exactly when the buffer is too short for a legal announcement, and then keeps the buffer.  The
front-of-stream check agrees with it, and on every buffer the two draw the same boundary. -/
theorem incomplete_is_outer (src : Bytes) :
    (¬ InnerCutShort src →
      (ReturnsIncomplete wire src ↔
        src.length < totalSizeLen ∨
          (0 < announcedSize src ∧ announcedSize src ≤ maxFrameSize ∧
            src.length < totalSizeLen + announcedSize src)) ∧
      (ReturnsIncomplete wire src → (decodeOne wire src).2 = src) ∧
      (peekFullFrameLen src = .ok none ↔ ReturnsIncomplete wire src)) ∧
    (∀ len, peekFullFrameLen src = .ok (some len) ↔
      (decodeOne wire src).2 ≠ src ∧ (decodeOne wire src).2 = src.drop len ∧
        len = totalSizeLen + announcedSize src) ∧
    (∀ size, peekFullFrameLen src = .error (.badLength size) ↔
      decodeOne wire src = (.error (.badLength size), src)) := by
  change (_ → (_ ↔ AwaitsBytes src) ∧ _) ∧ _
  rcases boundary_cases src with awaits | bad | holds
  · obtain ⟨needed, decoded⟩ := awaits.decodeOne wire
    have incomplete : ReturnsIncomplete wire src := ⟨needed, congrArg Prod.fst decoded⟩
    refine ⟨fun _ => ⟨iff_of_true incomplete awaits, fun _ => congrArg Prod.snd decoded,
      iff_of_true awaits.peek incomplete⟩, ?_, ?_⟩
    · intro len
      rw [awaits.peek, decoded]
      simp
    · intro size
      rw [awaits.peek, decoded]
      simp
  · have complete : ¬ ReturnsIncomplete wire src := by
      rintro ⟨needed, decoded⟩
      rw [bad.decodeOne wire] at decoded
      simp at decoded
    have settled : ¬ AwaitsBytes src := by
      unfold AwaitsBytes
      unfold AnnouncesBadLength at bad
      omega
    refine ⟨fun _ => ⟨iff_of_false complete settled, fun asks => absurd asks complete,
      iff_of_false (by simp [bad.peek]) complete⟩, ?_, ?_⟩
    · intro len
      rw [bad.peek, bad.decodeOne wire]
      simp
    · intro size
      rw [bad.peek, bad.decodeOne wire]
      simp
  · have moved := holds.drop_ne
    have settled : ¬ AwaitsBytes src := by
      unfold AwaitsBytes
      unfold HoldsFrame at holds
      omega
    refine ⟨?_, ?_, ?_⟩
    · intro whole
      have complete : ¬ ReturnsIncomplete wire src := by
        rintro ⟨needed, decoded⟩
        rw [holds.decodeOne wire] at decoded
        exact whole ⟨holds, decodeContent_incomplete wire decoded⟩
      exact ⟨iff_of_false complete settled, fun asks => absurd asks complete,
        iff_of_false (by simp [holds.peek]) complete⟩
    · intro len
      rw [holds.peek, holds.decodeOne wire]
      constructor
      · rintro ⟨⟩
        exact ⟨moved, rfl, rfl⟩
      · rintro ⟨_, _, rfl⟩
        rfl
    · intro size
      rw [holds.peek, holds.decodeOne wire]
      simp [moved]

private def pingWire : Wire Unit where
  command :=
    { encode := fun _ => [8, 18]
      decode := fun bytes => if bytes = [8, 18] then some () else none }
  metadata := default
  brokerEntryMetadata := default
  crc := Crc32c.castagnoli

/-- Four bytes that announce too large a frame are refused, although the frame is not there; and a
whole frame that ends one byte into its magic asks for one more byte, with the frame gone. -/
theorem incomplete_is_not_outer :
    decodeOne pingWire [255, 255, 255, 255] =
        (.error (.badLength 4294967295), [255, 255, 255, 255]) ∧
      peekFullFrameLen [0, 0, 0, 7, 0, 0, 0, 2, 8, 18, 14] = .ok (some 11) ∧
      decodeOne pingWire [0, 0, 0, 7, 0, 0, 0, 2, 8, 18, 14] = (.error (.incomplete 1), []) := by
  decide

end Magnetar.Proto.Framing
