import Mathlib.Algebra.Group.Nat.Defs
import ChannelAccess.Proofs.Framing.Layout
import ChannelAccess.Proofs.Text.Utf8Codec
import ChannelAccess.Wire.SearchPacket

/-!
# Messages on the wire

A message is read exactly where a frame stands, and holds that frame's values
(`Message.parse_eq_ok_iff`).

A message is read back from its bytes with its payload padded, whatever follows it, as long as the
padded payload's length fits 32 bits (`Message.parse_toBytes_append`). A version and a search are
read back as they were (`Version.parse_toBytes_append`, `SearchRequest.parse_toBytes_append`), a
search if its name is `Sendable`: the terminating zero byte is the first one, and the length fits.
-/

namespace ChannelAccess

namespace Message

/-! ## Messages that are read -/

section

variable {message : Message} {bytes rest : List UInt8}

/-- A message is read exactly where a frame stands, and holds what the frame holds. -/
theorem parse_eq_ok_iff :
    parse bytes = .ok (message, rest) ↔
      ∃ frame, Frame.parse? bytes = some (frame, rest) ∧
        message = ofFrame frame.header frame.payload := by
  unfold parse Frame.parse?
  cases Header.parse? bytes with
  | none => simp
  | some result =>
    obtain ⟨header, after⟩ := result
    dsimp only
    by_cases whole : header.payloadSize.toNat ≤ after.length
    · rw [if_pos whole, if_neg (Nat.not_lt.mpr whole)]
      constructor
      · intro read
        simp only [Except.ok.injEq, Prod.mk.injEq] at read
        obtain ⟨rfl, rfl⟩ := read
        exact ⟨_, rfl, rfl⟩
      · rintro ⟨frame, stands, rfl⟩
        simp only [Option.some.injEq, Prod.mk.injEq] at stands
        obtain ⟨rfl, rfl⟩ := stands
        rfl
    · rw [if_neg whole, if_pos (Nat.not_le.mp whole)]
      simp

/-- Reading fails where no frame is complete. -/
theorem exists_error_of_none (none : Frame.parse? bytes = none) :
    ∃ error, parse bytes = .error error := by
  cases read : parse bytes with
  | error error => exact ⟨error, rfl⟩
  | ok result =>
    obtain ⟨message, rest⟩ := result
    obtain ⟨frame, stands, -⟩ := parse_eq_ok_iff.mp read
    rw [none] at stands
    contradiction

/-- A message of some command is read exactly where a frame of that command stands. -/
theorem parseOf_eq_ok_iff {command : UInt16} :
    parseOf command bytes = .ok (message, rest) ↔
      ∃ frame, Frame.parse? bytes = some (frame, rest) ∧ frame.header.command = command ∧
        message = ofFrame frame.header frame.payload := by
  unfold parseOf
  constructor
  · intro read
    cases parsed : parse bytes with
    | error error =>
      rw [parsed] at read
      contradiction
    | ok result =>
      rw [parsed] at read
      simp only [bind, Except.bind] at read
      -- The whole message was read before its command was compared.
      split at read
      · rename_i isCommand
        simp only [Except.ok.injEq, Prod.mk.injEq] at read
        obtain ⟨rfl, rfl⟩ := read
        obtain ⟨frame, stands, isMessage⟩ := parse_eq_ok_iff.mp parsed
        rw [isMessage] at isCommand
        exact ⟨frame, stands, isCommand, isMessage⟩
      · contradiction
  · rintro ⟨frame, stands, isCommand, rfl⟩
    rw [parse_eq_ok_iff.mpr ⟨frame, stands, rfl⟩]
    exact if_pos isCommand

/-- A value that is made from a message of some command is read exactly where a frame of that
command stands, and is made from what the frame holds. -/
theorem parseOf_bind_eq_ok_iff {α : Type} {command : UInt16} (make : Message → α) {value : α} :
    (parseOf command bytes >>= fun result => Except.ok (make result.1, result.2)) =
        .ok (value, rest) ↔
      ∃ (frame : Frame) (piece : List UInt8), frame.Layout piece ∧
        frame.header.command = command ∧ value = make (ofFrame frame.header frame.payload) ∧
        bytes = piece ++ rest := by
  constructor
  · intro read
    cases parsed : parseOf command bytes with
    | error error =>
      rw [parsed] at read
      contradiction
    | ok result =>
      obtain ⟨message, after⟩ := result
      rw [parsed] at read
      simp only [bind, Except.bind, Except.ok.injEq, Prod.mk.injEq] at read
      obtain ⟨rfl, rfl⟩ := read
      obtain ⟨frame, stands, isCommand, rfl⟩ := parseOf_eq_ok_iff.mp parsed
      obtain ⟨piece, layout, whole⟩ := Frame.parse?_eq_some_iff.mp stands
      exact ⟨frame, piece, layout, isCommand, rfl, whole⟩
  · rintro ⟨frame, piece, layout, isCommand, rfl, rfl⟩
    rw [parseOf_eq_ok_iff.mpr ⟨frame, layout.parse?_append rest, isCommand, rfl⟩]
    rfl

/-- A whole frame of another command is reported where it starts. -/
theorem parseOf_of_ne {command : UInt16} {frame : Frame}
    (stands : Frame.parse? bytes = some (frame, rest)) (other : frame.header.command ≠ command) :
    parseOf command bytes = .error (.wrongCommand bytes.length) := by
  unfold parseOf
  rw [parse_eq_ok_iff.mpr ⟨frame, stands, rfl⟩]
  exact if_neg other

end

/-! ## Messages that are written -/

/-- The header of a message declares the length of the padded payload, if that fits. -/
theorem payloadSize_header {message : Message}
    (fits : (Terminated.pad message.payload).length < 2 ^ 32) :
    message.header.payloadSize.toNat = (Terminated.pad message.payload).length := by
  show (UInt32.ofNat (Terminated.pad message.payload).length).toNat = _
  exact UInt32.toNat_ofNat_of_lt fits

/-- A message with a small count needs an extended header for a long payload only. -/
theorem isExtended_header {message : Message}
    (fits : (Terminated.pad message.payload).length < 2 ^ 32)
    (count : message.dataCount.toNat ≤ extendedSentinel.toNat) :
    message.header.isExtended =
      decide (extendedSentinel.toNat ≤ (Terminated.pad message.payload).length) := by
  have small : ¬ extendedSentinel.toNat < message.header.dataCount.toNat := Nat.not_lt.mpr count
  rw [Header.isExtended, payloadSize_header fits, decide_eq_false small, Bool.or_false]
  rfl

/-- A written message with a small count takes its padded payload and a header, which is a standard
one if the payload is short. -/
theorem length_toBytes_of_count (message : Message)
    (fits : (Terminated.pad message.payload).length < 2 ^ 32)
    (count : message.dataCount.toNat ≤ extendedSentinel.toNat) :
    message.toBytes.length =
      (if (Terminated.pad message.payload).length < extendedSentinel.toNat then standardHeaderLength
        else extendedHeaderLength) + (Terminated.pad message.payload).length := by
  rw [toBytes, List.length_append, Header.length_toBytes, Header.encodedLength,
    isExtended_header fits count]
  by_cases short : (Terminated.pad message.payload).length < extendedSentinel.toNat
  · rw [if_pos short, decide_eq_false (Nat.not_le.mpr short)]
    rfl
  · rw [if_neg short, decide_eq_true (Nat.not_lt.mp short)]
    rfl

/-- A written message with a short payload and a small count takes a standard header and its padded
payload. -/
theorem length_toBytes_of_short (message : Message)
    (size : (Terminated.pad message.payload).length < extendedSentinel.toNat)
    (count : message.dataCount.toNat ≤ extendedSentinel.toNat) :
    message.toBytes.length = standardHeaderLength + (Terminated.pad message.payload).length := by
  have fits := Nat.lt_trans size (show extendedSentinel.toNat < 2 ^ 32 by decide)
  rw [message.length_toBytes_of_count fits count, if_pos size]

/-- The bytes of a message are the frame of its header, in the form that this takes, and of its
payload padded. -/
theorem layout_toBytes (message : Message)
    (fits : (Terminated.pad message.payload).length < 2 ^ 32) :
    Frame.Layout
      ⟨{ message.header with extended := message.header.isExtended },
        Terminated.pad message.payload⟩ message.toBytes :=
  ⟨message.header.toBytes, message.header.layout_toBytes, rfl, (payloadSize_header fits).symm⟩

/-- A message is read back with its payload padded. -/
theorem parse_toBytes_append (message : Message)
    (fits : (Terminated.pad message.payload).length < 2 ^ 32) (rest : List UInt8) :
    parse (message.toBytes ++ rest) =
      .ok ({ message with payload := Terminated.pad message.payload }, rest) :=
  parse_eq_ok_iff.mpr ⟨_, (message.layout_toBytes fits).parse?_append rest, rfl⟩

/-- A message of the command asked for is read back with its payload padded. -/
theorem parseOf_toBytes_append {command : UInt16} (message : Message)
    (isCommand : message.command = command)
    (fits : (Terminated.pad message.payload).length < 2 ^ 32) (rest : List UInt8) :
    parseOf command (message.toBytes ++ rest) =
      .ok ({ message with payload := Terminated.pad message.payload }, rest) :=
  parseOf_eq_ok_iff.mpr ⟨_, (message.layout_toBytes fits).parse?_append rest, isCommand, rfl⟩

end Message

/-- A 16-bit value is read back from 32 bits. -/
theorem toUInt16_toUInt32 (value : UInt16) : value.toUInt32.toUInt16 = value := by
  apply UInt16.toNat_inj.mp
  rw [UInt32.toNat_toUInt16, UInt16.toNat_toUInt32]
  exact Nat.mod_eq_of_lt value.toNat_lt

namespace Version

/-- A version has no payload. -/
theorem pad_payload (version : Version) : Terminated.pad version.message.payload = [] := by
  show Terminated.pad [] = []
  decide

/-- A version is read back. -/
theorem parse_toBytes_append (version : Version) (rest : List UInt8) :
    parse ((Request.version version).toBytes ++ rest) = .ok (version, rest) := by
  have padded := pad_payload version
  have read := Message.parseOf_toBytes_append version.message
    (show version.message.command = Command.version from rfl) (by rw [padded]; decide) rest
  rw [padded] at read
  unfold parse Request.toBytes Request.message
  dsimp only
  rw [read]
  show Except.ok (({ version with
    protocolVersion := version.protocolVersion.toUInt32.toUInt16 } : Version), rest) = _
  rw [toUInt16_toUInt32]

/-- A version takes a standard header. -/
theorem length_toBytes (version : Version) :
    (Request.version version).toBytes.length = standardHeaderLength := by
  have padded := pad_payload version
  have count : version.message.dataCount.toNat ≤ extendedSentinel.toNat := by
    show version.protocolVersion.toUInt32.toNat ≤ 65535
    rw [UInt16.toNat_toUInt32]
    exact Nat.le_of_lt_succ version.protocolVersion.toNat_lt
  have total := Message.length_toBytes_of_short version.message
    (by rw [padded]; decide) count
  rw [padded] at total
  exact total

end Version

namespace SearchRequest

/-- The name can be sent: it holds no NUL character, and its field's length fits 32 bits. -/
structure Sendable (search : SearchRequest) : Prop where
  /-- The first zero byte is the terminating one. -/
  noNul : '\x00' ∉ search.name.toList
  /-- The length of the field fits. -/
  fits : (Terminated.terminate search.name).length < 2 ^ 32

/-- The field of a name is padded already. -/
theorem pad_payload (search : SearchRequest) :
    Terminated.pad search.message.payload = Terminated.terminate search.name :=
  Terminated.pad_terminate search.name

/-- A search is read back. -/
theorem parse_toBytes_append {search : SearchRequest} (sendable : search.Sendable)
    (rest : List UInt8) :
    parse ((Request.search search).toBytes ++ rest) = .ok (search, rest) := by
  have padded := pad_payload search
  have read := Message.parseOf_toBytes_append search.message
    (show search.message.command = Command.search from rfl) (by rw [padded]; exact sendable.fits)
    rest
  rw [padded] at read
  have wantsReply : ((if search.wantsReply then searchWantsReply else searchWantsNoReply) ==
      searchWantsReply) = search.wantsReply := by
    cases search.wantsReply <;> rfl
  unfold parse Request.toBytes Request.message
  dsimp only
  rw [read]
  show Except.ok (({ channelId := search.channelId
                     name := Terminated.ofField (Terminated.terminate search.name)
                     wantsReply := _ == searchWantsReply
                     protocolVersion := search.protocolVersion.toUInt32.toUInt16 } :
    SearchRequest), rest) = _
  rw [Terminated.ofField_terminate sendable.noNul, toUInt16_toUInt32]
  exact congrArg (fun reply => Except.ok (({ search with wantsReply := reply } : SearchRequest),
    rest)) wantsReply

/-- A search takes its name's field and a header, which is a standard one if the field is short. -/
theorem length_toBytes (search : SearchRequest)
    (fits : (Terminated.terminate search.name).length < 2 ^ 32) :
    (Request.search search).toBytes.length =
      (if (Terminated.terminate search.name).length < extendedSentinel.toNat then
        standardHeaderLength else extendedHeaderLength) +
          (Terminated.terminate search.name).length := by
  have padded := pad_payload search
  have count : search.message.dataCount.toNat ≤ extendedSentinel.toNat := by
    show search.protocolVersion.toUInt32.toNat ≤ 65535
    rw [UInt16.toNat_toUInt32]
    exact Nat.le_of_lt_succ search.protocolVersion.toNat_lt
  have total := search.message.length_toBytes_of_count (by rw [padded]; exact fits) count
  rw [padded] at total
  exact total

/-- A search whose name's field is short takes the bytes that it is taken to add to a datagram. -/
theorem length_toBytes_of_short {search : SearchRequest}
    (short : (Terminated.terminate search.name).length < extendedSentinel.toNat) :
    (Request.search search).toBytes.length = search.encodedLength := by
  have fits := Nat.lt_trans short (show extendedSentinel.toNat < 2 ^ 32 by decide)
  rw [search.length_toBytes fits, if_pos short, encodedLength]

end SearchRequest

end ChannelAccess
