import ChannelAccess.Proofs.Search.Operations
import ChannelAccess.Proofs.Text.Cuts
import ChannelAccess.Proofs.Wire.MessageCodec

/-!
# How long searches are

Whether a search still fits the datagram is decided before it is written, by the length that it is
taken to have. That length counts a standard header. `search_length_exact_iff` says that this is
right for names of fewer than 65528 bytes; a longer one is written under an extended header, eight
bytes longer (`not_exact_longName`). The decision is right nevertheless, since a name that long does
not fit any datagram (`SearchManager.withRequest_eq`).
-/

namespace ChannelAccess

/-- The field of a text is the least multiple of eight bytes that has room for a zero byte after
it. -/
theorem Terminated.length_terminate (text : String) :
    (terminate text).length = (Utf8.encode text).length / 8 * 8 + 8 := by
  rw [terminate, length_pad, padding, List.length_append, List.length_singleton]
  omega

/-- A search adds its bytes to the datagram. -/
theorem SearchFrame.length_push (frame : SearchFrame) (search : SearchRequest) :
    (frame.push search).buffer.length =
      frame.buffer.length + (Request.search search).toBytes.length :=
  List.length_append

namespace SearchRequest

variable (search : SearchRequest)

/-- A search adds what it is taken to add to a datagram, and eight bytes more if its name is
long. -/
theorem length_toBytes_eq (fits : (Terminated.terminate search.name).length < 2 ^ 32) :
    (Request.search search).toBytes.length =
      search.encodedLength + if (Utf8.encode search.name).length < 65528 then 0 else 8 := by
  have sentinel : extendedSentinel.toNat = 65535 := by decide
  have field := Terminated.length_terminate search.name
  rw [search.length_toBytes fits, encodedLength, standardHeaderLength, extendedHeaderLength]
  -- The longest field below the sentinel, 65528 bytes, holds a name of up to 65527.
  split <;> split <;> omega

/-- A search is taken to be too long for the rest of a datagram exactly if it is. -/
theorem lt_length_push_iff (fits : (Terminated.terminate search.name).length < 2 ^ 32)
    (frame : SearchFrame) :
    maxDatagramSend < frame.buffer.length + search.encodedLength ↔
      maxDatagramSend < (frame.push search).buffer.length := by
  rw [frame.length_push, search.length_toBytes_eq fits]
  split
  · rw [Nat.add_zero]
  · rename_i long
    -- A long name makes either length too large.
    have tooLong : maxDatagramSend < search.encodedLength := by
      have field := Terminated.length_terminate search.name
      rw [encodedLength, standardHeaderLength, maxDatagramSend]
      omega
    exact iff_of_true (by omega) (by omega)

end SearchRequest

/-- A datagram is sent before a request is added exactly if it would be too long with it. -/
theorem SearchManager.withRequest_eq (manager : SearchManager) (search : PendingSearch)
    (fits : (Terminated.terminate search.name).length < 2 ^ 32) :
    manager.withRequest search =
      let full := 0 < manager.frame.searches ∧
        maxDatagramSend < (manager.frame.push search.request).buffer.length
      let manager := if full then manager.flush else manager
      { manager with frame := manager.frame.started.push search.request } := by
  have isFull := search.request.lt_length_push_iff fits manager.frame
  simp only [withRequest, isFull]

/-- **How long searches are taken to be is exact but for long names.** If the padded name's length
fits 32 bits, the length that a search is taken to have is the number of its bytes exactly if the
name has fewer than 65528. A longer one takes eight bytes more, for its extended header. Whatever
the name is, the search is taken to be too long for the rest of a datagram exactly if the datagram
would be too long with it. -/
theorem search_length_exact_iff (search : SearchRequest)
    (fits : (Terminated.terminate search.name).length < 2 ^ 32) :
    (search.encodedLength = (Request.search search).toBytes.length ↔
      (Utf8.encode search.name).length < 65528) ∧
    (65528 ≤ (Utf8.encode search.name).length →
      (Request.search search).toBytes.length = search.encodedLength + 8) ∧
    ∀ frame : SearchFrame,
      maxDatagramSend < frame.buffer.length + search.encodedLength ↔
        maxDatagramSend < (frame.push search).buffer.length := by
  refine ⟨?_, fun long => ?_, search.lt_length_push_iff fits⟩
  · rw [search.length_toBytes_eq fits]
    split <;> omega
  · rw [search.length_toBytes_eq fits, if_neg (Nat.not_lt.mpr long)]

/-- A search for a name of so many letters that asks for a reply. -/
def searchForLetters (number : Nat) : SearchRequest where
  channelId := 7
  name := String.ofList (List.replicate number 'N')
  wantsReply := true

theorem length_encode_searchForLetters (number : Nat) :
    (Utf8.encode (searchForLetters number).name).length = number := by
  have size : 'N'.utf8Size = 1 := by decide
  rw [searchForLetters, Utf8.encode_ofList, Utf8.length_encodeChars_replicate, size, Nat.mul_one]

theorem length_terminate_searchForLetters (number : Nat) :
    (Terminated.terminate (searchForLetters number).name).length = number / 8 * 8 + 8 := by
  rw [Terminated.length_terminate, length_encode_searchForLetters]

/-- A name of 65527 letters is the longest that a search is right about, and one letter more takes
eight bytes that it does not count. -/
theorem search_length_exact_iff_longestExact :
    (searchForLetters 65527).encodedLength =
        (Request.search (searchForLetters 65527)).toBytes.length ∧
      (Request.search (searchForLetters 65528)).toBytes.length =
        (searchForLetters 65528).encodedLength + 8 := by
  have short := length_encode_searchForLetters 65527
  have long := length_encode_searchForLetters 65528
  constructor
  · refine (search_length_exact_iff (searchForLetters 65527) ?_).1.mpr ?_
    · rw [length_terminate_searchForLetters]
      decide
    · omega
  · refine (search_length_exact_iff (searchForLetters 65528) ?_).2.1 ?_
    · rw [length_terminate_searchForLetters]
      decide
    · omega

/-- A search for a name of 65528 letters is taken to add eight bytes less than it does. -/
theorem not_exact_longName :
    (searchForLetters 65528).encodedLength = 65552 ∧
      (Request.search (searchForLetters 65528)).toBytes.length = 65560 := by
  have field := length_terminate_searchForLetters 65528
  have taken : (searchForLetters 65528).encodedLength = 65552 := by
    rw [SearchRequest.encodedLength, field]
    rfl
  refine ⟨taken, ?_⟩
  rw [SearchRequest.length_toBytes_eq _ (by rw [field]; decide), taken,
    length_encode_searchForLetters]
  rfl

end ChannelAccess
