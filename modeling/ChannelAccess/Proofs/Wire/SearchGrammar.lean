import ChannelAccess.Proofs.Wire.MessageCodec

/-!
# What a search datagram is

`SearchPacket.Layout` is the grammar of search datagrams: one frame of a protocol version, then one
frame for each search, and nothing else. `SearchPacket.Fault` says in which ways bytes fall short of
it, and with which error each is reported. All bytes are one or the other
(`SearchPacket.exists_layout_or_fault`), and reading gives the searches of the first and the error
of the second (`SearchPacket.Layout.parse_eq`, `SearchPacket.Fault.parse_eq`). Since reading is a
function, it gives searches exactly where the grammar has them, and each error exactly where there
is its fault (`search_packets_read_iff`).

What is written follows the grammar, so that it is read back (`SearchPacket.parse_toBytes`).
-/

namespace ChannelAccess

/-! ## Searches -/

namespace SearchRequest

/-- The search that a frame carries. Its name is what stands before the first zero byte of the
payload. -/
def ofFrame (frame : Frame) : SearchRequest where
  channelId := frame.header.parameter1
  name := Terminated.ofField frame.payload
  wantsReply := frame.header.dataType == searchWantsReply
  protocolVersion := frame.header.dataCount.toUInt16

/-- The bytes are one frame, of the command for searches, which carries the search. -/
def Layout (search : SearchRequest) (bytes : List UInt8) : Prop :=
  ∃ frame : Frame, frame.Layout bytes ∧ frame.header.command = Command.search ∧
    search = ofFrame frame

variable {search : SearchRequest} {bytes rest piece : List UInt8}

/-- A search takes at least one byte. -/
theorem Layout.length_pos (layout : search.Layout piece) : 0 < piece.length := by
  obtain ⟨frame, stands, -, -⟩ := layout
  rw [stands.length_eq]
  exact Frame.frameLength_pos frame.header

/-- A search is read exactly from where it stands. -/
theorem parse_eq_ok_iff :
    parse bytes = .ok (search, rest) ↔ ∃ piece, search.Layout piece ∧ bytes = piece ++ rest := by
  refine (Message.parseOf_bind_eq_ok_iff fun message : Message =>
    ({ channelId := message.parameter1, name := Terminated.ofField message.payload,
       wantsReply := message.dataType == searchWantsReply,
       protocolVersion := message.dataCount.toUInt16 } : SearchRequest)).trans ⟨?_, ?_⟩
  · rintro ⟨frame, piece, layout, isSearch, isValue, whole⟩
    exact ⟨piece, ⟨frame, layout, isSearch, isValue⟩, whole⟩
  · rintro ⟨piece, ⟨frame, layout, isSearch, isValue⟩, whole⟩
    exact ⟨frame, piece, layout, isSearch, isValue, whole⟩

/-- A written search stands where it was written. -/
theorem layout_toBytes (sendable : search.Sendable) :
    search.Layout (Request.search search).toBytes := by
  obtain ⟨piece, layout, whole⟩ := parse_eq_ok_iff.mp (parse_toBytes_append sendable [])
  rw [List.append_nil, List.append_nil] at whole
  exact whole ▸ layout

end SearchRequest

/-! ## Versions -/

namespace Version

/-- The version that a frame carries. -/
def ofFrame (frame : Frame) : Version where
  priority := frame.header.dataType
  protocolVersion := frame.header.dataCount.toUInt16
  sequence := frame.header.parameter1

/-- The bytes are one frame, of the command for versions, which carries the version. -/
def Layout (version : Version) (bytes : List UInt8) : Prop :=
  ∃ frame : Frame, frame.Layout bytes ∧ frame.header.command = Command.version ∧
    version = ofFrame frame

variable {version : Version} {bytes rest : List UInt8}

/-- A version is read exactly from where it stands. -/
theorem parse_eq_ok_iff :
    parse bytes = .ok (version, rest) ↔ ∃ piece, version.Layout piece ∧ bytes = piece ++ rest := by
  refine (Message.parseOf_bind_eq_ok_iff fun message : Message =>
    ({ priority := message.dataType, protocolVersion := message.dataCount.toUInt16,
       sequence := message.parameter1 } : Version)).trans ⟨?_, ?_⟩
  · rintro ⟨frame, piece, layout, isVersion, isValue, whole⟩
    exact ⟨piece, ⟨frame, layout, isVersion, isValue⟩, whole⟩
  · rintro ⟨piece, ⟨frame, layout, isVersion, isValue⟩, whole⟩
    exact ⟨frame, piece, layout, isVersion, isValue, whole⟩

/-- A written version stands where it was written. -/
theorem layout_toBytes (version : Version) :
    version.Layout (Request.version version).toBytes := by
  obtain ⟨piece, layout, whole⟩ := parse_eq_ok_iff.mp (parse_toBytes_append version [])
  rw [List.append_nil, List.append_nil] at whole
  exact whole ▸ layout

end Version

/-! ## Search datagrams -/

namespace SearchPacket

/-- The bytes are a version followed by the searches, in order, and by nothing else. -/
def Layout (searches : List SearchRequest) (bytes : List UInt8) : Prop :=
  ∃ (version : Version) (first : List UInt8) (pieces : List (List UInt8)), version.Layout first ∧
    List.Forall₂ SearchRequest.Layout searches pieces ∧ bytes = first ++ pieces.flatten

/-- No search stands at the front of the bytes. -/
def NoSearch (bytes : List UInt8) : Prop :=
  ∀ (search : SearchRequest) (piece : List UInt8), search.Layout piece → ¬ piece <+: bytes

/-- Why bytes are no search datagram, and the error that says so. It carries the number of bytes
from where reading failed to the end. -/
inductive Fault (bytes : List UInt8) : ReadError → Prop where
  /-- The first header is not complete. -/
  | header (missing : Header.parse? bytes = none) : Fault bytes (.endOfInput bytes.length)
  /-- The payload that the first header declares is not complete. -/
  | payload {header : Header} {rest : List UInt8}
      (parsed : Header.parse? bytes = some (header, rest))
      (missing : rest.length < header.payloadSize.toNat) : Fault bytes (.endOfInput rest.length)
  /-- The first frame is no version. -/
  | command {frame : Frame} {piece rest : List UInt8} (layout : frame.Layout piece)
      (whole : bytes = piece ++ rest) (other : frame.header.command ≠ Command.version) :
    Fault bytes (.wrongCommand bytes.length)
  /-- Behind the last search comes something that is no search, be it a frame of another command or
  the beginning of a frame. -/
  | leftOver {version : Version} {first : List UInt8} {searches : List SearchRequest}
      {pieces : List (List UInt8)} {left : List UInt8} (isFirst : version.Layout first)
      (requests : List.Forall₂ SearchRequest.Layout searches pieces) (noSearch : NoSearch left)
      (nonempty : left ≠ []) (whole : bytes = first ++ (pieces.flatten ++ left)) :
    Fault bytes (.endOfInput left.length)

variable {version : Version} {searches : List SearchRequest} {pieces : List (List UInt8)}
  {bytes first left : List UInt8}

/-- No search stands in no bytes. -/
theorem noSearch_nil : NoSearch [] := by
  intro search piece layout start
  have positive := layout.length_pos
  rw [List.prefix_nil.mp start] at positive
  exact Nat.lt_irrefl 0 positive

/-- Where no search stands, none is read. -/
theorem NoSearch.exists_error (noSearch : NoSearch left) :
    ∃ error, SearchRequest.parse left = .error error := by
  cases read : SearchRequest.parse left with
  | error error => exact ⟨error, rfl⟩
  | ok result =>
    obtain ⟨search, rest⟩ := result
    obtain ⟨piece, layout, rfl⟩ := SearchRequest.parse_eq_ok_iff.mp read
    exact absurd (List.prefix_append piece rest) (noSearch search piece layout)

/-- The searches at the front are read up to where no search stands. -/
theorem searchesOnto_append (requests : List.Forall₂ SearchRequest.Layout searches pieces)
    (noSearch : NoSearch left) (read : List SearchRequest) :
    searchesOnto read (pieces.flatten ++ left) = (read.reverse ++ searches, left) := by
  -- The searches read so far change in each step, and each step takes one piece off the front.
  induction requests generalizing read with
  | nil =>
    obtain ⟨error, fails⟩ := noSearch.exists_error
    rw [List.flatten_nil, List.nil_append, List.append_nil, searchesOnto]
    split
    · rfl
    · rename_i found
      rw [fails] at found
      contradiction
  | @cons search piece searches pieces layout _ ih =>
    have isRead := SearchRequest.parse_eq_ok_iff.mpr
      ⟨piece, layout, List.append_assoc piece pieces.flatten left⟩
    rw [List.flatten_cons, searchesOnto]
    split
    · rename_i found
      rw [isRead] at found
      contradiction
    · rename_i found
      rw [isRead] at found
      simp only [Except.ok.injEq, Prod.mk.injEq] at found
      obtain ⟨rfl, rfl⟩ := found
      dsimp only
      rw [ih, List.reverse_cons, List.append_assoc]
      rfl

/-- Some searches, possibly none, stand at the front of any bytes, and no other behind them. -/
theorem exists_requests (bytes : List UInt8) :
    ∃ searches pieces left, List.Forall₂ SearchRequest.Layout searches pieces ∧ NoSearch left ∧
      bytes = pieces.flatten ++ left := by
  -- Each search takes at least one byte, so that only finitely many stand in a row.
  induction h : bytes.length using Nat.strongRecOn generalizing bytes with
  | _ n ih =>
    by_cases more : ∃ (search : SearchRequest) (piece : List UInt8),
        search.Layout piece ∧ piece <+: bytes
    · -- This is the first search. The others stand in what follows it.
      obtain ⟨search, piece, layout, rest, rfl⟩ := more
      have positive := layout.length_pos
      rw [List.length_append] at h
      obtain ⟨searches, pieces, left, requests, noSearch, whole⟩ :=
        ih rest.length (by omega) rest rfl
      refine ⟨search :: searches, piece :: pieces, left, .cons layout requests, noSearch, ?_⟩
      rw [List.flatten_cons, List.append_assoc, ← whole]
    · exact ⟨[], [], bytes, .nil,
        fun search piece layout start => more ⟨search, piece, layout, start⟩, rfl⟩

/-- A version followed by searches is read up to where no search stands. Anything left over there
is an error. -/
theorem parse_append (isFirst : version.Layout first)
    (requests : List.Forall₂ SearchRequest.Layout searches pieces) (noSearch : NoSearch left) :
    parse (first ++ (pieces.flatten ++ left)) =
      if left = [] then .ok searches else .error (.endOfInput left.length) := by
  unfold parse
  rw [Version.parse_eq_ok_iff.mpr ⟨first, isFirst, rfl⟩]
  simp only [bind, Except.bind]
  rw [searchesOnto_append requests noSearch []]
  cases left with
  | nil => rfl
  | cons byte later => rfl

/-- The searches of a datagram are read. -/
theorem Layout.parse_eq (layout : Layout searches bytes) : parse bytes = .ok searches := by
  obtain ⟨version, first, pieces, isFirst, requests, rfl⟩ := layout
  have read := parse_append isFirst requests noSearch_nil
  rwa [List.append_nil, if_pos rfl] at read

/-- What keeps bytes from being a search datagram is reported. -/
theorem Fault.parse_eq {error : ReadError} (fault : Fault bytes error) :
    parse bytes = .error error := by
  cases fault with
  | header missing =>
    unfold parse Version.parse Message.parseOf Message.parse
    rw [missing]
    rfl
  | payload parsed missing =>
    unfold parse Version.parse Message.parseOf Message.parse
    rw [parsed]
    dsimp only
    rw [if_neg (Nat.not_le.mpr missing)]
    rfl
  | @command frame piece rest layout whole other =>
    have stands := layout.parse?_append rest
    rw [← whole] at stands
    unfold parse Version.parse
    rw [Message.parseOf_of_ne stands other]
    rfl
  | leftOver isFirst requests noSearch nonempty whole =>
    rw [whole, parse_append isFirst requests noSearch, if_neg nonempty]

/-- Bytes are a search datagram, or something keeps them from being one. -/
theorem exists_layout_or_fault (bytes : List UInt8) :
    (∃ searches, Layout searches bytes) ∨ ∃ error, Fault bytes error := by
  cases parsed : Header.parse? bytes with
  | none => exact .inr ⟨_, .header parsed⟩
  | some result =>
    obtain ⟨header, after⟩ := result
    by_cases missing : after.length < header.payloadSize.toNat
    · exact .inr ⟨_, .payload parsed missing⟩
    · -- The first frame is complete.
      have stands : Frame.parse? bytes = some (⟨header, after.take header.payloadSize.toNat⟩,
          after.drop header.payloadSize.toNat) := by
        unfold Frame.parse?
        rw [parsed]
        exact if_neg missing
      obtain ⟨first, layout, whole⟩ := Frame.parse?_eq_some_iff.mp stands
      by_cases isVersion : header.command = Command.version
      · obtain ⟨searches, pieces, left, requests, noSearch, rest⟩ :=
          exists_requests (after.drop header.payloadSize.toNat)
        rw [rest] at whole
        by_cases nothing : left = []
        · rw [nothing, List.append_nil] at whole
          exact .inl ⟨searches, _, first, pieces, ⟨_, layout, isVersion, rfl⟩, requests, whole⟩
        · exact .inr ⟨_, .leftOver ⟨_, layout, isVersion, rfl⟩ requests noSearch nothing whole⟩
      · exact .inr ⟨_, .command layout whole isVersion⟩

/-- Searches are read exactly from the search datagrams that hold them. -/
theorem parse_eq_ok_iff : parse bytes = .ok searches ↔ Layout searches bytes := by
  refine ⟨fun read => ?_, Layout.parse_eq⟩
  rcases exists_layout_or_fault bytes with ⟨others, layout⟩ | ⟨error, fault⟩
  · rw [layout.parse_eq, Except.ok.injEq] at read
    exact read ▸ layout
  · rw [fault.parse_eq] at read
    contradiction

/-- An error is reported exactly for the fault that it stands for. -/
theorem parse_eq_error_iff {error : ReadError} :
    parse bytes = .error error ↔ Fault bytes error := by
  refine ⟨fun read => ?_, Fault.parse_eq⟩
  rcases exists_layout_or_fault bytes with ⟨searches, layout⟩ | ⟨other, fault⟩
  · rw [layout.parse_eq] at read
    contradiction
  · rw [fault.parse_eq, Except.error.injEq] at read
    exact read ▸ fault

/-- A written datagram is a search datagram with the searches written. -/
theorem layout_toBytes (version : Version) {searches : List SearchRequest}
    (sendable : ∀ search ∈ searches, search.Sendable) :
    Layout searches (toBytes version searches) := by
  refine ⟨version, (Request.version version).toBytes,
    searches.map fun search => (Request.search search).toBytes, version.layout_toBytes, ?_, ?_⟩
  · rw [List.forall₂_map_right_iff, List.forall₂_same]
    exact fun search member => SearchRequest.layout_toBytes (sendable search member)
  · rw [toBytes, List.flatMap_def]

/-- The searches of a written datagram are read back. -/
theorem parse_toBytes (version : Version) {searches : List SearchRequest}
    (sendable : ∀ search ∈ searches, search.Sendable) :
    parse (toBytes version searches) = .ok searches :=
  (layout_toBytes version sendable).parse_eq

end SearchPacket

/-- A search datagram is read exactly if it is one. Reading gives some searches exactly if the bytes
are one whole frame of a version, then one whole frame for each of these searches in order, and
nothing else, where a search has the number, the wish for a reply, the protocol version and the name
that its frame holds. Reading any other bytes gives an error, and exactly the one that stands for
what is wrong with them; a header that is not complete is such a fault like any other. Any version
followed by searches whose names can be sent is written as bytes that give just these searches. -/
theorem search_packets_read_iff :
    (∀ (bytes : List UInt8) (searches : List SearchRequest),
      SearchPacket.parse bytes = .ok searches ↔ SearchPacket.Layout searches bytes) ∧
    (∀ bytes : List UInt8, (¬ ∃ searches, SearchPacket.Layout searches bytes) →
      ∃ error, SearchPacket.parse bytes = .error error) ∧
    (∀ (bytes : List UInt8) (error : ReadError),
      SearchPacket.parse bytes = .error error ↔ SearchPacket.Fault bytes error) ∧
    ∀ (version : Version) (searches : List SearchRequest),
      (∀ search ∈ searches, search.Sendable) →
        SearchPacket.parse (SearchPacket.toBytes version searches) = .ok searches := by
  refine ⟨fun bytes searches => SearchPacket.parse_eq_ok_iff, fun bytes noLayout => ?_,
    fun bytes error => SearchPacket.parse_eq_error_iff,
    fun version searches sendable => SearchPacket.parse_toBytes version sendable⟩
  rcases SearchPacket.exists_layout_or_fault bytes with layout | ⟨error, fault⟩
  · exact absurd layout noLayout
  · exact ⟨error, fault.parse_eq⟩

/-- A search for a name that fills eight bytes, so that its terminating zero takes eight more. -/
def fullNameSearch : SearchRequest := { channelId := 7, name := "ABCDEFGH", wantsReply := true }

/-- A datagram with that search, cut off within the header behind it. -/
def cutSearchDatagram : List UInt8 :=
  SearchPacket.toBytes {} [fullNameSearch] ++ [0, 6, 0, 8, 0, 5, 0, 13, 0, 0, 0, 8, 0, 0, 0]

/-- The search is read from the whole datagram. The cut one has the 15 bytes of the last header left
over. -/
theorem search_packets_read_iff_cutSearchDatagram :
    SearchPacket.parse (SearchPacket.toBytes {} [fullNameSearch]) = .ok [fullNameSearch] ∧
      SearchPacket.Fault cutSearchDatagram (.endOfInput 15) := by
  obtain ⟨readIff, fails, faultIff, written⟩ := search_packets_read_iff
  have left : SearchPacket.parse cutSearchDatagram = .error (.endOfInput 15) := by decide +kernel
  have noLayout : ¬ ∃ searches, SearchPacket.Layout searches cutSearchDatagram := by
    rintro ⟨searches, layout⟩
    rw [(readIff _ _).mpr layout] at left
    contradiction
  obtain ⟨error, isError⟩ := fails _ noLayout
  rw [left, Except.error.injEq] at isError
  rw [isError] at left ⊢
  refine ⟨written {} [fullNameSearch] fun search member => ?_, (faultIff _ _).mp left⟩
  rw [List.mem_singleton.mp member]
  exact ⟨by decide, by decide⟩

end ChannelAccess
