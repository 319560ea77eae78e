import ChannelAccess.Proofs.Search.Operations
import ChannelAccess.Proofs.Wire.SearchGrammar

/-!
# Requests are cut into datagrams

The requests that runs make are cut into datagrams, and nothing else is ever sent. The invariant
`SearchManager.Packs` says how: the datagrams sent so far are some groups of requests, numbered from
zero, and the datagram that is being filled is one more group, or empty. Sending it only moves the
border between the groups, so the requests in order stay the same.

In every run of the system the requests that the manager `Holds` in this way are those that were
made, in this order: the system is `Packed`. A datagram counts as sent once it was handed over. The
manager goes on in the same way if sending it fails.
-/

namespace ChannelAccess

/-- The datagram of a number that holds some searches. -/
def searchDatagram (number : Nat) (searches : List SearchRequest) : List UInt8 :=
  SearchPacket.toBytes { sequence := UInt32.ofNat number } searches

/-- A datagram of these searches, whatever its number, is long only if it holds a single one. -/
def FitsDatagram (searches : List SearchRequest) : Prop :=
  (searchDatagram 0 searches).length ≤ maxDatagramSend ∨ searches.length = 1

/-- One more search comes after those in the datagram. -/
theorem searchDatagram_append (number : Nat) (searches : List SearchRequest)
    (search : SearchRequest) :
    searchDatagram number (searches ++ [search]) =
      searchDatagram number searches ++ (Request.search search).toBytes := by
  rw [searchDatagram, SearchPacket.toBytes, List.flatMap_append, ← List.append_assoc]
  simp only [List.flatMap_cons, List.flatMap_nil, List.append_nil]
  rfl

/-- The number takes the same place in each datagram. -/
theorem length_searchDatagram (number : Nat) (searches : List SearchRequest) :
    (searchDatagram number searches).length = standardHeaderLength +
      (searches.flatMap fun search => (Request.search search).toBytes).length := by
  rw [searchDatagram, SearchPacket.toBytes, List.length_append, Version.length_toBytes]

/-- A search that is taken to add few bytes adds as many. -/
theorem length_toBytes_of_fits {search : SearchRequest} {length : Nat}
    (fits : length + search.encodedLength ≤ maxDatagramSend) :
    (Request.search search).toBytes.length = search.encodedLength := by
  apply SearchRequest.length_toBytes_of_short
  simp only [SearchRequest.encodedLength, maxDatagramSend, standardHeaderLength] at fits
  show _ < 65535
  omega

namespace SearchManager

/-- What was sent are the datagrams of some groups of searches, and what is being filled is that of
the searches in `batch`, or nothing. -/
structure Packs (manager : SearchManager) (packets : List (List SearchRequest))
    (batch : List SearchRequest) : Prop where
  /-- The datagrams are numbered from zero. -/
  sent : manager.sent = packets.mapIdx searchDatagram
  /-- The datagram that is being filled has the next number. -/
  buffer : manager.frame.buffer = if batch = [] then [] else searchDatagram packets.length batch
  /-- Its requests are counted. -/
  searches : manager.frame.searches = batch.length
  /-- It has taken its number, if it was started. -/
  sequence : manager.frame.sequence =
    UInt32.ofNat (packets.length + if batch = [] then 0 else 1)
  /-- No datagram is empty, and only those with a single request are long. -/
  whole : ∀ packet ∈ packets, packet ≠ [] ∧ FitsDatagram packet
  /-- The datagram that is being filled is not too long either. -/
  fits : batch ≠ [] → FitsDatagram batch

/-- The datagrams of a manager and the one that is being filled hold some requests, in order. -/
def Holds (manager : SearchManager) (requests : List SearchRequest) : Prop :=
  ∃ packets batch, manager.Packs packets batch ∧ packets.flatten ++ batch = requests

/-- A new manager has sent nothing. -/
theorem Holds.new (config : SearchConfig) : Holds { config } [] :=
  ⟨[], [], ⟨rfl, rfl, rfl, rfl, fun _ member => absurd member List.not_mem_nil, absurd rfl⟩, rfl⟩

/-- An operation that leaves the datagrams alone keeps the requests. -/
theorem Holds.congr {before after : SearchManager} {requests : List SearchRequest}
    (h : before.Holds requests) (sent : after.sent = before.sent)
    (frame : after.frame = before.frame) : after.Holds requests := by
  obtain ⟨packets, batch, packs, isRequests⟩ := h
  refine ⟨packets, batch, ⟨?_, ?_, ?_, ?_, packs.whole, packs.fits⟩, isRequests⟩
  · rw [sent, packs.sent]
  · rw [frame, packs.buffer]
  · rw [frame, packs.searches]
  · rw [frame, packs.sequence]

/-- The datagram holds no request as long as it was not started. -/
theorem Packs.searches_eq_zero_iff {manager : SearchManager} {packets : List (List SearchRequest)}
    {batch : List SearchRequest} (h : manager.Packs packets batch) :
    manager.frame.searches = 0 ↔ batch = [] := by
  rw [h.searches]
  exact List.length_eq_zero_iff

/-- Sending the datagram keeps the groups of requests, and makes one more of them whole. -/
theorem Packs.flush {manager : SearchManager} {packets : List (List SearchRequest)}
    {batch : List SearchRequest} (h : manager.Packs packets batch) (held : batch ≠ []) :
    manager.flush.Packs (packets ++ [batch]) [] := by
  have started := mt h.searches_eq_zero_iff.mp held
  have flushed : manager.flush =
      { manager with
        sent := manager.sent ++ [manager.frame.buffer]
        frame := { manager.frame with buffer := [], searches := 0 } } := if_neg started
  rw [flushed]
  refine ⟨?_, rfl, rfl, ?_, ?_, absurd rfl⟩
  · show manager.sent ++ [manager.frame.buffer] = _
    rw [List.mapIdx_concat, h.sent, h.buffer, if_neg held]
  · show manager.frame.sequence = _
    rw [h.sequence, if_neg held, if_pos rfl, List.length_append]
    rfl
  · intro packet member
    rcases List.mem_append.mp member with earlier | isBatch
    · exact h.whole packet earlier
    · rw [List.mem_singleton.mp isBatch]
      exact ⟨held, h.fits held⟩

/-- Sending the datagram keeps the requests. -/
theorem Holds.flush {manager : SearchManager} {requests : List SearchRequest}
    (h : manager.Holds requests) : manager.flush.Holds requests := by
  obtain ⟨packets, batch, packs, isRequests⟩ := h
  by_cases held : batch = []
  · rw [SearchManager.flush, if_pos (packs.searches_eq_zero_iff.mpr held)]
    exact ⟨packets, batch, packs, isRequests⟩
  · refine ⟨packets ++ [batch], [], packs.flush held, ?_⟩
    rw [← isRequests, List.flatten_append, List.append_nil, List.flatten_singleton]

/-- Sending the datagram unless a task is due soon keeps the requests. -/
theorem Holds.flushUnlessSoon {manager : SearchManager} {requests : List SearchRequest}
    (h : manager.Holds requests) (now : Moment) :
    (manager.flushUnlessSoon now).Holds requests := by
  have looked : Holds { manager with
      timer := (manager.timer.hasNext now manager.config.coalesceWindow).2 } requests :=
    h.congr rfl rfl
  unfold SearchManager.flushUnlessSoon
  dsimp only
  split
  · exact looked.flush
  · exact looked

/-- A request is added to a datagram that it fits, or to an empty one. -/
theorem Packs.push {manager : SearchManager} {packets : List (List SearchRequest)}
    {batch : List SearchRequest} (h : manager.Packs packets batch) (search : SearchRequest)
    (room : batch = [] ∨
      manager.frame.buffer.length + search.encodedLength ≤ maxDatagramSend) :
    Packs { manager with frame := manager.frame.started.push search } packets
      (batch ++ [search]) := by
  have more : batch ++ [search] ≠ [] := List.append_ne_nil_of_right_ne_nil batch nofun
  by_cases empty : batch = []
  · -- The datagram is started first, with the number of those sent before.
    have started : manager.frame.started =
        { buffer := manager.frame.buffer ++
            (Request.version { sequence := manager.frame.sequence }).toBytes
          searches := 0
          sequence := manager.frame.sequence + 1 } :=
      if_pos (h.searches_eq_zero_iff.mpr empty)
    have number : manager.frame.sequence = UInt32.ofNat packets.length := by
      rw [h.sequence, if_pos empty]
      rfl
    have nothing : manager.frame.buffer = [] := by rw [h.buffer, if_pos empty]
    subst empty
    refine ⟨h.sent, ?_, ?_, ?_, h.whole, fun _ => .inr rfl⟩
    · show manager.frame.started.buffer ++ _ = _
      rw [started, if_neg more, searchDatagram_append, nothing, number, List.nil_append,
        searchDatagram, SearchPacket.toBytes, List.flatMap_nil, List.append_nil]
    · show manager.frame.started.searches + 1 = 1
      rw [started]
    · show manager.frame.started.sequence = _
      rw [started, if_neg more, UInt32.ofNat_add, number]
      rfl
  · -- It was started with the first of its requests, and took its number then.
    have started : manager.frame.started = manager.frame :=
      if_neg (mt h.searches_eq_zero_iff.mp empty)
    have buffer : manager.frame.buffer = searchDatagram packets.length batch := by
      rw [h.buffer, if_neg empty]
    rw [started]
    refine ⟨h.sent, ?_, ?_, ?_, h.whole, fun _ => .inl ?_⟩
    · show manager.frame.buffer ++ _ = _
      rw [if_neg more, searchDatagram_append, buffer]
    · show manager.frame.searches + 1 = _
      rw [h.searches, List.length_append]
      rfl
    · show manager.frame.sequence = _
      rw [h.sequence, if_neg empty, if_neg more]
    · -- The search adds as many bytes as it is taken to, since these are few.
      have fits := room.resolve_left empty
      rw [buffer, length_searchDatagram, ← length_searchDatagram 0] at fits
      rw [searchDatagram_append, List.length_append, length_toBytes_of_fits fits]
      exact fits

/-- A request that is added comes after all others. -/
theorem Holds.withRequest {manager : SearchManager} {requests : List SearchRequest}
    (h : manager.Holds requests) (search : PendingSearch) :
    (manager.withRequest search).Holds (requests ++ [search.request]) := by
  obtain ⟨packets, batch, packs, isRequests⟩ := h
  unfold SearchManager.withRequest
  dsimp only
  split
  · -- The requests so far are sent, and this one is the first of the next datagram.
    rename_i full
    have held := mt packs.searches_eq_zero_iff.mpr (Nat.ne_of_gt full.1)
    refine ⟨packets ++ [batch], [] ++ [search.request],
      (packs.flush held).push search.request (.inl rfl), ?_⟩
    rw [← isRequests, List.flatten_append, List.flatten_singleton]
    rfl
  · rename_i notFull
    have room : batch = [] ∨
        manager.frame.buffer.length + search.request.encodedLength ≤ maxDatagramSend := by
      by_cases empty : batch = []
      · exact .inl empty
      · have started := Nat.pos_of_ne_zero (mt packs.searches_eq_zero_iff.mp empty)
        exact .inr (Nat.not_lt.mp fun long => notFull ⟨started, long⟩)
    refine ⟨packets, batch ++ [search.request], packs.push search.request room, ?_⟩
    rw [← isRequests, List.append_assoc]

/-- A request that is made comes after all others, whether or not the datagram is sent then. -/
theorem Holds.addRequest {manager : SearchManager} {requests : List SearchRequest}
    (h : manager.Holds requests) (now : Moment) (search : PendingSearch) :
    (manager.addRequest now search).2.Holds (requests ++ [search.request]) := by
  obtain ⟨immediateFlushes, added⟩ := addRequest_eq manager now search
  rw [added]
  exact ((h.withRequest search).flushUnlessSoon now).congr rfl rfl

/-- The end of a search keeps the requests. -/
theorem Holds.finish {manager : SearchManager} {requests : List SearchRequest}
    (h : manager.Holds requests) (channelId : UInt32) (status : ReplyStatus) :
    (manager.finish channelId status).Holds requests := by
  obtain ⟨-, frame, sent⟩ := finish_spec manager channelId status
  exact h.congr sent frame

/-- The start of a search keeps the requests. -/
theorem Holds.start {manager : SearchManager} {requests : List SearchRequest}
    (h : manager.Holds requests) (now : Moment) (channelId : UInt32) (name : String)
    (reply : Option Nat) : (manager.start now channelId name reply).Holds requests := by
  rw [start_eq]
  exact (h.finish channelId .closed).congr rfl rfl

/-- Giving a search up keeps the requests. -/
theorem Holds.unregister {manager : SearchManager} {requests : List SearchRequest}
    (h : manager.Holds requests) (now : Moment) (channelId : UInt32) :
    (manager.unregister now channelId).2.Holds requests := by
  rw [unregister_eq]
  split
  · exact (h.finish channelId .closed).flushUnlessSoon now
  · exact h

/-- Reading the interval keeps the requests. -/
theorem Holds.advance {manager : SearchManager} {requests : List SearchRequest}
    (h : manager.Holds requests) : manager.advance.2.Holds requests := by
  rw [advance_eq]
  split
  · exact h
  · split
    · exact h
    · exact h.congr rfl rfl

end SearchManager

namespace SearchSystem

/-! ## Runs of the system -/

/-- The datagrams of the manager hold the requests that were made, in this order. -/
def Packed (system : SearchSystem) : Prop :=
  system.manager.Holds (system.requested.map PendingSearch.request)

/-- A new manager has sent nothing. -/
theorem Packed.new (config : SearchConfig) (clock : Moment)
    (lastMoment? : Option Moment := none) : (new config clock lastMoment?).Packed :=
  (SearchManager.Holds.new config).congr rfl rfl

/-- Making a request keeps the datagrams packed: it comes after all others. -/
theorem Packed.request {system : SearchSystem} (h : system.Packed) : system.request.Packed := by
  unfold SearchSystem.request
  split
  · show (system.manager.request system.clock).2.Holds _
    rw [SearchManager.request_eq]
    cases system.manager.running? with
    | none =>
      rw [Option.toList_none, List.append_nil]
      exact h
    | some search =>
      rw [Option.toList_some, List.map_append]
      exact SearchManager.Holds.addRequest h system.clock search
  · exact h

/-- Every event keeps the datagrams packed. -/
theorem Packed.step {system : SearchSystem} (h : system.Packed) (event : SearchEvent) :
    (system.step event).Packed := by
  have holds : system.manager.Holds _ := h
  cases event with
  | register channelId name => exact holds.start system.clock channelId name none
  | registerWithReply channelId name =>
    have promised : system.manager.promise.Holds _ := holds.congr rfl rfl
    exact promised.start system.clock channelId name _
  | unregister channelId => exact holds.unregister system.clock channelId
  | respond result =>
    show (system.manager.searchResponse result).2.Holds _
    rw [SearchManager.searchResponse_eq]
    exact holds.finish result.channelId (.answered result)
  | resetDelays => exact holds.congr rfl rfl
  | hurry => exact holds.congr rfl rfl
  | flush => exact holds.flush
  | wait time => exact h
  | takeDue =>
    show system.takeDue.Packed
    unfold SearchSystem.takeDue
    split
    · exact holds.congr rfl rfl
    · exact h
  | request => exact h.request
  | advance =>
    show system.advance.Packed
    unfold SearchSystem.advance
    split
    · exact holds.advance
    · exact h
  | putBack =>
    show system.putBack.Packed
    unfold SearchSystem.putBack
    split
    · exact holds.congr rfl rfl
    · exact h

/-- In every run the datagrams stay packed. -/
theorem Packed.run {system : SearchSystem} (h : system.Packed) (events : List SearchEvent) :
    (system.run events).Packed :=
  run_induction (fun _ event packed => packed.step event) h events

end SearchSystem

end ChannelAccess
