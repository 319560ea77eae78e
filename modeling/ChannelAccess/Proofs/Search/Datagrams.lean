import ChannelAccess.Proofs.Search.Packing

/-!
# The datagrams of a search manager

What a receiver reads from the datagrams is what was packed into them, as long as the names can be
sent, and a run of events with such names has no others (`SearchSystem.Sendable`).

`datagrams_hold_requests` says what follows: the datagrams are read without error, carry their
number, are short unless they hold a single request, and their requests and those not sent yet are
all requests that were made, in order.
-/

namespace ChannelAccess

namespace SearchManager

/-! ## Names -/

/-- The names of all searches in progress have a property. -/
def Named (manager : SearchManager) (P : String → Prop) : Prop :=
  ∀ name ∈ manager.pending.map PendingSearch.name, P name

/-- An operation that keeps the names keeps what they have in common. -/
theorem Named.congr {before after : SearchManager} {P : String → Prop} (h : before.Named P)
    (names : after.pending.map PendingSearch.name = before.pending.map PendingSearch.name) :
    after.Named P := by
  unfold Named
  rw [names]
  exact h

theorem Named.finish {manager : SearchManager} {P : String → Prop} (h : manager.Named P)
    (channelId : UInt32) (status : ReplyStatus) : (manager.finish channelId status).Named P := by
  intro name member
  rw [pending_finish] at member
  exact h name ((List.filter_sublist.map _).subset member)

theorem Named.start {manager : SearchManager} {P : String → Prop} (h : manager.Named P)
    (now : Moment) (channelId : UInt32) {name : String} (isNamed : P name) (reply : Option Nat) :
    (manager.start now channelId name reply).Named P := by
  intro other member
  rw [start_eq, enter, List.map_append] at member
  rcases List.mem_append.mp member with earlier | new
  · exact h.finish channelId .closed other earlier
  · rw [List.mem_singleton.mp new]
    exact isNamed

theorem Named.unregister {manager : SearchManager} {P : String → Prop} (h : manager.Named P)
    (now : Moment) (channelId : UInt32) : (manager.unregister now channelId).2.Named P := by
  rw [unregister_eq]
  split
  · have pending := (flushUnlessSoon_spec (manager.finish channelId .closed) now).2.2
    exact (h.finish channelId .closed).congr (congrArg (List.map PendingSearch.name) pending)
  · exact h

theorem Named.request {manager : SearchManager} {P : String → Prop} (h : manager.Named P)
    (now : Moment) : (manager.request now).2.Named P := by
  rw [request_eq]
  split
  · exact h
  · rename_i search _
    have pending := (addRequest_spec manager now search).2.2
    exact h.congr (congrArg (List.map PendingSearch.name) pending)

theorem Named.advance {manager : SearchManager} {P : String → Prop} (h : manager.Named P) :
    manager.advance.2.Named P := by
  rw [advance_eq]
  split
  · exact h
  · split
    · exact h
    · refine h.congr ?_
      rw [withDelay, List.map_map]
      refine List.map_congr_left fun other _ => ?_
      dsimp only [Function.comp]
      split <;> rfl

theorem Named.resetDelays {manager : SearchManager} {P : String → Prop} (h : manager.Named P) :
    manager.resetDelays.Named P := by
  refine h.congr ?_
  rw [SearchManager.resetDelays, List.map_map]
  rfl

end SearchManager

/-- A name without a NUL character whose field is shorter than 32 bits can say. -/
def SendableName (name : String) : Prop :=
  '\x00' ∉ name.toList ∧ (Utf8.encode name).length < 2 ^ 32 - 64

instance : DecidablePred SendableName := fun name =>
  inferInstanceAs (Decidable ('\x00' ∉ name.toList ∧ (Utf8.encode name).length < 2 ^ 32 - 64))

/-- The request of a search can be sent if its name can. -/
theorem PendingSearch.sendable_request {search : PendingSearch} (h : SendableName search.name) :
    search.request.Sendable := by
  refine ⟨h.1, ?_⟩
  have padded := Terminated.padding_lt (Utf8.encode search.name ++ [0]).length
  have length := h.2
  show (Terminated.pad (Utf8.encode search.name ++ [0])).length < 2 ^ 32
  rw [Terminated.length_pad]
  rw [List.length_append, List.length_singleton] at padded ⊢
  omega

/-- The name that an event brings in, if it brings one in, can be sent. -/
def SearchEvent.Sendable : SearchEvent → Prop
  | .register _ name | .registerWithReply _ name => SendableName name
  | _ => True

instance : DecidablePred SearchEvent.Sendable
  | .register _ name => inferInstanceAs (Decidable (SendableName name))
  | .registerWithReply _ name => inferInstanceAs (Decidable (SendableName name))
  | .unregister _ | .respond _ | .resetDelays | .hurry | .flush | .wait _ | .takeDue | .request
  | .advance | .putBack => inferInstanceAs (Decidable True)

namespace SearchSystem

/-! ## Runs of the system -/

/-- The requests that were made and those of the searches in progress can be sent. -/
structure Sendable (system : SearchSystem) : Prop where
  /-- The requests that were made can be sent. -/
  made : ∀ search ∈ system.requested, SendableName search.name
  /-- The requests of the searches in progress can be sent. -/
  pending : system.manager.Named SendableName

/-- A request that is made can be sent, since it is of a search in progress. -/
theorem Sendable.request {system : SearchSystem} (h : system.Sendable) :
    system.request.Sendable := by
  unfold SearchSystem.request
  split
  · refine ⟨fun search member => ?_, h.pending.request system.clock⟩
    rcases List.mem_append.mp member with earlier | new
    · exact h.made search earlier
    · have isPending := SearchManager.mem_of_running? (Option.mem_toList.mp new)
      exact h.pending _ (List.mem_map_of_mem isPending)
  · exact h

/-- Every event keeps to requests that can be sent, if the name that it brings in can be. -/
theorem Sendable.step {system : SearchSystem} (h : system.Sendable) {event : SearchEvent}
    (sendable : event.Sendable) : (system.step event).Sendable := by
  have pending := h.pending
  cases event with
  | register channelId name =>
    exact ⟨h.made, pending.start system.clock channelId sendable none⟩
  | registerWithReply channelId name =>
    have promised : system.manager.promise.Named SendableName := pending.congr rfl
    exact ⟨h.made, promised.start system.clock channelId sendable _⟩
  | unregister channelId => exact ⟨h.made, pending.unregister system.clock channelId⟩
  | respond result =>
    refine ⟨h.made, ?_⟩
    show (system.manager.searchResponse result).2.Named SendableName
    rw [SearchManager.searchResponse_eq]
    exact pending.finish result.channelId (.answered result)
  | resetDelays => exact ⟨h.made, pending.resetDelays⟩
  | hurry => exact ⟨h.made, pending.congr rfl⟩
  | flush =>
    have same := (SearchManager.flush_spec system.manager).2.2.1
    exact ⟨h.made, pending.congr (congrArg (List.map PendingSearch.name) same)⟩
  | wait time => exact ⟨h.made, pending⟩
  | takeDue =>
    show system.takeDue.Sendable
    unfold SearchSystem.takeDue
    split
    · exact ⟨h.made, pending.congr rfl⟩
    · exact h
  | request => exact h.request
  | advance =>
    show system.advance.Sendable
    unfold SearchSystem.advance
    split
    · exact ⟨h.made, pending.advance⟩
    · exact h
  | putBack =>
    show system.putBack.Sendable
    unfold SearchSystem.putBack
    split
    · exact ⟨h.made, pending.congr rfl⟩
    · exact h

/-- In every run of such events all requests can be sent. -/
theorem Sendable.run {system : SearchSystem} (h : system.Sendable) (events : List SearchEvent)
    (sendable : ∀ event ∈ events, event.Sendable) : (system.run events).Sendable := by
  induction events generalizing system with
  | nil => exact h
  | cons event later ih =>
    exact ih (h.step (sendable event List.mem_cons_self))
      fun other isLater => sendable other (List.mem_cons_of_mem event isLater)

end SearchSystem

/-! ## What a receiver reads -/

/-- The requests that a receiver reads from a datagram, none if it cannot be read. -/
def requestsOf (datagram : List UInt8) : List SearchRequest :=
  match SearchPacket.parse datagram with
  | .ok searches => searches
  | .error _ => []

/-- The requests are read back from their datagram. -/
theorem requestsOf_searchDatagram (number : Nat) {searches : List SearchRequest}
    (sendable : ∀ search ∈ searches, search.Sendable) :
    requestsOf (searchDatagram number searches) = searches := by
  rw [requestsOf, searchDatagram, SearchPacket.parse_toBytes _ sendable]

/-- The groups of requests are read back from their datagrams. -/
theorem flatMap_requestsOf {packets : List (List SearchRequest)}
    (sendable : ∀ packet ∈ packets, ∀ search ∈ packet, search.Sendable) :
    (packets.mapIdx searchDatagram).flatMap requestsOf = packets.flatten := by
  have read : (packets.mapIdx searchDatagram).map requestsOf = packets := by
    apply List.ext_getElem?
    intro number
    rw [List.getElem?_map, List.getElem?_mapIdx]
    cases found : packets[number]? with
    | none => rfl
    | some packet =>
      have isRead := requestsOf_searchDatagram number
        (sendable packet (List.mem_of_getElem? found))
      exact congrArg Option.some isRead
  rw [List.flatMap_def, read]

namespace SearchSystem

/-- In every run of a manager whose names can be sent, each datagram is read without error, carries
the number of datagrams before it, holds a request, and is no longer than a datagram is to be unless
it holds a single one. The requests of all datagrams and those not sent yet are the requests that
were made, in order. -/
theorem datagrams_hold_requests (config : SearchConfig) (clock : Moment)
    (events : List SearchEvent) (sendable : ∀ event ∈ events, event.Sendable) :
    let system := (new config clock).run events
    let frame := system.manager.frame
    (∀ number datagram, system.manager.sent[number]? = some datagram →
      (∃ version rest, Version.parse datagram = .ok (version, rest) ∧
        version.sequence.toNat = number % 2 ^ 32) ∧
      ∃ searches, SearchPacket.parse datagram = .ok searches ∧ searches ≠ [] ∧
        (datagram.length ≤ maxDatagramSend ∨ searches.length = 1)) ∧
      frame.searches = (requestsOf frame.buffer).length ∧
      (system.manager.sent ++ [frame.buffer]).flatMap requestsOf =
        system.requested.map PendingSearch.request := by
  intro system frame
  obtain ⟨packets, batch, packs, isRequests⟩ := (Packed.new config clock).run events
  have start : (new config clock).Sendable :=
    ⟨fun _ member => absurd member List.not_mem_nil, fun _ member => absurd member List.not_mem_nil⟩
  have made := (start.run events sendable).made
  have canBeSent : ∀ search ∈ packets.flatten ++ batch, search.Sendable := by
    intro search member
    rw [isRequests] at member
    obtain ⟨pending, isMade, rfl⟩ := List.mem_map.mp member
    exact PendingSearch.sendable_request (made pending isMade)
  have inPackets : ∀ packet ∈ packets, ∀ search ∈ packet, search.Sendable :=
    fun packet isPacket search member =>
      canBeSent search (List.mem_append_left _ (List.mem_flatten.mpr ⟨packet, isPacket, member⟩))
  have held : requestsOf frame.buffer = batch := by
    show requestsOf system.manager.frame.buffer = batch
    rw [packs.buffer]
    split
    · rename_i empty
      rw [empty]
      rfl
    · exact requestsOf_searchDatagram _ fun search member =>
        canBeSent search (List.mem_append_right _ member)
  refine ⟨fun number datagram isSent => ?_, ?_, ?_⟩
  · rw [packs.sent, List.getElem?_mapIdx] at isSent
    obtain ⟨packet, isPacket, rfl⟩ := Option.map_eq_some_iff.mp isSent
    have member := List.mem_of_getElem? isPacket
    obtain ⟨nonempty, fits⟩ := packs.whole packet member
    refine ⟨⟨_, _, Version.parse_toBytes_append _ _, UInt32.toNat_ofNat'⟩, packet,
      SearchPacket.parse_toBytes _ (inPackets packet member), nonempty, ?_⟩
    rw [length_searchDatagram, ← length_searchDatagram 0]
    exact fits
  · rw [held]
    exact packs.searches
  · rw [List.flatMap_append, packs.sent, flatMap_requestsOf inPackets, List.flatMap_singleton,
      held]
    exact isRequests

/-- Two searches whose requests are due at the same time, of which one is given up. -/
def sharedDatagram : List SearchEvent :=
  [.register 1 "PV:1", .register 2 "PV:2"] ++ iteration ++ iteration ++ [.unregister 1]

/-- Both requests are in the one datagram. -/
theorem datagrams_hold_requests_sharedDatagram :
    (∀ event ∈ sharedDatagram, event.Sendable) ∧
      let system := (new {} Duration.zero).run sharedDatagram
      (system.manager.sent ++ [system.manager.frame.buffer]).flatMap requestsOf =
          [{ channelId := 1, name := "PV:1" }, { channelId := 2, name := "PV:2" }] := by
  have sendable : ∀ event ∈ sharedDatagram, event.Sendable := by decide +kernel
  refine ⟨sendable, ?_⟩
  obtain ⟨-, -, inOrder⟩ := datagrams_hold_requests {} Duration.zero sharedDatagram sendable
  have made : ((new {} Duration.zero).run sharedDatagram).requested.map PendingSearch.request =
      [{ channelId := 1, name := "PV:1" }, { channelId := 2, name := "PV:2" }] := by
    decide +kernel
  exact inOrder.trans made

end SearchSystem

end ChannelAccess
