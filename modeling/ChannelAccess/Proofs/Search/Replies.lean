import ChannelAccess.Proofs.History
import ChannelAccess.Proofs.Search.Promises
import ChannelAccess.Response.Handler

/-!
# Search replies resolve once

Callers start and end searches at a manager, servers answer them in frames that come through the
response handler, and the timer's thread goes on meanwhile. `Resolver.step` is one event of this,
and what was asked for and answered is remembered in a history. `replies_resolve_once` says of every
order of events that a search reply is accepted if the history shows that its channel is awaited,
and that each promised reply has become what the history after its promise says first: the answer
that was accepted, or closed by whatever ended the search before.

The proof relates the manager to the history (`Resolver.Tracks`): the channels searched for are
those awaited, and the replies are those of the ledger that is read off the history. A new record
resolves the open entries of that ledger (`ledgerOf_concat`), as the operation does with the replies
of the manager (`SearchManager.Owes`).
-/

namespace ChannelAccess

/-! ## What a history shows -/

/-- What is remembered of the searches of a client. -/
inductive SearchRecord where
  /-- A search was started, with or without a promised reply. -/
  | registered (channelId : UInt32) (promised : Bool)
  /-- A search was given up. -/
  | unregistered (channelId : UInt32)
  /-- All searches were ended. -/
  | shutDown
  /-- A server's answer came, and was accepted or not. -/
  | answered (result : SearchResult) (accepted : Bool)
  deriving DecidableEq, Repr

namespace SearchRecord

/-- What becomes of an open reply for a channel when this happens. It stays open if this does not
concern the channel. -/
def effect : SearchRecord → UInt32 → ReplyStatus
  | .registered channelId _ => onlyFor channelId .closed
  | .unregistered channelId => onlyFor channelId .closed
  | .shutDown => fun _ => .closed
  | .answered result true => onlyFor result.channelId (.answered result)
  | .answered _ false => fun _ => .waiting

/-- The answer that was accepted, if one was. -/
def accepted? : SearchRecord → Option SearchResult
  | .answered result true => some result
  | _ => none

/-- By a history, an answer for a channel is awaited: a search for it was started, and nothing that
happened since concerns it. -/
def Awaited (history : List SearchRecord) (channelId : UInt32) : Prop :=
  Since (∃ promised, · = .registered channelId promised) (·.effect channelId ≠ .waiting) history

/-- What has become of a reply that was promised for a channel, given what happened since: the first
thing that concerns the channel decides. -/
def fate (channelId : UInt32) : List SearchRecord → ReplyStatus
  | [] => .waiting
  | record :: later => (record.effect channelId).followedBy (fate channelId later)

/-- The promised replies of a history, in order. -/
def ledgerOf : List SearchRecord → ReplyLedger
  | [] => []
  | .registered channelId true :: later => (channelId, fate channelId later) :: ledgerOf later
  | _ :: later => ledgerOf later

/-- The entry that a record opens in the ledger, if it promises a reply. -/
def opened : SearchRecord → ReplyLedger
  | .registered channelId true => [(channelId, .waiting)]
  | _ => []

/-- One more thing that happened resolves a reply that was open until then. -/
theorem fate_concat (channelId : UInt32) (history : List SearchRecord) (last : SearchRecord) :
    fate channelId (history ++ [last]) =
      (fate channelId history).followedBy (last.effect channelId) := by
  induction history with
  | nil =>
    exact ReplyStatus.followedBy_waiting _
  | cons record later ih =>
    rw [List.cons_append, fate, fate, ih]
    cases record.effect channelId <;> rfl

/-- A record opens its own entry first and then leaves the others to those after it. -/
theorem ledgerOf_cons (record : SearchRecord) (later : List SearchRecord) :
    ledgerOf (record :: later) =
      (record.opened.map fun entry => (entry.1, fate entry.1 later)) ++ ledgerOf later := by
  cases record with
  | registered channelId promised => cases promised <;> rfl
  | unregistered | shutDown | answered => rfl

/-- Only the start of a search with a promised reply opens an entry. -/
theorem opened_eq_nil_or (record : SearchRecord) :
    record.opened = [] ∨ ∃ channelId, record = .registered channelId true := by
  cases record with
  | registered channelId promised =>
    cases promised with
    | false => exact .inl rfl
    | true => exact .inr ⟨channelId, rfl⟩
  | unregistered | shutDown | answered => exact .inl rfl

/-- One more thing that happened resolves all open entries of the ledger, and opens its own. -/
theorem ledgerOf_concat (history : List SearchRecord) (last : SearchRecord) :
    ledgerOf (history ++ [last]) = (ledgerOf history).resolve last.effect ++ last.opened := by
  induction history with
  | nil =>
    rw [List.nil_append, ledgerOf_cons]
    cases last with
    | registered channelId promised => cases promised <;> rfl
    | unregistered | shutDown | answered => rfl
  | cons record later ih =>
    rw [List.cons_append, ledgerOf_cons, ledgerOf_cons, ih, ReplyLedger.resolve,
      ReplyLedger.resolve, List.map_append, List.map_map, List.append_assoc]
    refine congrArg (· ++ _) (List.map_congr_left fun entry _ => ?_)
    exact Prod.ext rfl (fate_concat entry.1 later last)

/-- Nothing is awaited any more once it was concerned by anything but the start of a search. -/
theorem awaited_concat {history : List SearchRecord} {last : SearchRecord} {channelId : UInt32} :
    Awaited (history ++ [last]) channelId ↔
      (∃ promised, last = .registered channelId promised) ∨
        Awaited history channelId ∧ last.effect channelId = .waiting := by
  rw [Awaited, since_concat, not_not]
  rfl

/-- Only an answer that was accepted answers a reply, and only one for its channel. -/
theorem of_effect_eq_answered {record : SearchRecord} {channelId : UInt32} {result : SearchResult}
    (h : record.effect channelId = .answered result) :
    record = .answered result true ∧ result.channelId = channelId := by
  have onlyFor_eq : ∀ {other : UInt32} {status : ReplyStatus},
      onlyFor other status channelId = .answered result →
        status = .answered result ∧ other = channelId := by
    intro other status same
    unfold onlyFor at same
    split at same
    · exact ⟨same, (by assumption : channelId = other).symm⟩
    · contradiction
  cases record with
  | registered | unregistered => exact absurd (onlyFor_eq h).1 ReplyStatus.noConfusion
  | shutDown => contradiction
  | answered other accepted =>
    cases accepted with
    | false => contradiction
    | true =>
      obtain ⟨same, channel⟩ := onlyFor_eq h
      obtain rfl := ReplyStatus.answered.inj same
      exact ⟨rfl, channel⟩

/-- A reply that was answered got the first answer that was accepted for its channel, and nothing
concerned the channel before that. -/
theorem of_fate_eq_answered {channelId : UInt32} {later : List SearchRecord}
    {result : SearchResult} (h : fate channelId later = .answered result) :
    result.channelId = channelId ∧ ∃ between rest,
      later = between ++ .answered result true :: rest ∧
        ∀ record ∈ between, record.effect channelId = .waiting := by
  induction later with
  | nil => contradiction
  | cons record later ih =>
    rw [fate] at h
    cases concerns : record.effect channelId with
    | waiting =>
      rw [concerns] at h
      obtain ⟨channel, between, rest, rfl, silent⟩ := ih h
      refine ⟨channel, record :: between, rest, rfl, fun other member => ?_⟩
      rcases List.mem_cons.mp member with rfl | member
      · exact concerns
      · exact silent other member
    | answered other =>
      rw [concerns] at h
      obtain rfl : other = result := ReplyStatus.answered.inj h
      obtain ⟨rfl, channel⟩ := of_effect_eq_answered concerns
      exact ⟨channel, [], later, rfl, fun _ member => absurd member List.not_mem_nil⟩
    | closed =>
      rw [concerns] at h
      contradiction

/-- An entry of the ledger belongs to the start of a search with a promised reply, and has become
what the history after that says. -/
theorem of_mem_ledgerOf {history : List SearchRecord} {number : Nat} {channelId : UInt32}
    {status : ReplyStatus} (h : (ledgerOf history)[number]? = some (channelId, status)) :
    ∃ earlier later, history = earlier ++ .registered channelId true :: later ∧
      (ledgerOf earlier).length = number ∧ status = fate channelId later := by
  induction history generalizing number with
  | nil => contradiction
  | cons record later ih =>
    -- The entry is that of the first record, or one of those after it.
    have further : ∀ {number : Nat}, (ledgerOf later)[number]? = some (channelId, status) →
        ∃ earlier rest, record :: later = earlier ++ .registered channelId true :: rest ∧
          (ledgerOf earlier).length = record.opened.length + number ∧
          status = fate channelId rest := by
      intro number listed
      obtain ⟨earlier, rest, rfl, rfl, status⟩ := ih listed
      refine ⟨record :: earlier, rest, rfl, ?_, status⟩
      rw [ledgerOf_cons, List.length_append, List.length_map]
    rcases opened_eq_nil_or record with nothing | ⟨channel, rfl⟩
    · rw [ledgerOf_cons, nothing] at h
      rw [nothing] at further
      obtain ⟨earlier, rest, same, position, status⟩ := further h
      exact ⟨earlier, rest, same, position.trans (Nat.zero_add number), status⟩
    · cases number with
      | zero =>
        obtain ⟨rfl, rfl⟩ := Prod.mk.inj (Option.some.inj h)
        exact ⟨[], later, rfl, rfl, rfl⟩
      | succ number =>
        obtain ⟨earlier, rest, same, position, status⟩ := further h
        exact ⟨earlier, rest, same, position.trans (Nat.add_comm 1 number), status⟩

end SearchRecord

/-- The answer that a client is told of, if this is an event of that kind. -/
def ClientEvent.found? : ClientEvent → Option SearchResult
  | .channelFound result => some result
  | _ => none

/-! ## Callers, frames and the timer's thread -/

/-- The event is no call that starts or ends a search. -/
def SearchEvent.isWork : SearchEvent → Bool
  | .register .. | .registerWithReply .. | .unregister _ | .respond _ => false
  | _ => true

/-- What goes on at a search manager besides. -/
abbrev SearchWork := { event : SearchEvent // event.isWork = true }

/-- What can happen to the searches of a client. -/
inductive ResolverEvent where
  /-- A search is started. -/
  | register (channelId : UInt32) (name : String)
  /-- A search with a promised reply is started. -/
  | registerWithReply (channelId : UInt32) (name : String)
  /-- A search is given up. -/
  | unregister (channelId : UInt32)
  /-- All searches are ended. -/
  | shutdown
  /-- A frame comes, on a circuit to `peer` or as a datagram. -/
  | frame (source : SocketAddress) (peer : Option SocketAddress) (frame : Frame)
  /-- Time passes, or the timer's thread goes on. -/
  | work (work : SearchWork)

/-- A response handler with the search manager that it is connected to, and what happened so far. -/
structure Resolver where
  /-- The handler, but for its search manager. -/
  handler : ResponseHandler
  /-- The search manager. -/
  system : SearchSystem
  /-- What happened to the searches. -/
  history : List SearchRecord := []
  /-- What the client was told. -/
  events : List ClientEvent := []

namespace Resolver

/-- A handler connected to a new search manager. -/
def new (handler : ResponseHandler) (config : SearchConfig) (clock : Moment) : Resolver where
  handler
  system := .new config clock

/-- The handler with its search manager. -/
def connected (resolver : Resolver) : ResponseHandler :=
  { resolver.handler with search := some resolver.system.manager }

/-- A call or something else happens at the search manager, and is remembered. -/
def search (resolver : Resolver) (event : SearchEvent) (records : List SearchRecord) : Resolver :=
  { resolver with
    system := resolver.system.step event, history := resolver.history ++ records }

/-- What is remembered of a frame: the answer that it carries, if it is a search reply. -/
def recordsOf (resolver : Resolver) (source : SocketAddress) (frame : Frame) : List SearchRecord :=
  if frame.header.command = Command.search then
    let result := resolver.connected.searchResultOf source frame
    [.answered result (resolver.system.manager.searchResponse result).1]
  else []

/-- A frame comes. -/
def receive (resolver : Resolver) (source : SocketAddress) (peer : Option SocketAddress)
    (frame : Frame) : Resolver :=
  let handled := resolver.connected.handle resolver.system.clock source peer frame
  { handler := handled.handler
    system :=
      { resolver.system with manager := handled.handler.search.getD resolver.system.manager }
    history := resolver.history ++ resolver.recordsOf source frame
    events := resolver.events ++ handled.events }

/-- What an event does. -/
def step (resolver : Resolver) : ResolverEvent → Resolver
  | .register channelId name =>
    resolver.search (.register channelId name) [.registered channelId false]
  | .registerWithReply channelId name =>
    resolver.search (.registerWithReply channelId name) [.registered channelId true]
  | .unregister channelId => resolver.search (.unregister channelId) [.unregistered channelId]
  | .shutdown =>
    { resolver with
      system := { resolver.system with manager := resolver.system.manager.shutdown }
      history := resolver.history ++ [.shutDown] }
  | .frame source peer frame => resolver.receive source peer frame
  | .work work => resolver.search work.val []

/-- What some events do, one after the other. -/
def run (resolver : Resolver) (events : List ResolverEvent) : Resolver :=
  events.foldl step resolver

/-- The invariant: the manager searches for the channels that the history shows to be awaited, its
replies are those of the history's ledger, and the client was told of the answers accepted. -/
structure Tracks (resolver : Resolver) : Prop where
  /-- The channels that are searched for. -/
  awaited : ∀ channelId, (resolver.system.manager.find? channelId).isSome = true ↔
    SearchRecord.Awaited resolver.history channelId
  /-- The replies. -/
  owes : resolver.system.manager.Owes (SearchRecord.ledgerOf resolver.history)
  /-- What the client was told. -/
  found : resolver.events.filterMap ClientEvent.found? =
    resolver.history.filterMap SearchRecord.accepted?

/-! ## Events keep the account -/

/-- Whatever starts or ends no search keeps the account. -/
theorem Tracks.work {resolver after : Resolver} (h : resolver.Tracks)
    (same : resolver.system.manager.SamePromises after.system.manager)
    (history : after.history = resolver.history)
    (found : after.events.filterMap ClientEvent.found? =
      resolver.events.filterMap ClientEvent.found?) : after.Tracks where
  awaited := by
    intro channelId
    rw [SearchManager.isSome_find?, same.promises, ← SearchManager.isSome_find?, history]
    exact h.awaited channelId
  owes := by
    rw [history]
    exact h.owes.congr same
  found := by
    rw [history, found]
    exact h.found

/-- The start or end of a search keeps the account with a record of it. -/
theorem Tracks.record {resolver after : Resolver} (h : resolver.Tracks) (record : SearchRecord)
    (history : after.history = resolver.history ++ [record])
    (owes : after.system.manager.Owes
      ((SearchRecord.ledgerOf resolver.history).resolve record.effect ++ record.opened))
    (searching : ∀ channelId, (after.system.manager.find? channelId).isSome = true ↔
      (∃ promised, record = .registered channelId promised) ∨
        (resolver.system.manager.find? channelId).isSome = true ∧
          record.effect channelId = .waiting)
    (found : after.events.filterMap ClientEvent.found? =
      resolver.events.filterMap ClientEvent.found? ++ record.accepted?.toList) : after.Tracks where
  awaited := by
    intro channelId
    rw [searching, h.awaited, history, SearchRecord.awaited_concat]
  owes := by
    rw [history, SearchRecord.ledgerOf_concat]
    exact owes
  found := by
    rw [history, found, h.found, List.filterMap_append, List.filterMap_cons, List.filterMap_nil]
    cases record.accepted? <;> rfl

/-- The start of a search makes its channel awaited, whether or not a reply is promised. -/
theorem searching_start {manager : SearchManager} {now : Moment} {channelId : UInt32}
    {name : String} {reply : Option Nat} (promised : Bool) (other : UInt32) :
    ((manager.start now channelId name reply).find? other).isSome = true ↔
      (∃ given, SearchRecord.registered channelId promised = .registered other given) ∨
        (manager.find? other).isSome = true ∧
          (SearchRecord.registered channelId promised).effect other = .waiting := by
  have starts : (∃ given, SearchRecord.registered channelId promised = .registered other given) ↔
      other = channelId := by
    constructor
    · rintro ⟨given, same⟩
      exact (SearchRecord.registered.inj same).1.symm
    · rintro rfl
      exact ⟨promised, rfl⟩
  rw [SearchManager.isSome_find?_start, starts, SearchRecord.effect,
    onlyFor_eq_waiting_iff ReplyStatus.noConfusion]

/-- The start of a search keeps the account. -/
theorem Tracks.register {resolver : Resolver} (h : resolver.Tracks) (channelId : UInt32)
    (name : String) :
    (resolver.search (.register channelId name) [.registered channelId false]).Tracks := by
  refine h.record (.registered channelId false) rfl ?_ (searching_start false)
    (List.append_nil _).symm
  show SearchManager.Owes _ (_ ++ [])
  rw [List.append_nil]
  exact h.owes.register resolver.system.clock channelId name

/-- The start of a search with a promised reply keeps the account. -/
theorem Tracks.registerWithReply {resolver : Resolver} (h : resolver.Tracks) (channelId : UInt32)
    (name : String) :
    (resolver.search (.registerWithReply channelId name) [.registered channelId true]).Tracks :=
  h.record (.registered channelId true) rfl
    (h.owes.registerWithReply resolver.system.clock channelId name) (searching_start true)
    (List.append_nil _).symm

/-- Giving a search up keeps the account, whether or not there was one. -/
theorem Tracks.unregister {resolver : Resolver} (h : resolver.Tracks) (channelId : UInt32) :
    (resolver.search (.unregister channelId) [.unregistered channelId]).Tracks := by
  refine h.record (.unregistered channelId) rfl ?_ (fun other => ?_) (List.append_nil _).symm
  · show SearchManager.Owes _ (_ ++ [])
    rw [List.append_nil]
    exact h.owes.unregister resolver.system.clock channelId
  · have starts : ¬ ∃ given, SearchRecord.unregistered channelId = .registered other given :=
      fun ⟨_, same⟩ => SearchRecord.noConfusion same
    rw [or_iff_right starts, SearchRecord.effect, onlyFor_eq_waiting_iff ReplyStatus.noConfusion]
    exact SearchManager.isSome_find?_unregister

/-- Ending all searches keeps the account. -/
theorem Tracks.shutdown {resolver : Resolver} (h : resolver.Tracks) :
    (resolver.step .shutdown).Tracks := by
  refine h.record .shutDown rfl ?_ (fun other => ?_) (List.append_nil _).symm
  · show SearchManager.Owes _ (_ ++ [])
    rw [List.append_nil]
    exact h.owes.shutdown
  · refine iff_of_false Bool.false_ne_true ?_
    rintro (⟨_, starts⟩ | ⟨-, stays⟩)
    · exact SearchRecord.noConfusion starts
    · exact ReplyStatus.noConfusion stays

/-- The timer's thread and the passing of time leave all promises alone. -/
theorem samePromises_step (system : SearchSystem) {event : SearchEvent}
    (isWork : event.isWork = true) :
    system.manager.SamePromises (system.step event).manager := by
  cases event with
  | register | registerWithReply | unregister | respond => exact absurd isWork Bool.false_ne_true
  | resetDelays => exact SearchManager.samePromises_resetDelays system.manager
  | hurry => exact ⟨rfl, rfl⟩
  | flush => exact SearchManager.samePromises_flush system.manager
  | wait time => exact .refl system.manager
  | takeDue =>
    show system.manager.SamePromises system.takeDue.manager
    unfold SearchSystem.takeDue
    split
    · exact ⟨rfl, rfl⟩
    · exact .refl system.manager
  | request =>
    show system.manager.SamePromises system.request.manager
    unfold SearchSystem.request
    split
    · exact SearchManager.samePromises_request system.manager system.clock
    · exact .refl system.manager
  | advance =>
    show system.manager.SamePromises system.advance.manager
    unfold SearchSystem.advance
    split
    · exact SearchManager.samePromises_advance system.manager
    · exact .refl system.manager
  | putBack =>
    show system.manager.SamePromises system.putBack.manager
    unfold SearchSystem.putBack
    split
    · exact ⟨rfl, rfl⟩
    · exact .refl system.manager

/-- Noting what is known from beacons leaves the searches alone. -/
theorem search_setDetector (handler : ResponseHandler) (server : SocketAddress)
    (detector : BeaconDetector) :
    (handler.setDetector server detector).search = handler.search := by
  unfold ResponseHandler.setDetector
  split <;> rfl

/-- A frame is a search reply, or it is handled as a beacon, or it leaves the handler as it is and
tells of no answer. -/
theorem handle_cases (handler : ResponseHandler) (now : Moment) (source : SocketAddress)
    (peer : Option SocketAddress) (frame : Frame) :
    let handled := handler.handle now source peer frame
    (frame.header.command = Command.search ∧ handled = handler.handleSearchReply source frame) ∨
      handled = handler.handleBeacon now source frame.header ∨
        (handled.handler = handler ∧ handled.events.filterMap ClientEvent.found? = []) := by
  unfold ResponseHandler.handle
  by_cases version : frame.header.command = Command.version
  · exact .inr (.inr (by rw [if_pos version]; exact ⟨rfl, rfl⟩))
  by_cases search : frame.header.command = Command.search
  · exact .inl ⟨search, by rw [if_neg version, if_pos search]⟩
  by_cases beacon : frame.header.command = Command.beacon
  · exact .inr (.inl (by rw [if_neg version, if_neg search, if_pos beacon]))
  · -- All other frames are only told of.
    refine .inr (.inr ?_)
    rw [if_neg version, if_neg search, if_neg beacon]
    constructor
    · simp only [apply_ite Handled.handler, ite_self]
    · simp only [apply_ite Handled.events, apply_ite (List.filterMap ClientEvent.found?),
        List.filterMap_cons, List.filterMap_nil, ClientEvent.found?, ite_self]

/-- A frame that is no search reply tells of no answer, and a beacon among them only hurries the
searches. -/
theorem handle_of_other (resolver : Resolver) (source : SocketAddress)
    (peer : Option SocketAddress) {frame : Frame} (other : frame.header.command ≠ Command.search) :
    let handled := resolver.connected.handle resolver.system.clock source peer frame
    handled.events.filterMap ClientEvent.found? = [] ∧
      resolver.system.manager.SamePromises
        (handled.handler.search.getD resolver.system.manager) := by
  intro handled
  rcases handle_cases resolver.connected resolver.system.clock source peer frame with
    ⟨search, -⟩ | beacon | ⟨same, nothing⟩
  · exact absurd search other
  · simp only [handled, beacon]
    unfold ResponseHandler.handleBeacon
    dsimp only
    split
    · refine ⟨rfl, ?_⟩
      rw [search_setDetector]
      exact (SearchManager.samePromises_resetDelays _).trans ⟨rfl, rfl⟩
    · refine ⟨rfl, ?_⟩
      rw [search_setDetector]
      exact .refl _
  · refine ⟨nothing, ?_⟩
    rw [same]
    exact .refl _

/-- A search reply is handed to the manager, and the client is told of an answer that is
accepted. -/
theorem handle_of_search (resolver : Resolver) (source : SocketAddress)
    (peer : Option SocketAddress) {frame : Frame}
    (isSearch : frame.header.command = Command.search) :
    let result := resolver.connected.searchResultOf source frame
    let handled := resolver.connected.handle resolver.system.clock source peer frame
    handled.events =
        (if (resolver.system.manager.searchResponse result).1 then [.channelFound result] else []) ∧
      handled.handler.search = some (resolver.system.manager.searchResponse result).2 := by
  have notVersion : ¬ Command.search = Command.version := by decide
  dsimp only
  unfold ResponseHandler.handle
  dsimp only
  rw [isSearch, if_neg notVersion, if_pos rfl]
  exact ⟨rfl, rfl⟩

/-- A server's answer keeps the account, whether or not it is accepted. -/
theorem Tracks.answer {resolver after : Resolver} (h : resolver.Tracks) (result : SearchResult)
    (manager : after.system.manager = (resolver.system.manager.searchResponse result).2)
    (history : after.history = resolver.history ++
      [.answered result (resolver.system.manager.searchResponse result).1])
    (found : after.events.filterMap ClientEvent.found? =
      resolver.events.filterMap ClientEvent.found? ++
        if (resolver.system.manager.searchResponse result).1 then [result] else []) :
    after.Tracks := by
  obtain ⟨accepts, owes⟩ := h.owes.searchResponse result
  have starts : ∀ other accepted,
      ¬ ∃ given, SearchRecord.answered result accepted = .registered other given :=
    fun _ _ ⟨_, same⟩ => SearchRecord.noConfusion same
  cases accepted : (resolver.system.manager.searchResponse result).1 with
  | false =>
    rw [accepted] at history found accepts
    have free := Option.not_isSome_iff_eq_none.mp (Bool.eq_false_iff.mp accepts.symm)
    rw [SearchManager.searchResponse_eq, SearchManager.finish_of_none free] at manager
    refine h.record (.answered result false) history ?_ (fun other => ?_) found
    · rw [manager]
      show SearchManager.Owes _ (_ ++ [])
      rw [List.append_nil, SearchRecord.effect, ReplyLedger.resolve_waiting]
      exact h.owes
    · rw [manager, or_iff_right (starts other false)]
      exact (and_iff_left rfl).symm
  | true =>
    rw [accepted] at history found
    refine h.record (.answered result true) history ?_ (fun other => ?_) found
    · rw [manager]
      show SearchManager.Owes _ (_ ++ [])
      rw [List.append_nil]
      exact owes
    · rw [manager, SearchManager.searchResponse_eq, SearchManager.isSome_find?_finish,
        or_iff_right (starts other true), SearchRecord.effect,
        onlyFor_eq_waiting_iff ReplyStatus.noConfusion]

/-- A frame keeps the account. -/
theorem Tracks.receive {resolver : Resolver} (h : resolver.Tracks) (source : SocketAddress)
    (peer : Option SocketAddress) (frame : Frame) :
    (resolver.receive source peer frame).Tracks := by
  by_cases isSearch : frame.header.command = Command.search
  · obtain ⟨events, search⟩ := handle_of_search resolver source peer isSearch
    refine h.answer (resolver.connected.searchResultOf source frame) ?_ ?_ ?_
    · show (resolver.connected.handle resolver.system.clock source peer frame).handler.search.getD
        resolver.system.manager = _
      rw [search]
      rfl
    · show resolver.history ++ resolver.recordsOf source frame = _
      rw [recordsOf, if_pos isSearch]
    · show (resolver.events ++ _).filterMap _ = _
      rw [List.filterMap_append, events]
      split <;> rfl
  · obtain ⟨silent, same⟩ := handle_of_other resolver source peer isSearch
    refine h.work same ?_ ?_
    · show resolver.history ++ resolver.recordsOf source frame = resolver.history
      rw [recordsOf, if_neg isSearch, List.append_nil]
    · show (resolver.events ++ _).filterMap _ = _
      rw [List.filterMap_append, silent, List.append_nil]

/-- Every event keeps the account. -/
theorem Tracks.step {resolver : Resolver} (h : resolver.Tracks) (event : ResolverEvent) :
    (resolver.step event).Tracks := by
  cases event with
  | register channelId name => exact h.register channelId name
  | registerWithReply channelId name => exact h.registerWithReply channelId name
  | unregister channelId => exact h.unregister channelId
  | shutdown => exact h.shutdown
  | frame source peer frame => exact h.receive source peer frame
  | work work =>
    exact h.work (samePromises_step resolver.system work.property) (List.append_nil _) rfl

/-- Any number of events keep the account. -/
theorem Tracks.run {resolver : Resolver} (h : resolver.Tracks) (events : List ResolverEvent) :
    (resolver.run events).Tracks := by
  induction events generalizing resolver with
  | nil => exact h
  | cons event later ih => exact ih (h.step event)

/-- Nothing is searched for and nothing was promised before anything happened. -/
theorem Tracks.new (handler : ResponseHandler) (config : SearchConfig) (clock : Moment) :
    (new handler config clock).Tracks where
  awaited := fun _ => iff_of_false Bool.false_ne_true not_since_nil
  owes := ⟨List.nodup_nil, fun _ => rfl, fun _ _ => iff_of_false nofun List.not_mem_nil⟩
  found := rfl

end Resolver

/-- **Search replies resolve once.** In every state that a response handler and the search manager
that it is connected to come to, whatever callers, frames and the timer's thread did:
* the manager accepts an answer exactly if its channel is awaited, that is, a search for it was
  started and nothing that happened since concerns it,
* a search reply makes one event with its answer if that is accepted, and none otherwise,
* the client was told of the answers that were accepted, in order, and of no other,
* what has become of the promised replies is what the history says of them: each is open until
  something concerns its channel, and then answered or closed by that,
* so a reply that was answered got the first answer accepted for its channel after its promise, with
  nothing that concerns the channel between them. -/
theorem replies_resolve_once (handler : ResponseHandler) (config : SearchConfig) (clock : Moment)
    (events : List ResolverEvent) :
    let resolver := (Resolver.new handler config clock).run events
    let manager := resolver.system.manager
    (∀ result, (manager.searchResponse result).1 = true ↔
      SearchRecord.Awaited resolver.history result.channelId) ∧
    (∀ source peer frame, frame.header.command = Command.search →
      let result := resolver.connected.searchResultOf source frame
      (resolver.connected.handle resolver.system.clock source peer frame).events =
        if (manager.searchResponse result).1 then [.channelFound result] else []) ∧
    resolver.events.filterMap ClientEvent.found? =
      resolver.history.filterMap SearchRecord.accepted? ∧
    manager.replies.toList = (SearchRecord.ledgerOf resolver.history).map Prod.snd ∧
    (∀ (number : Nat) (result : SearchResult),
      manager.replies[number]? = some (.answered result) →
        ∃ earlier between later,
          resolver.history = earlier ++ .registered result.channelId true ::
            (between ++ .answered result true :: later) ∧
          (SearchRecord.ledgerOf earlier).length = number ∧
          ∀ record ∈ between, record.effect result.channelId = .waiting) := by
  intro resolver manager
  have tracks : resolver.Tracks := (Resolver.Tracks.new handler config clock).run events
  refine ⟨fun result => ?_, fun source peer frame isSearch => ?_, tracks.found, ?_, ?_⟩
  · rw [← tracks.awaited, (tracks.owes.searchResponse result).1]
  · exact (Resolver.handle_of_search resolver source peer isSearch).1
  · refine List.ext_getElem? fun number => ?_
    rw [Array.getElem?_toList, List.getElem?_map]
    exact tracks.owes.replies number
  · intro number result answered
    have listed := tracks.owes.replies number
    rw [answered] at listed
    obtain ⟨⟨channelId, status⟩, found, rfl⟩ := Option.map_eq_some_iff.mp listed.symm
    obtain ⟨earlier, later, history, position, fate⟩ := SearchRecord.of_mem_ledgerOf found
    obtain ⟨rfl, between, rest, rfl, silent⟩ := SearchRecord.of_fate_eq_answered fate.symm
    exact ⟨earlier, between, rest, history, position, silent⟩

end ChannelAccess
