import ChannelAccess.Client.Basic
import ChannelAccess.Proofs.Circuit.Undisturbed
import ChannelAccess.Proofs.Reactor.Closing
import ChannelAccess.Proofs.Search.Replies

/-!
# What a client sees to

A client sees to all that others see of its circuits: owners are told, frames are handled, and what
was shut down leaves the reactor. `Client.Sees` says what that changes: only what is known of the
circuits besides their owners, the searches, of which none is started, and the reactor, to which the
closers of just those circuits are passed whose sockets were shut down.
-/

namespace ChannelAccess

/-! ## Searches -/

namespace SearchManager

/-- Without promises there is no search. -/
theorem pending_eq_nil_iff {manager : SearchManager} :
    manager.pending = [] ↔ manager.promises = [] := by
  rw [promises, List.map_eq_nil_iff]

/-- Without searches none is found. -/
theorem find?_of_quiet {manager : SearchManager} (quiet : manager.pending = [])
    (channelId : UInt32) : manager.find? channelId = none := by
  rw [find?, quiet]
  rfl

theorem samePromises_beaconAnomaly (manager : SearchManager) (now : Moment) :
    SamePromises manager (manager.beaconAnomaly now) :=
  (samePromises_resetDelays manager).trans ⟨rfl, rfl⟩

theorem samePromises_runTask (manager : SearchManager) (now : Moment) :
    SamePromises manager (manager.runTask now).2 := by
  have requested := manager.samePromises_request now
  unfold runTask
  split
  · rename_i pause made asked
    rw [asked] at requested
    exact (requested.trans (samePromises_advance made)).trans ⟨rfl, rfl⟩
  · rename_i made asked
    rw [asked] at requested
    exact requested.trans ⟨rfl, rfl⟩

/-- Running tasks starts and ends no search. -/
theorem samePromises_runDue (manager : SearchManager) (fuel : Nat) (now : Moment) :
    SamePromises manager (manager.runDue fuel now).2 := by
  induction fuel generalizing manager now with
  | zero => exact .refl manager
  | succ fuel ih =>
    have taken : SamePromises manager (manager.takeDue now) := ⟨rfl, rfl⟩
    rw [runDue]
    dsimp only
    split
    · exact taken
    · exact (taken.trans (samePromises_runTask _ now)).trans (ih _ _)

end SearchManager

namespace ResponseHandler

/-- What can become of the searches of a handler when none is started: their promises are accounted
for as before, and without searches nothing becomes of them. -/
def Answers (before after : ResponseHandler) : Prop :=
  ∀ manager ledger, before.search = some manager → manager.Owes ledger →
    ∃ later ledger', after.search = some later ∧ later.Owes ledger' ∧
      (manager.pending = [] → later.pending = [] ∧ later.replies = manager.replies)

theorem Answers.refl (handler : ResponseHandler) : Answers handler handler :=
  fun manager ledger isManager owes => ⟨manager, ledger, isManager, owes, fun quiet => ⟨quiet, rfl⟩⟩

theorem Answers.trans {a b c : ResponseHandler} (h₁ : Answers a b) (h₂ : Answers b c) :
    Answers a c := by
  intro manager ledger isManager owes
  obtain ⟨between, ledger', isBetween, owesBetween, quiet⟩ := h₁ manager ledger isManager owes
  obtain ⟨later, ledger'', isLater, owesLater, quietLater⟩ :=
    h₂ between ledger' isBetween owesBetween
  refine ⟨later, ledger'', isLater, owesLater, fun nothing => ?_⟩
  obtain ⟨stillNothing, replies⟩ := quiet nothing
  exact (quietLater stillNothing).imp_right fun repliesLater => repliesLater.trans replies

/-- Neither does a search start nor end. -/
theorem Answers.of_same {before after : ResponseHandler}
    {change : SearchManager → SearchManager} (search : after.search = before.search.map change)
    (same : ∀ manager, SearchManager.SamePromises manager (change manager)) :
    Answers before after := by
  intro manager ledger isManager owes
  refine ⟨change manager, ledger, by rw [search, isManager]; rfl, owes.congr (same manager), ?_⟩
  rw [SearchManager.pending_eq_nil_iff, SearchManager.pending_eq_nil_iff, (same manager).promises]
  exact fun quiet => ⟨quiet, (same manager).replies⟩

/-- A frame may end a search, and starts none. -/
theorem answers_handle (handler : ResponseHandler) (now : Moment) (source : SocketAddress)
    (peer : Option SocketAddress) (frame : Frame) :
    Answers handler (handler.handle now source peer frame).handler := by
  rcases Resolver.handle_cases handler now source peer frame with
    ⟨-, reply⟩ | beacon | ⟨same, -⟩
  · -- A reply ends the search for the channel, if there is one.
    rw [reply]
    intro manager ledger isManager owes
    refine ⟨(manager.searchResponse (handler.searchResultOf source frame)).2, _, ?_,
      (owes.searchResponse (handler.searchResultOf source frame)).2, fun quiet => ?_⟩
    · rw [handleSearchReply, isManager]
    · rw [SearchManager.searchResponse_eq,
        SearchManager.finish_of_none (SearchManager.find?_of_quiet quiet _)]
      exact ⟨quiet, rfl⟩
  · -- A beacon may be an anomaly, which makes the searches start over.
    rw [beacon]
    unfold handleBeacon
    dsimp only
    split
    · refine .of_same ?_ fun manager => manager.samePromises_beaconAnomaly now
      rw [Resolver.search_setDetector]
    · refine @Answers.of_same handler _ id ?_ fun manager => .refl manager
      rw [Resolver.search_setDetector, Option.map_id]
      rfl
  · rw [same]
    exact .refl handler

end ResponseHandler

namespace Client

/-! ## Sockets -/

/-- The reactor of a client, with the closers that were passed to it and those that have run. -/
def closers (client : Client) (passed : List Nat) : ReactorHistory Nat where
  reactor := client.reactor
  passed
  ran := client.disconnected

/-- Only the reactor is concerned when the socket of a circuit is shut down, and stays as open as it
was. -/
theorem disconnect_spec (client : Client) (circuit : Nat) :
    (client.disconnect circuit).closed = client.closed ∧
      (client.disconnect circuit).connector = client.connector ∧
      (client.disconnect circuit).handler = client.handler ∧
      (client.disconnect circuit).reactor.closed = client.reactor.closed := by
  unfold disconnect
  split
  · exact ⟨rfl, rfl, rfl, rfl⟩
  · exact ⟨rfl, rfl, rfl, (client.reactor.unregister_spec _ circuit).2⟩

/-- The closer of a circuit whose socket is shut down is passed to the reactor, or runs at once. -/
theorem closers_disconnect {client : Client} {passed : List Nat}
    (sound : (client.closers passed).Sound) (circuit : Nat) :
    ((client.disconnect circuit).closers (passed ++ [circuit])).Sound := by
  unfold disconnect
  split
  · refine ⟨sound.seen, sound.empty, (sound.balance.append_right [circuit]).trans ?_⟩
    show (client.disconnected ++ _ ++ [circuit]).Perm (client.disconnected ++ [circuit] ++ _)
    rw [List.append_assoc, List.append_assoc]
    exact List.perm_append_comm.append_left _
  · rename_i number key _
    exact sound.happen (.unregister key circuit)

/-- No closer is passed when the reactor stays as it is. -/
theorem closers_same {before after : Client} (reactor : after.reactor = before.reactor)
    (disconnected : after.disconnected = before.disconnected) {passed more : List Nat}
    (nothing : more = []) (sound : (before.closers passed).Sound) :
    (after.closers (passed ++ more)).Sound := by
  rw [nothing, List.append_nil, closers, reactor, disconnected]
  exact sound

/-! ## Turns -/

/-- What can become of a client that sees to this. -/
structure Sees (before after : ClientTurn) (effects : List (Nat × CircuitEffect)) : Prop where
  /-- Owners are told. -/
  told : after.told = before.told ++ toldOf effects
  /-- It is not shut down. -/
  closed : after.client.closed = before.client.closed
  /-- Nobody connects. -/
  connector : after.client.connector =
    { before.client.connector with registry := after.client.connector.registry }
  /-- Circuits and their owners stay as they are. -/
  passes : CircuitRegistry.Passes before.client.connector.registry after.client.connector.registry
    [] [] []
  /-- Searches may end. -/
  answers : ResponseHandler.Answers before.client.handler after.client.handler
  /-- The closers of circuits that are shut down are passed to the reactor. -/
  closers : ∀ passed, (before.client.closers passed).Sound →
    (after.client.closers (passed ++ shutOf effects)).Sound
  /-- The reactor is not shut down. -/
  reactor : after.client.reactor.closed = before.client.reactor.closed

/-- Something is seen of a circuit that changes nothing. -/
theorem Sees.silent (turn : ClientTurn) {effects : List (Nat × CircuitEffect)}
    (told : toldOf effects = []) (shut : shutOf effects = []) : Sees turn turn effects where
  told := by rw [told, List.append_nil]
  closed := rfl
  connector := rfl
  passes := .refl _
  answers := .refl _
  closers := fun _ => closers_same rfl rfl shut
  reactor := rfl

theorem Sees.trans {a b c : ClientTurn} {first second : List (Nat × CircuitEffect)}
    (h₁ : Sees a b first) (h₂ : Sees b c second) : Sees a c (first ++ second) where
  told := by rw [h₂.told, h₁.told, toldOf_append, List.append_assoc]
  closed := h₂.closed.trans h₁.closed
  connector := by
    rw [h₂.connector, h₁.connector]
  passes := h₁.passes.trans h₂.passes
  answers := h₁.answers.trans h₂.answers
  closers := fun passed sound => by
    rw [shutOf_append, ← List.append_assoc]
    exact h₂.closers _ (h₁.closers _ sound)
  reactor := h₂.reactor.trans h₁.reactor

/-- A frame that was delivered is handled. -/
theorem sees_delivered (now : Moment) (number : Nat) (turn : ClientTurn) (frame : Frame) :
    Sees turn (observe now number turn (.delivered frame)) [(number, .delivered frame)] := by
  unfold observe
  dsimp only
  cases present : turn.client.connector.registry.circuits[number]? with
  | none => exact .silent turn rfl rfl
  | some circuit =>
    dsimp only
    have answers :=
      turn.client.handler.answers_handle now circuit.server (some circuit.server) frame
    generalize turn.client.handler.handle now circuit.server (some circuit.server) frame = handled
      at answers
    have noted : CircuitRegistry.Passes turn.client.connector.registry _ [] [] [] :=
      CircuitRegistry.passes_set present
        (show ({ circuit with revision := handled.revision.getD circuit.revision } : Circuit).key =
          circuit.key from rfl) rfl rfl
    refine ⟨(List.append_nil _).symm, rfl, rfl, ?_, answers, fun _ => closers_same rfl rfl rfl, rfl⟩
    dsimp only
    split
    · exact noted
    · exact noted.trans (CircuitRegistry.passes_markAlive _ _ _)

/-- Everything that is seen is seen to. -/
theorem sees_observe (now : Moment) (number : Nat) (turn : ClientTurn) (effect : CircuitEffect) :
    Sees turn (observe now number turn effect) [(number, effect)] := by
  cases effect with
  | told owner => exact ⟨rfl, rfl, rfl, .refl _, .refl _, fun _ => closers_same rfl rfl rfl, rfl⟩
  | disconnected =>
    obtain ⟨closed, connector, handler, reactor⟩ := turn.client.disconnect_spec number
    refine ⟨(List.append_nil _).symm, closed, connector.trans ?_, ?_, ?_,
      fun passed sound => closers_disconnect sound number, reactor⟩
    · show _ = { turn.client.connector with
        registry := (turn.client.disconnect number).connector.registry }
      rw [connector]
    · show CircuitRegistry.Passes _ (turn.client.disconnect number).connector.registry [] [] []
      rw [connector]
      exact .refl _
    · show ResponseHandler.Answers _ (turn.client.disconnect number).handler
      rw [handler]
      exact .refl _
  | delivered frame => exact sees_delivered now number turn frame
  | sent | unregistered | yielded => exact .silent turn rfl rfl

theorem sees_observeAll (client : Client) (now : Moment)
    (effects : List (Nat × CircuitEffect)) :
    Sees { client } (client.observeAll now effects) effects := by
  unfold observeAll
  generalize ({ client } : ClientTurn) = turn
  induction effects generalizing turn with
  | nil => exact .silent turn rfl rfl
  | cons first later ih => exact (sees_observe now first.1 turn first.2).trans (ih _)

/-- The frames of a datagram are handled. -/
theorem sees_handleFrames (client : Client) (now : Moment) (source : SocketAddress)
    (frames : List Frame) : Sees { client } (client.handleFrames now source frames) [] := by
  unfold handleFrames
  refine List.foldlRecOn (motive := fun turn => Sees { client } turn []) _ _
    (.silent _ rfl rfl) ?_
  intro turn sees frame _
  have answers := turn.client.handler.answers_handle now source none frame
  dsimp only
  generalize turn.client.handler.handle now source none frame = handled at answers
  refine @Sees.trans { client } turn _ [] [] sees
    ⟨(List.append_nil _).symm, rfl, rfl, ?_, answers, fun _ => closers_same rfl rfl rfl, rfl⟩
  dsimp only
  split
  · exact .refl _
  · exact CircuitRegistry.passes_markAlive _ _ _

end Client

end ChannelAccess
