import ChannelAccess.Proofs.Search.Operations
import Mathlib.Data.List.Nodup

/-!
# Promised replies

A search that was started with a promised reply carries its number until it ends. What has become of
the replies is kept in a ledger, with the channel that each was promised for, and what happens to
searches resolves all open entries for some channels (`resolve`). `SearchManager.Owes` says that the
replies are those of the ledger, and that the open entries are the promises which searches in
progress carry. Each operation that starts or ends searches does to the replies what it should do to
the ledger; all others keep the `SamePromises`.
-/

namespace ChannelAccess

/-- What has become of a reply, when it was this and something else happened then. -/
def ReplyStatus.followedBy : ReplyStatus → ReplyStatus → ReplyStatus
  | .waiting, later => later
  | status, _ => status

@[simp]
theorem ReplyStatus.followedBy_waiting (status : ReplyStatus) :
    status.followedBy .waiting = status := by
  cases status <;> rfl

/-- A ledger of promised replies: the channel that each was promised for, and what has become of
it. -/
abbrev ReplyLedger := List (UInt32 × ReplyStatus)

/-- Something happens that resolves open replies, depending on their channels. -/
def ReplyLedger.resolve (effect : UInt32 → ReplyStatus) (ledger : ReplyLedger) : ReplyLedger :=
  ledger.map fun entry => (entry.1, entry.2.followedBy (effect entry.1))

/-- Only replies for one channel are resolved. -/
def onlyFor (channelId : UInt32) (status : ReplyStatus) (other : UInt32) : ReplyStatus :=
  if other = channelId then status else .waiting

/-- Replies for other channels stay as they are. -/
theorem onlyFor_eq_waiting_iff {channelId other : UInt32} {status : ReplyStatus}
    (settles : status ≠ .waiting) :
    onlyFor channelId status other = .waiting ↔ other ≠ channelId := by
  unfold onlyFor
  split
  · rename_i same
    exact iff_of_false settles (not_not.mpr same)
  · rename_i other
    exact iff_of_true rfl other

namespace ReplyLedger

/-- Each entry of the ledger is resolved by itself. -/
theorem getElem?_resolve (effect : UInt32 → ReplyStatus) (ledger : ReplyLedger) (number : Nat) :
    (ledger.resolve effect)[number]? =
      ledger[number]?.map fun entry => (entry.1, entry.2.followedBy (effect entry.1)) :=
  List.getElem?_map

/-- What concerns no channel resolves no reply. -/
theorem resolve_waiting (ledger : ReplyLedger) : ledger.resolve (fun _ => .waiting) = ledger := by
  simp [resolve]

/-- What happens keeps a reply open if it was open and stays so. -/
theorem followedBy_eq_waiting {status later : ReplyStatus} :
    status.followedBy later = .waiting ↔ status = .waiting ∧ later = .waiting := by
  cases status <;> simp [ReplyStatus.followedBy]

/-- The open entries after something happened. -/
theorem getElem?_resolve_eq_waiting {effect : UInt32 → ReplyStatus} {ledger : ReplyLedger}
    {channelId : UInt32} {number : Nat} :
    (ledger.resolve effect)[number]? = some (channelId, .waiting) ↔
      ledger[number]? = some (channelId, .waiting) ∧ effect channelId = .waiting := by
  rw [getElem?_resolve, Option.map_eq_some_iff]
  constructor
  · rintro ⟨⟨channel, status⟩, found, same⟩
    obtain ⟨rfl, isOpen⟩ := Prod.mk.inj same
    obtain ⟨rfl, stays⟩ := followedBy_eq_waiting.mp isOpen
    exact ⟨found, stays⟩
  · rintro ⟨found, stays⟩
    exact ⟨_, found, Prod.ext rfl stays⟩

/-- A new entry is the last one. -/
theorem getElem?_concat (ledger : ReplyLedger) (entry : UInt32 × ReplyStatus) (number : Nat) :
    (ledger ++ [entry])[number]? =
      if number = ledger.length then some entry else ledger[number]? := by
  split
  · rename_i last
    rw [last]
    exact List.getElem?_concat_length
  · rename_i notLast
    rcases Nat.lt_or_ge number ledger.length with before | after
    · exact List.getElem?_append_left before
    · rw [List.getElem?_eq_none after]
      refine List.getElem?_eq_none ?_
      rw [List.length_append, List.length_singleton]
      omega

end ReplyLedger

namespace SearchManager

/-! ## What searches carry -/

/-- The channels that are searched for, each with the number of the reply that was promised, if one
was. -/
def promises (manager : SearchManager) : List (UInt32 × Option Nat) :=
  manager.pending.map fun search => (search.channelId, search.reply)

/-- Between two states of a manager no search started or ended, and no reply was promised or
settled. -/
structure SamePromises (before after : SearchManager) : Prop where
  /-- The same channels are searched for, with the same promises. -/
  promises : after.promises = before.promises
  /-- The same has become of the replies. -/
  replies : after.replies = before.replies

/-- The replies are those of a ledger, and its open entries are the promises that searches carry. -/
structure Owes (manager : SearchManager) (ledger : ReplyLedger) : Prop where
  /-- At most one search is in progress for each channel. -/
  channels : (manager.promises.map Prod.fst).Nodup
  /-- What has become of each reply is in the ledger. -/
  replies : ∀ number : Nat, manager.replies[number]? = ledger[number]?.map Prod.snd
  /-- A reply is open as long as a search carries it. -/
  carried : ∀ (channelId : UInt32) (number : Nat),
    ledger[number]? = some (channelId, .waiting) ↔ (channelId, some number) ∈ manager.promises

/-- A channel is searched for if it has a search, with or without a promise. -/
theorem isSome_find? {manager : SearchManager} {channelId : UInt32} :
    (manager.find? channelId).isSome = true ↔ channelId ∈ manager.promises.map Prod.fst := by
  rw [promises, List.map_map, List.mem_map, find?, List.find?_isSome]
  simp only [beq_iff_eq, Function.comp]

/-- What was promised for a channel is what its search carries. -/
theorem mem_promises_of_find? {manager : SearchManager} {channelId : UInt32}
    {search : PendingSearch} (found : manager.find? channelId = some search) :
    (channelId, search.reply) ∈ manager.promises := by
  obtain ⟨isPending, rfl⟩ := mem_of_find? found
  exact List.mem_map.mpr ⟨search, isPending, rfl⟩

/-- The promise for a channel is the only one. -/
theorem Owes.unique {manager : SearchManager} {ledger : ReplyLedger} (h : manager.Owes ledger)
    {channelId : UInt32} {reply other : Option Nat} (first : (channelId, reply) ∈ manager.promises)
    (second : (channelId, other) ∈ manager.promises) : reply = other := by
  have same := List.inj_on_of_nodup_map h.channels first second rfl
  exact congrArg Prod.snd same

/-! ## Operations that start or end searches -/

/-- Settling a reply changes it if it was open, and no other. -/
theorem getElem?_settle (replies : Array ReplyStatus) (reply : Option Nat) (status : ReplyStatus)
    (number : Nat) :
    (settle replies reply status)[number]? =
      if reply = some number then replies[number]?.map (·.followedBy status)
      else replies[number]? := by
  unfold settle
  cases reply with
  | none => rfl
  | some settled =>
    dsimp only
    by_cases same : settled = number
    · subst same
      rw [if_pos rfl]
      by_cases isOpen : replies[settled]? = some .waiting
      · have bound : settled < replies.size := (Array.getElem?_eq_some_iff.mp isOpen).1
        rw [if_pos isOpen, Array.getElem?_setIfInBounds_self_of_lt bound, isOpen]
        rfl
      · -- What is not open any more stays as it is.
        rw [if_neg isOpen]
        cases found : replies[settled]? with
        | none => rfl
        | some status =>
          cases status with
          | waiting => exact absurd found isOpen
          | answered | closed => rfl
    · rw [if_neg fun found => same (Option.some.inj found)]
      split
      · exact Array.getElem?_setIfInBounds_ne same
      · rfl

/-- Settling a reply promises none. -/
theorem size_settle (replies : Array ReplyStatus) (reply : Option Nat) (status : ReplyStatus) :
    (settle replies reply status).size = replies.size := by
  unfold settle
  split
  · split
    · exact Array.size_setIfInBounds
    · rfl
  · rfl

/-- After a search has ended, the promises for other channels are carried on. -/
theorem promises_finish (manager : SearchManager) (channelId : UInt32) (status : ReplyStatus) :
    (manager.finish channelId status).promises =
      manager.promises.filter (·.1 != channelId) := by
  rw [promises, pending_finish, promises, List.filter_map]
  rfl

/-- After a search has ended, the other channels are still searched for. -/
theorem isSome_find?_finish {manager : SearchManager} {channelId other : UInt32}
    {status : ReplyStatus} :
    ((manager.finish channelId status).find? other).isSome = true ↔
      (manager.find? other).isSome = true ∧ other ≠ channelId := by
  rw [isSome_find?, isSome_find?, promises_finish, List.mem_map, List.mem_map]
  constructor
  · rintro ⟨promise, member, rfl⟩
    obtain ⟨carried, differs⟩ := List.mem_filter.mp member
    exact ⟨⟨promise, carried, rfl⟩, bne_iff_ne.mp differs⟩
  · rintro ⟨⟨promise, carried, rfl⟩, differs⟩
    exact ⟨promise, List.mem_filter.mpr ⟨carried, bne_iff_ne.mpr differs⟩, rfl⟩

/-- The end of a search settles the reply that it carries, and no other. -/
theorem getElem?_replies_finish (manager : SearchManager) (channelId : UInt32)
    (status : ReplyStatus) (number : Nat) :
    (manager.finish channelId status).replies[number]? =
      if (manager.find? channelId).bind PendingSearch.reply = some number then
        manager.replies[number]?.map (·.followedBy status)
      else manager.replies[number]? := by
  unfold finish
  cases manager.find? channelId with
  | none => rfl
  | some search => exact getElem?_settle manager.replies search.reply status number

/-- The search for a channel carries an open reply if that was promised for the channel. -/
theorem Owes.carries_iff {manager : SearchManager} {ledger : ReplyLedger} (h : manager.Owes ledger)
    {channelId other : UInt32} {number : Nat} (isOpen : ledger[number]? = some (other, .waiting)) :
    (manager.find? channelId).bind PendingSearch.reply = some number ↔ other = channelId := by
  have carried := (h.carried other number).mp isOpen
  rw [Option.bind_eq_some_iff]
  constructor
  · rintro ⟨search, found, same⟩
    have carries := mem_promises_of_find? found
    rw [same, ← h.carried, isOpen] at carries
    exact congrArg Prod.fst (Option.some.inj carries)
  · rintro rfl
    have searching := isSome_find?.mpr (List.mem_map_of_mem carried)
    obtain ⟨search, found⟩ := Option.isSome_iff_exists.mp searching
    exact ⟨search, found, h.unique (mem_promises_of_find? found) carried⟩

/-- The end of a search resolves the reply that it carries. -/
theorem Owes.finish {manager : SearchManager} {ledger : ReplyLedger} (h : manager.Owes ledger)
    (channelId : UInt32) {status : ReplyStatus} (settles : status ≠ .waiting) :
    (manager.finish channelId status).Owes (ledger.resolve (onlyFor channelId status)) where
  channels := by
    rw [promises_finish]
    exact h.channels.sublist (List.filter_sublist.map _)
  replies := by
    intro number
    rw [getElem?_replies_finish, h.replies, ReplyLedger.getElem?_resolve]
    cases listed : ledger[number]? with
    | none => exact ite_self none
    | some entry =>
      obtain ⟨other, earlier⟩ := entry
      cases earlier with
      | waiting =>
        by_cases same : other = channelId
        · rw [if_pos ((h.carries_iff listed).mpr same), Option.map_some, Option.map_some,
            Option.map_some, Option.map_some, onlyFor, if_pos same]
        · rw [if_neg (mt (h.carries_iff listed).mp same), Option.map_some, Option.map_some,
            Option.map_some, onlyFor, if_neg same]
          rfl
      | answered | closed => exact ite_self _
  carried := by
    intro other number
    rw [ReplyLedger.getElem?_resolve_eq_waiting, h.carried, promises_finish, List.mem_filter,
      bne_iff_ne, onlyFor_eq_waiting_iff settles]

/-- A search that ends without an answer leaves its reply closed. -/
theorem Owes.close {manager : SearchManager} {ledger : ReplyLedger} (h : manager.Owes ledger)
    (channelId : UInt32) :
    (manager.finish channelId .closed).Owes (ledger.resolve (onlyFor channelId .closed)) :=
  h.finish channelId ReplyStatus.noConfusion

/-- The start of a search for a channel that was not searched for adds what was promised. -/
theorem promises_enter (manager : SearchManager) (now : Moment) (channelId : UInt32) (name : String)
    (reply : Option Nat) :
    (manager.enter now channelId name reply).promises =
      manager.promises ++ [(channelId, reply)] := by
  rw [promises, enter, List.map_append]
  rfl

/-- After the start of a search, its channel is searched for besides the others. -/
theorem isSome_find?_start {manager : SearchManager} {now : Moment} {channelId other : UInt32}
    {name : String} {reply : Option Nat} :
    ((manager.start now channelId name reply).find? other).isSome = true ↔
      other = channelId ∨ (manager.find? other).isSome = true ∧ other ≠ channelId := by
  rw [← isSome_find?_finish, isSome_find?, isSome_find?, start_eq, promises_enter, List.map_append,
    List.mem_append, List.map_singleton, List.mem_singleton, or_comm]

/-- A channel that is not searched for may be taken up among those that are. -/
theorem nodup_promises_enter {manager : SearchManager} {channelId : UInt32}
    (channels : (manager.promises.map Prod.fst).Nodup) (free : manager.find? channelId = none)
    (reply : Option Nat) :
    ((manager.promises ++ [(channelId, reply)]).map Prod.fst).Nodup := by
  rw [List.map_append, List.map_singleton, ← List.concat_eq_append]
  refine channels.concat fun searching => ?_
  rw [← isSome_find?, free] at searching
  contradiction

/-- The start of a search without a promise leaves the ledger as it is. -/
theorem Owes.enter {manager : SearchManager} {ledger : ReplyLedger} (h : manager.Owes ledger)
    (now : Moment) {channelId : UInt32} (free : manager.find? channelId = none) (name : String) :
    (manager.enter now channelId name none).Owes ledger where
  channels := by
    rw [promises_enter]
    exact nodup_promises_enter h.channels free none
  replies := h.replies
  carried := by
    intro other number
    rw [h.carried, promises_enter, List.mem_append, List.mem_singleton]
    refine (or_iff_left fun same => ?_).symm
    exact absurd (Prod.mk.inj same).2 (Option.some_ne_none number)

/-- The replies that the ledger lists are as many as were promised. -/
theorem Owes.size {manager : SearchManager} {ledger : ReplyLedger} (h : manager.Owes ledger) :
    ledger.length = manager.replies.size := by
  have none_iff : ∀ number : Nat, manager.replies[number]? = none ↔ ledger[number]? = none := by
    intro number
    rw [h.replies, Option.map_eq_none_iff]
  refine Nat.le_antisymm ?_ ?_
  · exact List.getElem?_eq_none_iff.mp ((none_iff _).mp (Array.getElem?_eq_none (Nat.le_refl _)))
  · exact Array.getElem?_eq_none_iff.mp ((none_iff _).mpr (List.getElem?_eq_none (Nat.le_refl _)))

/-- The start of a search with a promised reply adds an open entry to the ledger. -/
theorem Owes.enter_promise {manager : SearchManager} {ledger : ReplyLedger}
    (h : manager.Owes ledger) (now : Moment) {channelId : UInt32}
    (free : manager.find? channelId = none) (name : String) :
    (manager.promise.enter now channelId name (some manager.replies.size)).Owes
      (ledger ++ [(channelId, .waiting)]) where
  channels := by
    rw [promises_enter]
    exact nodup_promises_enter h.channels free _
  replies := by
    intro number
    show (manager.replies.push .waiting)[number]? = _
    rw [Array.getElem?_push, ReplyLedger.getElem?_concat, h.size, h.replies]
    split <;> rfl
  carried := by
    intro other number
    rw [promises_enter, List.mem_append, List.mem_singleton, ReplyLedger.getElem?_concat, h.size]
    show _ ↔ (other, some number) ∈ manager.promises ∨ _
    rw [← h.carried]
    split
    · rename_i last
      -- The number of the new reply was not in use.
      have unlisted : ledger[number]? = none :=
        List.getElem?_eq_none_iff.mpr (Nat.le_of_eq (h.size.trans last.symm))
      rw [unlisted]
      simp [last, eq_comm]
    · rename_i notLast
      simp [notLast]

/-- Promising another reply first does not change which reply the end of a search settles. -/
theorem Owes.finish_promise {manager : SearchManager} {ledger : ReplyLedger}
    (h : manager.Owes ledger) (channelId : UInt32) (status : ReplyStatus) :
    manager.promise.finish channelId status = (manager.finish channelId status).promise := by
  unfold SearchManager.finish
  rw [show manager.promise.find? channelId = manager.find? channelId from rfl]
  cases found : manager.find? channelId with
  | none => rfl
  | some search =>
    have settled : settle (manager.replies.push .waiting) search.reply status =
        (settle manager.replies search.reply status).push .waiting := by
      refine Array.ext_getElem? fun number => ?_
      rw [getElem?_settle, Array.getElem?_push, Array.getElem?_push, size_settle, getElem?_settle]
      by_cases new : number = manager.replies.size
      · -- No search carries the number of the new reply yet.
        have unused : search.reply ≠ some number := by
          intro same
          have carries := mem_promises_of_find? found
          rw [same, ← h.carried] at carries
          have listed := (List.getElem?_eq_some_iff.mp carries).1
          rw [h.size, new] at listed
          exact Nat.lt_irrefl _ listed
        rw [if_neg unused, if_pos new, if_pos new]
      · rw [if_neg new, if_neg new]
    dsimp only [promise]
    rw [settled]
    rfl

/-- The start of a search closes the reply that was promised before for its channel. -/
theorem Owes.register {manager : SearchManager} {ledger : ReplyLedger} (h : manager.Owes ledger)
    (now : Moment) (channelId : UInt32) (name : String) :
    (manager.register now channelId name).Owes (ledger.resolve (onlyFor channelId .closed)) := by
  rw [SearchManager.register, start_eq]
  exact (h.close channelId).enter now (find?_finish manager channelId _) name

/-- With a promised reply, it adds an open entry besides. -/
theorem Owes.registerWithReply {manager : SearchManager} {ledger : ReplyLedger}
    (h : manager.Owes ledger) (now : Moment) (channelId : UInt32) (name : String) :
    (manager.registerWithReply now channelId name).Owes
      (ledger.resolve (onlyFor channelId .closed) ++ [(channelId, .waiting)]) := by
  have ended := h.close channelId
  have size : (manager.finish channelId .closed).replies.size = manager.replies.size := by
    rw [← ended.size, ← h.size]
    exact List.length_map _
  rw [registerWithReply_eq, start_eq, h.finish_promise, ← size]
  exact ended.enter_promise now (find?_finish manager channelId _) name

theorem SamePromises.refl (manager : SearchManager) : SamePromises manager manager := ⟨rfl, rfl⟩

theorem SamePromises.trans {a b c : SearchManager} (h₁ : SamePromises a b)
    (h₂ : SamePromises b c) : SamePromises a c :=
  ⟨h₂.promises.trans h₁.promises, h₂.replies.trans h₁.replies⟩

/-- What keeps the promises keeps the ledger. -/
theorem Owes.congr {before after : SearchManager} {ledger : ReplyLedger} (h : before.Owes ledger)
    (same : SamePromises before after) : after.Owes ledger where
  channels := by
    rw [same.promises]
    exact h.channels
  replies := by
    rw [same.replies]
    exact h.replies
  carried := by
    rw [same.promises]
    exact h.carried

/-- What keeps the promises keeps the channels that are searched for. -/
theorem SamePromises.isSome_find? {before after : SearchManager} (same : SamePromises before after)
    (channelId : UInt32) :
    (after.find? channelId).isSome = true ↔ (before.find? channelId).isSome = true := by
  rw [SearchManager.isSome_find?, SearchManager.isSome_find?, same.promises]

theorem samePromises_flush (manager : SearchManager) : SamePromises manager manager.flush := by
  unfold flush
  split <;> exact ⟨rfl, rfl⟩

theorem samePromises_flushUnlessSoon (manager : SearchManager) (now : Moment) :
    SamePromises manager (manager.flushUnlessSoon now) := by
  unfold flushUnlessSoon
  dsimp only
  split
  · have sent := samePromises_flush
      { manager with timer := (manager.timer.hasNext now manager.config.coalesceWindow).2 }
    exact ⟨sent.promises, sent.replies⟩
  · exact ⟨rfl, rfl⟩

/-- After a search was given up, the other channels are still searched for. -/
theorem isSome_find?_unregister {manager : SearchManager} {now : Moment}
    {channelId other : UInt32} :
    ((manager.unregister now channelId).2.find? other).isSome = true ↔
      (manager.find? other).isSome = true ∧ other ≠ channelId := by
  rw [← @isSome_find?_finish manager channelId other .closed, unregister_eq]
  split
  · exact (samePromises_flushUnlessSoon _ now).isSome_find? other
  · rename_i free
    rw [finish_of_none (Option.not_isSome_iff_eq_none.mp free)]

/-- A search that is given up leaves its reply closed. -/
theorem Owes.unregister {manager : SearchManager} {ledger : ReplyLedger} (h : manager.Owes ledger)
    (now : Moment) (channelId : UInt32) :
    (manager.unregister now channelId).2.Owes (ledger.resolve (onlyFor channelId .closed)) := by
  have ended := h.close channelId
  rw [unregister_eq]
  split
  · exact ended.congr (samePromises_flushUnlessSoon _ now)
  · rename_i free
    rwa [finish_of_none (Option.not_isSome_iff_eq_none.mp free)] at ended

/-- A server's answer is accepted if its channel is searched for, and is the reply if one was
promised. -/
theorem Owes.searchResponse {manager : SearchManager} {ledger : ReplyLedger}
    (h : manager.Owes ledger) (result : SearchResult) :
    (manager.searchResponse result).1 = (manager.find? result.channelId).isSome ∧
      (manager.searchResponse result).2.Owes
        (ledger.resolve (onlyFor result.channelId (.answered result))) := by
  constructor
  · unfold SearchManager.searchResponse
    cases manager.find? result.channelId <;> rfl
  · rw [searchResponse_eq]
    exact h.finish result.channelId ReplyStatus.noConfusion

/-- When several searches end, the replies that they carry are settled, and no others. -/
theorem getElem?_foldl_settle (searches : List PendingSearch) (replies : Array ReplyStatus)
    (status : ReplyStatus) (number : Nat) :
    (searches.foldl (fun replies search => settle replies search.reply status) replies)[number]? =
      if ∃ search ∈ searches, search.reply = some number then
        replies[number]?.map (·.followedBy status)
      else replies[number]? := by
  induction searches generalizing replies with
  | nil => simp
  | cons search later ih =>
    rw [List.foldl_cons, ih, getElem?_settle]
    -- A reply that two searches carried would be settled by the first of them.
    have once : ∀ earlier : ReplyStatus,
        (earlier.followedBy status).followedBy status = earlier.followedBy status := by
      intro earlier
      cases earlier <;> cases status <;> rfl
    by_cases first : search.reply = some number <;>
      by_cases other : ∃ search ∈ later, search.reply = some number
    · rw [if_pos first, if_pos other, if_pos ⟨search, List.mem_cons_self, first⟩, Option.map_map]
      exact congrArg (Option.map · replies[number]?) (funext once)
    · rw [if_pos first, if_neg other, if_pos ⟨search, List.mem_cons_self, first⟩]
    · obtain ⟨found, member, carries⟩ := other
      rw [if_neg first, if_pos ⟨found, member, carries⟩,
        if_pos ⟨found, List.mem_cons_of_mem _ member, carries⟩]
    · have nobody : ¬ ∃ found ∈ search :: later, found.reply = some number := by
        rintro ⟨found, member, carries⟩
        rcases List.mem_cons.mp member with rfl | member
        · exact first carries
        · exact other ⟨found, member, carries⟩
      rw [if_neg first, if_neg other, if_neg nobody]

/-- When the manager is shut down all open replies are closed. -/
theorem Owes.shutdown {manager : SearchManager} {ledger : ReplyLedger} (h : manager.Owes ledger) :
    manager.shutdown.Owes (ledger.resolve fun _ => .closed) where
  channels := List.nodup_nil
  replies := by
    intro number
    have carries : (∃ search ∈ manager.pending, search.reply = some number) ↔
        ∃ channelId, ledger[number]? = some (channelId, .waiting) := by
      constructor
      · rintro ⟨search, isPending, carries⟩
        refine ⟨search.channelId, (h.carried _ _).mpr ?_⟩
        exact List.mem_map.mpr ⟨search, isPending, Prod.ext rfl carries⟩
      · rintro ⟨channelId, isOpen⟩
        obtain ⟨search, isPending, same⟩ := List.mem_map.mp ((h.carried _ _).mp isOpen)
        exact ⟨search, isPending, (Prod.mk.inj same).2⟩
    show (manager.pending.foldl (fun replies search => settle replies search.reply .closed)
      manager.replies)[number]? = _
    rw [getElem?_foldl_settle, ReplyLedger.getElem?_resolve, h.replies]
    cases listed : ledger[number]? with
    | none => exact ite_self none
    | some entry =>
      obtain ⟨channelId, earlier⟩ := entry
      cases earlier with
      | waiting =>
        rw [if_pos (carries.mpr ⟨channelId, listed⟩)]
        rfl
      | answered | closed => exact ite_self _
  carried := by
    intro channelId number
    rw [ReplyLedger.getElem?_resolve_eq_waiting]
    exact iff_of_false (fun resolved => ReplyStatus.noConfusion resolved.2) List.not_mem_nil

/-! ## Operations that neither start nor end a search -/

theorem samePromises_request (manager : SearchManager) (now : Moment) :
    SamePromises manager (manager.request now).2 := by
  rw [request_eq]
  split
  · exact SamePromises.refl manager
  · rename_i search _
    -- The request is added to the datagram, which may be sent before and after.
    have added : SamePromises manager (manager.withRequest search) := by
      unfold withRequest
      dsimp only
      split
      · exact (samePromises_flush manager).trans ⟨rfl, rfl⟩
      · exact ⟨rfl, rfl⟩
    obtain ⟨immediateFlushes, same⟩ := addRequest_eq manager now search
    rw [same]
    exact (added.trans (samePromises_flushUnlessSoon _ now)).trans ⟨rfl, rfl⟩

/-- Changing the intervals of searches changes no promise. -/
theorem samePromises_mapDelay (manager : SearchManager) (change : PendingSearch → PendingSearch)
    (same : ∀ search, (change search).channelId = search.channelId ∧
      (change search).reply = search.reply) :
    SamePromises manager { manager with pending := manager.pending.map change } := by
  refine ⟨?_, rfl⟩
  rw [promises, promises, List.map_map]
  refine List.map_congr_left fun search _ => ?_
  exact Prod.ext (same search).1 (same search).2

theorem samePromises_resetDelays (manager : SearchManager) :
    SamePromises manager manager.resetDelays :=
  samePromises_mapDelay manager _ fun _ => ⟨rfl, rfl⟩

theorem samePromises_advance (manager : SearchManager) :
    SamePromises manager manager.advance.2 := by
  rw [advance_eq]
  split
  · exact SamePromises.refl manager
  · split
    · exact SamePromises.refl manager
    · refine samePromises_mapDelay manager _ fun other => ?_
      split <;> exact ⟨rfl, rfl⟩

end SearchManager

end ChannelAccess
