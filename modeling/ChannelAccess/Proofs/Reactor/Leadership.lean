import ChannelAccess.Proofs.Reactor.Entries
import ChannelAccess.Reactor.Dispatcher
import Mathlib.Logic.Basic

/-!
# One leader, and one handler for each key

`one_leader_and_one_handler` says what holds of a pool of threads and its reactor in every order of
their steps, of reports, of keys that come and go, and of failures to find another leader: until the
reactor is shut down there is one leader or one job to become it, no two threads are inside the
handler of a key, and a registered key is disabled exactly while one thread has claimed it. A thread
that has claimed a key gives it back by steps of its own, whether its handler returns or panics.

Leadership is a token that is counted (`LeaderFollowers.leaders`), and so are the claims to a key
(`LeaderFollowers.claims`). A step moves one thread, and changes these counts by what the thread
counts for before and after it (`countP_setThread`). The invariant (`LeaderFollowers.Sound`) is
carried over each kind of step by one lemma.
-/

namespace ChannelAccess.LeaderFollowers

variable {C : Type}

/-- The invariant of a pool and its reactor. -/
structure Sound (pool : LeaderFollowers C) : Prop where
  /-- There is one leader, or one job to become it. -/
  token : pool.reactor.closed = false → pool.queued + pool.leaders = 1
  /-- A key is claimed by one thread at most. -/
  single : ∀ key, pool.claims key ≤ 1
  /-- A registered key is disabled while it is claimed. -/
  marked : ∀ key disabled, pool.reactor.disabled? key = some disabled →
    (disabled = true ↔ pool.claims key = 1)
  /-- Registered keys were given out. -/
  given : ∀ key, pool.reactor.nextKey ≤ key → pool.reactor.disabled? key = none
  /-- So were those that are claimed. -/
  known : ∀ key, pool.reactor.nextKey ≤ key → pool.claims key = 0

/-- Before anything happened, one job to lead waits for a thread. -/
theorem Sound.started (threads : Nat) : (started ({} : Reactor C) threads).Sound := by
  have nobody : ∀ p : LeaderThread → Bool, p .idle = false →
      (List.replicate (max 1 threads) LeaderThread.idle).countP p = 0 := by
    intro p idle
    refine List.countP_eq_zero.mpr fun thread member => ?_
    rw [List.eq_of_mem_replicate member, idle]
    exact Bool.false_ne_true
  have unclaimed : ∀ key, (LeaderFollowers.started ({} : Reactor C) threads).claims key = 0 :=
    fun key => nobody _ rfl
  refine
    { token := fun _ => congrArg (1 + ·) (nobody LeaderThread.leads rfl)
      single := fun key => ?_
      marked := fun key disabled registered => nomatch registered
      given := fun _ _ => rfl
      known := fun key _ => unclaimed key }
  rw [unclaimed]
  exact Nat.zero_le 1

/-! ## Steps of one thread -/

/-- Everything that a step can do. -/
inductive Move (pool : LeaderFollowers C) : LeaderStep → LeaderFollowers C → Prop
  /-- A thread takes a job to lead. -/
  | take {thread queued : Nat} (here : pool.threads[thread]? = some .idle)
      (waits : pool.queued = queued + 1) :
      Move pool (.take thread) { pool.setThread thread .leading with queued }
  /-- The leader waits. -/
  | wait {thread : Nat} (here : pool.threads[thread]? = some .leading)
      (reports : List (SelectionKey × Readiness)) :
      Move pool (.wait thread reports) { pool with
        reactor := reports.foldl (fun reactor known => reactor.report known.1 known.2)
          (pool.reactor.drainRequests false).1 }
  /-- The next report is dropped. -/
  | drops {thread : Nat} {reactor : Reactor C} (here : pool.threads[thread]? = some .leading)
      (next : pool.reactor.nextEvent = (none, reactor)) :
      Move pool (.dispatch thread) { pool with reactor }
  /-- The leader is handed the next report. -/
  | dispatches {thread : Nat} {key : SelectionKey} {readiness : Readiness} {reactor : Reactor C}
      (here : pool.threads[thread]? = some .leading)
      (next : pool.reactor.nextEvent = (some (key, readiness), reactor)) :
      Move pool (.dispatch thread) ({ pool with reactor }.setThread thread (.claiming key))
  /-- The leader disables the key. -/
  | claims {thread : Nat} {key : SelectionKey} {reactor : Reactor C}
      (here : pool.threads[thread]? = some (.claiming key))
      (disables : pool.reactor.disable key = (true, reactor)) :
      Move pool (.claim thread) ({ pool with reactor }.setThread thread (.promoting key))
  /-- The leader cannot disable the key, and lets the report go. -/
  | refused {thread : Nat} {key : SelectionKey}
      (here : pool.threads[thread]? = some (.claiming key)) :
      Move pool (.claim thread) (pool.setThread thread .leading)
  /-- Another thread is to lead. -/
  | promotes {thread : Nat} {key : SelectionKey}
      (here : pool.threads[thread]? = some (.promoting key)) :
      Move pool (.promote thread true)
        { pool.setThread thread (.handling key false) with queued := pool.queued + 1 }
  /-- No other thread can lead, so that this one still does. -/
  | keeps {thread : Nat} {key : SelectionKey}
      (here : pool.threads[thread]? = some (.promoting key)) :
      Move pool (.promote thread false) (pool.setThread thread (.handling key true))
  /-- The handler ends. -/
  | ends {thread : Nat} {key : SelectionKey} {leads : Bool}
      (here : pool.threads[thread]? = some (.handling key leads)) (panics : Bool) :
      Move pool (.finish thread panics) (pool.setThread thread (.enabling key leads panics))
  /-- The key is enabled again. -/
  | enables {thread : Nat} {key : SelectionKey} {leads panicking : Bool}
      (here : pool.threads[thread]? = some (.enabling key leads panicking)) :
      Move pool (.enable thread)
        ({ pool with reactor := pool.reactor.enable key }.setThread thread
          (if panicking then .unwinding leads else .afterReport leads))
  /-- A panic is caught. -/
  | recovers {thread : Nat} {leads : Bool}
      (here : pool.threads[thread]? = some (.unwinding leads)) :
      Move pool (.recover thread) (pool.setThread thread (.afterReport leads))
  /-- The leader stops, since the reactor was shut down. -/
  | quits {thread : Nat} (here : pool.threads[thread]? = some .leading)
      (closed : pool.reactor.closed = true) :
      Move pool (.quit thread) (pool.setThread thread .idle)

/-- A step that can happen is one of these. -/
theorem move_of_step {pool after : LeaderFollowers C} {step : LeaderStep}
    (steps : pool.step step = some after) : pool.Move step after := by
  unfold LeaderFollowers.step at steps
  cases step with
  | take thread =>
    dsimp only at steps
    split at steps
    · rename_i here waits
      obtain rfl := Option.some.inj steps
      exact .take here waits
    · contradiction
  | wait thread reports =>
    dsimp only at steps
    split at steps
    · rename_i here
      split at steps
      · contradiction
      · obtain rfl := Option.some.inj steps
        exact .wait here reports
    · contradiction
  | dispatch thread =>
    dsimp only at steps
    split at steps
    · rename_i here
      split at steps
      · contradiction
      · split at steps
        · rename_i next
          obtain rfl := Option.some.inj steps
          exact .dispatches here next
        · rename_i next
          obtain rfl := Option.some.inj steps
          exact .drops here next
    · contradiction
  | claim thread =>
    dsimp only at steps
    split at steps
    · rename_i here
      split at steps
      · rename_i disables
        obtain rfl := Option.some.inj steps
        exact .claims here disables
      · obtain rfl := Option.some.inj steps
        exact .refused here
    · contradiction
  | promote thread succeeds =>
    dsimp only at steps
    split at steps
    · rename_i here
      obtain rfl := Option.some.inj steps
      cases succeeds with
      | true => exact .promotes here
      | false => exact .keeps here
    · contradiction
  | finish thread panics =>
    dsimp only at steps
    split at steps
    · rename_i here
      obtain rfl := Option.some.inj steps
      exact .ends here panics
    · contradiction
  | enable thread =>
    dsimp only at steps
    split at steps
    · rename_i here
      obtain rfl := Option.some.inj steps
      exact .enables here
    · contradiction
  | recover thread =>
    dsimp only at steps
    split at steps
    · rename_i here
      obtain rfl := Option.some.inj steps
      exact .recovers here
    · contradiction
  | quit thread =>
    dsimp only at steps
    split at steps
    · rename_i here
      split at steps
      · rename_i closed
        obtain rfl := Option.some.inj steps
        exact .quits here closed
      · contradiction
    · contradiction

/-- When one thread moves, what is counted changes by what it counts for before and after. -/
theorem countP_setThread {threads : List LeaderThread} {thread : Nat} {before : LeaderThread}
    (here : threads[thread]? = some before) (after : LeaderThread) (p : LeaderThread → Bool) :
    (threads.set thread after).countP p + (p before).toNat =
      threads.countP p + (p after).toNat := by
  obtain ⟨bound, isBefore⟩ := List.getElem?_eq_some_iff.mp here
  -- The thread was counted if its state was, so that nothing is lost by taking it off.
  have counted : (if p threads[thread] = true then 1 else 0) ≤ threads.countP p :=
    List.boole_getElem_le_countP bound
  rw [List.countP_set bound]
  rw [isBefore] at counted ⊢
  have toNat_eq (b : Bool) : b.toNat = if b = true then 1 else 0 := Bool.cond_eq_ite b 1 0
  rw [toNat_eq, toNat_eq]
  omega

variable {pool : LeaderFollowers C} {thread : Nat} {before : LeaderThread}

/-- The leaders after one thread has moved. -/
theorem leaders_setThread (here : pool.threads[thread]? = some before) (after : LeaderThread) :
    (pool.setThread thread after).leaders + before.leads.toNat =
      pool.leaders + after.leads.toNat :=
  countP_setThread here after LeaderThread.leads

/-- The claims to a key after one thread has moved. -/
theorem claims_setThread (here : pool.threads[thread]? = some before) (after : LeaderThread)
    (key : SelectionKey) :
    (pool.setThread thread after).claims key + (before.claimed? == some key).toNat =
      pool.claims key + (after.claimed? == some key).toNat :=
  countP_setThread here after (·.claimed? == some key)

/-- With one job to lead less or more, and a reactor in which keys were taken out at most, threads
that lead and claim the same in sum keep the invariant. -/
theorem Sound.moves {after : LeaderFollowers C} (sound : pool.Sound)
    (narrows : pool.reactor.Narrows after.reactor)
    (token : after.reactor.closed = false →
      after.queued + after.leaders = pool.queued + pool.leaders)
    (claims : ∀ key, after.claims key = pool.claims key) : after.Sound where
  token := fun isOpen => (token isOpen).trans (sound.token (narrows.closed isOpen))
  single := by
    intro key
    rw [claims]
    exact sound.single key
  marked := by
    intro key disabled registered
    rw [claims]
    -- Of a key that was taken out nothing is to be shown.
    rcases narrows.disabled? key with same | gone
    · exact sound.marked key disabled (same ▸ registered)
    · rw [gone] at registered
      contradiction
  given := by
    intro key later
    rw [narrows.nextKey] at later
    rcases narrows.disabled? key with same | gone
    · exact same.trans (sound.given key later)
    · exact gone
  known := by
    intro key later
    rw [narrows.nextKey] at later
    exact (claims key).trans (sound.known key later)

/-- A thread that goes on to lead and claim the same keeps the invariant. -/
theorem Sound.stays {reactor : Reactor C} {after : LeaderThread} (sound : pool.Sound)
    (here : pool.threads[thread]? = some before) (narrows : pool.reactor.Narrows reactor)
    (leads : after.leads = before.leads) (claimed : after.claimed? = before.claimed?) :
    ({ pool with reactor }.setThread thread after).Sound := by
  refine sound.moves narrows (fun _ => ?_) fun key => ?_
  · have leaders := leaders_setThread here after
    rw [leads] at leaders
    exact congrArg (pool.queued + ·) (Nat.add_right_cancel leaders)
  · have claims := claims_setThread here after key
    rw [claimed] at claims
    exact Nat.add_right_cancel claims

/-- A thread that takes a job to lead has what the job stood for. -/
theorem Sound.take {queued : Nat} (sound : pool.Sound) (here : pool.threads[thread]? = some .idle)
    (waits : pool.queued = queued + 1) :
    Sound { pool.setThread thread .leading with queued } := by
  refine sound.moves (.refl _) (fun _ => ?_) fun key => ?_
  · have leaders : (pool.setThread thread .leading).leaders + 0 = pool.leaders + 1 :=
      leaders_setThread here .leading
    show queued + (pool.setThread thread .leading).leaders = pool.queued + pool.leaders
    -- There is one job less and one leader more.
    omega
  · exact Nat.add_right_cancel (claims_setThread here .leading key)

/-- A thread that found another leader leads no more, and a job stands for that. -/
theorem Sound.promote {key : SelectionKey} (sound : pool.Sound)
    (here : pool.threads[thread]? = some (.promoting key)) :
    Sound { pool.setThread thread (.handling key false) with queued := pool.queued + 1 } := by
  refine sound.moves (.refl _) (fun _ => ?_) fun other => ?_
  · have leaders : (pool.setThread thread (.handling key false)).leaders + 1 = pool.leaders + 0 :=
      leaders_setThread here (.handling key false)
    show pool.queued + 1 + (pool.setThread thread (.handling key false)).leaders =
      pool.queued + pool.leaders
    -- There is one job more and one leader less.
    omega
  · exact Nat.add_right_cancel (claims_setThread here (.handling key false) other)

/-- A thread may stop leading once the reactor was shut down. -/
theorem Sound.quit (sound : pool.Sound) (here : pool.threads[thread]? = some .leading)
    (closed : pool.reactor.closed = true) : (pool.setThread thread .idle).Sound := by
  refine sound.moves (.refl _) (fun isOpen => ?_) fun key => ?_
  · exact absurd (isOpen.symm.trans closed) Bool.false_ne_true
  · exact Nat.add_right_cancel (claims_setThread here .idle key)

/-- What changes one key only keeps the invariant if that key is disabled while it is claimed. -/
theorem Sound.of_key {after : LeaderFollowers C} (sound : pool.Sound) {key : SelectionKey}
    (nextKey : after.reactor.nextKey = pool.reactor.nextKey)
    (closed : after.reactor.closed = pool.reactor.closed)
    (token : after.queued + after.leaders = pool.queued + pool.leaders)
    (others : ∀ other, other ≠ key →
      after.reactor.disabled? other = pool.reactor.disabled? other ∧
        after.claims other = pool.claims other)
    (given : key < pool.reactor.nextKey) (single : after.claims key ≤ 1)
    (marked : ∀ disabled, after.reactor.disabled? key = some disabled →
      (disabled = true ↔ after.claims key = 1)) : after.Sound where
  token := fun isOpen => token.trans (sound.token (closed ▸ isOpen))
  single := by
    intro other
    by_cases same : other = key
    · rwa [same]
    · rw [(others other same).2]
      exact sound.single other
  marked := by
    intro other disabled registered
    by_cases same : other = key
    · subst same
      exact marked disabled registered
    · obtain ⟨sameFlag, sameClaims⟩ := others other same
      rw [sameClaims]
      exact sound.marked other disabled (sameFlag ▸ registered)
  given := by
    intro other later
    rw [nextKey] at later
    rw [(others other (Nat.ne_of_gt (Nat.lt_of_lt_of_le given later))).1]
    exact sound.given other later
  known := by
    intro other later
    rw [nextKey] at later
    rw [(others other (Nat.ne_of_gt (Nat.lt_of_lt_of_le given later))).2]
    exact sound.known other later

/-- A key counts for no other. -/
theorem toNat_beq_of_ne {key other : SelectionKey} (differs : other ≠ key) :
    (some key == some other).toNat = 0 := by
  rw [beq_eq_false_iff_ne.mpr fun same => differs (Option.some.inj same).symm]
  rfl

/-- A thread that disables a key is the only one that claims it. -/
theorem Sound.claim {key : SelectionKey} {reactor : Reactor C} (sound : pool.Sound)
    (here : pool.threads[thread]? = some (.claiming key))
    (disables : pool.reactor.disable key = (true, reactor)) :
    ({ pool with reactor }.setThread thread (.promoting key)).Sound := by
  obtain ⟨enabled, nextKey, closed, disabled⟩ := Reactor.disable_eq_true disables
  have free : ¬ pool.claims key = 1 := fun claimed =>
    Bool.false_ne_true ((sound.marked key false enabled).mpr claimed)
  have single := sound.single key
  have claims : ∀ other, (pool.setThread thread (.promoting key)).claims other =
      pool.claims other + (some key == some other).toNat :=
    claims_setThread here (.promoting key)
  -- Nobody had claimed the key, which was not disabled.
  have claimed : (pool.setThread thread (.promoting key)).claims key = 1 := by
    rw [claims, beq_self_eq_true, Bool.toNat_true]
    omega
  refine sound.of_key nextKey closed ?_ (fun other differs => ⟨?_, ?_⟩) ?_
    (Nat.le_of_eq claimed) fun flag isFlag => ?_
  · have leaders := leaders_setThread here (.promoting key)
    exact congrArg (pool.queued + ·) (Nat.add_right_cancel leaders)
  · exact (disabled other).trans (if_neg differs)
  · exact (claims other).trans (congrArg (pool.claims other + ·) (toNat_beq_of_ne differs))
  · refine Nat.lt_of_not_le fun later => ?_
    rw [sound.given key later] at enabled
    contradiction
  · have isFlag : reactor.disabled? key = some flag := isFlag
    rw [disabled, if_pos rfl] at isFlag
    rw [← Option.some.inj isFlag]
    exact iff_of_true rfl claimed

/-- A key that is enabled again is claimed no more. -/
theorem Sound.enable {key : SelectionKey} {leads panicking : Bool} {after : LeaderThread}
    (sound : pool.Sound) (here : pool.threads[thread]? = some (.enabling key leads panicking))
    (sameLeads : after.leads = leads) (gives : after.claimed? = none) :
    ({ pool with reactor := pool.reactor.enable key }.setThread thread after).Sound := by
  obtain ⟨nextKey, closed, disabled⟩ := Reactor.enable_spec pool.reactor key
  have claims : ∀ other, (pool.setThread thread after).claims other +
      (some key == some other).toNat = pool.claims other := by
    intro other
    have claims := claims_setThread here after other
    rwa [gives] at claims
  -- It was claimed by this thread and no other.
  have claimsKey : (pool.setThread thread after).claims key + 1 = pool.claims key := by
    rw [← claims key, beq_self_eq_true, Bool.toNat_true]
  have single := sound.single key
  have unclaimed : (pool.setThread thread after).claims key = 0 := by omega
  refine sound.of_key nextKey closed ?_ (fun other differs => ⟨?_, ?_⟩) ?_
    (Nat.le_trans (Nat.le_of_eq unclaimed) (Nat.zero_le 1)) fun flag isFlag => ?_
  · have leaders := leaders_setThread here after
    rw [sameLeads] at leaders
    exact congrArg (pool.queued + ·) (Nat.add_right_cancel leaders)
  · exact (disabled other).trans (if_neg differs)
  · have same := claims other
    rwa [toNat_beq_of_ne differs] at same
  · refine Nat.lt_of_not_le fun later => ?_
    have none := sound.known key later
    omega
  · have isFlag : (pool.reactor.enable key).disabled? key = some flag := isFlag
    rw [disabled, if_pos rfl] at isFlag
    obtain ⟨-, -, rfl⟩ := Option.map_eq_some_iff.mp isFlag
    refine iff_of_false Bool.false_ne_true fun claimed => ?_
    exact Nat.zero_ne_one (unclaimed.symm.trans claimed)

/-- A new key is neither disabled nor claimed. -/
theorem Sound.register {interest : Interest} {key : SelectionKey} {reactor : Reactor C}
    (sound : pool.Sound) (registers : pool.reactor.register interest = .ok (key, reactor)) :
    Sound { pool with reactor } := by
  have fresh := sound.given pool.reactor.nextKey (Nat.le_refl _)
  obtain ⟨nextKey, closed, disabled⟩ := Reactor.register_spec fresh registers
  refine
    { token := fun isOpen => sound.token (closed ▸ isOpen)
      single := sound.single
      marked := fun other flag isFlag => ?marked
      given := fun other later => ?given
      known := fun other later => ?known }
  case marked =>
    have isFlag : reactor.disabled? other = some flag := isFlag
    rw [disabled] at isFlag
    by_cases new : other = pool.reactor.nextKey
    · -- Nobody can have claimed a key before it was given out.
      rw [if_pos new] at isFlag
      have unclaimed : pool.claims other = 0 := sound.known other (Nat.le_of_eq new.symm)
      rw [← Option.some.inj isFlag]
      refine iff_of_false Bool.false_ne_true fun claimed => ?_
      exact Nat.zero_ne_one (unclaimed.symm.trans claimed)
    · rw [if_neg new] at isFlag
      exact sound.marked other flag isFlag
  case given =>
    have later : pool.reactor.nextKey + 1 ≤ other := nextKey ▸ later
    show reactor.disabled? other = none
    rw [disabled, if_neg (Nat.ne_of_gt later)]
    exact sound.given other (Nat.le_of_succ_le later)
  case known =>
    have later : pool.reactor.nextKey + 1 ≤ other := nextKey ▸ later
    exact sound.known other (Nat.le_of_succ_le later)

/-- Waiting takes no key out. -/
theorem narrows_wait (reactor : Reactor C) (reports : List (SelectionKey × Readiness)) :
    reactor.Narrows (reports.foldl (fun reactor known => reactor.report known.1 known.2)
      (reactor.drainRequests false).1) := by
  obtain ⟨keys, nextKey, closed⟩ := Reactor.drainRequests_spec reactor false
  refine List.foldlRecOn (motive := reactor.Narrows) reports _ (.of_keys keys nextKey closed) ?_
  intro before narrows known _
  exact narrows.trans (Reactor.narrows_report before known.1 known.2)

/-- A reactor in which keys were taken out at most keeps the invariant. -/
theorem Sound.reactor {reactor : Reactor C} (sound : pool.Sound)
    (narrows : pool.reactor.Narrows reactor) : Sound { pool with reactor } :=
  sound.moves narrows (fun _ => rfl) fun _ => rfl

/-- Every step of a thread keeps the invariant. -/
theorem Sound.step {after : LeaderFollowers C} (sound : pool.Sound) {step : LeaderStep}
    (steps : pool.step step = some after) : after.Sound := by
  cases move_of_step steps with
  | take here waits => exact sound.take here waits
  | wait here reports => exact sound.reactor (narrows_wait pool.reactor reports)
  | drops here next =>
    have narrows := Reactor.narrows_nextEvent pool.reactor
    rw [next] at narrows
    exact sound.reactor narrows
  | dispatches here next =>
    have narrows := Reactor.narrows_nextEvent pool.reactor
    rw [next] at narrows
    exact sound.stays here narrows rfl rfl
  | claims here disables => exact sound.claim here disables
  | refused here => exact sound.stays here (.refl _) rfl rfl
  | promotes here => exact sound.promote here
  | keeps here => exact sound.stays here (.refl _) rfl rfl
  | ends here panics => exact sound.stays here (.refl _) rfl rfl
  | enables here =>
    -- Where the thread goes on depends on how the handler ended, what it leads and claims does not.
    rename_i leads panicking
    cases panicking <;> cases leads <;> exact sound.enable here rfl rfl
  | recovers here =>
    rename_i leads
    cases leads <;> exact sound.stays here (.refl _) rfl rfl
  | quits here closed => exact sound.quit here closed

/-- Every event keeps the invariant. -/
theorem Sound.happen (sound : pool.Sound) (event : LeaderEvent C) : (pool.happen event).Sound := by
  cases event with
  | thread step =>
    unfold LeaderFollowers.happen
    dsimp only
    cases steps : pool.step step with
    | none => exact sound
    | some after => exact sound.step steps
  | register interest =>
    unfold LeaderFollowers.happen
    dsimp only
    split
    · rename_i registers
      exact sound.register registers
    · exact sound
  | setInterest key interest =>
    exact sound.reactor (Reactor.narrows_setInterest pool.reactor key interest)
  | unregister key closer =>
    exact sound.reactor (Reactor.narrows_unregister pool.reactor key closer)
  | shutdown => exact sound.reactor (Reactor.narrows_shutdown pool.reactor)

/-- Any number of events keep the invariant. -/
theorem Sound.run (sound : pool.Sound) (events : List (LeaderEvent C)) :
    (pool.run events).Sound := by
  induction events generalizing pool with
  | nil => exact sound
  | cons event later ih => exact ih (sound.happen event)

/-- Whoever is inside the handler of a key has claimed it. -/
theorem handlers_le_claims (pool : LeaderFollowers C) (key : SelectionKey) :
    pool.handlers key ≤ pool.claims key := by
  refine List.countP_mono_left fun state _ inside => ?_
  have handled := beq_iff_eq.mp inside
  refine beq_iff_eq.mpr ?_
  cases state with
  | handling => exact handled
  | _ => contradiction

/-! ## A claim is given up -/

/-- A step moves its own thread at most. -/
theorem threads_step {after : LeaderFollowers C} {step : LeaderStep}
    (steps : pool.step step = some after) :
    after.threads = pool.threads ∨ ∃ state, after.threads = pool.threads.set step.thread state := by
  cases move_of_step steps with
  | wait | drops => exact .inl rfl
  | _ => exact .inr ⟨_, rfl⟩

/-- A thread stays where it is while others do something. -/
theorem getElem?_threads_happen (pool : LeaderFollowers C) {event : LeaderEvent C} {thread : Nat}
    (others : event.thread? ≠ some thread) :
    (pool.happen event).threads[thread]? = pool.threads[thread]? := by
  cases event with
  | thread step =>
    unfold LeaderFollowers.happen
    dsimp only
    cases steps : pool.step step with
    | none => rfl
    | some after =>
      rw [Option.getD_some]
      rcases threads_step steps with same | ⟨state, moved⟩
      · rw [same]
      · rw [moved]
        exact List.getElem?_set_ne fun same => others (congrArg some same)
  | register interest =>
    unfold LeaderFollowers.happen
    dsimp only
    split <;> rfl
  | setInterest | unregister | shutdown => rfl

/-- A thread that is about to enable its key can do so, and the key is not disabled or claimed
then. -/
theorem Sound.freed {key : SelectionKey} {leads panicking : Bool} (sound : pool.Sound)
    (here : pool.threads[thread]? = some (.enabling key leads panicking)) :
    ∃ after, pool.step (.enable thread) = some after ∧
      after.reactor.disabled? key ≠ some true ∧ after.claims key = 0 := by
  have steps : pool.step (.enable thread) = some
      ({ pool with reactor := pool.reactor.enable key }.setThread thread
        (if panicking then .unwinding leads else .afterReport leads)) := by
    rw [LeaderFollowers.step, here]
  have gives : (if panicking then LeaderThread.unwinding leads else .afterReport leads).claimed? =
      none := by
    cases panicking <;> cases leads <;> rfl
  refine ⟨_, steps, ?_, ?_⟩
  · show (pool.reactor.enable key).disabled? key ≠ some true
    rw [(Reactor.enable_spec pool.reactor key).2.2, if_pos rfl]
    cases pool.reactor.disabled? key <;> simp
  · have claims := claims_setThread here
      (if panicking then .unwinding leads else .afterReport leads) key
    rw [gives] at claims
    have claims : (pool.setThread thread
        (if panicking then .unwinding leads else .afterReport leads)).claims key +
          (some key == some key).toNat = pool.claims key := claims
    rw [beq_self_eq_true, Bool.toNat_true] at claims
    -- The claim that is given up was the only one.
    have single := sound.single key
    show (pool.setThread thread _).claims key = 0
    omega

/-- **One leader, and one handler for each key.** A pool of some threads is started, and then its
threads, the poll and everybody who uses the reactor do whatever they do, in any order. Then
* until the reactor is shut down, there is one thread that leads or one job to lead,
* at most one thread is inside the handler of a key,
* a registered key is disabled exactly if one thread has claimed it, which is from its successful
  `disable` until it enables the key again, and no two threads ever have,
* however a handler ends, its thread is about to enable the key then, and stays so whatever others
  do until it does,
* it can do so at any time, and then the key is neither disabled nor claimed. -/
theorem one_leader_and_one_handler (threads : Nat) (events : List (LeaderEvent C)) :
    let pool := (started ({} : Reactor C) threads).run events
    (pool.reactor.closed = false → pool.queued + pool.leaders = 1) ∧
    (∀ key, pool.handlers key ≤ 1) ∧
    (∀ key, pool.claims key ≤ 1 ∧ ∀ disabled, pool.reactor.disabled? key = some disabled →
      (disabled = true ↔ pool.claims key = 1)) ∧
    (∀ thread key leads panics, pool.threads[thread]? = some (.handling key leads) →
      ∃ after, pool.step (.finish thread panics) = some after ∧
        after.threads[thread]? = some (.enabling key leads panics)) ∧
    (∀ thread event, event.thread? ≠ some thread →
      (pool.happen event).threads[thread]? = pool.threads[thread]?) ∧
    (∀ thread key leads panics, pool.threads[thread]? = some (.enabling key leads panics) →
      ∃ after, pool.step (.enable thread) = some after ∧
        after.reactor.disabled? key ≠ some true ∧ after.claims key = 0) := by
  intro pool
  have sound : pool.Sound := (Sound.started threads).run events
  refine ⟨sound.token, fun key => ?_, fun key => ⟨sound.single key, sound.marked key⟩, ?_,
    fun _ _ others => getElem?_threads_happen pool others, fun _ _ _ _ here => sound.freed here⟩
  · exact Nat.le_trans (handlers_le_claims pool key) (sound.single key)
  · intro thread key leads panics here
    refine ⟨_, by rw [LeaderFollowers.step, here], ?_⟩
    exact List.getElem?_set_self (List.getElem?_eq_some_iff.mp here).1

end ChannelAccess.LeaderFollowers
