import ChannelAccess.Proofs.Circuit.Connecting
import Mathlib.Data.List.Perm.Basic

/-!
# One open circuit for each key

`one_open_circuit_per_key` says what holds of any number of clients that connect to any keys, in
every order of their steps, while circuits are released and closed and servers cannot be connected
to.

Locks are made when they are needed and forgotten when nobody else knows them. They exclude all the
same, since the lock that a call waits for or has is always the one in the table under its key
(`Connector.Locking`): a call that would take it from the table is not the only one who knows it
(`Connector.two_lt_knowing`). A call that has the lock of its key finds every open circuit under the
key in the registry, for no other call is about to register one. So a circuit is opened only when
none is open under its key (`Connector.Sharing`), and what a call returns is the circuit that is
open under its key, if it stays open (`Connector.Later`).

All that is so for keys whose connections lead to them, the direct ones. Clients that ask for an
address which stands for another open a circuit each, for a circuit is registered under the address
that its connection leads to (`Connector.not_one_open_circuit_per_key_unspecified`).
-/

namespace ChannelAccess

namespace Connector

variable {direct : CircuitKey → Prop}

/-! ## The invariant -/

/-- Calls that open a circuit exclude each other by the locks of their keys. -/
structure Locking (connector : Connector) : Prop where
  /-- The lock that a call waits for, or has, is that of its key. -/
  guarded : ∀ (index : Nat) (call : ConnectCall) (lock : Nat), connector.calls[index]? = some call →
    call.phase.guards? = some lock → connector.lock? call.key = some lock
  /-- No two calls have the same lock. -/
  exclusive : ∀ (index other : Nat) (first second : ConnectCall) (lock : Nat),
    connector.calls[index]? = some first → connector.calls[other]? = some second →
    first.phase.holds? = some lock →
    second.phase.holds? = some lock → index = other

/-- There is no open circuit under a direct key but the registered ones, and those that calls
open. -/
structure Sharing (connector : Connector) (direct : CircuitKey → Prop) : Prop where
  /-- Circuits are registered under their own keys. -/
  filed : connector.registry.Filed
  /-- A call opens, and returns, a circuit that has its key as far as the direct ones go. -/
  own : ∀ (index : Nat) (call : ConnectCall) (number : Nat), connector.calls[index]? = some call →
    call.phase.circuit? = some number ∨ call.phase.decided? = some (.ok number) →
    ∃ key, connector.registry.key? number = some key ∧ Alike direct key call.key
  /-- While a call opens a circuit under a direct key no other circuit under it is open. -/
  single : ∀ (index : Nat) (call : ConnectCall) (number : Nat),
    connector.calls[index]? = some call → direct call.key → call.phase.isOpening = true →
    connector.registry.OpenUnder call.key number → call.phase.circuit? = some number
  /-- An open circuit under a direct key is registered, or about to be. -/
  listed : ∀ key number, direct key → connector.registry.OpenUnder key number →
    connector.registry.lookup? key = some number ∨
      ∃ (index : Nat) (call : ConnectCall) (lock : Nat),
        connector.calls[index]? = some call ∧ call.phase = .registering lock number

/-- Two calls that have the lock of the same key are the same. -/
theorem Locking.same_call {connector : Connector} (h : connector.Locking) {index other : Nat}
    {first second : ConnectCall} (here : connector.calls[index]? = some first)
    (there : connector.calls[other]? = some second) (sameKey : first.key = second.key)
    {lock lock' : Nat} (holds : first.phase.holds? = some lock)
    (holds' : second.phase.holds? = some lock') : index = other := by
  have guarded := h.guarded index first lock here (ConnectPhase.guards?_of_holds? holds)
  have guarded' := h.guarded other second lock' there (ConnectPhase.guards?_of_holds? holds')
  rw [← sameKey, guarded] at guarded'
  obtain rfl := Option.some.inj guarded'
  exact h.exclusive index other first second lock here there holds holds'

/-- The circuit of a call is under a direct key exactly if the call asked for that key. -/
theorem Sharing.key_iff {connector : Connector} (h : connector.Sharing direct) {index : Nat}
    {call : ConnectCall} {number : Nat} (here : connector.calls[index]? = some call)
    (own : call.phase.circuit? = some number ∨ call.phase.decided? = some (.ok number))
    {wanted : CircuitKey} (isDirect : direct wanted) :
    connector.registry.key? number = some wanted ↔ call.key = wanted := by
  obtain ⟨key, isKey, alike⟩ := h.own index call number here own
  rw [isKey, Option.some_inj]
  exact alike wanted isDirect

/-- No two open circuits are under the same direct key. -/
theorem Sharing.unique {connector : Connector} (h : connector.Sharing direct) {key : CircuitKey}
    (isDirect : direct key) {number other : Nat}
    (isOpen : connector.registry.OpenUnder key number)
    (isOpen' : connector.registry.OpenUnder key other) : number = other := by
  -- A circuit that a call is about to register is the only one under its key.
  have opening : ∀ {number other : Nat}, connector.registry.OpenUnder key number →
      connector.registry.OpenUnder key other → (∃ (index : Nat) (call : ConnectCall) (lock : Nat),
        connector.calls[index]? = some call ∧ call.phase = .registering lock number) →
          number = other := by
    rintro number other isOpen isOpen' ⟨index, call, lock, here, phase⟩
    have isOwn : call.phase.circuit? = some number := by rw [phase]; rfl
    have opens : call.phase.isOpening = true := by rw [phase]; rfl
    have asked : call.key = key := (h.key_iff here (.inl isOwn) isDirect).mp isOpen.key?
    subst asked
    have isOther := h.single index call other here isDirect opens isOpen'
    exact Option.some.inj (isOwn.symm.trans isOther)
  rcases h.listed key number isDirect isOpen with registered | calls
  · rcases h.listed key other isDirect isOpen' with registered' | calls'
    · exact Option.some.inj (registered.symm.trans registered')
    · exact (opening isOpen' isOpen calls').symm
  · exact opening isOpen isOpen' calls

theorem getElem?_enter (connector : Connector) (index : Nat) (phase : ConnectPhase) (other : Nat) :
    (connector.enter index phase).calls[other]? =
      if index = other then (connector.calls[other]?).map fun call => { call with phase }
      else connector.calls[other]? := by
  show (connector.calls.modify index fun call => { call with phase })[other]? = _
  rw [List.getElem?_modify]
  split
  · rfl
  · exact Option.map_id'

/-- A call is the one that goes on, or one that was there before. -/
theorem call_enter {connector : Connector} {index other : Nat} {call found : ConnectCall}
    {phase : ConnectPhase} (here : connector.calls[index]? = some call)
    (there : (connector.enter index phase).calls[other]? = some found) :
    other = index ∧ found = { call with phase } ∨
      other ≠ index ∧ connector.calls[other]? = some found := by
  rw [getElem?_enter] at there
  split at there
  · rename_i same
    subst same
    rw [here] at there
    exact .inl ⟨rfl, (Option.some.inj there).symm⟩
  · rename_i differs
    exact .inr ⟨Ne.symm differs, there⟩

theorem isLocked_of_holds? {connector : Connector} {index lock : Nat} {call : ConnectCall}
    (here : connector.calls[index]? = some call) (holds : call.phase.holds? = some lock) :
    connector.isLocked lock = true := by
  refine List.any_eq_true.mpr ⟨call, List.mem_of_getElem? here, ?_⟩
  unfold ConnectPhase.holds? at holds
  split at holds
  · rename_i has
    rw [has, Bool.true_and, beq_iff_eq]
    exact holds
  · contradiction

section
variable {connector after : Connector} {index : Nat} {call : ConnectCall} {phase : ConnectPhase}
  (here : connector.calls[index]? = some call)
  (calls : after.calls = (connector.enter index phase).calls)

include here calls

/-- A call goes on with a lock that it has already, or that nobody has. -/
theorem Locking.enter (h : connector.Locking)
    (guards : ∀ lock, phase.guards? = some lock → after.lock? call.key = some lock)
    (kept : ∀ (index' : Nat) (other : ConnectCall) (lock : Nat), index' ≠ index →
      connector.calls[index']? = some other → other.phase.guards? = some lock →
        after.lock? other.key = some lock)
    (holds : ∀ lock, phase.holds? = some lock →
      call.phase.holds? = some lock ∨ connector.isLocked lock = false) : after.Locking where
  guarded := by
    intro index' found lock there guarded
    rw [calls] at there
    rcases call_enter here there with ⟨rfl, rfl⟩ | ⟨differs, there⟩
    · exact guards lock guarded
    · exact kept index' found lock differs there guarded
  exclusive := by
    have excludes : ∀ {index' : Nat} {other : ConnectCall} {lock : Nat},
        connector.calls[index']? = some other → phase.holds? = some lock →
          other.phase.holds? = some lock → index = index' := by
      intro index' other lock there own others
      rcases holds lock own with before | free
      · exact h.exclusive index index' call other lock here there before others
      · exact absurd (free.symm.trans (isLocked_of_holds? there others)) Bool.false_ne_true
    intro i j first second lock there there' holds holds'
    rw [calls] at there there'
    rcases call_enter here there with ⟨rfl, rfl⟩ | ⟨-, before⟩
    · rcases call_enter here there' with ⟨rfl, -⟩ | ⟨-, before'⟩
      · rfl
      · exact excludes before' holds holds'
    · rcases call_enter here there' with ⟨rfl, rfl⟩ | ⟨-, before'⟩
      · exact (excludes before holds' holds).symm
      · exact h.exclusive i j first second lock before before' holds holds'

/-- A call goes on with a circuit of its own or none, and no open circuit gets lost. -/
theorem Sharing.enter (h : connector.Sharing direct) (filed : after.registry.Filed)
    (keys : ∀ number key, connector.registry.key? number = some key →
      after.registry.key? number = some key)
    (own : ∀ number, phase.circuit? = some number ∨ phase.decided? = some (.ok number) →
      ∃ key, after.registry.key? number = some key ∧ Alike direct key call.key)
    (others : ∀ (index' : Nat) (other : ConnectCall) (number : Nat), index' ≠ index →
      connector.calls[index']? = some other → direct other.key → other.phase.isOpening = true →
      after.registry.OpenUnder other.key number →
      connector.registry.OpenUnder other.key number)
    (single : direct call.key → phase.isOpening = true →
      ∀ number, after.registry.OpenUnder call.key number → phase.circuit? = some number)
    (listed : ∀ key number, direct key → after.registry.OpenUnder key number →
      after.registry.lookup? key = some number ∨ (∃ lock, phase = .registering lock number) ∨
        ∃ (index' : Nat) (other : ConnectCall) (lock : Nat), index' ≠ index ∧
          connector.calls[index']? = some other ∧ other.phase = .registering lock number) :
    after.Sharing direct where
  filed := filed
  own := by
    intro index' found number there isOwn
    rw [calls] at there
    rcases call_enter here there with ⟨rfl, rfl⟩ | ⟨-, there⟩
    · exact own number isOwn
    · obtain ⟨key, isKey, alike⟩ := h.own index' found number there isOwn
      exact ⟨key, keys number key isKey, alike⟩
  single := by
    intro index' found number there isDirect opens isOpen
    rw [calls] at there
    rcases call_enter here there with ⟨rfl, rfl⟩ | ⟨differs, there⟩
    · exact single isDirect opens number isOpen
    · exact h.single index' found number there isDirect opens
        (others index' found number differs there isDirect opens isOpen)
  listed := by
    intro key number isDirect isOpen
    rcases listed key number isDirect isOpen with registered | ⟨lock, rfl⟩ | ⟨index', other, lock,
      differs, there, registers⟩
    · exact .inl registered
    · refine .inr ⟨index, { call with phase := .registering lock number }, lock, ?_, rfl⟩
      rw [calls, getElem?_enter, if_pos rfl, here]
      rfl
    · refine .inr ⟨index', other, lock, ?_, registers⟩
      rw [calls, getElem?_enter, if_neg (Ne.symm differs)]
      exact there

/-- A call goes on with the circuit that it has, and some circuit is used at most. -/
theorem Sharing.proceeds (h : connector.Sharing direct) {number : Nat}
    (wanes : connector.registry.Wanes number after.registry)
    (opening : phase.isOpening = true →
      call.phase.isOpening = true ∧ phase.circuit? = call.phase.circuit?)
    (kept : ∀ lock circuit, call.phase ≠ .registering lock circuit)
    (decided : ∀ circuit, phase.decided? = some (.ok circuit) →
      call.phase.decided? = some (.ok circuit) ∨ Justified after.registry call (.ok circuit)) :
    after.Sharing direct := by
  refine h.enter here calls (wanes.filed h.filed) (fun number key isKey => ?_)
    (fun circuit isOwn => ?_) (fun _ _ _ _ _ _ _ isOpen => wanes.opens _ _ isOpen)
    (fun isDirect opens circuit isOpen => ?_) fun key circuit isDirect isOpen => ?_
  · rw [wanes.key?]
    exact isKey
  · rw [wanes.key?]
    rcases isOwn with isOwn | isDecided
    · obtain ⟨-, same⟩ := opening (ConnectPhase.isOpening_of_circuit? isOwn)
      exact h.own index call circuit here (.inl (same.symm.trans isOwn))
    · rcases decided circuit isDecided with before | ⟨isOwn, -⟩ | ⟨-, isOpen⟩
      · exact h.own index call circuit here (.inr before)
      · exact h.own index call circuit here (.inl isOwn)
      · exact ⟨call.key, (wanes.key? circuit).symm.trans isOpen.key?, .refl direct call.key⟩
  · obtain ⟨opened, same⟩ := opening opens
    exact same.trans (h.single index call circuit here isDirect opened (wanes.opens _ _ isOpen))
  · rcases h.listed key circuit isDirect (wanes.opens key circuit isOpen) with
      registered | registers
    · rcases wanes.kept key circuit registered with still | ⟨rfl, closed⟩
      · exact .inl still
      · exact absurd isOpen closed
    · obtain ⟨index', other, lock, there, phase⟩ := registers
      refine .inr (.inr ⟨index', other, lock, ?_, there, phase⟩)
      rintro rfl
      obtain rfl := Option.some.inj (here.symm.trans there)
      exact kept lock circuit phase

end

/-- More than two know a lock that two calls know and the table. -/
theorem two_lt_knowing {connector : Connector} {index other lock : Nat}
    {first second : ConnectCall} {key : CircuitKey} (differ : other ≠ index)
    (here : connector.calls[index]? = some first) (there : connector.calls[other]? = some second)
    (knows : first.phase.lock? = some lock) (knows' : second.phase.lock? = some lock)
    (filed : connector.lock? key = some lock) : 2 < connector.knowing lock := by
  obtain ⟨inRange, isFirst⟩ := List.getElem?_eq_some_iff.mp here
  have calls : connector.calls.countP (·.phase.lock? == some lock) =
      (connector.calls.eraseIdx index).countP (·.phase.lock? == some lock) + 1 := by
    rw [← (List.getElem_cons_eraseIdx_perm inRange).countP_eq, isFirst]
    exact List.countP_cons_of_pos (beq_iff_eq.mpr knows)
  have others : 0 < (connector.calls.eraseIdx index).countP (·.phase.lock? == some lock) :=
    List.countP_pos_iff.mpr
      ⟨second, List.mem_eraseIdx_iff_getElem?.mpr ⟨other, differ, there⟩, beq_iff_eq.mpr knows'⟩
  obtain ⟨entry, found, isLock⟩ := Option.map_eq_some_iff.mp filed
  have table : 0 < connector.locks.countP (·.2 == lock) :=
    List.countP_pos_iff.mpr ⟨entry, List.mem_of_find?_eq_some found, beq_iff_eq.mpr isLock⟩
  rw [knowing, calls]
  omega

/-- Whatever step a call takes, the locks exclude other calls. -/
theorem Locking.move {connector after : Connector} (h : connector.Locking) {index : Nat}
    {call : ConnectCall} (here : connector.calls[index]? = some call)
    (move : connector.Move direct index call after) : after.Locking := by
  have guarded : ∀ {lock : Nat}, call.phase.guards? = some lock →
      connector.lock? call.key = some lock := fun guards => h.guarded index call _ here guards
  have others : ∀ (index' : Nat) (other : ConnectCall) (lock : Nat), index' ≠ index →
      connector.calls[index']? = some other → other.phase.guards? = some lock →
        connector.lock? other.key = some lock :=
    fun index' other lock _ => h.guarded index' other lock
  cases move with
  | proceeds wanes used next =>
    exact h.enter here rfl (fun lock guards => guarded (next.guards? guards)) others
      fun lock holds => .inl (next.holds? holds)
  | learns looks found kept =>
    refine h.enter here rfl (fun lock isLock => ?_)
      (fun index' other lock differs there guards => ?_) nofun
    · obtain rfl := Option.some.inj isLock
      exact found
    · exact kept _ _ (others index' other lock differs there guards)
  | locks waits free =>
    refine h.enter here rfl (fun lock isLock => guarded ?_) others fun lock isLock => .inr ?_
    · rw [waits]
      exact isLock
    · obtain rfl := Option.some.inj isLock
      exact free
  | begins looks | opens looks | registers looks =>
    refine h.enter here rfl (fun lock isLock => guarded ?_) others fun lock isLock => .inl ?_
    · rw [looks]
      exact isLock
    · rw [looks]
      exact isLock
  | cleans done =>
    rename_i lock result
    have own : connector.lock? call.key = some lock := guarded (by rw [done]; rfl)
    refine h.enter here rfl nofun (fun index' other lock' differs there guards => ?_) nofun
    have before := others index' other lock' differs there guards
    by_cases sameKey : other.key = call.key
    · -- Another call that needs the lock of the key knows it, so that it stays in the table.
      rw [sameKey, own] at before
      obtain rfl := Option.some.inj before
      have knows : call.phase.lock? = some lock := by rw [done]; rfl
      have knows' : other.phase.lock? = some lock := ConnectPhase.lock?_of_guards? guards
      have more := two_lt_knowing differs here there knows knows' own
      rw [if_neg (Nat.not_le_of_lt more), sameKey]
      exact own
    · show Option.map _ (List.find? _ (if _ then _ else _)) = _
      split
      · rw [Table.find?_filter, if_neg sameKey]
        exact before
      · exact before

/-- A call that opens a circuit while another call has the lock of its own key does so under another
key. -/
theorem Locking.key_ne {connector : Connector} (h : connector.Locking) {index other lock : Nat}
    {call found : ConnectCall} (here : connector.calls[index]? = some call)
    (there : connector.calls[other]? = some found) (differs : other ≠ index)
    (holds : call.phase.holds? = some lock) (opens : found.phase.isOpening = true) :
    call.key ≠ found.key := by
  intro sameKey
  obtain ⟨lock', holds'⟩ := ConnectPhase.exists_holds? opens
  exact differs (h.same_call here there sameKey holds holds').symm

theorem index_ne {connector : Connector} {index other : Nat} {call found : ConnectCall}
    (here : connector.calls[index]? = some call) (there : connector.calls[other]? = some found)
    (differs : found.phase ≠ call.phase) : other ≠ index := by
  rintro rfl
  obtain rfl := Option.some.inj (here.symm.trans there)
  exact differs rfl

section
variable {connector : Connector} {index lock : Nat} {call : ConnectCall}
  (here : connector.calls[index]? = some call)

include here

/-- A call that has the lock and finds no open circuit registered is the only one to open one. -/
theorem Sharing.begins (h : connector.Sharing direct) (locking : connector.Locking)
    (looks : call.phase = .lookingAgain lock)
    (none : ∀ number, connector.registry.lookup? call.key = some number →
      ¬ connector.registry.OpenUnder call.key number) :
    (connector.enter index (.connecting lock)).Sharing direct := by
  have holds : call.phase.holds? = some lock := by rw [looks]; rfl
  refine h.enter here rfl h.filed (fun _ _ => id) nofun (fun _ _ _ _ _ _ _ => id)
    (fun isDirect _ number isOpen => ?_)
    fun key number isDirect isOpen => (h.listed key number isDirect isOpen).imp_right ?_
  · rcases h.listed call.key number isDirect isOpen with registered | ⟨other, found, _, there,
      registers⟩
    · exact absurd isOpen (none number registered)
    · -- Another call that is about to register a circuit has the lock of another key.
      have sameKey : found.key = call.key :=
        (h.key_iff there (.inl (by rw [registers]; rfl)) isDirect).mp isOpen.key?
      have differs := index_ne here there (by rw [registers, looks]; nofun)
      exact absurd sameKey.symm
        (locking.key_ne here there differs holds (by rw [registers]; rfl))
  · rintro ⟨other, found, lock', there, registers⟩
    exact .inr ⟨other, found, lock', index_ne here there (by rw [registers, looks]; nofun),
      there, registers⟩

/-- A call makes a circuit. If its key is direct, no other one is open under it. -/
theorem Sharing.opens (h : connector.Sharing direct) (locking : connector.Locking)
    (connected : call.phase = .opening lock) {circuit : Circuit}
    (alike : Alike direct circuit.key call.key) :
    ({ connector with registry := connector.registry.add circuit }.enter index
      (.registering lock connector.registry.circuits.length)).Sharing direct := by
  have holds : call.phase.holds? = some lock := by rw [connected]; rfl
  refine h.enter here rfl (CircuitRegistry.filed_add h.filed circuit)
    (fun _ _ isKey => CircuitRegistry.key?_add isKey circuit) (fun number isOwn => ?_)
    (fun other found number differs there isDirect opens isOpen => ?_)
    (fun isDirect _ number isOpen => ?_) fun key number isDirect isOpen => ?_
  · obtain rfl := Option.some.inj (isOwn.resolve_right nofun)
    exact ⟨circuit.key, connector.registry.key?_add_self circuit, alike⟩
  · rcases CircuitRegistry.openUnder_add isOpen with ⟨-, isOther⟩ | before
    · exact absurd ((alike found.key isDirect).mp isOther)
        (locking.key_ne here there differs holds opens)
    · exact before
  · rcases CircuitRegistry.openUnder_add isOpen with ⟨isNew, -⟩ | before
    · exact congrArg some isNew.symm
    · have isOwn := h.single index call number here isDirect (by rw [connected]; rfl) before
      rw [connected] at isOwn
      contradiction
  · rcases CircuitRegistry.openUnder_add isOpen with ⟨isNew, -⟩ | before
    · exact .inr (.inl ⟨lock, congrArg _ isNew.symm⟩)
    · refine (h.listed key number isDirect before).imp_right fun registers => .inr ?_
      obtain ⟨other, found, lock', there, registers⟩ := registers
      exact ⟨other, found, lock', index_ne here there (by rw [registers, connected]; nofun),
        there, registers⟩

/-- A call registers its circuit. If its key is direct, that is the only open one under it. -/
theorem Sharing.registers (h : connector.Sharing direct) {number : Nat}
    (opened : call.phase = .registering lock number) :
    ({ connector with registry := connector.registry.put number }.enter index
      (.greeting lock number)).Sharing direct := by
  have isOwn : call.phase.circuit? = some number := by rw [opened]; rfl
  obtain ⟨key, isKey, alike⟩ := h.own index call number here (.inl isOwn)
  have found := CircuitRegistry.lookup?_put isKey
  have only : ∀ {other : Nat}, direct call.key → connector.registry.OpenUnder call.key other →
      number = other := fun {other} isDirect isOpen => Option.some.inj
    (isOwn.symm.trans (h.single index call other here isDirect (by rw [opened]; rfl) isOpen))
  refine h.enter here rfl (CircuitRegistry.filed_put h.filed isKey)
    (fun other key known => (connector.registry.key?_put number other).trans known)
    (fun other known => ?_) (fun _ _ _ _ _ _ _ => CircuitRegistry.openUnder_put.mp)
    (fun isDirect _ other isOpen =>
      congrArg some (only isDirect (CircuitRegistry.openUnder_put.mp isOpen)))
    fun wanted other isDirect isOpen => ?_
  · obtain rfl := Option.some.inj (known.resolve_right nofun)
    exact ⟨key, (connector.registry.key?_put number number).trans isKey, alike⟩
  · have before := CircuitRegistry.openUnder_put.mp isOpen
    by_cases same : wanted = key
    · obtain rfl : call.key = wanted := (alike wanted isDirect).mp same.symm
      obtain rfl := only isDirect before
      exact .inl ((found call.key).trans (if_pos same))
    · rcases h.listed wanted other isDirect before with registered | ⟨index', caller, lock',
        there, registers⟩
      · exact .inl ((found wanted).trans ((if_neg same).trans registered))
      · refine .inr (.inr ⟨index', caller, lock', ?_, there, registers⟩)
        rintro rfl
        obtain rfl := Option.some.inj (here.symm.trans there)
        obtain rfl := Option.some.inj (isOwn.symm.trans (by rw [registers]; rfl))
        exact same (Option.some.inj (before.key?.symm.trans isKey))

/-- Whatever step a call takes, open circuits under direct keys are shared. -/
theorem Sharing.move {after : Connector} (h : connector.Sharing direct)
    (locking : connector.Locking) (move : connector.Move direct index call after) :
    after.Sharing direct := by
  have unused := CircuitRegistry.Wanes.refl 0 connector.registry
  cases move with
  | proceeds wanes used next decided =>
    refine h.proceeds here rfl wanes next.isOpening next.ne_registering fun circuit isDecided => ?_
    exact decided (.ok circuit) isDecided
  | learns looks | locks looks =>
    refine h.proceeds here rfl unused nofun ?_ nofun
    rw [looks]
    nofun
  | cleans done =>
    refine h.proceeds here rfl unused nofun ?_ fun circuit isDecided => .inl ?_
    · rw [done]
      nofun
    · rw [done]
      exact isDecided
  | begins looks none => exact h.begins here locking looks none
  | opens connected alike => exact h.opens here locking connected alike
  | registers opened => exact h.registers here opened

end

/-! ## What happens -/

/-- The invariant of circuits and the calls that open them. -/
structure Sound (connector : Connector) (direct : CircuitKey → Prop) : Prop where
  /-- Calls that open a circuit exclude each other. -/
  locking : connector.Locking
  /-- Open circuits under direct keys are shared. -/
  sharing : connector.Sharing direct

theorem Sound.start (settings : ConnectorSettings) : Sound { settings } direct := by
  have noCall : ∀ {index : Nat} {call : ConnectCall},
      ({ settings } : Connector).calls[index]? ≠ some call := fun {index call} here =>
    Option.some_ne_none call (here.symm.trans List.getElem?_nil)
  have noCircuit : ∀ {key : CircuitKey} {number : Nat},
      ¬ ({ settings } : Connector).registry.OpenUnder key number := by
    rintro key number ⟨circuit, present, -⟩
    exact Option.some_ne_none circuit (present.symm.trans List.getElem?_nil)
  exact
    { locking :=
        { guarded := fun _ _ _ here => absurd here noCall
          exclusive := fun _ _ _ _ _ here => absurd here noCall }
      sharing :=
        { filed := fun _ number registered => absurd registered.symm (Option.some_ne_none number)
          own := fun _ _ _ here => absurd here noCall
          single := fun _ _ _ here => absurd here noCall
          listed := fun _ _ _ isOpen => absurd isOpen noCircuit } }

theorem deed_wanes (deed : CircuitDeed) (run : CircuitRun) :
    CircuitRun.Wanes run (deed.act run) := by
  cases deed with
  | disown client => exact .of_circuit rfl id rfl
  | beginClose peerGone => exact run.wanes_beginClose peerGone
  | closeStep => exact run.wanes_closeStep

/-- A call that has not begun is looking for a circuit. -/
theorem call_concat {connector : Connector} {client : ClientId} {key : CircuitKey} {index : Nat}
    {call : ConnectCall}
    (here : (connector.happen (.call client key)).calls[index]? = some call) :
    connector.calls[index]? = some call ∨ call.phase = .looking := by
  have concat : (connector.calls ++ [({ client, key } : ConnectCall)])[index]? = some call := here
  rw [List.getElem?_append] at concat
  split at concat
  · exact .inl concat
  · obtain rfl := List.mem_singleton.mp (List.mem_of_getElem? concat)
    exact .inr rfl

theorem call_stays {connector : Connector} (client : ClientId) (key : CircuitKey) {index : Nat}
    {call : ConnectCall} (here : connector.calls[index]? = some call) :
    (connector.happen (.call client key)).calls[index]? = some call := by
  obtain ⟨inRange, -⟩ := List.getElem?_eq_some_iff.mp here
  exact (List.getElem?_append_left inRange).trans here

/-- A connection that an event makes has the key that was asked for, as far as the direct ones go.
-/
def ConnectsDirectly (connector : Connector) (direct : CircuitKey → Prop) :
    ConnectorEvent → Prop
  | .advance index world => ∀ (call : ConnectCall) (lock : Nat),
      connector.calls[index]? = some call → call.phase = .opening lock →
      LeadsTo direct call world
  | _ => True

/-- All connections that some events make have the keys that were asked for, as far as the direct
ones go. -/
def RunsDirectly (connector : Connector) (direct : CircuitKey → Prop) :
    List ConnectorEvent → Prop
  | [] => True
  | event :: later => connector.ConnectsDirectly direct event ∧
      (connector.happen event).RunsDirectly direct later

/-- Connections that lead where they are asked to make every key a direct one. -/
theorem runsDirectly_of_leadsTo {connector : Connector} {events : List ConnectorEvent}
    (straight : ∀ index world, .advance index world ∈ events →
      ∀ server, world.leadsTo server = server) :
    connector.RunsDirectly direct events := by
  induction events generalizing connector with
  | nil => trivial
  | cons event later ih =>
    refine ⟨?_, ih fun index world isLater => straight index world (.tail _ isLater)⟩
    cases event with
    | call client key => trivial
    | use number writes deed => trivial
    | advance index world =>
      intro call lock here opening
      rw [LeadsTo, straight index world (.head _)]
      exact .refl direct call.key

/-- Connections may lead anywhere if no key is to be direct. -/
theorem connectsDirectly_none (connector : Connector) (event : ConnectorEvent) :
    connector.ConnectsDirectly (fun _ => False) event := by
  cases event with
  | advance index world => exact fun _ _ _ _ _ => False.elim
  | call | use => trivial

theorem runsDirectly_none (connector : Connector) (events : List ConnectorEvent) :
    connector.RunsDirectly (fun _ => False) events := by
  induction events generalizing connector with
  | nil => trivial
  | cons event later ih => exact ⟨connector.connectsDirectly_none event, ih _⟩

/-- Whatever happens is a step of a call, the beginning of another call, or the use of a circuit. -/
inductive Event (connector : Connector) (direct : CircuitKey → Prop) : Connector → Prop
  /-- A call takes a step. -/
  | moves {index : Nat} {call : ConnectCall} {after : Connector}
      (here : connector.calls[index]? = some call)
      (move : connector.Move direct index call after) : Event connector direct after
  /-- A client calls. -/
  | calls (client : ClientId) (key : CircuitKey) :
      Event connector direct (connector.happen (.call client key))
  /-- A circuit is used, if any. -/
  | uses {number : Nat} {registry : CircuitRegistry}
      (wanes : connector.registry.Wanes number registry) :
      Event connector direct { connector with registry }

theorem event_of_happen {connector : Connector} (filed : connector.registry.Filed)
    {event : ConnectorEvent} (leads : connector.ConnectsDirectly direct event) :
    connector.Event direct (connector.happen event) := by
  have nothing : connector.Event direct connector := .uses (.refl 0 connector.registry)
  cases event with
  | call client key => exact .calls client key
  | advance index world =>
    rw [happen]
    cases steps : connector.step index world with
    | none => exact nothing
    | some result =>
      obtain ⟨call, here, -⟩ := Option.bind_eq_some_iff.mp steps
      exact .moves here (move_of_step filed here (fun lock => leads call lock here) steps)
  | use number writes deed =>
    rw [happen]
    cases uses : connector.useCircuit number writes fun run => ((), deed.act run) with
    | none => exact nothing
    | some result =>
      obtain ⟨_, after, _⟩ := result
      obtain ⟨registry, rfl, wanes, -⟩ := useCircuit_eq_some (deed_wanes deed) uses
      exact .uses wanes

theorem Sound.event {connector after : Connector} (h : connector.Sound direct)
    (event : connector.Event direct after) : after.Sound direct := by
  cases event with
  | moves here move => exact ⟨h.locking.move here move, h.sharing.move here h.locking move⟩
  | calls client key =>
    refine ⟨⟨fun index call lock here guards => ?_,
      fun index other first second lock here there holds holds' => ?_⟩,
      h.sharing.filed, fun index call number here isOwn => ?_,
      fun index call number here isDirect opens isOpen => ?_,
      fun key number isDirect isOpen => ?_⟩
    · rcases call_concat here with before | looking
      · exact h.locking.guarded index call lock before guards
      · rw [looking] at guards
        contradiction
    · rcases call_concat here with before | looking
      · rcases call_concat there with before' | looking
        · exact h.locking.exclusive index other first second lock before before' holds holds'
        · rw [looking] at holds'
          contradiction
      · rw [looking] at holds
        contradiction
    · rcases call_concat here with before | looking
      · exact h.sharing.own index call number before isOwn
      · rw [looking] at isOwn
        exact isOwn.elim nofun nofun
    · rcases call_concat here with before | looking
      · exact h.sharing.single index call number before isDirect opens isOpen
      · rw [looking] at opens
        contradiction
    · refine (h.sharing.listed key number isDirect isOpen).imp_right ?_
      rintro ⟨index, call, lock, here, registers⟩
      exact ⟨index, call, lock, call_stays client _ here, registers⟩
  | uses wanes =>
    refine ⟨⟨h.locking.guarded, h.locking.exclusive⟩, wanes.filed h.sharing.filed,
      fun index call number here isOwn => ?_,
      fun index call number here isDirect opens isOpen => ?_,
      fun key number isDirect isOpen => ?_⟩
    · rw [wanes.key?]
      exact h.sharing.own index call number here isOwn
    · exact h.sharing.single index call number here isDirect opens (wanes.opens _ _ isOpen)
    · rcases h.sharing.listed key number isDirect (wanes.opens key number isOpen) with
        registered | registers
      · rcases wanes.kept key number registered with still | ⟨rfl, closed⟩
        · exact .inl still
        · exact absurd isOpen closed
      · exact .inr registers

theorem Sound.happen {connector : Connector} (h : connector.Sound direct)
    {event : ConnectorEvent} (leads : connector.ConnectsDirectly direct event) :
    (connector.happen event).Sound direct :=
  h.event (event_of_happen h.sharing.filed leads)

theorem Sound.run {connector : Connector} (h : connector.Sound direct)
    {events : List ConnectorEvent} (leads : connector.RunsDirectly direct events) :
    (connector.run events).Sound direct := by
  induction events generalizing connector with
  | nil => exact h
  | cons event later ih => exact ih (h.happen leads.1) leads.2

/-! ## What follows for clients -/

/-- What becomes of circuits and calls. -/
structure Later (direct : CircuitKey → Prop) (before after : Connector) : Prop where
  /-- Circuits keep their keys. -/
  key? : ∀ number key, before.registry.key? number = some key →
    after.registry.key? number = some key
  /-- No circuit was opened again. -/
  opens : ∀ number key, before.registry.key? number = some key →
    after.registry.OpenUnder key number → before.registry.OpenUnder key number
  /-- Open circuits that were registered under direct keys still are. -/
  kept : ∀ key number, direct key → before.registry.lookup? key = some number →
    after.registry.OpenUnder key number → after.registry.lookup? key = some number
  /-- Calls are for the same key and what they return does not change. -/
  calls : ∀ (index : Nat) (call : ConnectCall), before.calls[index]? = some call →
    ∃ phase, after.calls[index]? = some { call with phase } ∧
      ∀ result, call.phase.decided? = some result → phase.decided? = some result
  /-- A call for a direct key for which it was decided what it returns, meanwhile, returns any
  circuit that was open under the key all the time. -/
  decided : ∀ (index : Nat) (call : ConnectCall) (result : Except TransportError Nat),
    after.calls[index]? = some call → direct call.key → call.phase.decided? = some result →
    (∃ earlier, before.calls[index]? = some earlier ∧ earlier.phase.decided? = some result) ∨
      ∀ number, before.registry.OpenUnder call.key number →
        after.registry.OpenUnder call.key number → result = .ok number

theorem Later.refl (connector : Connector) : Later direct connector connector where
  key? := fun _ _ => id
  opens := fun _ _ _ => id
  kept := fun _ _ _ registered _ => registered
  calls := fun _ call here => ⟨call.phase, here, fun _ => id⟩
  decided := fun _ call _ here _ decided => .inl ⟨call, here, decided⟩

theorem Later.trans {a b c : Connector} (filed : a.registry.Filed) (h₁ : Later direct a b)
    (h₂ : Later direct b c) : Later direct a c where
  key? := fun number key isKey => h₂.key? number key (h₁.key? number key isKey)
  opens := fun number key isKey isOpen =>
    h₁.opens number key isKey (h₂.opens number key (h₁.key? number key isKey) isOpen)
  kept := by
    intro key number isDirect registered isOpen
    have isKey := h₁.key? number key (filed key number registered)
    have stillOpen := h₂.opens number key isKey isOpen
    exact h₂.kept key number isDirect (h₁.kept key number isDirect registered stillOpen) isOpen
  calls := by
    intro index call here
    obtain ⟨phase, there, decided⟩ := h₁.calls index call here
    obtain ⟨last, still, decidedLater⟩ := h₂.calls index _ there
    exact ⟨last, still, fun result is => decidedLater result (decided result is)⟩
  decided := by
    intro index call result here isDirect isDecided
    rcases h₂.decided index call result here isDirect isDecided with
      ⟨earlier, there, already⟩ | meanwhile
    · -- It was decided in between, and a circuit that is open in the end was open then.
      obtain ⟨phase, again, -⟩ := h₂.calls index earlier there
      obtain rfl := Option.some.inj (here.symm.trans again)
      refine (h₁.decided index earlier result there isDirect already).imp_right ?_
      intro meanwhile number isOpen stillOpen
      have isKey := h₁.key? number earlier.key isOpen.key?
      exact meanwhile number isOpen (h₂.opens number earlier.key isKey stillOpen)
    · refine .inr fun number isOpen stillOpen => meanwhile number ?_ stillOpen
      exact h₂.opens number call.key (h₁.key? number call.key isOpen.key?) stillOpen

theorem Later.enter {connector after : Connector} {index : Nat} {call : ConnectCall}
    {phase : ConnectPhase} (here : connector.calls[index]? = some call)
    (calls : after.calls = (connector.enter index phase).calls)
    (key? : ∀ number key, connector.registry.key? number = some key →
      after.registry.key? number = some key)
    (opens : ∀ number key, connector.registry.key? number = some key →
      after.registry.OpenUnder key number → connector.registry.OpenUnder key number)
    (kept : ∀ key number, direct key → connector.registry.lookup? key = some number →
      after.registry.OpenUnder key number → after.registry.lookup? key = some number)
    (undone : ∀ result, call.phase.decided? = some result → phase.decided? = some result)
    (decided : ∀ result, direct call.key → phase.decided? = some result →
      call.phase.decided? = some result ∨ ∀ number, connector.registry.OpenUnder call.key number →
        after.registry.OpenUnder call.key number → result = .ok number) :
    Later direct connector after where
  key? := key?
  opens := opens
  kept := kept
  calls := by
    intro index' found there
    rw [calls, getElem?_enter]
    split
    · rename_i same
      subst same
      obtain rfl := Option.some.inj (here.symm.trans there)
      exact ⟨phase, congrArg _ here, undone⟩
    · exact ⟨found.phase, there, fun _ => id⟩
  decided := by
    intro index' found result there isDirect isDecided
    rw [calls] at there
    rcases call_enter here there with ⟨rfl, rfl⟩ | ⟨-, before⟩
    · exact (decided result isDirect isDecided).imp_left fun already => ⟨call, here, already⟩
    · exact .inl ⟨found, before, isDecided⟩

/-- A call takes a step. -/
theorem Sound.later_move {connector after : Connector} (h : connector.Sound direct) {index : Nat}
    {call : ConnectCall} (here : connector.calls[index]? = some call)
    (move : connector.Move direct index call after) : Later direct connector after := by
  have sharing := h.sharing.move here h.locking move
  cases move with
  | proceeds wanes used next decided =>
    refine .enter here rfl (fun number key isKey => (wanes.key? number).trans isKey)
      (fun _ _ _ => wanes.opens _ _) (fun key number _ registered isOpen => ?_)
      (fun _ => next.decided?)
      fun result isDirect isDecided => (decided result isDecided).imp_right ?_
    · rcases wanes.kept key number registered with still | ⟨rfl, closed⟩
      · exact still
      · exact absurd isOpen closed
    · intro justified number isOpen still
      have single := fun opens => h.sharing.single index call number here isDirect opens isOpen
      cases result with
      | ok circuit =>
        refine congrArg _ ?_
        rcases justified with ⟨isOwn, -⟩ | ⟨-, shared⟩
        · have only := single (ConnectPhase.isOpening_of_circuit? isOwn)
          exact Option.some.inj (isOwn.symm.trans only)
        · exact sharing.unique isDirect shared still
      | error error =>
        obtain ⟨opens, closed⟩ := justified
        exact absurd still (closed number (single opens) call.key)
  | learns looks | locks looks | begins looks =>
    refine .enter here rfl (fun _ _ => id) (fun _ _ _ => id) (fun _ _ _ registered _ => registered)
      ?_ nofun
    rw [looks]
    nofun
  | cleans done =>
    refine .enter here rfl (fun _ _ => id) (fun _ _ _ => id) (fun _ _ _ registered _ => registered)
      ?_ fun result _ isDecided => .inl ?_
    · rw [done]
      exact fun _ => id
    · rw [done]
      exact isDecided
  | opens connected alike =>
    refine .enter here rfl (fun _ _ isKey => CircuitRegistry.key?_add isKey _)
      (fun number key isKey isOpen => ?_) (fun _ _ _ registered _ => registered) ?_ nofun
    · rcases CircuitRegistry.openUnder_add isOpen with ⟨rfl, -⟩ | before
      · exact absurd rfl (Nat.ne_of_lt (CircuitRegistry.lt_of_key? isKey))
      · exact before
    · rw [connected]
      nofun
  | registers opened =>
    rename_i lock number
    have isOwn : call.phase.circuit? = some number := by rw [opened]; rfl
    obtain ⟨filed, isKey, alike⟩ := h.sharing.own index call number here (.inl isOwn)
    refine .enter here rfl
      (fun other key isKey => (connector.registry.key?_put number other).trans isKey)
      (fun _ _ _ => CircuitRegistry.openUnder_put.mp)
      (fun key other isDirect registered isOpen => ?_) ?_ nofun
    · refine (CircuitRegistry.lookup?_put isKey key).trans ?_
      split
      · rename_i same
        obtain rfl : call.key = key := (alike key isDirect).mp same.symm
        have before := CircuitRegistry.openUnder_put.mp isOpen
        have only := h.sharing.single index call other here isDirect (by rw [opened]; rfl) before
        exact isOwn.symm.trans only
      · exact registered
    · rw [opened]
      nofun

theorem Sound.later_event {connector after : Connector} (h : connector.Sound direct)
    (event : connector.Event direct after) : Later direct connector after := by
  cases event with
  | moves here move => exact h.later_move here move
  | calls client key =>
    refine ⟨fun _ _ => id, fun _ _ _ => id, fun _ _ _ registered _ => registered,
      fun index call here => ⟨call.phase, call_stays client key here, fun _ => id⟩,
      fun index call result here _ isDecided => ?_⟩
    rcases call_concat here with before | looking
    · exact .inl ⟨call, before, isDecided⟩
    · rw [looking] at isDecided
      contradiction
  | uses wanes =>
    refine ⟨fun number key isKey => (wanes.key? number).trans isKey, fun _ _ _ => wanes.opens _ _,
      fun key number _ registered isOpen => ?_,
      fun index call here => ⟨call.phase, here, fun _ => id⟩,
      fun index call result here _ isDecided => .inl ⟨call, here, isDecided⟩⟩
    rcases wanes.kept key number registered with still | ⟨rfl, closed⟩
    · exact still
    · exact absurd isOpen closed

theorem Sound.later_run {connector : Connector} (h : connector.Sound direct)
    {events : List ConnectorEvent} (leads : connector.RunsDirectly direct events) :
    Later direct connector (connector.run events) := by
  induction events generalizing connector with
  | nil => exact .refl connector
  | cons event later ih =>
    have first := h.later_event (event_of_happen h.sharing.filed leads.1)
    exact first.trans h.sharing.filed (ih (h.happen leads.1) leads.2)

/-- What is done with a circuit takes no other circuit out of the registry. -/
theorem lookup?_happen_use {connector : Connector} {number other : Nat} {key : CircuitKey}
    (registered : connector.registry.lookup? key = some other) (differs : other ≠ number)
    (writes : List WriteOutcome) (deed : CircuitDeed) :
    (connector.happen (.use number writes deed)).registry.lookup? key = some other := by
  rw [happen]
  cases uses : connector.useCircuit number writes fun run => ((), deed.act run) with
  | none => exact registered
  | some result =>
    obtain ⟨_, after, _⟩ := result
    obtain ⟨registry, rfl, wanes, -⟩ := useCircuit_eq_some (deed_wanes deed) uses
    exact (wanes.kept key other registered).resolve_right fun itself => differs itself.1

/-- A call that has registered its circuit, and may close it, takes no other circuit out of the
registry. -/
theorem lookup?_happen_advance {connector : Connector} (filed : connector.registry.Filed)
    {index : Nat} {call : ConnectCall} (here : connector.calls[index]? = some call)
    {number other : Nat} (isOwn : call.phase.circuit? = some number)
    (notRegistering : ∀ lock, call.phase ≠ .registering lock number) {key : CircuitKey}
    (registered : connector.registry.lookup? key = some other) (differs : other ≠ number)
    (world : ConnectWorld) :
    (connector.happen (.advance index world)).registry.lookup? key = some other := by
  rw [Connector.happen]
  cases steps : connector.step index world with
  | none => exact registered
  | some result =>
    obtain ⟨after, effects⟩ := result
    have move : connector.Move (fun _ => False) index call after :=
      move_of_step filed here (fun _ _ _ => False.elim) steps
    cases move with
    | proceeds wanes used =>
      obtain rfl := used number isOwn
      exact (wanes.kept key other registered).resolve_right fun itself => differs itself.1
    | learns phase | locks phase | begins phase | opens phase | cleans phase =>
      rw [phase] at isOwn
      contradiction
    | registers phase =>
      rw [phase] at isOwn
      obtain rfl := Option.some.inj isOwn
      exact absurd phase (notRegistering _)

end Connector

/-- Whatever clients that connect do, in any order of their steps, while circuits are released and
closed and servers cannot be connected to: no two of them are inside the opening of a circuit under
the same key, and what is done with a circuit takes no other one out of the registry.

For a key whose connections lead to it, and are the only ones to do so: a client that is to open a
circuit under the key finds no open one, and no two open circuits are under the key. Clients for
which it is decided what they return while a circuit under the key is open all get that circuit, and
one that is registered stays so while it is open. What a client gets is a circuit under the key
exactly if it asked for the key, so that clients of other keys share none of its circuits. -/
theorem one_open_circuit_per_key (settings : ConnectorSettings) (events : List ConnectorEvent) :
    let start : Connector := { settings }
    let connector := start.run events
    (∀ (index other : Nat) (first second : ConnectCall),
      connector.calls[index]? = some first → connector.calls[other]? = some second →
      first.phase.isOpening = true → second.phase.isOpening = true → first.key = second.key →
      index = other) ∧
      (∀ (number other : Nat) (key : CircuitKey), connector.registry.lookup? key = some other →
        other ≠ number →
        (∀ writes deed,
          (connector.happen (.use number writes deed)).registry.lookup? key = some other) ∧
          ∀ (index : Nat) (call : ConnectCall) (world : ConnectWorld),
            connector.calls[index]? = some call → call.phase.circuit? = some number →
            (∀ lock, call.phase ≠ .registering lock number) →
            (connector.happen (.advance index world)).registry.lookup? key = some other) ∧
      ∀ key, start.RunsDirectly (· = key) events →
        (∀ (index : Nat) (call : ConnectCall) (lock : Nat), connector.calls[index]? = some call →
          call.key = key → call.phase = .connecting lock →
          ∀ number, ¬ connector.registry.OpenUnder key number) ∧
        (∀ number other, connector.registry.OpenUnder key number →
          connector.registry.OpenUnder key other → number = other) ∧
        (∀ (later : List ConnectorEvent), connector.RunsDirectly (· = key) later →
          (∀ (index : Nat) (call : ConnectCall) (result : Except TransportError Nat) (number : Nat),
            (connector.run later).calls[index]? = some call → call.key = key →
            call.phase.decided? = some result →
            (∀ earlier, connector.calls[index]? = some earlier → earlier.phase.decided? = none) →
            connector.registry.OpenUnder key number →
            (connector.run later).registry.OpenUnder key number → result = .ok number) ∧
          ∀ number, connector.registry.lookup? key = some number →
            (connector.run later).registry.OpenUnder key number →
            (connector.run later).registry.lookup? key = some number) ∧
        ∀ (index : Nat) (call : ConnectCall) (number : Nat), connector.calls[index]? = some call →
          call.phase.decided? = some (.ok number) →
          (connector.registry.key? number = some key ↔ call.key = key) := by
  intro start connector
  -- What holds whatever connections lead to needs no key to be direct.
  have anyway : connector.Sound (fun _ => False) :=
    (Connector.Sound.start settings).run (start.runsDirectly_none events)
  refine ⟨fun index other first second here there opens opens' sameKey => ?_,
    fun number other key registered differs => ⟨fun writes deed => ?_,
      fun index call world here isOwn notRegistering => ?_⟩, fun key leads => ?_⟩
  · obtain ⟨lock, holds⟩ := ConnectPhase.exists_holds? opens
    obtain ⟨lock', holds'⟩ := ConnectPhase.exists_holds? opens'
    exact anyway.locking.same_call here there sameKey holds holds'
  · exact Connector.lookup?_happen_use registered differs writes deed
  · exact Connector.lookup?_happen_advance anyway.sharing.filed here isOwn notRegistering registered
      differs world
  · have sound : connector.Sound (· = key) := (Connector.Sound.start settings).run leads
    refine ⟨?_, fun number other => sound.sharing.unique rfl, fun later leadsLater => ⟨?_, ?_⟩, ?_⟩
    · rintro index call lock here rfl connects number isOpen
      have only := sound.sharing.single index call number here rfl (by rw [connects]; rfl) isOpen
      rw [connects] at only
      contradiction
    · rintro index call result number here rfl decided undecided isOpen stillOpen
      rcases (sound.later_run leadsLater).decided index call result here rfl decided with
        ⟨earlier, there, already⟩ | meanwhile
      · exact absurd ((undecided earlier there).symm.trans already) nofun
      · exact meanwhile number isOpen stillOpen
    · exact fun number => (sound.later_run leadsLater).kept key number rfl
    · exact fun index call number here decided => sound.sharing.key_iff here (.inr decided) rfl

namespace Connector

/-- The settings of a client. -/
def someSettings : ConnectorSettings where
  receiveCapacity := 64
  clientName := "user"
  hostName := "host"

/-- A server, at the lowest priority. -/
def someKey : CircuitKey := (⟨.loopback, 5064⟩, 0)

/-- Two clients connect at once, and take turns with their steps. -/
def bothConnect (key : CircuitKey) (world : ConnectWorld) : List ConnectorEvent :=
  [.call 1 key, .call 2 key] ++
    (List.replicate 24 [.advance 0 world, .advance 1 world]).flatten

theorem world_of_mem_bothConnect {key : CircuitKey} {world met : ConnectWorld} {index : Nat}
    (isEvent : .advance index met ∈ bothConnect key world) : met = world := by
  rcases List.mem_append.mp isEvent with isCall | isStep
  · rcases List.mem_pair.mp isCall with isCall | isCall <;> contradiction
  · obtain ⟨both, isBoth, isStep⟩ := List.mem_flatten.mp isStep
    obtain rfl := List.eq_of_mem_replicate isBoth
    rcases List.mem_pair.mp isStep with isStep | isStep
    · exact (ConnectorEvent.advance.inj isStep).2
    · exact (ConnectorEvent.advance.inj isStep).2

/-- The first client opens the circuit, and the second one waits for the lock until it can share
it. -/
theorem one_open_circuit_per_key_bothConnect :
    let start : Connector := { settings := someSettings }
    let connector := start.run (bothConnect someKey {})
    start.RunsDirectly (· = someKey) (bothConnect someKey {}) ∧
      connector.calls.map (·.phase.result?.map Except.toOption) = [some (some 0), some (some 0)] ∧
      connector.registry.key? 0 = some someKey ∧
      ∀ other, connector.registry.OpenUnder someKey other → 0 = other := by
  intro start connector
  have leads : start.RunsDirectly (· = someKey) (bothConnect someKey {}) := by
    refine runsDirectly_of_leadsTo fun index world isEvent server => ?_
    rw [world_of_mem_bothConnect isEvent]
    rfl
  obtain ⟨-, -, direct⟩ := one_open_circuit_per_key someSettings (bothConnect someKey {})
  obtain ⟨-, unique, -, keys⟩ := direct someKey leads
  have isOpen : connector.registry.OpenUnder someKey 0 :=
    CircuitRegistry.openUnder_of_key? (by decide +kernel) (by decide +kernel)
  exact ⟨leads, by decide +kernel, isOpen.key?, fun other => unique 0 other isOpen⟩

/-- Two clients that ask for the unspecified address open a circuit each, since neither is
registered under what they ask for. -/
theorem not_one_open_circuit_per_key_unspecified :
    let asked : CircuitKey := (⟨.unspecified, 5064⟩, 0)
    let connector := ({ settings := someSettings } : Connector).run
      (bothConnect asked { leadsTo := toOwnHost })
    connector.calls.map (·.key) = [asked, asked] ∧
      connector.calls.map (·.phase.result?.map Except.toOption) = [some (some 0), some (some 1)] ∧
      connector.registry.circuits.map (·.key) = [someKey, someKey] ∧
      connector.registry.circuits.map (·.isClosed) = [false, false] := by
  refine ⟨?_, ?_, ?_, ?_⟩ <;> decide +kernel

end Connector

end ChannelAccess
