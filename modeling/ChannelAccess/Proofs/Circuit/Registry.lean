import ChannelAccess.Circuit.Registry
import ChannelAccess.Proofs.Circuit.Effects
import ChannelAccess.Proofs.Table

/-!
# Registered circuits

Whatever is done with a circuit, it stays a circuit to the same server at the same priority, is
never opened again, and is taken out of the registry only when it is closed (`CircuitRun.Wanes`).
So the registry loses no open circuit, and loses none but the one that is used
(`CircuitRegistry.Wanes`). Closing takes a circuit out once: past that (`Circuit.hasLeft`) it is
registered only if it was registered again.
-/

namespace ChannelAccess

/-- The closing of the circuit has come past the step that takes it out of the registry. -/
def Circuit.hasLeft (circuit : Circuit) : Bool :=
  match circuit.phase with
  | .disowning | .telling _ => true
  | _ => false

theorem Circuit.phase_eq_isOpen {circuit : Circuit} (isOpen : circuit.isClosed = false) :
    circuit.phase = .isOpen :=
  Classical.byContradiction fun other =>
    Bool.false_ne_true (isOpen.symm.trans (bne_iff_ne.mpr other))

namespace CircuitRun

/-- What can become of a circuit that is used. -/
structure Wanes (before after : CircuitRun) : Prop where
  /-- The server and the priority stay the same. -/
  key : after.circuit.key = before.circuit.key
  /-- A closed circuit is not opened again. -/
  closed : before.circuit.isClosed = true → after.circuit.isClosed = true
  /-- Only a closed circuit is taken out of the registry. -/
  unregistered : .unregistered ∈ after.effects →
    .unregistered ∈ before.effects ∨ after.circuit.isClosed = true
  /-- A circuit that has left the registry does not come back by itself. -/
  left : before.circuit.hasLeft = true → after.circuit.hasLeft = true
  /-- A circuit that leaves is taken out of the registry. -/
  leaves : after.circuit.hasLeft = true →
    before.circuit.hasLeft = true ∨ .unregistered ∈ after.effects
  /-- What others saw is not taken back. -/
  seen : before.effects ⊆ after.effects

theorem Wanes.refl (run : CircuitRun) : Wanes run run :=
  ⟨rfl, id, .inl, id, .inl, List.Subset.refl _⟩

theorem Wanes.trans {a b c : CircuitRun} (h₁ : Wanes a b) (h₂ : Wanes b c) : Wanes a c where
  key := h₂.key.trans h₁.key
  closed := h₂.closed ∘ h₁.closed
  unregistered := by
    intro unregistered
    rcases h₂.unregistered unregistered with before | closed
    · exact (h₁.unregistered before).imp_right h₂.closed
    · exact .inr closed
  left := h₂.left ∘ h₁.left
  leaves := by
    intro hasLeft
    rcases h₂.leaves hasLeft with before | unregistered
    · exact (h₁.leaves before).imp_right fun unregistered => h₂.seen unregistered
    · exact .inr unregistered
  seen := List.Subset.trans h₁.seen h₂.seen

/-- Changes to a circuit that others do not see. -/
theorem Wanes.of_circuit {run : CircuitRun} {circuit : Circuit}
    (key : circuit.key = run.circuit.key)
    (closed : run.circuit.isClosed = true → circuit.isClosed = true)
    (hasLeft : circuit.hasLeft = run.circuit.hasLeft) :
    Wanes run { run with circuit } :=
  ⟨key, closed, .inl, hasLeft.trans, fun left => .inl (hasLeft.symm.trans left),
    List.Subset.refl _⟩

theorem wanes_writeOut (run : CircuitRun) : Wanes run run.writeOut.2 := by
  refine ⟨rfl, id, fun unregistered => .inl ?_, id, .inl, ?_⟩
  · unfold writeOut at unregistered
    dsimp only at unregistered
    split at unregistered
    · exact unregistered
    · rcases List.mem_append.mp unregistered with before | sent
      · exact before
      · exact nomatch List.mem_singleton.mp sent
  · unfold writeOut
    dsimp only
    split
    · exact List.Subset.refl _
    · exact List.subset_append_left _ _

theorem wanes_closeStep (run : CircuitRun) : Wanes run run.closeStep where
  key := by
    unfold closeStep
    dsimp only
    split <;> rfl
  closed := isClosed_closeStep
  unregistered := by
    intro unregistered
    by_cases closed : run.circuit.isClosed = true
    · exact .inr (isClosed_closeStep closed)
    · -- An open circuit is left alone.
      rw [closeStep, Circuit.phase_eq_isOpen (Bool.eq_false_iff.mpr closed)] at unregistered
      exact .inl unregistered
  left := by
    unfold closeStep Circuit.hasLeft
    cases phase : run.circuit.phase with
    | telling owners => cases owners <;> simp [phase]
    | _ => simp [phase]
  leaves := by
    unfold closeStep Circuit.hasLeft
    cases phase : run.circuit.phase with
    | telling owners => cases owners <;> simp [phase]
    | _ => simp [phase, emit]
  seen := by
    have written := (wanes_writeOut run).seen
    unfold closeStep
    dsimp only
    split
    · exact List.Subset.refl _
    · exact written
    · exact List.subset_append_left _ _
    · exact List.subset_append_left _ _
    · exact List.Subset.refl _
    · exact List.Subset.refl _
    · exact List.subset_append_left _ _

theorem wanes_closeSteps (run : CircuitRun) (count : Nat) : Wanes run (run.closeSteps count) := by
  induction count generalizing run with
  | zero => exact .refl run
  | succ count ih => exact (wanes_closeStep run).trans (ih run.closeStep)

/-- Starting to close a circuit is seen by nobody. -/
theorem wanes_beginClose (run : CircuitRun) (peerGone : Bool) :
    Wanes run { run with circuit := run.circuit.beginClose peerGone } := by
  refine .of_circuit ?_ (fun _ => isClosed_beginClose run.circuit peerGone) ?_
  · unfold Circuit.beginClose
    split <;> rfl
  · unfold Circuit.beginClose
    split
    · rfl
    · rename_i notClosed
      simp only [Circuit.hasLeft, Circuit.phase_eq_isOpen (Bool.eq_false_iff.mpr notClosed)]
      cases peerGone <;> rfl

theorem wanes_close (run : CircuitRun) (peerGone : Bool) : Wanes run (run.close peerGone) := by
  unfold close
  split
  · exact .refl run
  · exact (wanes_beginClose run peerGone).trans (wanes_closeSteps _ _)

theorem wanes_send (run : CircuitRun) (bytes : List UInt8) (finish : SendEnd) :
    Wanes run (run.send bytes finish).2 := by
  have added : Wanes run { run with circuit :=
      { run.circuit with sendBuffer := run.circuit.sendBuffer ++ bytes } } :=
    .of_circuit rfl id rfl
  unfold send
  split
  · exact .refl run
  · cases finish with
    | discard => exact .refl run
    | commit => exact added
    | flush =>
      have written := added.trans (wanes_writeOut _)
      dsimp only
      split
      · rename_i sent report
        rw [report] at written
        exact written
      · rename_i error sent report
        rw [report] at written
        dsimp only
        split
        · exact written.trans (wanes_close sent true)
        · exact written

end CircuitRun

/-- Becoming an owner of a circuit is possible while it is open, and leaves it as open as it was. -/
theorem Circuit.acquire_spec (circuit : Circuit) (client : ClientId) :
    (circuit.acquire client).1 = !circuit.isClosed ∧
      (circuit.acquire client).2.key = circuit.key ∧
      (circuit.acquire client).2.isClosed = circuit.isClosed ∧
      (circuit.acquire client).2.hasLeft = circuit.hasLeft := by
  unfold acquire
  cases closed : circuit.isClosed with
  | true => exact ⟨rfl, rfl, closed, rfl⟩
  | false =>
    rw [if_neg Bool.false_ne_true]
    split
    · exact ⟨rfl, rfl, closed, rfl⟩
    · exact ⟨rfl, rfl, closed, rfl⟩

namespace CircuitRegistry

/-- The key of the circuit with a number. -/
def key? (registry : CircuitRegistry) (number : Nat) : Option CircuitKey :=
  (registry.circuits[number]?).map Circuit.key

/-- There is an open circuit with a number, under a key. -/
def OpenUnder (registry : CircuitRegistry) (key : CircuitKey) (number : Nat) : Prop :=
  ∃ circuit, registry.circuits[number]? = some circuit ∧ circuit.key = key ∧
    circuit.isClosed = false

theorem key?_eq {registry : CircuitRegistry} {number : Nat} {circuit : Circuit}
    (present : registry.circuits[number]? = some circuit) :
    registry.key? number = some circuit.key :=
  congrArg (Option.map Circuit.key) present

theorem lt_of_key? {registry : CircuitRegistry} {number : Nat} {key : CircuitKey}
    (isKey : registry.key? number = some key) : number < registry.circuits.length := by
  obtain ⟨circuit, present, -⟩ := Option.map_eq_some_iff.mp isKey
  exact (List.getElem?_eq_some_iff.mp present).1

theorem OpenUnder.key? {registry : CircuitRegistry} {key : CircuitKey} {number : Nat}
    (h : registry.OpenUnder key number) : registry.key? number = some key := by
  obtain ⟨circuit, found, isKey, -⟩ := h
  exact isKey ▸ key?_eq found

theorem openUnder_of_key? {registry : CircuitRegistry} {key : CircuitKey} {number : Nat}
    (isKey : registry.key? number = some key) (isOpen : registry.isClosed number = false) :
    registry.OpenUnder key number := by
  obtain ⟨circuit, present, rfl⟩ := Option.map_eq_some_iff.mp isKey
  rw [isClosed, show registry.circuits[number]? = some circuit from present, Option.any_some]
    at isOpen
  exact ⟨circuit, present, rfl, isOpen⟩

/-- Circuits are registered under their own keys. -/
def Filed (registry : CircuitRegistry) : Prop :=
  ∀ key number, registry.lookup? key = some number → registry.key? number = some key

/-- The closing of the circuit with a number has come past the registry. -/
def hasLeft (registry : CircuitRegistry) (number : Nat) : Bool :=
  (registry.circuits[number]?).any Circuit.hasLeft

/-- What can become of circuits when one of them is changed. -/
structure Keeps (number : Nat) (before after : CircuitRegistry) : Prop where
  /-- Keys stay the same. -/
  key? : ∀ other, after.key? other = before.key? other
  /-- No circuit is opened. -/
  opens : ∀ key other, after.OpenUnder key other → before.OpenUnder key other
  /-- No circuit is registered. -/
  found : ∀ key other, after.lookup? key = some other → before.lookup? key = some other
  /-- None but the circuit itself is taken out of the registry, and only when it is closed. -/
  kept : ∀ key other, before.lookup? key = some other →
    after.lookup? key = some other ∨ other = number ∧ ¬ after.OpenUnder key number

/-- What can become of circuits when one of them is used. -/
structure Wanes (number : Nat) (before after : CircuitRegistry) : Prop
    extends Keeps number before after where
  /-- A circuit that has left does not come back by itself. -/
  left : ∀ other, before.hasLeft other = true → after.hasLeft other = true
  /-- A circuit that leaves is registered no more. -/
  leaves : ∀ key other, before.key? other = some key → after.lookup? key = some other →
    after.hasLeft other = true → before.hasLeft other = true

theorem Keeps.refl (number : Nat) (registry : CircuitRegistry) : Keeps number registry registry :=
  ⟨fun _ => rfl, fun _ _ => id, fun _ _ => id, fun _ _ => .inl⟩

theorem Wanes.refl (number : Nat) (registry : CircuitRegistry) : Wanes number registry registry :=
  ⟨.refl number registry, fun _ => id, fun _ _ _ _ => id⟩

theorem Keeps.trans {number : Nat} {a b c : CircuitRegistry} (h₁ : Keeps number a b)
    (h₂ : Keeps number b c) : Keeps number a c where
  key? := fun other => (h₂.key? other).trans (h₁.key? other)
  opens := fun key other isOpen => h₁.opens key other (h₂.opens key other isOpen)
  found := fun key other is => h₁.found key other (h₂.found key other is)
  kept := by
    intro key other is
    rcases h₁.kept key other is with still | ⟨itself, closed⟩
    · exact h₂.kept key other still
    · exact .inr ⟨itself, fun isOpen => closed (h₂.opens key number isOpen)⟩

theorem Keeps.filed {number : Nat} {before after : CircuitRegistry} (h : Keeps number before after)
    (filed : before.Filed) : after.Filed := by
  intro key other is
  rw [h.key?]
  exact filed key other (h.found key other is)

/-- Of all circuits, only the one that is changed is another afterwards. -/
theorem getElem?_set {registry : CircuitRegistry} {number : Nat} {circuit : Circuit}
    (present : registry.circuits[number]? = some circuit) (changed : Circuit) (other : Nat) :
    (registry.set number changed).circuits[other]? =
      if number = other then some changed else registry.circuits[other]? := by
  obtain ⟨inRange, -⟩ := List.getElem?_eq_some_iff.mp present
  show (registry.circuits.set number changed)[other]? = _
  rw [List.getElem?_set, if_pos inRange]

theorem hasLeft_set {registry : CircuitRegistry} {number : Nat} {circuit : Circuit}
    (present : registry.circuits[number]? = some circuit) (changed : Circuit) (other : Nat) :
    (registry.set number changed).hasLeft other =
      if number = other then changed.hasLeft else registry.hasLeft other := by
  rw [hasLeft, getElem?_set present]
  split <;> rfl

theorem hasLeft_eq {registry : CircuitRegistry} {number : Nat} {circuit : Circuit}
    (present : registry.circuits[number]? = some circuit) :
    registry.hasLeft number = circuit.hasLeft := by
  rw [hasLeft, present, Option.any_some]

/-- A circuit is changed, and stays under its key and as closed as it was. -/
theorem keeps_set {registry : CircuitRegistry} {number : Nat} {circuit changed : Circuit}
    (present : registry.circuits[number]? = some circuit) (key : changed.key = circuit.key)
    (closed : circuit.isClosed = true → changed.isClosed = true) :
    Keeps number registry (registry.set number changed) := by
  refine ⟨fun other => ?_, fun asked other isOpen => ?_, fun _ _ => id, fun _ _ => .inl⟩
  · rw [CircuitRegistry.key?, getElem?_set present]
    split
    · rename_i same
      rw [← same, key?_eq present]
      exact congrArg some key
    · rfl
  · obtain ⟨found, is, isKey, isOpen⟩ := isOpen
    rw [getElem?_set present] at is
    split at is
    · rename_i same
      obtain rfl := Option.some.inj is
      refine ⟨circuit, same ▸ present, key.symm.trans isKey, ?_⟩
      exact Bool.eq_false_iff.mpr fun wasClosed =>
        Bool.false_ne_true (isOpen.symm.trans (closed wasClosed))
    · exact ⟨found, is, isKey, isOpen⟩

/-- A circuit that is changed has left the registry if it had, and no other has. -/
theorem left_set {registry : CircuitRegistry} {number : Nat} {circuit changed : Circuit}
    (present : registry.circuits[number]? = some circuit)
    (left : circuit.hasLeft = true → changed.hasLeft = true) (other : Nat)
    (hasLeft : registry.hasLeft other = true) :
    (registry.set number changed).hasLeft other = true := by
  rw [hasLeft_set present]
  split
  · rename_i same
    rw [← same, hasLeft_eq present] at hasLeft
    exact left hasLeft
  · exact hasLeft

/-- A circuit is changed and does not leave the registry. -/
theorem wanes_set {registry : CircuitRegistry} {number : Nat} {circuit changed : Circuit}
    (present : registry.circuits[number]? = some circuit) (key : changed.key = circuit.key)
    (closed : circuit.isClosed = true → changed.isClosed = true)
    (left : circuit.hasLeft = true ↔ changed.hasLeft = true) :
    Wanes number registry (registry.set number changed) := by
  refine ⟨keeps_set present key closed, left_set present left.mp, fun key other _ _ hasLeft => ?_⟩
  rw [hasLeft_set present] at hasLeft
  split at hasLeft
  · rename_i same
    rw [← same, hasLeft_eq present]
    exact left.mpr hasLeft
  · exact hasLeft

theorem openUnder_set {registry : CircuitRegistry} {number : Nat} {circuit : Circuit}
    (present : registry.circuits[number]? = some circuit) {changed : Circuit} {key : CircuitKey} :
    (registry.set number changed).OpenUnder key number ↔
      changed.key = key ∧ changed.isClosed = false := by
  obtain ⟨inRange, -⟩ := List.getElem?_eq_some_iff.mp present
  have here : (registry.set number changed).circuits[number]? = some changed :=
    List.getElem?_set_self inRange
  constructor
  · rintro ⟨found, is, isOpen⟩
    obtain rfl := Option.some.inj (here.symm.trans is)
    exact isOpen
  · exact fun isOpen => ⟨changed, here, isOpen⟩

/-- A client becomes an owner of a circuit if the circuit is open, which it is afterwards as
well. -/
theorem wanes_acquire {registry : CircuitRegistry} {number : Nat} {circuit changed : Circuit}
    {client : ClientId} {succeeds : Bool}
    (present : registry.circuits[number]? = some circuit)
    (acquires : circuit.acquire client = (succeeds, changed)) :
    Wanes number registry (registry.set number changed) ∧
      ∀ key, (registry.set number changed).OpenUnder key number ↔
        registry.key? number = some key ∧ succeeds = true := by
  obtain ⟨acquired, isKey, closed, left⟩ := circuit.acquire_spec client
  rw [acquires] at acquired isKey closed left
  refine ⟨wanes_set present isKey closed.trans (Eq.congr_left left).symm, fun key => ?_⟩
  have succeeded : succeeds = true ↔ circuit.isClosed = false := by
    rw [show succeeds = !circuit.isClosed from acquired, Bool.not_eq_true']
  rw [openUnder_set present, key?_eq present, succeeded, Option.some_inj]
  exact and_congr (Eq.congr_left isKey) (Eq.congr_left closed)

/-- Taking a circuit out of the registry changes no circuit. -/
theorem circuits_remove (registry : CircuitRegistry) (number : Nat) :
    (registry.remove number).2.circuits = registry.circuits := by
  unfold remove
  split
  · rfl
  · split <;> rfl

/-- A circuit that was taken out is registered no more. -/
theorem lookup?_remove_ne {registry : CircuitRegistry} {number : Nat} {key : CircuitKey}
    (isKey : registry.key? number = some key) :
    (registry.remove number).2.lookup? key ≠ some number := by
  obtain ⟨circuit, present, rfl⟩ := Option.map_eq_some_iff.mp isKey
  intro registered
  rw [remove, present] at registered
  dsimp only at registered
  split at registered
  · rw [lookup?, Table.find?_filter, if_pos rfl] at registered
    contradiction
  · rename_i other
    exact other registered

/-- A closed circuit is taken out of the registry, if it is there. -/
theorem keeps_remove {registry : CircuitRegistry} {number : Nat}
    (closed : ∀ key, ¬ registry.OpenUnder key number) :
    Keeps number registry (registry.remove number).2 := by
  unfold remove
  cases registry.circuits[number]? with
  | none => exact .refl number registry
  | some circuit =>
    dsimp only
    split
    · rename_i registered
      have left : ∀ key, lookup? { registry with
          registered := registry.registered.filter (·.1 != circuit.key) } key =
            if key = circuit.key then none else registry.lookup? key := by
        intro key
        rw [lookup?, Table.find?_filter]
        split <;> rfl
      refine ⟨fun _ => rfl, fun _ _ => id, fun key other is => ?_, fun key other is => ?_⟩
      · rw [left] at is
        split at is
        · contradiction
        · exact is
      · rw [left]
        split
        · rename_i same
          rw [same] at is
          exact .inr ⟨Option.some.inj (is.symm.trans registered), closed key⟩
        · exact .inl is
    · exact .refl number registry

/-- A circuit is put back after it was used. -/
theorem wanes_settle {registry : CircuitRegistry} {number : Nat} {circuit : Circuit}
    {writes : List WriteOutcome} {run : CircuitRun}
    (present : registry.circuits[number]? = some circuit)
    (became : CircuitRun.Wanes { circuit, writes } run) :
    Wanes number registry (registry.settle number run) ∧
      ∀ key, (registry.settle number run).OpenUnder key number → run.circuit.isClosed = false := by
  have set : Keeps number registry (registry.set number run.circuit) :=
    keeps_set present became.key became.closed
  have closes : ∀ key, (registry.set number run.circuit).OpenUnder key number →
      run.circuit.isClosed = false := fun key isOpen => ((openUnder_set present).mp isOpen).2
  unfold settle
  dsimp only
  split
  · rename_i unregistered
    have closed : run.circuit.isClosed = true := by
      rcases became.unregistered (List.contains_iff_mem.mp unregistered) with before | closed
      · exact absurd before List.not_mem_nil
      · exact closed
    have remove := keeps_remove fun key isOpen =>
      Bool.false_ne_true ((closes key isOpen).symm.trans closed)
    have same : ∀ other, ((registry.set number run.circuit).remove number).2.hasLeft other =
        (registry.set number run.circuit).hasLeft other := fun other => by
      rw [hasLeft, circuits_remove, hasLeft]
    refine ⟨⟨set.trans remove, fun other hasLeft => ?_,
      fun key other isKey registered hasLeft => ?_⟩,
      fun key isOpen => closes key (remove.opens key number isOpen)⟩
    · rw [same]
      exact left_set present became.left other hasLeft
    · -- The circuit that was used is registered no more, and no other has left.
      rw [same, hasLeft_set present] at hasLeft
      split at hasLeft
      · rename_i isNumber
        subst isNumber
        exact absurd registered (lookup?_remove_ne ((set.key? number).trans isKey))
      · exact hasLeft
  · rename_i stays
    refine ⟨wanes_set present became.key became.closed ⟨became.left, fun hasLeft => ?_⟩, closes⟩
    exact (became.leaves hasLeft).resolve_right fun unregistered =>
      stays (List.contains_iff_mem.mpr unregistered)

/-- Whoever uses a circuit takes it, does something with it and puts it back. -/
theorem use_eq_some {α : Type} {registry after : CircuitRegistry} {number : Nat}
    {writes : List WriteOutcome} {action : CircuitRun → α × CircuitRun} {result : α}
    {run : CircuitRun} (used : registry.use number writes action = some (result, after, run)) :
    ∃ circuit, registry.circuits[number]? = some circuit ∧ run = (action { circuit, writes }).2 ∧
      after = registry.settle number run := by
  obtain ⟨circuit, present, same⟩ := Option.map_eq_some_iff.mp used
  obtain ⟨-, used⟩ := Prod.mk.inj same
  obtain ⟨rfl, rfl⟩ := Prod.mk.inj used
  exact ⟨circuit, present, rfl, rfl⟩

/-- A circuit is used and put back. It is closed then if that is what was done with it. -/
theorem wanes_use {α : Type} {registry after : CircuitRegistry} {number : Nat}
    {writes : List WriteOutcome} {action : CircuitRun → α × CircuitRun} {result : α}
    {run : CircuitRun} (wanes : ∀ before, CircuitRun.Wanes before (action before).2)
    (used : registry.use number writes action = some (result, after, run)) :
    Wanes number registry after ∧
      ((∀ before, (action before).2.circuit.isClosed = true) →
        ∀ key, ¬ after.OpenUnder key number) := by
  obtain ⟨circuit, present, rfl, rfl⟩ := use_eq_some used
  obtain ⟨became, closes⟩ := wanes_settle present (wanes { circuit, writes })
  exact ⟨became, fun closed key isOpen =>
    Bool.false_ne_true ((closes key isOpen).symm.trans (closed _))⟩

/-- A circuit that is registered is found under its key, and others as before. -/
theorem lookup?_put {registry : CircuitRegistry} {number : Nat} {key : CircuitKey}
    (isKey : registry.key? number = some key) (other : CircuitKey) :
    (registry.put number).lookup? other =
      if other = key then some number else registry.lookup? other := by
  obtain ⟨circuit, present, rfl⟩ := Option.map_eq_some_iff.mp isKey
  rw [put, present, lookup?, Table.find?_replace]
  split <;> rfl

/-- Registering a circuit changes no circuit. -/
theorem circuits_put (registry : CircuitRegistry) (number : Nat) :
    (registry.put number).circuits = registry.circuits := by
  unfold put
  split <;> rfl

theorem key?_put (registry : CircuitRegistry) (number other : Nat) :
    (registry.put number).key? other = registry.key? other := by
  rw [CircuitRegistry.key?, circuits_put]
  rfl

theorem openUnder_put {registry : CircuitRegistry} {number other : Nat} {key : CircuitKey} :
    (registry.put number).OpenUnder key other ↔ registry.OpenUnder key other := by
  rw [OpenUnder, circuits_put]
  rfl

theorem filed_put {registry : CircuitRegistry} (filed : registry.Filed) {number : Nat}
    {key : CircuitKey} (isKey : registry.key? number = some key) :
    (registry.put number).Filed := by
  intro other found registered
  rw [lookup?_put isKey] at registered
  rw [key?_put]
  split at registered
  · rename_i same
    obtain rfl := Option.some.inj registered
    rw [same]
    exact isKey
  · exact filed other found registered

/-- A circuit that is added is numbered after the others, which stay as they are. -/
theorem getElem?_add (registry : CircuitRegistry) (circuit : Circuit) (number : Nat) :
    (registry.add circuit).circuits[number]? =
      if number = registry.circuits.length then some circuit else registry.circuits[number]? := by
  show (registry.circuits ++ [circuit])[number]? = _
  rw [List.getElem?_append]
  split
  · rename_i before
    rw [if_neg (Nat.ne_of_lt before)]
  · rename_i later
    split
    · rename_i isNew
      rw [isNew, Nat.sub_self]
      rfl
    · rename_i other
      rw [List.getElem?_eq_none (Nat.le_of_not_lt later)]
      exact List.getElem?_eq_none (Nat.sub_pos_of_lt
        (Nat.lt_of_le_of_ne (Nat.le_of_not_lt later) (Ne.symm other)))

theorem key?_add_self (registry : CircuitRegistry) (circuit : Circuit) :
    (registry.add circuit).key? registry.circuits.length = some circuit.key := by
  rw [CircuitRegistry.key?, getElem?_add, if_pos rfl]
  rfl

/-- Circuits that were there keep their keys. -/
theorem key?_add {registry : CircuitRegistry} {number : Nat} {key : CircuitKey}
    (isKey : registry.key? number = some key) (circuit : Circuit) :
    (registry.add circuit).key? number = some key := by
  rw [CircuitRegistry.key?, getElem?_add, if_neg (Nat.ne_of_lt (lt_of_key? isKey))]
  exact isKey

theorem filed_add {registry : CircuitRegistry} (filed : registry.Filed) (circuit : Circuit) :
    (registry.add circuit).Filed :=
  fun key number registered => key?_add (filed key number registered) circuit

/-- What is open afterwards is new, or was open before. -/
theorem openUnder_add {registry : CircuitRegistry} {circuit : Circuit} {key : CircuitKey}
    {number : Nat} (isOpen : (registry.add circuit).OpenUnder key number) :
    number = registry.circuits.length ∧ circuit.key = key ∨ registry.OpenUnder key number := by
  obtain ⟨found, present, isKey, stillOpen⟩ := isOpen
  rw [getElem?_add] at present
  split at present
  · rename_i isNew
    obtain rfl := Option.some.inj present
    exact .inl ⟨isNew, isKey⟩
  · exact .inr ⟨found, present, isKey, stillOpen⟩

end CircuitRegistry

end ChannelAccess
