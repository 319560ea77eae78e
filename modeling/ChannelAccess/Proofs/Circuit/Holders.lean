import ChannelAccess.Proofs.Circuit.Settling
import Mathlib.Data.List.Perm.Basic

/-!
# Owners of all circuits

The owners of all circuits and the circuits that are closed, as one list each. Using a circuit, or
each registered circuit in turn, passes owners from the first list to those who are told, and
circuits whose sockets are shut down to the second (`CircuitRegistry.Passes`). A registry is `Whole`
if its closed circuits have no owner, and `Listed` if its open ones are registered. Closing all
registered circuits closes these and no other (`CircuitRegistry.closeAll_spec`); so nobody owns a
circuit any more if the open ones were registered.
-/

namespace ChannelAccess

/-- The owners that are told, when others see this of circuits. -/
def toldOf (effects : List (Nat × CircuitEffect)) : List ClientId :=
  effects.filterMap (·.2.owner?)

/-- The circuits whose sockets are shut down, when others see this of circuits. -/
def shutOf (effects : List (Nat × CircuitEffect)) : List Nat :=
  (effects.filter (·.2 == .disconnected)).map (·.1)

theorem toldOf_append (first second : List (Nat × CircuitEffect)) :
    toldOf (first ++ second) = toldOf first ++ toldOf second :=
  List.filterMap_append

theorem shutOf_append (first second : List (Nat × CircuitEffect)) :
    shutOf (first ++ second) = shutOf first ++ shutOf second := by
  rw [shutOf, List.filter_append, List.map_append]
  rfl

/-- What others see of one circuit tells the owners that its use told. -/
theorem toldOf_run (run : CircuitRun) (number : Nat) :
    toldOf (run.effects.map (number, ·)) = run.told := by
  rw [toldOf, List.filterMap_map]
  rfl

/-- What others see of one circuit shuts its socket down as often as its use did. -/
theorem shutOf_run (run : CircuitRun) (number : Nat) :
    shutOf (run.effects.map (number, ·)) = List.replicate run.disconnections number := by
  rw [shutOf, List.filter_map, List.map_map, CircuitRun.disconnections, List.count,
    List.countP_eq_length_filter]
  exact List.map_const'

namespace CircuitRegistry

/-- The owners of all circuits. A client that owns several circuits is there for each of them. -/
def holders (registry : CircuitRegistry) : List ClientId :=
  registry.circuits.flatMap Circuit.owners

/-- A client owns the circuit with a number. -/
def owns (registry : CircuitRegistry) (number : Nat) (client : ClientId) : Bool :=
  (registry.circuits[number]?).any (·.owners.contains client)

/-- The circuits that are closed. -/
def closedCircuits (registry : CircuitRegistry) : List Nat :=
  (List.range registry.circuits.length).filter registry.isClosed

/-- Nobody owns a closed circuit, and nobody owns a circuit twice. -/
structure Whole (registry : CircuitRegistry) : Prop where
  /-- A closed circuit has no owner. -/
  unowned : ∀ circuit ∈ registry.circuits, circuit.isClosed = true → circuit.owners = []
  /-- No client is there twice among the owners of a circuit. -/
  nodup : ∀ circuit ∈ registry.circuits, circuit.owners.Nodup

/-- An open circuit is registered under its key. -/
def Listed (registry : CircuitRegistry) : Prop :=
  ∀ key number, registry.OpenUnder key number → registry.lookup? key = some number

/-- Every open circuit is registered. -/
def Complete (registry : CircuitRegistry) : Prop :=
  ∀ number < registry.circuits.length, registry.isClosed number = false → number ∈ registry.all

/-- The account of owners and closed circuits when these clients become owners or leave, and others
see this of the circuits. Open circuits stay registered if what happens is direct. -/
structure Balances (before after : CircuitRegistry) (joined left : List ClientId)
    (effects : List (Nat × CircuitEffect)) (direct : Prop) : Prop where
  /-- Owners stay owners, leave or are told. -/
  owners : (before.holders ++ joined).Perm (left ++ toldOf effects ++ after.holders)
  /-- The circuits that are closed are those whose sockets are shut down. -/
  shut : after.closedCircuits.Perm (before.closedCircuits ++ shutOf effects)
  /-- The registry stays whole. -/
  whole : before.Whole → after.Whole
  /-- Open circuits stay registered. -/
  listed : direct → before.Listed → after.Listed

/-- What can become of circuits, of which none is opened. -/
structure Passes (before after : CircuitRegistry) (joined left : List ClientId)
    (effects : List (Nat × CircuitEffect)) : Prop
    extends Balances before after joined left effects True where
  /-- No circuit is new. -/
  length : after.circuits.length = before.circuits.length
  /-- A closed circuit stays closed. -/
  closed : ∀ number, before.isClosed number = true → after.isClosed number = true
  /-- When nothing is registered, nothing will be. -/
  empty : before.registered = [] → after.registered = []

theorem Listed.complete {registry : CircuitRegistry} (h : registry.Listed) :
    registry.Complete := by
  intro number inRange isOpen
  have isKey := key?_eq (List.getElem?_eq_getElem inRange)
  have listed := h _ number (openUnder_of_key? isKey isOpen)
  obtain ⟨entry, found, rfl⟩ := Option.map_eq_some_iff.mp listed
  exact List.mem_map_of_mem (List.mem_of_find?_eq_some found)

theorem Balances.refl (registry : CircuitRegistry) (direct : Prop) :
    Balances registry registry [] [] [] direct :=
  ⟨(List.append_nil _).symm ▸ .refl _, (List.append_nil _).symm ▸ .refl _, id, fun _ => id⟩

theorem Passes.refl (registry : CircuitRegistry) : Passes registry registry [] [] [] :=
  ⟨.refl registry True, rfl, fun _ => id, id⟩

/-- What opens no circuit keeps the account, direct or not. -/
theorem Passes.balances {before after : CircuitRegistry} {joined left : List ClientId}
    {effects : List (Nat × CircuitEffect)} (h : Passes before after joined left effects)
    (direct : Prop) : Balances before after joined left effects direct :=
  ⟨h.owners, h.shut, h.whole, fun _ => h.listed trivial⟩

theorem Balances.trans {a b c : CircuitRegistry} {joined joined' left left' : List ClientId}
    {first second : List (Nat × CircuitEffect)} {direct : Prop}
    (h₁ : Balances a b joined left first direct) (h₂ : Balances b c joined' left' second direct) :
    Balances a c (joined ++ joined') (left ++ left') (first ++ second) direct where
  owners := by
    rw [toldOf_append, List.perm_iff_count]
    intro client
    have before := h₁.owners.count_eq client
    have after := h₂.owners.count_eq client
    simp only [List.count_append] at before after ⊢
    omega
  shut := by
    rw [shutOf_append, ← List.append_assoc]
    exact h₂.shut.trans (h₁.shut.append_right _)
  whole := h₂.whole ∘ h₁.whole
  listed := fun is => h₂.listed is ∘ h₁.listed is

theorem Passes.trans {a b c : CircuitRegistry} {joined joined' left left' : List ClientId}
    {first second : List (Nat × CircuitEffect)} (h₁ : Passes a b joined left first)
    (h₂ : Passes b c joined' left' second) :
    Passes a c (joined ++ joined') (left ++ left') (first ++ second) where
  toBalances := h₁.toBalances.trans h₂.toBalances
  length := h₂.length.trans h₁.length
  closed := fun number => h₂.closed number ∘ h₁.closed number
  empty := h₂.empty ∘ h₁.empty

/-! ## One circuit -/

/-- The owners of all circuits after one circuit was changed: those of that circuit are others. -/
theorem holders_set {registry : CircuitRegistry} {number : Nat} {circuit : Circuit}
    (present : registry.circuits[number]? = some circuit) (changed : Circuit) :
    ((registry.set number changed).holders ++ circuit.owners).Perm
      (registry.holders ++ changed.owners) := by
  obtain ⟨inRange, rfl⟩ := List.getElem?_eq_some_iff.mp present
  -- The owners of the other circuits are the same before and after.
  have others := ((List.set_perm_cons_eraseIdx inRange changed).flatMap_right Circuit.owners)
  have all := ((List.getElem_cons_eraseIdx_perm inRange).symm.flatMap_right Circuit.owners)
  rw [List.flatMap_cons] at others all
  refine (others.append_right _).trans (List.Perm.trans ?_ (all.symm.append_right _))
  rw [List.perm_iff_count]
  intro client
  simp only [List.count_append]
  omega

theorem isClosed_eq {registry : CircuitRegistry} {number : Nat} {circuit : Circuit}
    (present : registry.circuits[number]? = some circuit) :
    registry.isClosed number = circuit.isClosed := by
  rw [CircuitRegistry.isClosed, present, Option.any_some]

theorem isClosed_set {registry : CircuitRegistry} {number : Nat} {circuit : Circuit}
    (present : registry.circuits[number]? = some circuit) (changed : Circuit) (other : Nat) :
    (registry.set number changed).isClosed other =
      if number = other then changed.isClosed else registry.isClosed other := by
  rw [CircuitRegistry.isClosed, getElem?_set present]
  split <;> rfl

theorem mem_closedCircuits {registry : CircuitRegistry} {number : Nat} :
    number ∈ registry.closedCircuits ↔ registry.isClosed number = true := by
  rw [closedCircuits, List.mem_filter, List.mem_range, and_iff_right_iff_imp]
  intro closed
  by_contra beyond
  rw [CircuitRegistry.isClosed, List.getElem?_eq_none (Nat.le_of_not_lt beyond)] at closed
  exact Bool.false_ne_true closed

theorem nodup_closedCircuits (registry : CircuitRegistry) : registry.closedCircuits.Nodup :=
  List.nodup_range.filter _

/-- When no socket is shut down the same circuits are closed. -/
theorem Passes.isClosed_iff {before after : CircuitRegistry} {joined left : List ClientId}
    (h : Passes before after joined left []) (number : Nat) :
    after.isClosed number = true ↔ before.isClosed number = true := by
  rw [← mem_closedCircuits, h.shut.mem_iff, ← mem_closedCircuits]
  exact iff_of_eq (congrArg _ (List.append_nil _))

/-- When an open circuit is closed, it is one more of those that are. -/
theorem closedCircuits_set {registry : CircuitRegistry} {number : Nat} {circuit changed : Circuit}
    (present : registry.circuits[number]? = some circuit) (isOpen : circuit.isClosed = false)
    (closed : changed.isClosed = true) :
    (registry.set number changed).closedCircuits.Perm (registry.closedCircuits ++ [number]) := by
  rw [← isClosed_eq present] at isOpen
  have fresh : number ∉ registry.closedCircuits := fun member =>
    Bool.false_ne_true (isOpen.symm.trans (mem_closedCircuits.mp member))
  have nodup : (registry.closedCircuits ++ [number]).Nodup := by
    rw [← List.concat_eq_append]
    exact registry.nodup_closedCircuits.concat fresh
  refine (List.perm_ext_iff_of_nodup (nodup_closedCircuits _) nodup).mpr fun other => ?_
  rw [mem_closedCircuits, isClosed_set present, List.mem_append, List.mem_singleton,
    mem_closedCircuits]
  split
  · rename_i same
    exact iff_of_true closed (.inr same.symm)
  · rename_i differs
    exact (or_iff_left (Ne.symm differs)).symm

theorem closedCircuits_congr {before after : CircuitRegistry}
    (length : after.circuits.length = before.circuits.length)
    (closed : ∀ number, after.isClosed number = before.isClosed number) :
    after.closedCircuits = before.closedCircuits := by
  rw [closedCircuits, closedCircuits, length]
  exact List.filter_congr fun number _ => closed number

/-- When a circuit is as open as before, the same circuits are closed. -/
theorem closedCircuits_set_of_same {registry : CircuitRegistry} {number : Nat}
    {circuit changed : Circuit} (present : registry.circuits[number]? = some circuit)
    (closed : changed.isClosed = circuit.isClosed) :
    (registry.set number changed).closedCircuits = registry.closedCircuits := by
  refine closedCircuits_congr List.length_set fun other => ?_
  rw [isClosed_set present]
  split
  · rename_i same
    rw [← same, isClosed_eq present]
    exact closed
  · rfl

/-- A circuit is changed, and so are its owners if that leaves no closed circuit with any. -/
theorem Whole.keeps {before after : CircuitRegistry} (h : before.Whole) {number : Nat}
    {changed : Circuit} (circuits : after.circuits = before.circuits.set number changed)
    (unowned : changed.isClosed = true → changed.owners = []) (nodup : changed.owners.Nodup) :
    after.Whole where
  unowned := by
    intro circuit member
    rw [circuits] at member
    rcases List.mem_or_eq_of_mem_set member with before | rfl
    · exact h.unowned circuit before
    · exact unowned
  nodup := by
    intro circuit member
    rw [circuits] at member
    rcases List.mem_or_eq_of_mem_set member with before | rfl
    · exact h.nodup circuit before
    · exact nodup

/-- When a circuit is changed, the open circuits are registered that were. -/
theorem Listed.keeps {before after : CircuitRegistry} (h : before.Listed) {number : Nat}
    (keeps : Keeps number before after) : after.Listed := by
  intro key other isOpen
  rcases keeps.kept key other (h key other (keeps.opens key other isOpen)) with
    still | ⟨rfl, closed⟩
  · exact still
  · exact absurd isOpen closed

/-- Putting a circuit back changes that circuit only. -/
theorem circuits_settle (registry : CircuitRegistry) (number : Nat) (run : CircuitRun) :
    (registry.settle number run).circuits = registry.circuits.set number run.circuit := by
  unfold settle
  dsimp only
  split
  · rw [circuits_remove]
    rfl
  · rfl

/-- When nothing is registered, a circuit that is put back is not registered either. -/
theorem registered_settle {registry : CircuitRegistry} (empty : registry.registered = [])
    (number : Nat) (run : CircuitRun) : (registry.settle number run).registered = [] := by
  unfold settle remove
  dsimp only
  split
  · split
    · exact empty
    · split
      · exact congrArg (List.filter _) empty
      · exact empty
  · exact empty

section Settle

variable {registry : CircuitRegistry} {number : Nat} {circuit : Circuit}
  {writes : List WriteOutcome} {run : CircuitRun}

/-- The same circuits are closed as if the circuit were changed in its place. -/
theorem isClosed_settle (registry : CircuitRegistry) (number : Nat) (run : CircuitRun)
    (other : Nat) : (registry.settle number run).isClosed other =
      (registry.set number run.circuit).isClosed other := by
  rw [CircuitRegistry.isClosed, circuits_settle]
  rfl

/-- When a circuit was used its owners are owners still, or were told. -/
theorem holders_settle (present : registry.circuits[number]? = some circuit)
    (settles : CircuitRun.Settles { circuit, writes } run) :
    registry.holders.Perm (run.told ++ (registry.settle number run).holders) := by
  have moved : ((registry.settle number run).holders ++ circuit.owners).Perm
      (registry.holders ++ run.circuit.owners) := by
    rw [holders, circuits_settle]
    exact holders_set present run.circuit
  cases settles.fate with
  | stays _ owners told =>
    rw [owners] at moved
    rw [told]
    exact ((List.perm_append_right_iff _).mp moved).symm
  | closes _ _ owners told =>
    rw [owners, List.append_nil] at moved
    rw [told]
    exact moved.symm.trans List.perm_append_comm

/-- When a circuit was used it is one more closed circuit exactly if its socket was shut down. -/
theorem closedCircuits_settle (present : registry.circuits[number]? = some circuit)
    (settles : CircuitRun.Settles { circuit, writes } run) :
    (registry.settle number run).closedCircuits.Perm
      (registry.closedCircuits ++ List.replicate run.disconnections number) := by
  have same := @closedCircuits_congr (registry.set number run.circuit) _
    (congrArg List.length (circuits_settle registry number run))
    (isClosed_settle registry number run)
  rw [same]
  cases settles.fate with
  | stays closed _ _ none =>
    rw [none]
    exact List.Perm.of_eq ((closedCircuits_set_of_same present closed).trans
      (List.append_nil _).symm)
  | closes isOpen closed _ _ once =>
    rw [once]
    exact closedCircuits_set present isOpen closed

theorem Whole.settle (whole : registry.Whole) (present : registry.circuits[number]? = some circuit)
    (settles : CircuitRun.Settles { circuit, writes } run) :
    (registry.settle number run).Whole := by
  have member := List.mem_of_getElem? present
  refine whole.keeps (circuits_settle registry number run) ?unowned ?nodup
  case unowned =>
    intro closed
    cases settles.fate with
    | stays still owners =>
      exact owners.trans (whole.unowned circuit member (still.symm.trans closed))
    | closes _ _ owners => exact owners
  case nodup =>
    cases settles.fate with
    | stays _ owners =>
      rw [owners]
      exact whole.nodup circuit member
    | closes _ _ owners =>
      rw [owners]
      exact List.nodup_nil

/-- A circuit is put back after it was used. -/
theorem passes_settle (present : registry.circuits[number]? = some circuit)
    (settles : CircuitRun.Settles { circuit, writes } run) :
    Passes registry (registry.settle number run) [] [] (run.effects.map (number, ·)) where
  owners := by
    rw [toldOf_run, List.append_nil, List.nil_append]
    exact holders_settle present settles
  shut := by
    rw [shutOf_run]
    exact closedCircuits_settle present settles
  whole := fun whole => whole.settle present settles
  listed := fun _ listed => listed.keeps (wanes_settle present settles.toWanes).1.toKeeps
  length := (congrArg List.length (circuits_settle registry number run)).trans List.length_set
  closed := by
    intro other closed
    rw [isClosed_settle, isClosed_set present]
    split
    · rename_i same
      rw [← same, isClosed_eq present] at closed
      exact settles.closed closed
    · exact closed
  empty := fun empty => registered_settle empty number run

end Settle

theorem passes_use {α : Type} {registry after : CircuitRegistry} {number : Nat}
    {writes : List WriteOutcome} {action : CircuitRun → α × CircuitRun} {result : α}
    {run : CircuitRun} (settles : ∀ before, CircuitRun.Settles before (action before).2)
    (used : registry.use number writes action = some (result, after, run)) :
    Passes registry after [] [] (run.effects.map (number, ·)) := by
  obtain ⟨circuit, present, rfl, rfl⟩ := use_eq_some used
  exact passes_settle present (settles { circuit, writes })

/-- Changes to a circuit that concern neither its owners nor the registry. -/
theorem passes_set {registry : CircuitRegistry} {number : Nat} {circuit changed : Circuit}
    (present : registry.circuits[number]? = some circuit) (key : changed.key = circuit.key)
    (phase : changed.phase = circuit.phase) (owners : changed.owners = circuit.owners) :
    Passes registry (registry.set number changed) [] [] [] :=
  @passes_settle _ _ _ [] _ present (@CircuitRun.Settles.of_circuit { circuit } _ key phase owners)

/-- The owners of a circuit are changed, which leaves it without any if it is closed. -/
theorem passes_owners {registry : CircuitRegistry} {number : Nat} {circuit : Circuit}
    (present : registry.circuits[number]? = some circuit) {owners joined left : List ClientId}
    (moved : (circuit.owners ++ joined).Perm (left ++ owners))
    (unowned : circuit.isClosed = true → owners = []) (nodup : owners.Nodup) :
    Passes registry (registry.set number { circuit with owners }) joined left [] where
  owners := by
    have set := (holders_set present { circuit with owners }).count_eq
    rw [List.perm_iff_count]
    intro client
    have moved := moved.count_eq client
    have set := set client
    simp only [List.count_append, toldOf, List.filterMap_nil, List.count_nil] at moved set ⊢
    omega
  shut := by
    rw [closedCircuits_set_of_same present
      (show Circuit.isClosed { circuit with owners } = _ from rfl)]
    exact (List.append_nil _).symm ▸ .refl _
  length := List.length_set
  closed := by
    intro other closed
    rw [isClosed_set present]
    split
    · rename_i same
      rwa [← same, isClosed_eq present] at closed
    · exact closed
  empty := id
  whole := fun whole => whole.keeps rfl unowned nodup
  listed := fun _ listed => listed.keeps (keeps_set present rfl id)

/-- Whether a client owns a circuit is asked of the circuit. -/
theorem owns_eq {registry : CircuitRegistry} {number : Nat} {circuit : Circuit}
    (present : registry.circuits[number]? = some circuit) (client : ClientId) :
    registry.owns number client = circuit.owners.contains client := by
  rw [owns, present, Option.any_some]

/-- A client becomes an owner of an open circuit, if it was not one already. -/
theorem passes_acquire {registry : CircuitRegistry} (whole : registry.Whole) {number : Nat}
    {circuit : Circuit} (present : registry.circuits[number]? = some circuit)
    (isOpen : circuit.isClosed = false) (client : ClientId) :
    Passes registry (registry.set number (circuit.acquire client).2)
      (if registry.owns number client then [] else [client]) [] [] := by
  have member := List.mem_of_getElem? present
  have notClosed : ¬ circuit.isClosed = true := Bool.eq_false_iff.mp isOpen
  rw [owns_eq present, Circuit.acquire, if_neg notClosed]
  cases already : circuit.owners.contains client with
  | true => exact passes_set present rfl rfl rfl
  | false =>
    refine passes_owners present (.refl _) (fun closed => absurd closed notClosed) ?_
    rw [← List.concat_eq_append]
    exact (whole.nodup circuit member).concat fun old =>
      Bool.false_ne_true (already.symm.trans (List.contains_iff_mem.mpr old))

/-- A client is an owner no more, if it was one. -/
theorem passes_disown {registry : CircuitRegistry} (whole : registry.Whole) {number : Nat}
    {circuit : Circuit} (present : registry.circuits[number]? = some circuit) (client : ClientId) :
    Passes registry (registry.set number (circuit.disown client).2) []
      (if registry.owns number client then [client] else []) [] := by
  have member := List.mem_of_getElem? present
  have nodup := whole.nodup circuit member
  refine passes_owners present ?_ (fun closed => ?_) (nodup.filter _)
  · rw [owns_eq present, List.append_nil]
    split
    · rename_i old
      rw [← nodup.erase_eq_filter]
      exact List.perm_cons_erase (List.contains_iff_mem.mp old)
    · rename_i never
      refine List.Perm.of_eq (List.filter_eq_self.mpr fun other isOwner => ?_).symm
      rw [bne_iff_ne]
      rintro rfl
      exact never (List.contains_iff_mem.mpr isOwner)
  · rw [whole.unowned circuit member closed]
    rfl

/-- An owner leaves a circuit, which is closed if that was the last one. Nobody is told then. -/
theorem passes_release {registry after : CircuitRegistry} (whole : registry.Whole) {number : Nat}
    {writes : List WriteOutcome} {client : ClientId} {result : Unit} {run : CircuitRun}
    (used : registry.use number writes (fun run => ((), run.release client)) =
      some (result, after, run)) :
    Passes registry after [] (if registry.owns number client then [client] else [])
      (run.effects.map (number, ·)) := by
  obtain ⟨circuit, present, rfl, rfl⟩ := use_eq_some used
  -- The client is taken out first. Closing comes after that, if it does.
  have leaves := passes_disown whole present client
  have settles : CircuitRun.Settles { circuit := (circuit.disown client).2, writes }
      (CircuitRun.release { circuit, writes } client) := by
    unfold CircuitRun.release
    dsimp only
    split
    · exact .close _ false
    · exact .refl _
  have here : (registry.set number (circuit.disown client).2).circuits[number]? =
      some (circuit.disown client).2 := by
    rw [getElem?_set present, if_pos rfl]
  have closes := passes_settle here settles
  have same : (registry.set number (circuit.disown client).2).settle number
      (CircuitRun.release { circuit, writes } client) =
        registry.settle number (CircuitRun.release { circuit, writes } client) := by
    simp only [settle, set, List.set_set]
  rw [same] at closes
  simpa using leaves.trans closes

/-! ## Circuits in turn -/

/-- What was received from a server concerns no owner. -/
theorem passes_markAlive (registry : CircuitRegistry) (server : SocketAddress) (now : Moment) :
    Passes registry (registry.markAlive server now) [] [] [] := by
  refine List.foldlRecOn (motive := fun after => Passes registry after [] [] []) _ _
    (.refl registry) ?_
  intro after passes number _
  cases present : after.circuits[number]? with
  | none => exact passes
  | some circuit => exact passes.trans (passes_set present rfl rfl rfl)

section InTurn

variable {step : CircuitRegistry × List (Nat × CircuitEffect) → Nat →
  CircuitRegistry × List (Nat × CircuitEffect)}

/-- What is done with some circuits in turn, given what is done with each. -/
theorem passes_foldl
    (each : ∀ turn number, ∃ more, (step turn number).2 = turn.2 ++ more ∧
      Passes turn.1 (step turn number).1 [] [] more)
    (numbers : List Nat) (turn : CircuitRegistry × List (Nat × CircuitEffect)) :
    ∃ more, (numbers.foldl step turn).2 = turn.2 ++ more ∧
      Passes turn.1 (numbers.foldl step turn).1 [] [] more := by
  induction numbers generalizing turn with
  | nil => exact ⟨[], (List.append_nil _).symm, .refl turn.1⟩
  | cons number later ih =>
    obtain ⟨more, seen, passes⟩ := each turn number
    obtain ⟨rest, seenLater, passesLater⟩ := ih (step turn number)
    refine ⟨more ++ rest, ?_, passes.trans passesLater⟩
    rw [List.foldl_cons, seenLater, seen, List.append_assoc]

theorem passes_each
    (each : ∀ turn number, ∃ more, (step turn number).2 = turn.2 ++ more ∧
      Passes turn.1 (step turn number).1 [] [] more)
    (numbers : List Nat) (registry : CircuitRegistry) :
    Passes registry (numbers.foldl step (registry, [])).1 [] []
      (numbers.foldl step (registry, [])).2 := by
  obtain ⟨more, seen, passes⟩ := passes_foldl each numbers (registry, [])
  rw [seen, List.nil_append]
  exact passes

/-- When each of some circuits is closed in its turn, all of them are closed in the end. -/
theorem isClosed_foldl
    (each : ∀ turn number, ∃ more, (step turn number).2 = turn.2 ++ more ∧
      Passes turn.1 (step turn number).1 [] [] more)
    (closes : ∀ turn number, number < turn.1.circuits.length →
      (step turn number).1.isClosed number = true)
    {numbers : List Nat} {turn : CircuitRegistry × List (Nat × CircuitEffect)} {number : Nat}
    (member : number ∈ numbers) (inRange : number < turn.1.circuits.length) :
    (numbers.foldl step turn).1.isClosed number = true := by
  induction numbers generalizing turn with
  | nil => exact absurd member List.not_mem_nil
  | cons first later ih =>
    rcases List.mem_cons.mp member with rfl | member
    · obtain ⟨_, _, remains⟩ := passes_foldl each later (step turn number)
      exact remains.closed number (closes turn number inRange)
    · obtain ⟨_, _, passes⟩ := each turn first
      exact ih member (passes.length.symm ▸ inRange)

end InTurn

/-- All registered circuits are checked. -/
theorem passes_checkLiveness (registry : CircuitRegistry) (now : Moment) (timeout : Duration) :
    Passes registry (registry.checkLiveness now timeout).1 [] []
      (registry.checkLiveness now timeout).2 := by
  refine passes_each ?_ registry.all registry
  rintro ⟨before, effects⟩ number
  dsimp only
  split
  · exact ⟨[], (List.append_nil _).symm, .refl before⟩
  · rename_i used
    exact ⟨_, rfl, passes_use (fun run => .checkLiveness run now timeout) used⟩

/-- A circuit is closed, if there is one with this number. -/
theorem passes_close (registry : CircuitRegistry) (number : Nat) (peerGone : Bool) :
    Passes registry (registry.close number peerGone).1 [] []
        ((registry.close number peerGone).2.map (number, ·)) ∧
      (number < registry.circuits.length →
        (registry.close number peerGone).1.isClosed number = true) := by
  unfold close
  cases present : registry.circuits[number]? with
  | none =>
    rw [use, present]
    refine ⟨.refl registry, fun inRange => ?_⟩
    exact absurd inRange (Nat.not_lt.mpr (List.getElem?_eq_none_iff.mp present))
  | some circuit =>
    rw [use, present]
    refine ⟨passes_settle present (.close { circuit } peerGone), fun inRange => ?_⟩
    show (registry.settle number _).isClosed number = true
    rw [CircuitRegistry.isClosed, circuits_settle, List.getElem?_set_self inRange]
    exact (CircuitRun.close_spec { circuit } peerGone).2

/-- One circuit more is closed. -/
def closeNext (turn : CircuitRegistry × List (Nat × CircuitEffect)) (number : Nat) :
    CircuitRegistry × List (Nat × CircuitEffect) :=
  ((turn.1.close number false).1, turn.2 ++ (turn.1.close number false).2.map (number, ·))

theorem closeAll_eq (registry : CircuitRegistry) :
    registry.closeAll =
      ({ (registry.all.foldl closeNext (registry, [])).1 with registered := [] },
        (registry.all.foldl closeNext (registry, [])).2) := rfl

/-- Only of circuits that are closed do others see anything. -/
theorem mem_foldl_closeNext {numbers : List Nat}
    {turn : CircuitRegistry × List (Nat × CircuitEffect)} {effect : Nat × CircuitEffect}
    (seen : effect ∈ (numbers.foldl closeNext turn).2) : effect ∈ turn.2 ∨ effect.1 ∈ numbers := by
  induction numbers generalizing turn with
  | nil => exact .inl seen
  | cons number later ih =>
    rcases ih seen with before | isLater
    · rcases List.mem_append.mp before with before | here
      · exact .inl before
      · obtain ⟨_, -, rfl⟩ := List.mem_map.mp here
        exact .inr List.mem_cons_self
    · exact .inr (List.mem_cons_of_mem number isLater)

/-- When all registered circuits were closed none is registered, and the others are as open as they
were. -/
theorem closeAll_spec (registry : CircuitRegistry) :
    Passes registry registry.closeAll.1 [] [] registry.closeAll.2 ∧
      registry.closeAll.1.registered = [] ∧
      ∀ number < registry.circuits.length, registry.closeAll.1.isClosed number = true ↔
        registry.isClosed number = true ∨ number ∈ registry.all := by
  have each : ∀ turn number, ∃ more, (closeNext turn number).2 = turn.2 ++ more ∧
      Passes turn.1 (closeNext turn number).1 [] [] more :=
    fun turn number => ⟨_, rfl, (passes_close turn.1 number false).1⟩
  have passes := passes_each each registry.all registry
  have closes : ∀ number ∈ registry.all, number < registry.circuits.length →
      (registry.all.foldl closeNext (registry, [])).1.isClosed number = true :=
    fun number member inRange =>
      isClosed_foldl each (fun turn number => (passes_close turn.1 number false).2) member inRange
  have seen : ∀ effect ∈ (registry.all.foldl closeNext (registry, [])).2,
      effect.1 ∈ registry.all := fun effect seen =>
    (mem_foldl_closeNext seen).resolve_left List.not_mem_nil
  rw [closeAll_eq]
  generalize registry.all.foldl closeNext (registry, []) = turn at passes closes seen ⊢
  have closed : ∀ number < registry.circuits.length, turn.1.isClosed number = true ↔
      registry.isClosed number = true ∨ number ∈ registry.all := by
    refine fun number inRange => ⟨fun closed => ?_, Or.rec (passes.closed number) fun member =>
      closes number member inRange⟩
    -- Its socket was shut down, if it was open before.
    rw [← mem_closedCircuits, passes.shut.mem_iff, List.mem_append, mem_closedCircuits] at closed
    refine closed.imp_right fun shut => ?_
    obtain ⟨effect, isEffect, rfl⟩ := List.mem_map.mp shut
    exact seen effect (List.mem_filter.mp isEffect).1
  refine ⟨⟨⟨passes.owners, passes.shut, fun whole => ?_, fun _ listed => ?_⟩, passes.length,
    passes.closed, fun _ => rfl⟩, rfl, closed⟩
  · exact ⟨(passes.whole whole).unowned, (passes.whole whole).nodup⟩
  · rintro key number ⟨circuit, present, -, isOpen⟩
    -- It was open before, so that it was registered and had its turn.
    have present : turn.1.circuits[number]? = some circuit := present
    have inRange : number < registry.circuits.length :=
      passes.length ▸ (List.getElem?_eq_some_iff.mp present).1
    rw [← isClosed_eq present] at isOpen
    have still : registry.isClosed number = false :=
      Bool.eq_false_iff.mpr fun closed =>
        Bool.false_ne_true (isOpen.symm.trans (passes.closed number closed))
    have gone := (closed number inRange).mpr (.inr (listed.complete number inRange still))
    exact absurd (isOpen.symm.trans gone) Bool.false_ne_true

end CircuitRegistry

end ChannelAccess
