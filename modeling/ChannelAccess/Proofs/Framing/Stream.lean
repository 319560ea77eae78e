import Mathlib.Algebra.GroupWithZero.Nat
import ChannelAccess.Frame
import ChannelAccess.Proofs.Wire.HeaderCodec

/-!
# Frames of a growing stream

`Frame.split` cuts a stream as a whole. When more bytes come, the frames found so far stay, and
cutting goes on from what was left (`Frame.split_append`).

A receiver of limited capacity takes the frames before the first header that declares a longer
frame: `Frame.accepted`. `Frame.Oversteps` says that such a header was reached. Both are read off
the stream as a whole, and bytes that come later do not undo that a header was reached
(`Frame.accepted_append_of_oversteps`).
-/

namespace ChannelAccess.Frame

/-! ## Cutting -/

/-- The header of a frame is the one at the front of its bytes. -/
theorem header_of_parse? {bytes rest : List UInt8} {frame : Frame}
    (h : parse? bytes = some (frame, rest)) :
    ∃ after, Header.parse? bytes = some (frame.header, after) := by
  unfold parse? at h
  split at h
  · contradiction
  · rename_i header after parsed
    split at h
    · contradiction
    · simp only [Option.some.injEq, Prod.mk.injEq] at h
      obtain ⟨rfl, -⟩ := h
      exact ⟨after, parsed⟩

/-- Bytes after a frame do not change how it is read. -/
theorem parse?_append {bytes rest : List UInt8} {frame : Frame}
    (h : parse? bytes = some (frame, rest)) (more : List UInt8) :
    parse? (bytes ++ more) = some (frame, rest ++ more) := by
  unfold parse? at h ⊢
  split at h
  · contradiction
  · rename_i header after parsed
    rw [Header.parse?_append parsed]
    dsimp only
    split at h
    · contradiction
    · rename_i enough
      simp only [Option.some.injEq, Prod.mk.injEq] at h
      obtain ⟨rfl, rfl⟩ := h
      rw [if_neg (by rw [List.length_append]; omega),
        List.take_append_of_le_length (by omega), List.drop_append_of_le_length (by omega)]

/-- A stream that starts with no complete frame is left over as it is. -/
theorem split_of_none {bytes : List UInt8} (h : parse? bytes = none) :
    split bytes = ([], bytes) := by
  rw [split]
  split
  · rfl
  · rename_i parsed
    rw [h] at parsed
    contradiction

/-- The first frame is cut off, then the rest is cut. -/
theorem split_of_some {bytes rest : List UInt8} {frame : Frame}
    (h : parse? bytes = some (frame, rest)) :
    split bytes = (frame :: (split rest).1, (split rest).2) := by
  rw [split]
  split
  · rename_i parsed
    rw [h] at parsed
    contradiction
  · rename_i parsed
    rw [h, Option.some.injEq, Prod.mk.injEq] at parsed
    obtain ⟨rfl, rfl⟩ := parsed
    rfl

/-- A statement about streams holds of all of them if it holds of those that start with no complete
frame and, with a frame in front, of those that it holds of without. -/
theorem induction_on_split {motive : List UInt8 → Prop} (bytes : List UInt8)
    (none : ∀ bytes, parse? bytes = none → motive bytes)
    (some : ∀ bytes frame rest, parse? bytes = some (frame, rest) → motive rest → motive bytes) :
    motive bytes := by
  induction h : bytes.length using Nat.strongRecOn generalizing bytes with
  | _ n ih =>
    cases parsed : parse? bytes with
    | none => exact none bytes parsed
    | some result =>
      obtain ⟨frame, rest⟩ := result
      have total := length_of_parse? parsed
      have positive := frameLength_pos frame.header
      exact some bytes frame rest parsed (ih rest.length (by omega) rest rfl)

/-- What is left over starts with no complete frame. -/
theorem parse?_split_snd (bytes : List UInt8) : parse? (split bytes).2 = none := by
  induction bytes using induction_on_split with
  | none bytes h => rw [split_of_none h]; exact h
  | some bytes frame rest h ih => rw [split_of_some h]; exact ih

/-- Cutting a longer stream: the frames of its beginning, then what was left of that with the rest
behind it. -/
theorem split_append (a b : List UInt8) :
    split (a ++ b) =
      ((split a).1 ++ (split ((split a).2 ++ b)).1, (split ((split a).2 ++ b)).2) := by
  induction a using induction_on_split with
  | none a h => rw [split_of_none h, List.nil_append]
  | some a frame rest h ih =>
    rw [split_of_some h, split_of_some (parse?_append h b), ih]
    rfl

/-- The bytes that some frames take. -/
def totalLength (frames : List Frame) : Nat := (frames.map (·.header.frameLength)).sum

@[simp]
theorem totalLength_nil : totalLength [] = 0 := rfl

@[simp]
theorem totalLength_cons (frame : Frame) (frames : List Frame) :
    totalLength (frame :: frames) = frame.header.frameLength + totalLength frames := by
  simp [totalLength]

/-- After the bytes that a frame takes comes the rest. -/
theorem drop_of_parse? {bytes rest : List UInt8} {frame : Frame}
    (h : parse? bytes = some (frame, rest)) : bytes.drop frame.header.frameLength = rest := by
  unfold parse? at h
  split at h
  · contradiction
  · rename_i header after parsed
    split at h
    · contradiction
    · simp only [Option.some.injEq, Prod.mk.injEq] at h
      obtain ⟨rfl, rfl⟩ := h
      rw [Header.frameLength, ← List.drop_drop, Header.drop_of_parse? parsed]

/-- After the bytes of all frames comes what is left over. -/
theorem drop_totalLength_split (bytes : List UInt8) :
    bytes.drop (totalLength (split bytes).1) = (split bytes).2 := by
  induction bytes using induction_on_split with
  | none bytes h => rw [split_of_none h, totalLength_nil, List.drop_zero]
  | some bytes frame rest h ih =>
    rw [split_of_some h, totalLength_cons, ← List.drop_drop, drop_of_parse? h, ih]

/-- Frames and what is left over are all of the stream. -/
theorem length_split (bytes : List UInt8) :
    bytes.length = totalLength (split bytes).1 + (split bytes).2.length := by
  induction bytes using induction_on_split with
  | none bytes h => rw [split_of_none h, totalLength_nil, Nat.zero_add]
  | some bytes frame rest h ih =>
    rw [split_of_some h, totalLength_cons, length_of_parse? h, ih, Nat.add_assoc]

/-! ## Limited capacity -/

/-- The frame is no longer than some capacity. -/
def fits (capacity : Nat) (frame : Frame) : Bool := frame.header.frameLength ≤ capacity

/-- The frames of a stream before the first one that is longer than some capacity. -/
def accepted (capacity : Nat) (bytes : List UInt8) : List Frame :=
  (split bytes).1.takeWhile (fits capacity)

/-- After the frames that fit, the stream has a header that declares a frame longer than some
capacity. Whether the payload has come as well does not matter. -/
def Oversteps (capacity : Nat) (bytes : List UInt8) : Prop :=
  ∃ header rest,
    Header.parse? (bytes.drop (totalLength (accepted capacity bytes))) = some (header, rest) ∧
      capacity < header.frameLength

/-- The first frame fits and comes before those after it. -/
theorem accepted_of_fits {capacity : Nat} {bytes rest : List UInt8} {frame : Frame}
    (h : parse? bytes = some (frame, rest)) (hf : frame.header.frameLength ≤ capacity) :
    accepted capacity bytes = frame :: accepted capacity rest := by
  unfold accepted
  rw [split_of_some h, List.takeWhile_cons_of_pos (by simpa [fits] using hf)]

/-- Nothing is accepted once the header at the front declares too much. -/
theorem accepted_of_long {capacity : Nat} {bytes rest : List UInt8} {header : Header}
    (h : Header.parse? bytes = some (header, rest)) (long : capacity < header.frameLength) :
    accepted capacity bytes = [] := by
  unfold accepted
  cases parsed : parse? bytes with
  | none => rw [split_of_none parsed, List.takeWhile_nil]
  | some result =>
    obtain ⟨frame, after⟩ := result
    obtain ⟨tail, same⟩ := header_of_parse? parsed
    rw [h, Option.some.injEq, Prod.mk.injEq] at same
    rw [split_of_some parsed, List.takeWhile_cons_of_neg]
    simpa [fits, ← same.1] using long

/-- Nothing is accepted while the first frame is not complete. -/
theorem accepted_of_none {bytes : List UInt8} (h : parse? bytes = none) (capacity : Nat) :
    accepted capacity bytes = [] := by
  rw [accepted, split_of_none h, List.takeWhile_nil]

/-- Whether a stream oversteps is decided after its first frame, if that fits. -/
theorem oversteps_of_fits {capacity : Nat} {bytes rest : List UInt8} {frame : Frame}
    (h : parse? bytes = some (frame, rest)) (hf : frame.header.frameLength ≤ capacity) :
    Oversteps capacity bytes ↔ Oversteps capacity rest := by
  unfold Oversteps
  rw [accepted_of_fits h hf, totalLength_cons, ← List.drop_drop, drop_of_parse? h]

/-- A stream oversteps at once when the header at its front declares too much. -/
theorem oversteps_of_long {capacity : Nat} {bytes rest : List UInt8} {header : Header}
    (h : Header.parse? bytes = some (header, rest)) (long : capacity < header.frameLength) :
    Oversteps capacity bytes := by
  refine ⟨header, rest, ?_, long⟩
  rw [accepted_of_long h long, totalLength_nil, List.drop_zero]
  exact h

/-- A stream whose first frame is not complete oversteps by that frame's header or not at all. -/
theorem not_oversteps_of_none {capacity : Nat} {bytes : List UInt8} (h : parse? bytes = none)
    (short : ∀ header rest, Header.parse? bytes = some (header, rest) →
      header.frameLength ≤ capacity) : ¬ Oversteps capacity bytes := by
  rintro ⟨header, rest, parsed, long⟩
  rw [accepted_of_none h, totalLength_nil, List.drop_zero] at parsed
  exact Nat.not_lt.mpr (short header rest parsed) long

/-- The frames of a stream and its headers fall into three cases, seen from a receiver of some
capacity: no frame is complete and none too long is declared; the header at the front declares too
much; or the first frame is complete and fits. -/
theorem induction_on_accepted (capacity : Nat) {motive : List UInt8 → Prop} (bytes : List UInt8)
    (incomplete : ∀ bytes, parse? bytes = none →
      (∀ header rest, Header.parse? bytes = some (header, rest) →
        header.frameLength ≤ capacity) → motive bytes)
    (long : ∀ bytes header rest, Header.parse? bytes = some (header, rest) →
      capacity < header.frameLength → motive bytes)
    (fitting : ∀ bytes frame rest, parse? bytes = some (frame, rest) →
      frame.header.frameLength ≤ capacity → motive rest → motive bytes) : motive bytes := by
  induction bytes using induction_on_split with
  | none bytes h =>
    by_cases short : ∀ header rest, Header.parse? bytes = some (header, rest) →
        header.frameLength ≤ capacity
    · exact incomplete bytes h short
    · simp only [Classical.not_forall, Nat.not_le] at short
      obtain ⟨header, rest, parsed, beyond⟩ := short
      exact long bytes header rest parsed beyond
  | some bytes frame rest h ih =>
    by_cases hf : frame.header.frameLength ≤ capacity
    · exact fitting bytes frame rest h hf ih
    · obtain ⟨after, parsed⟩ := header_of_parse? h
      exact long bytes frame.header after parsed (Nat.not_le.mp hf)

/-- A receiver that no header stops accepts all frames. -/
theorem accepted_of_not_oversteps {capacity : Nat} {bytes : List UInt8}
    (h : ¬ Oversteps capacity bytes) : accepted capacity bytes = (split bytes).1 := by
  induction bytes using induction_on_accepted capacity with
  | incomplete bytes none short => rw [accepted_of_none none, split_of_none none]
  | long bytes header rest parsed beyond => exact absurd (oversteps_of_long parsed beyond) h
  | fitting bytes frame rest parsed hf ih =>
    rw [oversteps_of_fits parsed hf] at h
    rw [accepted_of_fits parsed hf, split_of_some parsed, ih h]

/-- What is left over for a receiver that no header stops is shorter than its capacity, so that
there is always room for more. -/
theorem length_split_snd_lt {capacity : Nat} {bytes : List UInt8}
    (hc : extendedHeaderLength ≤ capacity) (h : ¬ Oversteps capacity bytes) :
    (split bytes).2.length < capacity := by
  have none := parse?_split_snd bytes
  have short : ∀ header rest, Header.parse? (split bytes).2 = some (header, rest) →
      header.frameLength ≤ capacity := by
    intro header rest parsed
    refine Nat.not_lt.mp fun long => h ⟨header, rest, ?_, long⟩
    rw [accepted_of_not_oversteps h, drop_totalLength_split]
    exact parsed
  cases parsed : Header.parse? (split bytes).2 with
  | none => exact Nat.lt_of_lt_of_le (Header.length_lt_of_parse?_eq_none parsed) hc
  | some result =>
    obtain ⟨header, rest⟩ := result
    have fits := short header rest parsed
    have total := Header.length_of_parse? parsed
    simp only [parse?, parsed, ite_eq_left_iff] at none
    have missing : rest.length < header.payloadSize.toNat := by
      rw [← Nat.not_le]
      intro enough
      exact absurd (none (Nat.not_lt.mpr enough)) (Option.some_ne_none _)
    rw [Header.frameLength] at fits
    omega

/-- A receiver that was stopped by a header is stopped by it whatever follows, and accepts nothing
more. -/
theorem accepted_append_of_oversteps {capacity : Nat} {bytes : List UInt8}
    (h : Oversteps capacity bytes) (more : List UInt8) :
    Oversteps capacity (bytes ++ more) ∧
      accepted capacity (bytes ++ more) = accepted capacity bytes := by
  induction bytes using induction_on_accepted capacity with
  | incomplete bytes none short => exact absurd h (not_oversteps_of_none none short)
  | long bytes header rest parsed beyond =>
    have longer := Header.parse?_append parsed more
    exact ⟨oversteps_of_long longer beyond,
      by rw [accepted_of_long longer beyond, accepted_of_long parsed beyond]⟩
  | fitting bytes frame rest parsed hf ih =>
    rw [oversteps_of_fits parsed hf] at h
    obtain ⟨beyond, same⟩ := ih h
    have longer := parse?_append parsed more
    exact ⟨(oversteps_of_fits longer hf).mpr beyond,
      by rw [accepted_of_fits longer hf, accepted_of_fits parsed hf, same]⟩

/-- Up to where no header has stopped a receiver, it has accepted all frames, and it goes on from
what was left of them. -/
theorem accepted_append_of_not_oversteps {capacity : Nat} {a : List UInt8}
    (h : ¬ Oversteps capacity a) (b : List UInt8) :
    (Oversteps capacity (a ++ b) ↔ Oversteps capacity ((split a).2 ++ b)) ∧
      accepted capacity (a ++ b) = (split a).1 ++ accepted capacity ((split a).2 ++ b) := by
  induction a using induction_on_accepted capacity with
  | incomplete a none short =>
    rw [split_of_none none]
    exact ⟨Iff.rfl, (List.nil_append _).symm⟩
  | long a header rest parsed beyond => exact absurd (oversteps_of_long parsed beyond) h
  | fitting a frame rest parsed hf ih =>
    rw [oversteps_of_fits parsed hf] at h
    obtain ⟨beyond, same⟩ := ih h
    have longer := parse?_append parsed b
    rw [split_of_some parsed, oversteps_of_fits longer hf, accepted_of_fits longer hf, same]
    exact ⟨beyond, rfl⟩

end ChannelAccess.Frame
