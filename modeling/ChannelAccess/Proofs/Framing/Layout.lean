import Mathlib.Data.List.Forall2
import ChannelAccess.Proofs.Framing.Stream

/-!
# Frames and the bytes that they stand in

`Frame.Layout` says which bytes a frame may stand as: its header as it may stand on the wire, then
the payload that the header declares. Reading one frame is that relation read from the front
(`Frame.parse?_eq_some_iff`), and cutting a stream finds the longest beginning of it that consists
of whole frames (`Frame.longestCut_split`).

A concatenation of frames is given by the bytes of each: `List.Forall₂ Frame.Layout frames pieces`
says that the pieces, one after another, are the bytes of the frames.
-/

namespace ChannelAccess.Frame

/-- The bytes are the frame and nothing besides. -/
def Layout (frame : Frame) (bytes : List UInt8) : Prop :=
  ∃ front, frame.header.Layout front ∧ bytes = front ++ frame.payload ∧
    frame.payload.length = frame.header.payloadSize.toNat

variable {frame : Frame} {frames : List Frame} {bytes rest piece : List UInt8}
  {pieces : List (List UInt8)}

namespace Layout

/-- A frame takes the bytes that its header says. -/
theorem length_eq (layout : frame.Layout bytes) : bytes.length = frame.header.frameLength := by
  obtain ⟨front, header, rfl, size⟩ := layout
  rw [List.length_append, header.length_eq, size, Header.frameLength]

/-- The header is read from where a frame starts, and the payload comes after it. -/
theorem parse?_header (layout : frame.Layout bytes) :
    Header.parse? bytes = some (frame.header, frame.payload) := by
  obtain ⟨front, header, rfl, -⟩ := layout
  exact header.parse?_append frame.payload

/-- A frame is read from where it stands, whatever follows it. -/
theorem parse?_append (layout : frame.Layout bytes) (rest : List UInt8) :
    parse? (bytes ++ rest) = some (frame, rest) := by
  obtain ⟨front, header, rfl, size⟩ := layout
  have whole : frame.header.payloadSize.toNat ≤ (frame.payload ++ rest).length := by
    rw [List.length_append, size]
    exact Nat.le_add_right ..
  unfold parse?
  rw [List.append_assoc, header.parse?_append]
  dsimp only
  rw [if_neg (Nat.not_lt.mpr whole), List.take_left' size, List.drop_left' size]

end Layout

/-- A frame is read exactly from where it stands. -/
theorem parse?_eq_some_iff :
    parse? bytes = some (frame, rest) ↔ ∃ piece, frame.Layout piece ∧ bytes = piece ++ rest := by
  constructor
  · intro h
    unfold parse? at h
    split at h
    · contradiction
    · rename_i header after parsed
      split at h
      · contradiction
      · rename_i enough
        simp only [Option.some.injEq, Prod.mk.injEq] at h
        obtain ⟨rfl, rfl⟩ := h
        obtain ⟨front, layout, rfl⟩ := Header.parse?_eq_some_iff.mp parsed
        refine ⟨_, ⟨front, layout, rfl, ?_⟩, ?_⟩
        · exact List.length_take_of_le (Nat.not_lt.mp enough)
        · rw [List.append_assoc, List.take_append_drop]
  · rintro ⟨piece, layout, rfl⟩
    exact layout.parse?_append rest

/-! ## Several frames -/

/-- The bytes of some frames are as long as the frames say. -/
theorem length_flatten (layouts : List.Forall₂ Layout frames pieces) :
    pieces.flatten.length = totalLength frames := by
  induction layouts with
  | nil => rfl
  | cons layout _ ih => rw [List.flatten_cons, List.length_append, layout.length_eq, ih,
      totalLength_cons]

/-- A stream is the bytes of the frames that are cut off it, and what is left over. -/
theorem exists_pieces (bytes : List UInt8) :
    ∃ pieces, List.Forall₂ Layout (split bytes).1 pieces ∧
      bytes = pieces.flatten ++ (split bytes).2 := by
  induction bytes using induction_on_split with
  | none bytes h =>
    rw [split_of_none h]
    exact ⟨[], .nil, rfl⟩
  | some bytes frame rest h ih =>
    obtain ⟨piece, layout, rfl⟩ := parse?_eq_some_iff.mp h
    obtain ⟨pieces, layouts, whole⟩ := ih
    rw [split_of_some h]
    refine ⟨piece :: pieces, .cons layout layouts, ?_⟩
    rw [List.flatten_cons, List.append_assoc, ← whole]

/-- Whole frames at the front of a stream are no longer than what is cut off it. -/
theorem length_flatten_le (whole : ∀ piece ∈ pieces, ∃ frame : Frame, frame.Layout piece)
    (rest : List UInt8) :
    pieces.flatten.length ≤ totalLength (split (pieces.flatten ++ rest)).1 := by
  induction pieces with
  | nil => exact Nat.zero_le _
  | cons piece pieces ih =>
    -- Cutting finds the frame of the first piece too, since it reads a frame from where it stands.
    obtain ⟨frame, layout⟩ := whole piece List.mem_cons_self
    have later := ih fun other member => whole other (List.mem_cons_of_mem _ member)
    rw [List.flatten_cons, List.append_assoc, split_of_some (layout.parse?_append _),
      totalLength_cons, List.length_append, layout.length_eq]
    exact Nat.add_le_add_left later _

/-- The frames of the longest beginning of some bytes that consists of whole frames, the bytes of
each of them, and the bytes that are left. -/
structure LongestCut (bytes : List UInt8) (frames : List Frame) (pieces : List (List UInt8))
    (left : List UInt8) : Prop where
  /-- The pieces and what is left are all of the bytes. -/
  whole : bytes = pieces.flatten ++ left
  /-- Each piece is the bytes of its frame. -/
  layouts : List.Forall₂ Layout frames pieces
  /-- No beginning that consists of whole frames is longer. -/
  longest : ∀ (others : List (List UInt8)) (rest : List UInt8), bytes = others.flatten ++ rest →
    (∀ other ∈ others, ∃ frame : Frame, frame.Layout other) →
      others.flatten.length ≤ pieces.flatten.length

/-- Cutting a stream finds its longest beginning that consists of whole frames. -/
theorem longestCut_split (bytes : List UInt8) :
    ∃ pieces, LongestCut bytes (split bytes).1 pieces (split bytes).2 := by
  obtain ⟨pieces, layouts, whole⟩ := exists_pieces bytes
  refine ⟨pieces, whole, layouts, fun others rest begins areFrames => ?_⟩
  have bound := length_flatten_le areFrames rest
  rw [← begins] at bound
  rw [length_flatten layouts]
  exact bound

end ChannelAccess.Frame
