import ChannelAccess.Address.Text
import ChannelAccess.Proofs.Number.Digits
import ChannelAccess.Proofs.Text.Fields
import Mathlib.Data.List.Forall2

/-!
# Which texts are addresses of 32 bits

There is one way to write an address of 32 bits, `IPAddress.v4Text`, and what is read as such an
address was written so (`IPAddress.read?_eq_some_v4_iff`): an octet has no leading zeros, and there
are four of them (`readOctet?_eq_some_iff`). A port may be written in several ways;
`SocketAddress.splitLast?_eq_some_iff` says where it begins.
-/

namespace ChannelAccess

namespace IPAddress

/-- An octet is read from the decimal digits of a number up to 255, and from nothing else. -/
theorem readOctet?_eq_some_iff {chars : List Char} {octet : Nat} :
    readOctet? chars = some octet ↔ octet < 256 ∧ chars = Nat.toDigits 10 octet := by
  constructor
  · intro found
    unfold readOctet? at found
    split at found
    · rename_i digits
      obtain ⟨all, size, small⟩ := digits
      obtain rfl := Option.some.inj found
      have nonempty : chars ≠ [] := by
        rintro rfl
        rcases size with single | several
        · exact absurd single (by decide)
        · exact absurd several.1 (by decide)
      have noZeros := size.imp_right fun several => several.2.2
      exact ⟨small, (Natural.toDigits_ofDigits nonempty (List.all_eq_true.mp all) noZeros).symm⟩
    · contradiction
  · rintro ⟨small, rfl⟩
    have all : (Nat.toDigits 10 octet).all Char.isDigit = true :=
      List.all_eq_true.mpr fun c inside =>
        Nat.isDigit_of_mem_toDigits (by decide) (by decide) inside
    have short : (Nat.toDigits 10 octet).length ≤ 3 :=
      (Nat.length_toDigits_le_iff (by decide) (by decide)).mpr (by omega)
    have size : (Nat.toDigits 10 octet).length = 1 ∨ 2 ≤ (Nat.toDigits 10 octet).length ∧
        (Nat.toDigits 10 octet).length ≤ 3 ∧ (Nat.toDigits 10 octet).head? ≠ some '0' := by
      rcases Nat.eq_zero_or_pos octet with rfl | positive
      · exact .inl rfl
      · have some := Nat.length_toDigits_pos (b := 10) (n := octet)
        have noZero := Natural.head?_toDigits_ne positive
        rcases Nat.lt_or_ge 1 (Nat.toDigits 10 octet).length with several | single
        · exact .inr ⟨several, short, noZero⟩
        · exact .inl (Nat.le_antisymm single some)
    unfold readOctet?
    rw [Natural.ofDigits_toDigits, if_pos ⟨all, size, small⟩]

/-- Values are read from all elements of a list, or from none. -/
theorem mapM_eq_some_iff {α β : Type} {read : α → Option β} {elements : List α} {values : List β} :
    elements.mapM read = some values ↔
      List.Forall₂ (fun element value => read element = some value) elements values := by
  induction elements generalizing values with
  | nil =>
    rw [List.mapM_nil, List.forall₂_nil_left_iff]
    exact ⟨fun same => (Option.some.inj same).symm, fun same => congrArg some same.symm⟩
  | cons element others ih =>
    rw [List.mapM_cons, List.forall₂_cons_left_iff]
    simp only [Option.bind_eq_bind, Option.bind_eq_some_iff, Option.pure_def, Option.some.injEq, ih]
    constructor
    · rintro ⟨value, first, later, all, rfl⟩
      exact ⟨value, later, first, all, rfl⟩
    · rintro ⟨value, later, first, all, rfl⟩
      exact ⟨value, first, later, all, rfl⟩

/-- The numbers of an address, the most significant first. -/
def octets (bits : UInt32) : List Nat :=
  [bits.toNat / 16777216, bits.toNat / 65536 % 256, bits.toNat / 256 % 256, bits.toNat % 256]

/-- The numbers of an address are octets. -/
theorem lt_of_mem_octets {bits : UInt32} {octet : Nat} (h : octet ∈ octets bits) : octet < 256 := by
  have bound := bits.toNat_lt
  simp only [octets, List.mem_cons, List.not_mem_nil, or_false] at h
  omega

/-- An address is written as its numbers with dots between them. -/
theorem toList_v4Text (bits : UInt32) :
    (v4Text bits).toList = ['.'].intercalate ((octets bits).map (Nat.toDigits 10)) := by
  have dot : (toString ".").toList = ['.'] := by decide
  simp only [v4Text, octets, String.toList_append, List.map_cons, List.map_nil,
    Nat.toString_eq_ofList_toDigits, String.toList_ofList, dot, List.intercalate_cons_cons,
    List.intercalate_singleton, List.append_assoc]

/-- There are digits and dots in an address. -/
theorem isDigit_or_eq_of_mem_v4Text {bits : UInt32} {c : Char}
    (inside : c ∈ (v4Text bits).toList) : c.isDigit = true ∨ c = '.' := by
  have digit : ∀ octet, c ∈ Nat.toDigits 10 octet → c.isDigit = true := fun _ =>
    Nat.isDigit_of_mem_toDigits (by decide) (by decide)
  rw [toList_v4Text] at inside
  simp only [octets, List.map_cons, List.map_nil, List.intercalate_cons_cons,
    List.intercalate_singleton, List.mem_append, List.mem_singleton] at inside
  rcases inside with ((first | isDot) | (second | isDot) | (third | isDot) | fourth)
  · exact .inl (digit _ first)
  · exact .inr isDot
  · exact .inl (digit _ second)
  · exact .inr isDot
  · exact .inl (digit _ third)
  · exact .inr isDot
  · exact .inl (digit _ fourth)

/-- There is no colon in an address. -/
theorem colon_not_mem_v4Text (bits : UInt32) : ':' ∉ (v4Text bits).toList := fun inside =>
  absurd (isDigit_or_eq_of_mem_v4Text inside) (by decide)

/-- Cutting an address at its dots gives its numbers. -/
theorem splitAll_v4Text (bits : UInt32) :
    Fields.splitAll (· == '.') (v4Text bits).toList = (octets bits).map (Nat.toDigits 10) := by
  refine Fields.splitAll_eq_cons_iff.mpr ⟨toList_v4Text bits, fun part isPart inside => ?_⟩
  obtain ⟨octet, -, rfl⟩ :=
    List.mem_map.mp (show part ∈ (octets bits).map (Nat.toDigits 10) from isPart)
  exact absurd (Nat.isDigit_of_mem_toDigits (by decide) (by decide) inside) (by decide)

/-- There is something in an address. -/
theorem v4Text_ne_nil (bits : UInt32) : (v4Text bits).toList ≠ [] := by
  intro empty
  have parts := splitAll_v4Text bits
  rw [empty] at parts
  exact absurd (congrArg List.length parts) (show ¬ 1 = 4 by decide)

/-- Four octets are the numbers of an address. -/
theorem exists_octets_eq {a b c d : Nat} (first : a < 256) (second : b < 256) (third : c < 256)
    (fourth : d < 256) :
    ∃ bits : UInt32, octets bits = [a, b, c, d] ∧
      ((a * 256 + b) * 256 + c) * 256 + d = bits.toNat := by
  have value : (UInt32.ofNat (((a * 256 + b) * 256 + c) * 256 + d)).toNat =
      ((a * 256 + b) * 256 + c) * 256 + d :=
    UInt32.toNat_ofNat_of_lt' (show _ < 4294967296 by omega)
  refine ⟨_, ?_, value.symm⟩
  rw [octets, value]
  simp only [List.cons.injEq, and_true]
  omega

/-- What is read as an address of 32 bits is written as one. -/
theorem readV4Number?_eq_some_iff {chars : List Char} {number : Nat} :
    readV4Number? chars = some number ↔
      ∃ bits : UInt32, chars = (v4Text bits).toList ∧ number = bits.toNat := by
  constructor
  · intro found
    obtain ⟨values, read, made⟩ := Option.bind_eq_some_iff.mp found
    rw [mapM_eq_some_iff] at read
    simp only [readOctet?_eq_some_iff] at read
    split at made
    · rename_i a b c d
      obtain rfl := Option.some.inj made
      generalize cut : Fields.splitAll (· == '.') chars = parts at read
      obtain _ | ⟨⟨first, rfl⟩, _ | ⟨⟨second, rfl⟩, _ | ⟨⟨third, rfl⟩, _ | ⟨⟨fourth, rfl⟩, ⟨⟩⟩⟩⟩⟩ :=
        read
      obtain ⟨bits, numbers, value⟩ := exists_octets_eq first second third fourth
      refine ⟨bits, ?_, value⟩
      rw [toList_v4Text, numbers]
      exact (Fields.splitAll_eq_cons_iff.mp cut).1
    · contradiction
  · rintro ⟨bits, isText, rfl⟩
    have read : ((octets bits).map (Nat.toDigits 10)).mapM readOctet? = some (octets bits) := by
      rw [mapM_eq_some_iff, List.forall₂_map_left_iff, List.forall₂_same]
      exact fun octet isOctet => readOctet?_eq_some_iff.mpr ⟨lt_of_mem_octets isOctet, rfl⟩
    have bound := bits.toNat_lt
    unfold readV4Number?
    rw [isText, splitAll_v4Text, read]
    refine congrArg some ?_
    omega

/-- A host is read as an address of 32 bits exactly if it is written as one. -/
theorem read?_eq_some_v4_iff {chars : List Char} {bits : UInt32} :
    read? chars = some (.v4 bits) ↔ chars = (v4Text bits).toList := by
  unfold read?
  constructor
  · intro found
    split at found
    · rename_i number isNumber
      obtain ⟨written, isText, rfl⟩ := readV4Number?_eq_some_iff.mp isNumber
      rw [UInt32.ofNat_toNat] at found
      obtain rfl := IPAddress.v4.inj (Option.some.inj found)
      exact isText
    · obtain ⟨_, _, isV6⟩ := Option.map_eq_some_iff.mp found
      contradiction
  · intro isText
    rw [readV4Number?_eq_some_iff.mpr ⟨bits, isText, rfl⟩]
    exact congrArg (fun read => some (IPAddress.v4 read)) UInt32.ofNat_toNat

end IPAddress

namespace SocketAddress

/-- A text is cut at a mark that has no other one after it. -/
theorem splitLast?_append_cons {mark : Char} {after : List Char} (last : mark ∉ after)
    (before : List Char) : splitLast? mark (before ++ mark :: after) = some (before, after) := by
  have others : ∀ c ∈ after.reverse, (c != mark) = true := fun c inside =>
    bne_iff_ne.mpr fun same => last (same ▸ List.mem_reverse.mp inside)
  have isMark : ¬ (mark != mark) = true := fun differs => bne_iff_ne.mp differs rfl
  unfold splitLast?
  rw [if_pos (List.mem_append_right before List.mem_cons_self), List.reverse_append,
    List.reverse_cons, List.append_assoc, List.singleton_append,
    List.dropWhile_append_of_pos others, List.dropWhile_cons_of_neg (p := (· != mark)) isMark,
    List.takeWhile_append_of_pos others, List.takeWhile_cons_of_neg (p := (· != mark)) isMark,
    List.append_nil, List.drop_one, List.tail_cons, List.reverse_reverse, List.reverse_reverse]

/-- The two parts of a text that is cut stand around the last mark. -/
theorem splitLast?_eq_some_iff {mark : Char} {chars before after : List Char} :
    splitLast? mark chars = some (before, after) ↔
      chars = before ++ mark :: after ∧ mark ∉ after := by
  constructor
  · intro found
    by_cases inside : mark ∈ chars
    · obtain ⟨behind, front, backwards, last⟩ :=
        List.eq_append_cons_of_mem (List.mem_reverse.mpr inside)
      have isChars : chars = front.reverse ++ mark :: behind.reverse := by
        rw [← List.reverse_reverse chars, backwards, List.reverse_append, List.reverse_cons,
          List.append_assoc, List.singleton_append]
      have last' : mark ∉ behind.reverse := mt List.mem_reverse.mp last
      rw [isChars, splitLast?_append_cons last', Option.some.injEq, Prod.mk.injEq] at found
      obtain ⟨rfl, rfl⟩ := found
      exact ⟨isChars, last'⟩
    · rw [splitLast?, if_neg inside] at found
      contradiction
  · rintro ⟨rfl, last⟩
    exact splitLast?_append_cons last before

/-- There is no colon in a port. -/
theorem colon_not_mem_of_spells {digits : List Char} {port : Nat}
    (spells : Natural.Spells digits port) : ':' ∉ digits := by
  obtain ⟨sign, digits, rfl, isSign, -, all, -⟩ := spells
  intro inside
  rcases List.mem_append.mp inside with inside | inside
  · rcases isSign with rfl | rfl
    · contradiction
    · exact absurd inside (by decide)
  · exact absurd (all ':' inside) (by decide)

/-- A port is below the bound of ports, and is that of its number. -/
theorem spells_of_read? {digits : List Char} {value : Nat}
    (found : Natural.read? Natural.bound16 digits = some value) :
    Natural.Spells digits (UInt16.ofNat value).toNat := by
  obtain ⟨spells, below⟩ := Natural.read?_eq_some_iff.mp found
  rwa [UInt16.toNat_ofNat_of_lt' below]

/-- After a host of 32 bits a port is read without a sign. -/
theorem read?_v4Text_append {bits : UInt32} {digits : List Char} (last : ':' ∉ digits) :
    read? ((IPAddress.v4Text bits).toList ++ ':' :: digits) =
      (Natural.readDigits? Natural.bound16 digits).map fun port =>
        ⟨.v4 bits, UInt16.ofNat port⟩ := by
  have host := IPAddress.readV4Number?_eq_some_iff.mpr ⟨bits, rfl, rfl⟩
  unfold read?
  rw [splitLast?_append_cons last]
  show (Natural.readDigits? Natural.bound16 digits).bind _ = _
  cases Natural.readDigits? Natural.bound16 digits with
  | none => rfl
  | some port =>
    dsimp only [Option.bind_some, Option.map_some]
    rw [host]
    dsimp only
    rw [UInt32.ofNat_toNat]

/-- An address in brackets is never one of 32 bits. -/
theorem isV4_of_readBracketed? {chars : List Char} {ip : IPAddress}
    (found : readBracketed? chars = some ip) : ip.isV4 = false := by
  unfold readBracketed? at found
  split at found
  · split at found
    · unfold readZoned? at found
      split at found
      · obtain ⟨bits, -, rfl⟩ := Option.map_eq_some_iff.mp found
        rfl
      · simp only [Option.bind_eq_bind, Option.bind_eq_some_iff] at found
        obtain ⟨bits, -, zone, -, zoned⟩ := found
        obtain rfl := Option.some.inj zoned
        rfl
    · contradiction
  · contradiction

/-- What is read as an address of 32 bits with a port has a host and a port. -/
theorem exists_of_read?_eq_some {chars : List Char} {bits : UInt32} {port : UInt16}
    (found : read? chars = some ⟨.v4 bits, port⟩) :
    ∃ digits, chars = (IPAddress.v4Text bits).toList ++ ':' :: digits ∧
      Natural.Spells digits port.toNat := by
  unfold read? at found
  simp only [Option.bind_eq_bind, Option.bind_eq_some_iff, Prod.exists] at found
  obtain ⟨host, digits, cut, value, isValue, found⟩ := found
  obtain ⟨rfl, -⟩ := splitLast?_eq_some_iff.mp cut
  have spells := spells_of_read? (Natural.read?_of_readDigits? isValue)
  split at found
  · rename_i number isNumber
    obtain ⟨written, isHost, rfl⟩ := IPAddress.readV4Number?_eq_some_iff.mp isNumber
    rw [UInt32.ofNat_toNat, Option.some.injEq, SocketAddress.mk.injEq] at found
    obtain ⟨sameHost, rfl⟩ := found
    obtain rfl := IPAddress.v4.inj sameHost
    refine ⟨digits, ?_, spells⟩
    rw [isHost]
  · obtain ⟨ip, bracketed, same⟩ := Option.map_eq_some_iff.mp found
    have isV6 := isV4_of_readBracketed? bracketed
    rw [(SocketAddress.mk.inj same).1] at isV6
    contradiction

end SocketAddress

end ChannelAccess
