/-!
# Words as bytes, most significant byte first

Every number on the wire is a word of a fixed width in bytes, written most significant byte first.
`ofNat` writes the low bytes of a number and `toNat` reads them back; the two are inverse on words
that fit (`toNat_ofNat_of_lt`, `ofNat_toNat`). `read16` and `read32` take a word off the front of a
byte string.
-/

namespace ChannelAccess.BigEndian

/-- The low `width` bytes of a number, most significant first. -/
def ofNat : (width : Nat) → (value : Nat) → List UInt8
  | 0, _ => []
  | width + 1, value => ofNat width (value / 256) ++ [UInt8.ofNat (value % 256)]

/-- The number that bytes spell, most significant first. -/
def toNat (bytes : List UInt8) : Nat :=
  bytes.foldl (fun value byte => value * 256 + byte.toNat) 0

/-- How many numbers the words of a width stand for. -/
def range : (width : Nat) → Nat
  | 0 => 1
  | width + 1 => 256 * range width

/-- A written word has the width asked for. -/
@[simp]
theorem length_ofNat (width value : Nat) : (ofNat width value).length = width := by
  induction width generalizing value with
  | zero => rfl
  | succ width ih => simp [ofNat, ih]

/-- The last byte of a word counts once, the bytes before it 256 times. -/
theorem toNat_append_singleton (bytes : List UInt8) (byte : UInt8) :
    toNat (bytes ++ [byte]) = toNat bytes * 256 + byte.toNat := by
  simp [toNat, List.foldl_append]

/-- A word keeps the number modulo the range of its width. -/
theorem toNat_ofNat (width value : Nat) : toNat (ofNat width value) = value % range width := by
  induction width generalizing value with
  | zero => simp [ofNat, toNat, range, Nat.mod_one]
  | succ width ih =>
    calc toNat (ofNat (width + 1) value)
        = toNat (ofNat width (value / 256)) * 256 + value % 256 := by
          simp [ofNat, toNat_append_singleton]
      _ = value % 256 + 256 * (value / 256 % range width) := by rw [ih]; omega
      _ = value % range (width + 1) := by rw [range, Nat.mod_mul]

/-- A number that fits the width reads back unchanged. -/
theorem toNat_ofNat_of_lt {width value : Nat} (h : value < range width) :
    toNat (ofNat width value) = value := by
  rw [toNat_ofNat, Nat.mod_eq_of_lt h]

/-- Bytes spell a number below the range of their length. -/
theorem toNat_lt (bytes : List UInt8) : toNat bytes < range bytes.length := by
  rw [← List.reverse_reverse bytes]
  induction bytes.reverse with
  | nil => simp [toNat, range]
  | cons byte rest ih =>
    rw [List.reverse_cons, toNat_append_singleton, List.length_append, List.length_singleton,
      range]
    have := byte.toNat_lt
    omega

/-- Bytes are the word of the number that they spell. -/
theorem ofNat_toNat (bytes : List UInt8) : ofNat bytes.length (toNat bytes) = bytes := by
  rw [← List.reverse_reverse bytes]
  induction bytes.reverse with
  | nil => rfl
  | cons byte rest ih =>
    have hb := byte.toNat_lt
    have high : (toNat rest.reverse * 256 + byte.toNat) / 256 = toNat rest.reverse := by omega
    have low : (toNat rest.reverse * 256 + byte.toNat) % 256 = byte.toNat := by omega
    rw [List.reverse_cons, toNat_append_singleton, List.length_append, List.length_singleton,
      ofNat, high, low, ih]
    simp

/-- A 16-bit word as two bytes. -/
def word16 (value : UInt16) : List UInt8 := ofNat 2 value.toNat

/-- A 32-bit word as four bytes. -/
def word32 (value : UInt32) : List UInt8 := ofNat 4 value.toNat

/-- A 64-bit word as eight bytes. -/
def word64 (value : UInt64) : List UInt8 := ofNat 8 value.toNat

@[simp]
theorem length_word16 (value : UInt16) : (word16 value).length = 2 := length_ofNat ..

@[simp]
theorem length_word32 (value : UInt32) : (word32 value).length = 4 := length_ofNat ..

@[simp]
theorem length_word64 (value : UInt64) : (word64 value).length = 8 := length_ofNat ..

/-- The 16-bit word at the front and the bytes after it; `none` when fewer than two are left. -/
def read16 : List UInt8 → Option (UInt16 × List UInt8)
  | a :: b :: rest => some (UInt16.ofNat (toNat [a, b]), rest)
  | _ => none

/-- The 32-bit word at the front and the bytes after it; `none` when fewer than four are left. -/
def read32 : List UInt8 → Option (UInt32 × List UInt8)
  | a :: b :: c :: d :: rest => some (UInt32.ofNat (toNat [a, b, c, d]), rest)
  | _ => none

/-- Reading undoes writing and leaves the following bytes alone. -/
@[simp]
theorem read16_word16_append (value : UInt16) (rest : List UInt8) :
    read16 (word16 value ++ rest) = some (value, rest) := by
  have fits : value.toNat < range 2 := value.toNat_lt
  have spelled : toNat (ofNat 2 value.toNat) = value.toNat := toNat_ofNat_of_lt fits
  simp only [ofNat, List.nil_append, List.cons_append] at spelled
  simp [read16, word16, ofNat, spelled]

/-- Reading undoes writing and leaves the following bytes alone. -/
@[simp]
theorem read32_word32_append (value : UInt32) (rest : List UInt8) :
    read32 (word32 value ++ rest) = some (value, rest) := by
  have fits : value.toNat < range 4 := value.toNat_lt
  have spelled : toNat (ofNat 4 value.toNat) = value.toNat := toNat_ofNat_of_lt fits
  simp only [ofNat, List.nil_append, List.cons_append] at spelled
  simp [read32, word32, ofNat, spelled]

/-- A word was at the front exactly when reading gives it. -/
theorem read16_eq_some_iff {bytes rest : List UInt8} {value : UInt16} :
    read16 bytes = some (value, rest) ↔ bytes = word16 value ++ rest := by
  constructor
  · intro h
    match bytes, h with
    | a :: b :: tail, h =>
      simp only [read16, Option.some.injEq, Prod.mk.injEq] at h
      obtain ⟨rfl, rfl⟩ := h
      have bound := toNat_lt [a, b]
      have back := ofNat_toNat [a, b]
      simp only [List.length_cons, List.length_nil, Nat.zero_add, Nat.reduceAdd] at bound back
      have kept : (UInt16.ofNat (toNat [a, b])).toNat = toNat [a, b] :=
        UInt16.toNat_ofNat_of_lt' (by simpa [range] using bound)
      rw [word16, kept, back]
      rfl
  · rintro rfl
    exact read16_word16_append value rest

/-- A word was at the front exactly when reading gives it. -/
theorem read32_eq_some_iff {bytes rest : List UInt8} {value : UInt32} :
    read32 bytes = some (value, rest) ↔ bytes = word32 value ++ rest := by
  constructor
  · intro h
    match bytes, h with
    | a :: b :: c :: d :: tail, h =>
      simp only [read32, Option.some.injEq, Prod.mk.injEq] at h
      obtain ⟨rfl, rfl⟩ := h
      have bound := toNat_lt [a, b, c, d]
      have back := ofNat_toNat [a, b, c, d]
      simp only [List.length_cons, List.length_nil, Nat.zero_add, Nat.reduceAdd] at bound back
      have kept : (UInt32.ofNat (toNat [a, b, c, d])).toNat = toNat [a, b, c, d] :=
        UInt32.toNat_ofNat_of_lt' (by simpa [range] using bound)
      rw [word32, kept, back]
      rfl
  · rintro rfl
    exact read32_word32_append value rest

/-- Reading a 16-bit word fails exactly on fewer than two bytes. -/
theorem read16_eq_none_iff {bytes : List UInt8} : read16 bytes = none ↔ bytes.length < 2 := by
  match bytes with
  | [] => simp [read16]
  | [_] => simp [read16]
  | _ :: _ :: _ => simp [read16]

/-- Reading a 32-bit word fails exactly on fewer than four bytes. -/
theorem read32_eq_none_iff {bytes : List UInt8} : read32 bytes = none ↔ bytes.length < 4 := by
  match bytes with
  | [] => simp [read32]
  | [_] => simp [read32]
  | [_, _] => simp [read32]
  | [_, _, _] => simp [read32]
  | _ :: _ :: _ :: _ :: _ => simp [read32]

end ChannelAccess.BigEndian
