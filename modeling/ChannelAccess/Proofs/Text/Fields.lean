import ChannelAccess.Text.Fields
import Mathlib.Data.List.DropRight

/-!
# What cutting and trimming give

Cutting a text at a separator gives the only parts without separators that make up the text when
separators are put between them (`Fields.splitAll_eq_cons_iff`). Those of them that are not empty
are the words that the text is made of with any number of separators around them
(`Fields.words_eq_iff`), and a separator divides the words of a text in two
(`Fields.words_append_blank`). Trimming gives what white space was put around (`Fields.Padded`), as
long as there is no white space inside.
-/

namespace ChannelAccess.Fields

/-! ## Cutting -/

/-- Cutting a text is cutting a list. -/
theorem splitAll_eq_splitOnP (isSeparator : Char → Bool) (chars : List Char) :
    splitAll isSeparator chars = chars.splitOnP isSeparator := by
  induction chars with
  | nil => rfl
  | cons c rest ih =>
    rw [List.splitOnP_cons_eq_if_modifyHead, ← ih]
    obtain ⟨first, others, parts⟩ := List.exists_cons_of_ne_nil (splitAll_ne_nil isSeparator rest)
    show (if isSeparator c then [] :: splitAll isSeparator rest
      else consFirst c (splitAll isSeparator rest)) = _
    rw [parts]
    rfl

/-- No part has a separator in it. -/
theorem eq_false_of_mem_splitAll {isSeparator : Char → Bool} {chars part : List Char}
    (isPart : part ∈ splitAll isSeparator chars) : ∀ c ∈ part, isSeparator c = false := by
  induction chars generalizing part with
  | nil =>
    obtain rfl := List.mem_singleton.mp isPart
    exact fun c inside => absurd inside List.not_mem_nil
  | cons c rest ih =>
    obtain ⟨first, others, parts⟩ := List.exists_cons_of_ne_nil (splitAll_ne_nil isSeparator rest)
    change part ∈ (if isSeparator c then [] :: splitAll isSeparator rest
      else consFirst c (splitAll isSeparator rest)) at isPart
    cases separates : isSeparator c with
    | true =>
      rw [if_pos separates] at isPart
      rcases List.mem_cons.mp isPart with rfl | later
      · exact fun d inside => absurd inside List.not_mem_nil
      · exact ih later
    | false =>
      rw [if_neg (Bool.eq_false_iff.mp separates), parts] at isPart
      rw [parts] at ih
      rcases List.mem_cons.mp isPart with rfl | later
      · -- The character stands before the first part of the rest.
        intro d inside
        rcases List.mem_cons.mp inside with rfl | inside
        · exact separates
        · exact ih List.mem_cons_self d inside
      · exact ih (List.mem_cons_of_mem _ later)

/-- Cutting gives the parts without separators that make up the text. -/
theorem splitAll_eq_cons_iff {separator : Char} {chars first : List Char}
    {others : List (List Char)} :
    splitAll (· == separator) chars = first :: others ↔
      chars = [separator].intercalate (first :: others) ∧
        ∀ part ∈ first :: others, separator ∉ part := by
  have same : splitAll (· == separator) chars = chars.splitOn separator := by
    rw [splitAll_eq_splitOnP, List.splitOn_eq_splitOnP]
  constructor
  · intro cut
    refine ⟨?_, fun part isPart inside => ?_⟩
    · rw [← cut, same, List.intercalate_splitOn]
    · rw [← cut] at isPart
      exact absurd (beq_self_eq_true separator)
        (Bool.eq_false_iff.mp (eq_false_of_mem_splitAll isPart separator inside))
  · rintro ⟨rfl, apart⟩
    rw [same, List.splitOn_intercalate separator apart (List.cons_ne_nil first others)]

/-! ## Words -/

/-- The text holds these words, in order, with separators between them and perhaps before and after
all of them. -/
inductive Spaced (isSeparator : Char → Bool) : List (List Char) → List Char → Prop where
  /-- There are separators only, or nothing. -/
  | blank {chars : List Char} (blank : ∀ c ∈ chars, isSeparator c = true) :
    Spaced isSeparator [] chars
  /-- A word comes after any number of separators. What follows it starts with one. -/
  | word {before word rest : List Char} {words : List (List Char)}
      (blank : ∀ c ∈ before, isSeparator c = true) (nonempty : word ≠ [])
      (solid : ∀ c ∈ word, isSeparator c = false) (apart : ∀ c ∈ rest.head?, isSeparator c = true)
      (spaced : Spaced isSeparator words rest) :
    Spaced isSeparator (word :: words) (before ++ word ++ rest)

section

variable {isSeparator : Char → Bool}

/-- A separator ends a word. -/
theorem words_append_cons {c : Char} (separates : isSeparator c = true) (before after : List Char) :
    words isSeparator (before ++ c :: after) =
      words isSeparator before ++ words isSeparator after := by
  simp only [words, splitAll_eq_splitOnP]
  rw [List.splitOnP_append_cons before after separates, List.filter_append]

/-- Separators before a text are not part of any word. -/
theorem words_blank_append {blank : List Char} (all : ∀ c ∈ blank, isSeparator c = true)
    (rest : List Char) : words isSeparator (blank ++ rest) = words isSeparator rest := by
  induction blank with
  | nil => rfl
  | cons c blank ih =>
    calc words isSeparator (c :: blank ++ rest)
        = words isSeparator [] ++ words isSeparator (blank ++ rest) :=
          words_append_cons (all c List.mem_cons_self) [] (blank ++ rest)
      _ = words isSeparator rest := ih fun d inside => all d (List.mem_cons_of_mem c inside)

/-- One or more separators divide the words of a text. -/
theorem words_append_blank {blank : List Char} (nonempty : blank ≠ [])
    (all : ∀ c ∈ blank, isSeparator c = true) (before after : List Char) :
    words isSeparator (before ++ blank ++ after) =
      words isSeparator before ++ words isSeparator after := by
  obtain ⟨c, others, rfl⟩ := List.exists_cons_of_ne_nil nonempty
  rw [List.append_assoc, List.cons_append, words_append_cons (all c List.mem_cons_self),
    words_blank_append fun d inside => all d (List.mem_cons_of_mem c inside)]

/-- A text without separators is one word, unless it is empty. -/
theorem words_of_solid {word : List Char} (nonempty : word ≠ [])
    (solid : ∀ c ∈ word, isSeparator c = false) : words isSeparator word = [word] := by
  rw [words, splitAll_eq_splitOnP, List.splitOnP_eq_singleton solid]
  exact List.filter_cons_of_pos (decide_eq_true nonempty)

/-- The words that a text holds are found in it. -/
theorem Spaced.words_eq {expected : List (List Char)} {chars : List Char}
    (spaced : Spaced isSeparator expected chars) : words isSeparator chars = expected := by
  induction spaced with
  | @blank chars blank =>
    have none := words_blank_append blank []
    rwa [List.append_nil] at none
  | @word before word rest later blank nonempty solid apart _ ih =>
    rw [List.append_assoc, words_blank_append blank]
    cases rest with
    | nil =>
      rw [List.append_nil, words_of_solid nonempty solid, ← ih]
      rfl
    | cons c rest =>
      have separates := apart c rfl
      have isLater : words isSeparator rest = later := by
        rw [← ih]
        exact (words_append_cons separates [] rest).symm
      rw [words_append_cons separates, words_of_solid nonempty solid, isLater]
      rfl

/-- One more separator before everything makes no difference. -/
theorem Spaced.cons {found : List (List Char)} {rest : List Char} {c : Char}
    (separates : isSeparator c = true) (spaced : Spaced isSeparator found rest) :
    Spaced isSeparator found (c :: rest) := by
  cases spaced with
  | blank blank => exact .blank (List.forall_mem_cons.mpr ⟨separates, blank⟩)
  | @word before word after later blank nonempty solid apart spaced =>
    exact @Spaced.word _ (c :: before) word after later
      (List.forall_mem_cons.mpr ⟨separates, blank⟩) nonempty solid apart spaced

/-- A word may stand at the very front. -/
theorem Spaced.front {word rest : List Char} {later : List (List Char)} (nonempty : word ≠ [])
    (solid : ∀ c ∈ word, isSeparator c = false) (apart : ∀ c ∈ rest.head?, isSeparator c = true)
    (spaced : Spaced isSeparator later rest) :
    Spaced isSeparator (word :: later) (word ++ rest) :=
  @Spaced.word _ [] word rest later nofun nonempty solid apart spaced

/-- A text that is put together from words with a separator between them holds these. -/
theorem spaced_intercalate {separator : Char} (separates : isSeparator separator = true)
    {parts : List (List Char)}
    (solid : ∀ part ∈ parts, part ≠ [] ∧ ∀ c ∈ part, isSeparator c = false) :
    Spaced isSeparator parts ([separator].intercalate parts) := by
  induction parts with
  | nil => exact .blank nofun
  | cons part others ih =>
    obtain ⟨nonempty, whole⟩ := solid part List.mem_cons_self
    have later := ih fun other isOther => solid other (List.mem_cons_of_mem part isOther)
    cases others with
    | nil =>
      have nothing : ∀ c ∈ [].head?, isSeparator c = true := fun c first =>
        absurd first (Option.not_mem_none c)
      have alone := Spaced.front nonempty whole nothing later
      rw [List.append_nil] at alone
      rwa [List.intercalate_singleton]
    | cons next others =>
      rw [List.intercalate_cons_cons, List.append_assoc]
      refine .front nonempty whole ?_ (later.cons separates)
      rintro first ⟨⟩
      exact separates

/-- Every text holds some words. -/
theorem exists_spaced (isSeparator : Char → Bool) (chars : List Char) :
    ∃ found, Spaced isSeparator found chars := by
  induction chars with
  | nil => exact ⟨[], .blank nofun⟩
  | cons c rest ih =>
    obtain ⟨found, spaced⟩ := ih
    cases separates : isSeparator c with
    | true => exact ⟨found, spaced.cons separates⟩
    | false =>
      have alone : ∀ d ∈ [c], isSeparator d = false := List.forall_mem_singleton.mpr separates
      cases spaced with
      | blank blank =>
        refine ⟨[[c]], .front (List.cons_ne_nil c []) alone ?_ (.blank blank)⟩
        exact fun d first => blank d (List.mem_of_mem_head? first)
      | @word before word after later blank nonempty solid apart spaced =>
        cases before with
        | nil =>
          -- The character is the first of the word that stood at the front.
          exact ⟨(c :: word) :: later, .front (List.cons_ne_nil c word)
            (List.forall_mem_cons.mpr ⟨separates, solid⟩) apart spaced⟩
        | cons d before =>
          refine ⟨[c] :: word :: later, .front (List.cons_ne_nil c []) alone ?_
            (.word blank nonempty solid apart spaced)⟩
          rintro first ⟨⟩
          exact blank d List.mem_cons_self

/-- The words of a text are those that it holds. -/
theorem words_eq_iff {expected : List (List Char)} {chars : List Char} :
    words isSeparator chars = expected ↔ Spaced isSeparator expected chars := by
  refine ⟨fun found => ?_, Spaced.words_eq⟩
  obtain ⟨others, spaced⟩ := exists_spaced isSeparator chars
  rwa [← found, spaced.words_eq]

end

/-! ## Trimming -/

/-- The text is another one with white space around it. -/
def Padded (core chars : List Char) : Prop :=
  ∃ before after, chars = before ++ core ++ after ∧ ∀ c ∈ before ++ after, isBlank c = true

/-- What trimming takes away is white space around what it leaves. -/
theorem padded_trim (chars : List Char) : Padded (trim chars) chars := by
  refine ⟨chars.takeWhile isBlank, (chars.dropWhile isBlank).rtakeWhile isBlank, ?_, ?_⟩
  · show chars = _ ++ (chars.dropWhile isBlank).rdropWhile isBlank ++ _
    rw [List.append_assoc, List.rdropWhile_append_rtakeWhile, List.takeWhile_append_dropWhile]
  · intro c inside
    rcases List.mem_append.mp inside with before | after
    · exact List.mem_takeWhile_imp before
    · exact List.mem_rtakeWhile_imp after

/-- Nothing is dropped from a text that has none of what is to be dropped. -/
theorem dropWhile_eq_self {p : Char → Bool} {chars : List Char}
    (keeps : ∀ c ∈ chars, p c = false) : chars.dropWhile p = chars := by
  cases chars with
  | nil => rfl
  | cons c rest =>
    exact List.dropWhile_cons_of_neg (Bool.eq_false_iff.mp (keeps c List.mem_cons_self))

/-- Trimming gives a text without white space back from what is around it. -/
theorem Padded.trim_eq {core chars : List Char} (padded : Padded core chars)
    (solid : ∀ c ∈ core, isBlank c = false) : trim chars = core := by
  obtain ⟨before, after, rfl, blank⟩ := padded
  have blankAfter : ∀ c ∈ after.reverse, isBlank c = true := fun c inside =>
    blank c (List.mem_append_right before (List.mem_reverse.mp inside))
  have front : (before ++ core ++ after).dropWhile isBlank = core ++ after ∨
      (before ++ core ++ after).dropWhile isBlank = core := by
    rw [List.append_assoc,
      List.dropWhile_append_of_pos fun c inside => blank c (List.mem_append_left after inside)]
    cases core with
    | nil =>
      -- Then all of the text is white space.
      refine .inr (List.dropWhile_eq_nil_iff.mpr fun c inside => ?_)
      exact blank c (List.mem_append_right before inside)
    | cons c rest =>
      exact .inl (List.dropWhile_cons_of_neg (Bool.eq_false_iff.mp (solid c List.mem_cons_self)))
  have back : core.reverse.dropWhile isBlank = core.reverse :=
    dropWhile_eq_self fun c inside => solid c (List.mem_reverse.mp inside)
  rw [trim]
  rcases front with front | front
  · rw [front, List.reverse_append, List.dropWhile_append_of_pos blankAfter, back,
      List.reverse_reverse]
  · rw [front, back, List.reverse_reverse]

end ChannelAccess.Fields
