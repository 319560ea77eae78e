import ChannelAccess.Config.Engine
import ChannelAccess.Proofs.Number.Digits
import ChannelAccess.Proofs.Text.Fields
import Mathlib.Data.List.Forall2

/-!
# Which specifiers choose an engine

`EngineSpecifier.Chooses` is the grammar of specifiers: a name in any case, then arguments with a
comma before each, every one a positive number of at most 64 bits, and white space around any of
them. `EngineSpecifier.Fault` says in which ways a specifier falls short of it, and which error
reports that. `engines_read_iff` says that reading gives exactly the engine of the grammar and
exactly the error of the fault.

Every specifier is one or the other (`exists_chooses_or_fault`), and reading gives the engine of the
first and the error of the second (`Chooses.parse_eq`, `Fault.parse_eq`). Below that stand what is
read of an argument (`readArgument?_eq_some_iff`) and of a name (`ofName?_eq_some_iff`).
-/

namespace ChannelAccess

namespace EngineSpecifier

/-! ## The grammar -/

/-- The name of each engine, and how many arguments it takes at most. -/
inductive Takes : String → Nat → Prop where
  /-- The size of the buffer. -/
  | singleThread : Takes "BlockingQueueSingleThread" 1
  /-- The number of threads and the size of the buffer. -/
  | multipleWorker : Takes "BlockingQueueMultipleWorker" 2
  /-- Nothing. -/
  | ringBuffer : Takes "RingBuffer" 0
  /-- The number of threads. -/
  | stripedExecutor : Takes "StripedExecutor" 1

/-- The engine of a name and the values of its arguments. -/
inductive Makes : String → List Nat → MonitorEngine → Prop where
  | singleThread : Makes "BlockingQueueSingleThread" [] (.blockingQueue 1 16)
  | singleThreadOfSize (size : Nat) :
    Makes "BlockingQueueSingleThread" [size] (.blockingQueue 1 size)
  | multipleWorker : Makes "BlockingQueueMultipleWorker" [] (.blockingQueue 4 16)
  | multipleWorkerOfThreads (threads : Nat) :
    Makes "BlockingQueueMultipleWorker" [threads] (.blockingQueue threads 16)
  | multipleWorkerOfSize (threads size : Nat) :
    Makes "BlockingQueueMultipleWorker" [threads, size] (.blockingQueue threads size)
  | ringBuffer : Makes "RingBuffer" [] .ringBuffer
  | stripedExecutor : Makes "StripedExecutor" [] (.striped 4)
  | stripedExecutorOfThreads (threads : Nat) :
    Makes "StripedExecutor" [threads] (.striped threads)

/-- The specifier is cut at its commas into a first part and arguments. -/
def Layout (specifier : String) (first : List Char) (arguments : List (List Char)) : Prop :=
  specifier.toList = [','].intercalate (first :: arguments) ∧
    ∀ part ∈ first :: arguments, ',' ∉ part

/-- The first part is the name of an engine in any case, with white space around it. -/
def Named (first written : List Char) (name : String) : Prop :=
  Fields.Padded written first ∧ written.map Char.toLower = name.toList.map Char.toLower

/-- The argument is a positive number of at most 64 bits, with white space around it. -/
def Positive (argument : List Char) (value : Nat) : Prop :=
  ∃ core, Fields.Padded core argument ∧ Natural.Spells core value ∧ 0 < value ∧
    value < Natural.bound64

/-- The specifier chooses the engine. -/
def Chooses (specifier : String) (engine : MonitorEngine) : Prop :=
  ∃ first arguments written name values, Layout specifier first arguments ∧
    Named first written name ∧ List.Forall₂ Positive arguments values ∧ Makes name values engine

/-- Why a specifier chooses no engine, and the error that says so. -/
inductive Fault (specifier : String) : EngineError → Prop where
  /-- No engine has the name. -/
  | unknownEngine {first : List Char} {arguments : List (List Char)}
      (layout : Layout specifier first arguments)
      (unknown : ∀ written name limit, Takes name limit → ¬ Named first written name) :
    Fault specifier (.unknownEngine specifier)
  /-- There are more arguments than the engine takes, whatever they are. -/
  | tooManyArguments {first written : List Char} {arguments : List (List Char)} {name : String}
      {limit : Nat} (layout : Layout specifier first arguments) (takes : Takes name limit)
      (named : Named first written name) (tooMany : limit < arguments.length) :
    Fault specifier (.tooManyArguments (String.ofList written))
  /-- An argument is no such number, and those before it are. -/
  | invalidArgument {first written wrong : List Char} {before after : List (List Char)}
      {name : String} {limit : Nat} (layout : Layout specifier first (before ++ wrong :: after))
      (takes : Takes name limit) (named : Named first written name)
      (fits : (before ++ wrong :: after).length ≤ limit)
      (right : ∀ argument ∈ before, ∃ value, Positive argument value)
      (isWrong : ∀ value, ¬ Positive wrong value) :
    Fault specifier (.invalidArgument (String.ofList written) (String.ofList wrong))

end EngineSpecifier

namespace MonitorEngine

open EngineSpecifier

/-! ## Arguments -/

/-- A digit is no white space. -/
theorem isBlank_of_isDigit {c : Char} (digit : c.isDigit = true) : Fields.isBlank c = false := by
  have bounds : 48 ≤ c.toNat ∧ c.toNat ≤ 57 := by
    simp only [Char.isDigit, Bool.and_eq_true, decide_eq_true_eq, ge_iff_le,
      UInt32.le_iff_toNat_le] at digit
    exact digit
  simp only [Fields.isBlank, Bool.or_eq_false_iff, Bool.and_eq_false_iff, decide_eq_false_iff_not,
    beq_eq_false_iff_ne]
  omega

/-- There is no white space inside a number. -/
theorem solid_of_spells {core : List Char} {value : Nat} (spells : Natural.Spells core value) :
    ∀ c ∈ core, Fields.isBlank c = false := by
  obtain ⟨sign, digits, rfl, isSign, -, all, -⟩ := spells
  intro c inside
  rcases List.mem_append.mp inside with inside | inside
  · rcases isSign with rfl | rfl
    · contradiction
    · obtain rfl := List.mem_singleton.mp inside
      decide
  · exact isBlank_of_isDigit (all c inside)

/-- An argument is read exactly if it is a positive number that fits. -/
theorem readArgument?_eq_some_iff {argument : List Char} {value : Nat} :
    readArgument? argument = some value ↔ Positive argument value := by
  rw [readArgument?, Option.filter_eq_some_iff, Natural.read?_eq_some_iff, decide_eq_true_eq]
  constructor
  · rintro ⟨⟨spells, fits⟩, positive⟩
    exact ⟨Fields.trim argument, Fields.padded_trim argument, spells, positive, fits⟩
  · rintro ⟨core, padded, spells, positive, fits⟩
    rw [padded.trim_eq (solid_of_spells spells)]
    exact ⟨⟨spells, fits⟩, positive⟩

/-- Arguments that are positive numbers are read as these. -/
theorem readArguments_of_forall {engine : String} {arguments : List (List Char)}
    {values : List Nat} (all : List.Forall₂ Positive arguments values) :
    readArguments engine arguments = .ok values := by
  induction all with
  | nil => rfl
  | cons positive _ ih =>
    rw [readArguments, readArgument?_eq_some_iff.mpr positive, ih]
    rfl

/-- The first argument that is no such number is reported as it was written. -/
theorem readArguments_of_wrong {engine : String} {before after : List (List Char)}
    {wrong : List Char} (right : ∀ argument ∈ before, ∃ value, Positive argument value)
    (isWrong : ∀ value, ¬ Positive wrong value) :
    readArguments engine (before ++ wrong :: after) =
      .error (.invalidArgument engine (String.ofList wrong)) := by
  induction before with
  | nil =>
    have refused : readArgument? wrong = none :=
      Option.eq_none_iff_forall_ne_some.mpr fun value read =>
        isWrong value (readArgument?_eq_some_iff.mp read)
    rw [List.nil_append, readArguments, refused]
  | cons argument others ih =>
    obtain ⟨value, positive⟩ := right argument List.mem_cons_self
    rw [List.cons_append, readArguments, readArgument?_eq_some_iff.mpr positive,
      ih fun other isOther => right other (List.mem_cons_of_mem argument isOther)]
    rfl

/-- Either all arguments are such numbers, or there is a first one that is not. -/
theorem exists_values_or_wrong (arguments : List (List Char)) :
    (∃ values, List.Forall₂ Positive arguments values) ∨
      ∃ before wrong after, arguments = before ++ wrong :: after ∧
        (∀ argument ∈ before, ∃ value, Positive argument value) ∧
        ∀ value, ¬ Positive wrong value := by
  induction arguments with
  | nil => exact .inl ⟨[], .nil⟩
  | cons argument rest ih =>
    by_cases right : ∃ value, Positive argument value
    · rcases ih with ⟨values, all⟩ | ⟨before, wrong, after, rfl, others, isWrong⟩
      · obtain ⟨value, positive⟩ := right
        exact .inl ⟨value :: values, .cons positive all⟩
      · refine .inr ⟨argument :: before, wrong, after, rfl, fun other isOther => ?_, isWrong⟩
        rcases List.mem_cons.mp isOther with rfl | isOther
        · exact right
        · exact others other isOther
    · exact .inr ⟨[], argument, rest, rfl, fun _ inside => absurd inside List.not_mem_nil,
        not_exists.mp right⟩

/-! ## Names -/

/-- A capital letter is no white space, and every other character is a small one already. -/
theorem toLower_eq_self_of_isBlank {c : Char} (blank : Fields.isBlank c = true) :
    c.toLower = c := by
  refine dif_neg fun capital => ?_
  have bounds : 65 ≤ c.toNat ∧ c.toNat ≤ 90 := by
    simp only [ge_iff_le, UInt32.le_iff_toNat_le] at capital
    exact capital
  simp only [Fields.isBlank, Bool.or_eq_true, Bool.and_eq_true, decide_eq_true_eq,
    beq_iff_eq] at blank
  omega

/-- There is no white space inside the name of an engine, in whichever case it is written. -/
theorem solid_of_sameLetters {kind : Kind} {written : List Char}
    (same : written.map Char.toLower = kind.name.toList.map Char.toLower) :
    ∀ c ∈ written, Fields.isBlank c = false := by
  have solid : (kind.name.toList.map Char.toLower).all (!Fields.isBlank ·) = true := by
    cases kind <;> decide
  intro c inside
  refine Bool.eq_false_iff.mpr fun blank => ?_
  have isLetter := List.all_eq_true.mp solid c.toLower (same ▸ List.mem_map_of_mem inside)
  rw [toLower_eq_self_of_isBlank blank, blank] at isLetter
  contradiction

/-- A name chooses the kind that has it in some case. -/
theorem ofName?_eq_some_iff {written : List Char} {kind : Kind} :
    Kind.ofName? written = some kind ↔
      written.map Char.toLower = kind.name.toList.map Char.toLower := by
  have sameLetters {other : Kind} (found : Kind.ofName? written = some other) :
      written.map Char.toLower = other.name.toList.map Char.toLower := by
    rw [Kind.ofName?] at found
    have same := List.find?_some found
    exact (beq_iff_eq.mp same).symm
  have distinct : ∀ one other : Kind, one.name.toList.map Char.toLower =
      other.name.toList.map Char.toLower → one = other := by
    intro one other
    cases one <;> cases other <;> decide
  refine ⟨sameLetters, fun same => ?_⟩
  cases found : Kind.ofName? written with
  | some other => rw [distinct other kind ((sameLetters found).symm.trans same)]
  | none =>
    have isKind : kind ∈ Kind.all := by cases kind <;> decide
    exact absurd (beq_iff_eq.mpr same.symm) (List.find?_eq_none.mp found kind isKind)

/-- The names of the grammar are those of the kinds, with the number of arguments that they take. -/
theorem takes_iff {name : String} {limit : Nat} :
    Takes name limit ↔ ∃ kind : Kind, kind.name = name ∧ kind.maxArguments = limit := by
  constructor
  · intro takes
    cases takes with
    | singleThread => exact ⟨.singleThread, rfl, rfl⟩
    | multipleWorker => exact ⟨.multipleWorker, rfl, rfl⟩
    | ringBuffer => exact ⟨.ringBuffer, rfl, rfl⟩
    | stripedExecutor => exact ⟨.stripedExecutor, rfl, rfl⟩
  · rintro ⟨kind, rfl, rfl⟩
    cases kind with
    | singleThread => exact .singleThread
    | multipleWorker => exact .multipleWorker
    | ringBuffer => exact .ringBuffer
    | stripedExecutor => exact .stripedExecutor

/-- A kind makes its engine of as many values as it takes. -/
theorem makes_engine {kind : Kind} {values : List Nat} (fits : values.length ≤ kind.maxArguments) :
    Makes kind.name values (kind.engine values) := by
  cases kind with
  | singleThread =>
    match values, fits with
    | [], _ => exact .singleThread
    | [size], _ => exact .singleThreadOfSize size
  | multipleWorker =>
    match values, fits with
    | [], _ => exact .multipleWorker
    | [threads], _ => exact .multipleWorkerOfThreads threads
    | [threads, size], _ => exact .multipleWorkerOfSize threads size
  | ringBuffer =>
    obtain rfl := List.length_eq_zero_iff.mp (Nat.le_zero.mp fits)
    exact .ringBuffer
  | stripedExecutor =>
    match values, fits with
    | [], _ => exact .stripedExecutor
    | [threads], _ => exact .stripedExecutorOfThreads threads

/-- An engine of the grammar is that of a kind, which takes as many values. -/
theorem Makes.exists_kind {name : String} {values : List Nat} {engine : MonitorEngine}
    (makes : Makes name values engine) :
    ∃ kind : Kind, kind.name = name ∧ values.length ≤ kind.maxArguments ∧
      kind.engine values = engine := by
  cases makes with
  | singleThread | singleThreadOfSize =>
    exact ⟨.singleThread, rfl, by simp [Kind.maxArguments], rfl⟩
  | multipleWorker | multipleWorkerOfThreads | multipleWorkerOfSize =>
    exact ⟨.multipleWorker, rfl, by simp [Kind.maxArguments], rfl⟩
  | ringBuffer => exact ⟨.ringBuffer, rfl, Nat.le_refl 0, rfl⟩
  | stripedExecutor | stripedExecutorOfThreads =>
    exact ⟨.stripedExecutor, rfl, by simp [Kind.maxArguments], rfl⟩

/-! ## Specifiers -/

variable {specifier : String} {first written : List Char} {arguments : List (List Char)}

/-- What is read of a specifier without the name of an engine. -/
theorem parse_of_unknown (layout : Layout specifier first arguments)
    (unknown : ∀ written name limit, Takes name limit → ¬ Named first written name) :
    parse specifier = .error (.unknownEngine specifier) := by
  have noKind : Kind.ofName? (Fields.trim first) = none :=
    Option.eq_none_iff_forall_ne_some.mpr fun kind found =>
      unknown _ kind.name kind.maxArguments (takes_iff.mpr ⟨kind, rfl, rfl⟩)
        ⟨Fields.padded_trim first, ofName?_eq_some_iff.mp found⟩
  rw [parse, Fields.splitAll_eq_cons_iff.mpr layout]
  dsimp only
  rw [noKind]

/-- What is read of a specifier with the name of an engine. -/
theorem parse_of_named {kind : Kind} (layout : Layout specifier first arguments)
    (named : Named first written kind.name) :
    parse specifier =
      if kind.maxArguments < arguments.length then
        .error (.tooManyArguments (String.ofList written))
      else (readArguments (String.ofList written) arguments).map kind.engine := by
  obtain ⟨padded, same⟩ := named
  rw [parse, Fields.splitAll_eq_cons_iff.mpr layout]
  dsimp only
  rw [padded.trim_eq (solid_of_sameLetters same), ofName?_eq_some_iff.mpr same]

/-- What the grammar chooses is read. -/
theorem Chooses.parse_eq {engine : MonitorEngine} (chooses : Chooses specifier engine) :
    parse specifier = .ok engine := by
  obtain ⟨first, arguments, written, name, values, layout, named, all, makes⟩ := chooses
  obtain ⟨kind, rfl, fits, rfl⟩ := Makes.exists_kind makes
  rw [← all.length_eq] at fits
  rw [parse_of_named layout named, if_neg (Nat.not_lt.mpr fits), readArguments_of_forall all]
  rfl

/-- Where the grammar has a fault, its error is reported. -/
theorem Fault.parse_eq {error : EngineError} (fault : Fault specifier error) :
    parse specifier = .error error := by
  cases fault with
  | unknownEngine layout unknown => exact parse_of_unknown layout unknown
  | tooManyArguments layout takes named tooMany =>
    obtain ⟨kind, rfl, rfl⟩ := takes_iff.mp takes
    rw [parse_of_named layout named, if_pos tooMany]
  | invalidArgument layout takes named fits right isWrong =>
    obtain ⟨kind, rfl, rfl⟩ := takes_iff.mp takes
    rw [parse_of_named layout named, if_neg (Nat.not_lt.mpr fits),
      readArguments_of_wrong right isWrong]
    rfl

/-- Every specifier chooses an engine or has a fault. -/
theorem exists_chooses_or_fault (specifier : String) :
    (∃ engine, Chooses specifier engine) ∨ ∃ error, Fault specifier error := by
  obtain ⟨first, arguments, parts⟩ := List.exists_cons_of_ne_nil
    (Fields.splitAll_ne_nil (· == ',') specifier.toList)
  have layout : Layout specifier first arguments := Fields.splitAll_eq_cons_iff.mp parts
  by_cases known : ∃ written name limit, Takes name limit ∧ Named first written name
  · obtain ⟨written, name, limit, takes, named⟩ := known
    rcases Nat.lt_or_ge limit arguments.length with tooMany | fits
    · exact .inr ⟨_, .tooManyArguments layout takes named tooMany⟩
    · rcases exists_values_or_wrong arguments with
        ⟨values, all⟩ | ⟨before, wrong, after, rfl, right, isWrong⟩
      · obtain ⟨kind, rfl, rfl⟩ := takes_iff.mp takes
        rw [all.length_eq] at fits
        exact .inl ⟨_, first, arguments, written, _, values, layout, named, all,
          makes_engine fits⟩
      · exact .inr ⟨_, .invalidArgument layout takes named fits right isWrong⟩
  · exact .inr ⟨_, .unknownEngine layout fun written name limit takes named =>
      known ⟨written, name, limit, takes, named⟩⟩

/-- The values of such arguments are positive. -/
theorem pos_of_mem_values {values : List Nat} (all : List.Forall₂ Positive arguments values) :
    ∀ value ∈ values, 0 < value := by
  induction all with
  | nil => exact fun _ inside => absurd inside List.not_mem_nil
  | cons first _ ih =>
    obtain ⟨core, -, -, positive, -⟩ := first
    intro value isValue
    rcases List.mem_cons.mp isValue with rfl | isValue
    · exact positive
    · exact ih value isValue

/-- The engine has threads and, if it has a buffer, room in it. -/
def IsUsable : MonitorEngine → Prop
  | .blockingQueue threads bufferSize => 0 < threads ∧ 0 < bufferSize
  | .ringBuffer => True
  | .striped threads => 0 < threads

/-- Positive arguments make an engine that can be used. -/
theorem isUsable_of_makes {name : String} {values : List Nat} {engine : MonitorEngine}
    (makes : Makes name values engine) (positive : ∀ value ∈ values, 0 < value) :
    engine.IsUsable := by
  cases makes with
  | singleThread | multipleWorker => exact ⟨by decide, by decide⟩
  | singleThreadOfSize size => exact ⟨Nat.one_pos, positive size List.mem_cons_self⟩
  | multipleWorkerOfThreads threads => exact ⟨positive threads List.mem_cons_self, by decide⟩
  | multipleWorkerOfSize threads size =>
    exact ⟨positive threads List.mem_cons_self,
      positive size (List.mem_cons_of_mem threads List.mem_cons_self)⟩
  | ringBuffer => trivial
  | stripedExecutor => exact (by decide : 0 < 4)
  | stripedExecutorOfThreads threads => exact positive threads List.mem_cons_self

/-- **Which specifiers choose an engine.** A specifier is read exactly if the grammar has it: the
text before the first comma is the name of an engine in any case with white space around it, there
are no more arguments than the engine takes, and each of them is a positive number of at most 64
bits, with or without a plus sign, with white space around it. The engine has these numbers, and the
usual ones where arguments are missing, so that it never has no threads or no room. Every other
specifier is refused with the error of its fault: the whole specifier if no engine has the name,
then that there are too many arguments, then the first argument that is no such number. -/
theorem engines_read_iff (specifier : String) :
    (∀ engine, parse specifier = .ok engine ↔ Chooses specifier engine) ∧
      (∀ error, parse specifier = .error error ↔ Fault specifier error) ∧
      ∀ engine, parse specifier = .ok engine → engine.IsUsable := by
  have chosen : ∀ engine, parse specifier = .ok engine → Chooses specifier engine := by
    intro engine read
    rcases exists_chooses_or_fault specifier with ⟨other, chooses⟩ | ⟨error, fault⟩
    · rwa [← Except.ok.inj ((Chooses.parse_eq chooses).symm.trans read)]
    · have refused := (Fault.parse_eq fault).symm.trans read
      contradiction
  refine ⟨fun engine => ⟨chosen engine, Chooses.parse_eq⟩, fun error => ⟨fun read => ?_,
    Fault.parse_eq⟩, fun engine read => ?_⟩
  · rcases exists_chooses_or_fault specifier with ⟨engine, chooses⟩ | ⟨other, fault⟩
    · have accepted := (Chooses.parse_eq chooses).symm.trans read
      contradiction
    · rwa [← Except.error.inj ((Fault.parse_eq fault).symm.trans read)]
  · obtain ⟨first, arguments, written, name, values, -, -, all, makes⟩ := chosen engine read
    exact isUsable_of_makes makes (pos_of_mem_values all)

example : parse " stripedexecutor ,\t+03" = .ok (.striped 3) := by decide

end MonitorEngine

end ChannelAccess
