import ChannelAccess.Number.Natural
import ChannelAccess.Text.Fields

/-!
# Monitor engines

How updates of a subscription reach its consumer. An engine is chosen by a specifier: its name in
any case, followed by positive numbers with commas before them.
-/

namespace ChannelAccess

/-- How updates reach a consumer. -/
inductive MonitorEngine where
  /-- A bounded queue for each consumer, served by a pool of threads. -/
  | blockingQueue (threads bufferSize : Nat)
  /-- One slot for each consumer, served by a thread of its own; a newer update takes the place of
  one not yet delivered. -/
  | ringBuffer
  /-- An unbounded queue for each consumer, served by a pool of threads. -/
  | striped (threads : Nat)
  deriving DecidableEq, Repr

/-- Why a specifier names no engine. -/
inductive EngineError where
  /-- No engine has that name. -/
  | unknownEngine (specifier : String)
  /-- An argument is no positive number. -/
  | invalidArgument (engine argument : String)
  /-- There are more arguments than the engine takes. -/
  | tooManyArguments (engine : String)
  deriving DecidableEq, Repr

/-- The name of the kind of error, by which programs tell errors apart. -/
def EngineError.kind : EngineError → String
  | .unknownEngine _ => "UnknownEngine"
  | .invalidArgument _ _ => "InvalidArgument"
  | .tooManyArguments _ => "TooManyArguments"

/-- The text of the error. -/
def EngineError.message : EngineError → String
  | .unknownEngine specifier => s!"Unknown monitor notifier '{specifier}'"
  | .invalidArgument engine argument =>
    s!"Invalid argument '{argument}' for monitor notifier {engine}"
  | .tooManyArguments engine => s!"Too many arguments for monitor notifier {engine}"

namespace MonitorEngine

/-- Updates that wait for a consumer unless the specifier says otherwise. -/
def defaultBufferSize : Nat := 16

/-- Threads that serve consumers unless the specifier says otherwise. -/
def defaultThreads : Nat := 4

/-- The engine that is used when none is chosen. -/
def standard : MonitorEngine := .blockingQueue 1 defaultBufferSize

instance : Inhabited MonitorEngine := ⟨standard⟩

/-- The kinds of engine that a name can choose. -/
inductive Kind where
  /-- A bounded queue served by one thread. -/
  | singleThread
  /-- A bounded queue served by several threads. -/
  | multipleWorker
  /-- A single slot. -/
  | ringBuffer
  /-- An unbounded queue. -/
  | stripedExecutor
  deriving DecidableEq, Repr

/-- The name of a kind. -/
def Kind.name : Kind → String
  | .singleThread => "BlockingQueueSingleThread"
  | .multipleWorker => "BlockingQueueMultipleWorker"
  | .ringBuffer => "RingBuffer"
  | .stripedExecutor => "StripedExecutor"

/-- All kinds. -/
def Kind.all : List Kind := [.singleThread, .multipleWorker, .ringBuffer, .stripedExecutor]

/-- The number of arguments that a kind takes at most. -/
def Kind.maxArguments : Kind → Nat
  | .singleThread => 1
  | .multipleWorker => 2
  | .ringBuffer => 0
  | .stripedExecutor => 1

/-- The engine of a kind with the given arguments, and the usual values for missing ones. -/
def Kind.engine : Kind → List Nat → MonitorEngine
  | .singleThread, arguments => .blockingQueue 1 (arguments[0]?.getD defaultBufferSize)
  | .multipleWorker, arguments =>
    .blockingQueue (arguments[0]?.getD defaultThreads) (arguments[1]?.getD defaultBufferSize)
  | .ringBuffer, _ => .ringBuffer
  | .stripedExecutor, arguments => .striped (arguments[0]?.getD defaultThreads)

/-- The kind that has a name, in any case. -/
def Kind.ofName? (name : List Char) : Option Kind :=
  Kind.all.find? fun kind => Fields.sameIgnoringCase kind.name.toList name

/-- The positive number that an argument spells between white space. -/
def readArgument? (argument : List Char) : Option Nat :=
  (Natural.read? Natural.bound64 (Fields.trim argument)).filter (0 < ·)

/-- The numbers that arguments spell, or the first of them that spells none. -/
def readArguments (engine : String) : List (List Char) → Except EngineError (List Nat)
  | [] => .ok []
  | argument :: rest =>
    match readArgument? argument with
    | none => .error (.invalidArgument engine (String.ofList argument))
    | some value => (readArguments engine rest).map (value :: ·)

/-- The engine that a specifier chooses. An unknown name is reported with the whole specifier and
before everything else, too many arguments before a bad one. -/
def parse (specifier : String) : Except EngineError MonitorEngine :=
  match Fields.splitAll (· == ',') specifier.toList with
  | [] => .error (.unknownEngine specifier)
  | first :: arguments =>
    let name := Fields.trim first
    match Kind.ofName? name with
    | none => .error (.unknownEngine specifier)
    | some kind =>
      -- Arguments are counted before they are read.
      if kind.maxArguments < arguments.length then
        .error (.tooManyArguments (String.ofList name))
      else (readArguments (String.ofList name) arguments).map kind.engine

end MonitorEngine

end ChannelAccess
