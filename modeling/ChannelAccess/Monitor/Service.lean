/-!
# Delivery of updates

What the engines that deliver the updates of a subscription have in common: the updates themselves,
and what an engine promises.
-/

namespace ChannelAccess

/-- What a consumer is given. -/
inductive Update (α : Type) where
  /-- A value. -/
  | value (content : α)
  /-- A mark that there is no value. -/
  | noValue
  deriving DecidableEq, Repr

/-- The storage of an update that a later value can be decoded into. -/
def Update.storage? {α : Type} : Update α → Option α
  | .value content => some content
  | .noValue => none

/-- What an engine promises its consumers. -/
structure QualityOfService where
  /-- Updates wait while another is being delivered. -/
  isBuffered : Bool := true
  /-- Updates held for a consumer at most, if there is a limit. -/
  bufferSize : Option Nat
  /-- Threads that may deliver to a consumer, one at a time. -/
  threadsPerConsumer : Nat
  /-- A mark that there is no value can be published. -/
  allowsNull : Bool
  deriving DecidableEq, Repr

end ChannelAccess
