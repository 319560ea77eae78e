/-!
# Flow control

A peer that sends faster than its updates can be handled keeps the receive buffer full. After more
than three reads in a row that filled the buffer, it is asked to pause; the first read that leaves
room lets it go on.
-/

namespace ChannelAccess

/-- What a circuit asks of its peer about updates. -/
inductive FlowSignal where
  /-- Send none for now. -/
  | pause
  /-- Go on. -/
  | resume
  deriving DecidableEq, Repr

/-- Flow control on a circuit. -/
structure FlowControl where
  /-- Reads in a row that filled the buffer. -/
  fullReads : Nat := 0
  /-- The peer was asked to pause. -/
  asserted : Bool := false
  deriving DecidableEq, Repr

namespace FlowControl

/-- Reads in a row that may fill the buffer before the peer is asked to pause. -/
def threshold : Nat := 3

/-- Flow control after a read, and what the peer is asked because of it. -/
def afterRead (flow : FlowControl) (full : Bool) : Option FlowSignal × FlowControl :=
  if full then
    let fullReads := flow.fullReads + 1
    if threshold < fullReads && !flow.asserted then (some .pause, { fullReads, asserted := true })
    else (none, { flow with fullReads })
  else (if flow.asserted then some .resume else none, {})

/-- A read that leaves room ends the pause. -/
theorem afterRead_false (flow : FlowControl) :
    flow.afterRead false = (if flow.asserted then some .resume else none, {}) := rfl

end FlowControl

end ChannelAccess
