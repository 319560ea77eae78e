import ChannelAccess.Transport.Error

/-!
# Sending on a circuit

Messages are added to a buffer by one user of the circuit at a time, who then sends them, keeps them
for later or takes them back. `SendBuffer.writeOut` writes the buffer to the socket, in chunks, as
far as the socket takes it.
-/

namespace ChannelAccess

/-- What a socket does when it is written to. -/
inductive WriteOutcome where
  /-- It takes some bytes, as many as there are at most. -/
  | wrote (count : Nat)
  /-- It takes nothing for now. -/
  | wouldBlock
  /-- It was interrupted before it took anything. -/
  | interrupted
  /-- It fails. -/
  | failed (failure : SocketFailure)
  deriving DecidableEq, Repr

/-- What comes of writing a buffer out. -/
structure WriteReport where
  /-- The bytes that the socket took. -/
  sent : List UInt8
  /-- The buffer afterwards. -/
  buffer : List UInt8
  /-- Why not all of it was written. -/
  error : Option TransportError := none
  /-- What the socket does next time. -/
  later : List WriteOutcome := []
  deriving DecidableEq, Repr

/-- What a user of the send buffer does with what was added. -/
inductive SendEnd where
  /-- It is sent, with all that was kept before. -/
  | flush
  /-- It is kept for later. -/
  | commit
  /-- It is taken back. -/
  | discard
  deriving DecidableEq, Repr

namespace SendBuffer

/-- Bytes that are offered to the socket at once. -/
def chunkSize : Nat := 64 * 1024

/-- How often in a row a socket may take nothing. -/
def maxRetries : Nat := 8

/-- Writes a buffer out, of which some bytes were written already. What the socket does is given;
past that it takes everything. Of a buffer that cannot be written for now the bytes not yet written
stay, and one that failed is left as it is. -/
def writeFrom (buffer : List UInt8) (written retries : Nat) : List WriteOutcome → WriteReport
  | [] => { sent := buffer, buffer := [] }
  | outcome :: later =>
    if buffer.length ≤ written then { sent := buffer, buffer := [], later := outcome :: later }
    else
      let sent := buffer.take written
      match outcome with
      | .wrote count =>
        let count := min count (min chunkSize (buffer.length - written))
        -- A socket that takes nothing at all has no peer any more.
        if count = 0 then { sent, buffer, error := some .peerDisconnected, later }
        else writeFrom buffer (written + count) 0 later
      | .wouldBlock =>
        if maxRetries < retries + 1 then
          let buffer := buffer.drop written
          { sent, buffer, error := some (.sendBufferFull buffer.length), later }
        else writeFrom buffer written (retries + 1) later
      | .interrupted => writeFrom buffer written retries later
      | .failed failure => { sent, buffer, error := some (.socket failure), later }

/-- Writes a buffer out. -/
def writeOut (buffer : List UInt8) (outcomes : List WriteOutcome) : WriteReport :=
  writeFrom buffer 0 0 outcomes

end SendBuffer

end ChannelAccess
