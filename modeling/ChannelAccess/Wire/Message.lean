import ChannelAccess.Wire.Header
import ChannelAccess.Text.Terminated

/-!
# Messages

A message is a header's values together with a payload. Writing pads the payload with zeros to a
multiple of eight bytes and declares the padded length; reading takes the declared payload as it is.
-/

namespace ChannelAccess

/-- Why bytes are not the message asked for. Each cause carries the number of bytes from where it
was found to the end of the input. -/
inductive ReadError where
  /-- Bytes are missing, or left over where none may be. -/
  | endOfInput (remaining : Nat)
  /-- A whole message stands there, but of another command. -/
  | wrongCommand (remaining : Nat)
  deriving DecidableEq, Repr

/-- The values of a header together with a payload. -/
structure Message where
  /-- What kind of message this is. -/
  command : UInt16 := 0
  /-- Type of the elements in the payload, or another 16-bit value, by command. -/
  dataType : UInt16 := 0
  /-- Number of elements in the payload, or another value, by command. -/
  dataCount : UInt32 := 0
  /-- First parameter, by command. -/
  parameter1 : UInt32 := 0
  /-- Second parameter, by command. -/
  parameter2 : UInt32 := 0
  /-- The payload, without padding when the message is to be written. -/
  payload : List UInt8 := []
  deriving DecidableEq, Repr, Inhabited

namespace Message

/-- The header under which the message is written: it declares the padded payload. -/
def header (message : Message) : Header where
  command := message.command
  payloadSize := UInt32.ofNat (Terminated.pad message.payload).length
  dataType := message.dataType
  dataCount := message.dataCount
  parameter1 := message.parameter1
  parameter2 := message.parameter2

/-- The message on the wire. -/
def toBytes (message : Message) : List UInt8 :=
  message.header.toBytes ++ Terminated.pad message.payload

/-- The message that a header and its payload make. -/
def ofFrame (header : Header) (payload : List UInt8) : Message where
  command := header.command
  dataType := header.dataType
  dataCount := header.dataCount
  parameter1 := header.parameter1
  parameter2 := header.parameter2
  payload := payload

/-- The message at the front of the bytes, and what follows it. An incomplete header is reported
where the message starts, a payload that is too short after the header. -/
def parse (bytes : List UInt8) : Except ReadError (Message × List UInt8) :=
  match Header.parse? bytes with
  | none => .error (.endOfInput bytes.length)
  | some (header, rest) =>
    if header.payloadSize.toNat ≤ rest.length then
      .ok (ofFrame header (rest.take header.payloadSize.toNat),
        rest.drop header.payloadSize.toNat)
    else .error (.endOfInput rest.length)

/-- The message at the front of the bytes if it has the given command. The whole message is read
before its command is compared. -/
def parseOf (command : UInt16) (bytes : List UInt8) : Except ReadError (Message × List UInt8) := do
  let (message, rest) ← parse bytes
  if message.command = command then
    .ok (message, rest)
  else
    .error (.wrongCommand bytes.length)

end Message

end ChannelAccess
