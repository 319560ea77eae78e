import ChannelAccess.Wire.Request

/-!
# Search datagrams

A search datagram is a protocol version followed by any number of searches and nothing else.
`SearchPacket.toBytes` writes one, `SearchPacket.parse` reads the searches of one.
-/

namespace ChannelAccess

/-- Reading a message takes at least a standard header. -/
theorem Message.length_of_parse {bytes rest : List UInt8} {message : Message}
    (h : Message.parse bytes = .ok (message, rest)) :
    standardHeaderLength + rest.length ≤ bytes.length := by
  unfold Message.parse at h
  split at h
  · contradiction
  · rename_i header tail parsed
    have total := Header.length_of_parse? parsed
    have short : standardHeaderLength ≤ header.encodedLength := by
      unfold Header.encodedLength
      split <;> simp [standardHeaderLength, extendedHeaderLength]
    split at h
    · simp only [Except.ok.injEq, Prod.mk.injEq] at h
      obtain ⟨-, rfl⟩ := h
      simp only [List.length_drop]
      omega
    · contradiction

/-- Reading a message of a given command takes at least a standard header. -/
theorem Message.length_of_parseOf {command : UInt16} {bytes rest : List UInt8} {message : Message}
    (h : Message.parseOf command bytes = .ok (message, rest)) :
    standardHeaderLength + rest.length ≤ bytes.length := by
  unfold Message.parseOf at h
  cases parsed : Message.parse bytes with
  | error e => simp [parsed, bind, Except.bind] at h
  | ok result =>
    simp only [parsed, bind, Except.bind] at h
    split at h
    · simp only [Except.ok.injEq, Prod.mk.injEq] at h
      obtain ⟨rfl, rfl⟩ := h
      exact Message.length_of_parse parsed
    · contradiction

/-- Reading a search takes at least a standard header. -/
theorem SearchRequest.length_of_parse {bytes rest : List UInt8} {search : SearchRequest}
    (h : SearchRequest.parse bytes = .ok (search, rest)) :
    standardHeaderLength + rest.length ≤ bytes.length := by
  unfold SearchRequest.parse at h
  cases parsed : Message.parseOf Command.search bytes with
  | error e => simp [parsed, bind, Except.bind] at h
  | ok result =>
    simp only [parsed, bind, Except.bind, Except.ok.injEq, Prod.mk.injEq] at h
    obtain ⟨-, rfl⟩ := h
    exact Message.length_of_parseOf parsed

namespace SearchPacket

/-- A protocol version followed by searches, as one datagram. -/
def toBytes (version : Version) (searches : List SearchRequest) : List UInt8 :=
  (Request.version version).toBytes ++ searches.flatMap fun s => (Request.search s).toBytes

/-- The searches at the front of the bytes after those already read, kept last first, and the
bytes from the first message on that is no search. -/
def searchesOnto (read : List SearchRequest) (bytes : List UInt8) :
    List SearchRequest × List UInt8 :=
  match h : SearchRequest.parse bytes with
  | .error _ => (read.reverse, bytes)
  | .ok (search, rest) =>
    have : rest.length < bytes.length := by
      have := SearchRequest.length_of_parse h
      simp only [standardHeaderLength] at this
      omega
    searchesOnto (search :: read) rest
termination_by bytes.length

/-- The searches of a datagram. Whatever follows the last search, be it another message or a part
of one, is reported as left over. -/
def parse (bytes : List UInt8) : Except ReadError (List SearchRequest) := do
  let (_, rest) ← Version.parse bytes
  match searchesOnto [] rest with
  | (searches, []) => .ok searches
  | (_, left) => .error (.endOfInput left.length)

end SearchPacket

end ChannelAccess
