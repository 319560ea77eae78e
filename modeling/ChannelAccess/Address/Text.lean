import ChannelAccess.Address.Basic
import ChannelAccess.Number.Natural
import ChannelAccess.Text.Fields

/-!
# Addresses in text

An address of 32 bits is four decimal numbers with dots between them. An address of 128 bits is
eight hexadecimal groups with colons between them; two colons in a row stand for the longest run of
at least two zero groups, and the last two groups may be written as an address of 32 bits. A port
follows after a colon, with brackets around an address of 128 bits. Its zone, unless it is zero,
follows after a percent sign.
-/

namespace ChannelAccess

namespace IPAddress

/-- A decimal number up to 255 without leading zeros. -/
def readOctet? (chars : List Char) : Option Nat :=
  if chars.all Char.isDigit ∧ (chars.length = 1 ∨ (2 ≤ chars.length ∧ chars.length ≤ 3 ∧
      chars.head? ≠ some '0')) ∧ Natural.ofDigits chars < 256 then
    some (Natural.ofDigits chars)
  else none

/-- The number of an address of four octets. -/
def readV4Number? (chars : List Char) : Option Nat := do
  match ← (Fields.splitAll (· == '.') chars).mapM readOctet? with
  | [a, b, c, d] => some (((a * 256 + b) * 256 + c) * 256 + d)
  | _ => none

/-- The value of a hexadecimal digit. -/
def hexDigit? (c : Char) : Option Nat :=
  if c.isDigit then some (c.toNat - '0'.toNat)
  else if 'a' ≤ c.toLower ∧ c.toLower ≤ 'f' then some (c.toLower.toNat - 'a'.toNat + 10)
  else none

/-- A group of one to four hexadecimal digits. -/
def readGroup? (chars : List Char) : Option Nat :=
  if chars = [] ∨ 4 < chars.length then none
  else do
    let digits ← chars.mapM hexDigit?
    some (digits.foldl (fun value digit => value * 16 + digit) 0)

/-- Groups of which the last may be an address of four octets, which makes two groups. -/
def readGroups? : List (List Char) → Option (List Nat)
  | [] => some []
  | [last] =>
    match readV4Number? last with
    | some number => some [number / 65536, number % 65536]
    | none => (readGroup? last).map fun group => [group]
  | first :: rest => do
    let group ← readGroup? first
    let groups ← readGroups? rest
    some (group :: groups)

/-- The groups of a part of an address, none for an empty part. -/
def readPart? (chars : List Char) : Option (List Nat) :=
  if chars = [] then some [] else readGroups? (Fields.splitAll (· == ':') chars)

/-- What stands before and after the first two colons in a row. -/
def splitDoubleColon? : List Char → Option (List Char × List Char)
  | ':' :: ':' :: rest => some ([], rest)
  | c :: rest => (splitDoubleColon? rest).map fun (before, after) => (c :: before, after)
  | [] => none

/-- The bits that eight groups make. -/
def ofGroups (groups : List Nat) : BitVec 128 :=
  BitVec.ofNat 128 (groups.foldl (fun value group => value * 65536 + group) 0)

/-- The bits of an address of 128 bits without a zone. -/
def readV6Bits? (chars : List Char) : Option (BitVec 128) := do
  match splitDoubleColon? chars with
  | none =>
    let groups ← readPart? chars
    if groups.length = 8 then some (ofGroups groups) else none
  | some (before, after) =>
    -- Only the last groups may be written as an address of 32 bits.
    if '.' ∈ before then none
    else
      let head ← readPart? before
      let tail ← readPart? after
      -- The two colons stand for at least one group.
      if head.length + tail.length < 8 then
        some (ofGroups (head ++ List.replicate (8 - head.length - tail.length) 0 ++ tail))
      else none

/-- An address of either kind without a zone. -/
def read? (chars : List Char) : Option IPAddress :=
  match readV4Number? chars with
  | some number => some (.v4 (UInt32.ofNat number))
  | none => (readV6Bits? chars).map IPAddress.v6

/-- An address of 32 bits as four decimal numbers. -/
def v4Text (bits : UInt32) : String :=
  let number := bits.toNat
  s!"{number / 16777216}.{number / 65536 % 256}.{number / 256 % 256}.{number % 256}"

/-- The eight groups of an address of 128 bits. -/
def groups (bits : BitVec 128) : List Nat :=
  (List.range 8).map fun i => (bits.toNat >>> (16 * (7 - i))) % 65536

/-- Start and length of the first longest run of zeros. The run up to here has the given start and
length, and so has the best run before it. -/
def longestZeros (position start length bestStart bestLength : Nat) : List Nat → Nat × Nat
  | [] => if bestLength < length then (start, length) else (bestStart, bestLength)
  | group :: rest =>
    if group = 0 then
      longestZeros (position + 1) (if length = 0 then position else start) (length + 1)
        bestStart bestLength rest
    else if bestLength < length then longestZeros (position + 1) 0 0 start length rest
    else longestZeros (position + 1) 0 0 bestStart bestLength rest

/-- Groups as hexadecimal numbers with colons between them. -/
def groupsText (groups : List Nat) : String :=
  String.intercalate ":" (groups.map fun group => String.ofList (Nat.toDigits 16 group))

/-- An address of 128 bits in text. -/
def v6Text (bits : BitVec 128) : String :=
  let all := groups bits
  -- An address of 32 bits that is carried in one of 128 bits.
  if all.take 6 = [0, 0, 0, 0, 0, 0xFFFF] then
    "::ffff:" ++ v4Text (UInt32.ofNat bits.toNat)
  else
    match longestZeros 0 0 0 0 0 all with
    | (start, length) =>
      if 1 < length then
        groupsText (all.take start) ++ "::" ++ groupsText (all.drop (start + length))
      else groupsText all

/-- An address in text. -/
def toText : IPAddress → String
  | .v4 bits => v4Text bits
  | .v6 bits zone => if zone = 0 then v6Text bits else s!"{v6Text bits}%{zone.toNat}"

end IPAddress

namespace SocketAddress

/-- What stands before and after the last occurrence of a character. -/
def splitLast? (mark : Char) (chars : List Char) : Option (List Char × List Char) :=
  if mark ∈ chars then
    some (((chars.reverse.dropWhile (· != mark)).drop 1).reverse,
      (chars.reverse.takeWhile (· != mark)).reverse)
  else none

/-- An address of 128 bits with or without its zone. -/
def readZoned? (chars : List Char) : Option IPAddress :=
  match splitLast? '%' chars with
  | none => (IPAddress.readV6Bits? chars).map IPAddress.v6
  | some (host, zone) => do
    let bits ← IPAddress.readV6Bits? host
    let zone ← Natural.readDigits? Natural.bound32 zone
    some (.v6 bits (UInt32.ofNat zone))

/-- An address of 128 bits in its brackets. -/
def readBracketed? (chars : List Char) : Option IPAddress :=
  match chars with
  | '[' :: rest => if rest.getLast? = some ']' then readZoned? rest.dropLast else none
  | _ => none

/-- An address with its port in text. -/
def read? (chars : List Char) : Option SocketAddress := do
  let (host, port) ← splitLast? ':' chars
  let port ← Natural.readDigits? Natural.bound16 port
  match IPAddress.readV4Number? host with
  | some number => some ⟨.v4 (UInt32.ofNat number), UInt16.ofNat port⟩
  | none => (readBracketed? host).map fun ip => ⟨ip, UInt16.ofNat port⟩

/-- An address with its port in text. -/
def toText (address : SocketAddress) : String :=
  if address.ip.isV4 then s!"{address.ip.toText}:{address.port.toNat}"
  else s!"[{address.ip.toText}]:{address.port.toNat}"

end SocketAddress

end ChannelAccess
