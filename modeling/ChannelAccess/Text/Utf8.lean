/-!
# Text as UTF-8 bytes

`encode` writes a text as UTF-8. `decode` reads any bytes as text: every longest part that begins a
character but does not finish it, and every byte that begins none, becomes one replacement
character.
-/

namespace ChannelAccess.Utf8

/-- The UTF-8 bytes of a text. -/
def encode (text : String) : List UInt8 :=
  text.toList.flatMap String.utf8EncodeChar

/-- The character that stands for bytes that are no character. -/
def replacement : Char := '\ufffd'

/-- The byte lies between two bounds, both included. -/
def within (low high byte : UInt8) : Bool := low ≤ byte && byte ≤ high

/-- The byte continues a character. -/
def isContinuation (byte : UInt8) : Bool := within 0x80 0xBF byte

/-- The byte may come second after a lead byte of three bytes: no overlong form, no surrogate. -/
def isSecondOfThree (lead byte : UInt8) : Bool :=
  if lead = 0xE0 then within 0xA0 0xBF byte
  else if lead = 0xED then within 0x80 0x9F byte
  else isContinuation byte

/-- The byte may come second after a lead byte of four bytes: no overlong form, nothing above the
last code point. -/
def isSecondOfFour (lead byte : UInt8) : Bool :=
  if lead = 0xF0 then within 0x90 0xBF byte
  else if lead = 0xF4 then within 0x80 0x8F byte
  else isContinuation byte

/-- The code point whose lead byte holds `lead` after `bits` bits for each following byte. -/
def codePoint (lead : Nat) (continuations : List UInt8) : Char :=
  Char.ofNat (continuations.foldl (fun value byte => value * 64 + byte.toNat % 64) lead)

/-- The character at the front of `lead :: rest` and what follows it, or the replacement character
and what follows the longest part that could have begun a character. -/
def decodeFirst (lead : UInt8) (rest : List UInt8) : Char × List UInt8 :=
  if lead < 0x80 then (codePoint lead.toNat [], rest)
  -- A continuation byte, or the lead byte of an overlong form.
  else if lead < 0xC2 then (replacement, rest)
  else if lead < 0xE0 then
    match rest with
    | b :: rest₁ =>
      if isContinuation b then (codePoint (lead.toNat % 32) [b], rest₁) else (replacement, rest)
    | [] => (replacement, [])
  else if lead < 0xF0 then
    match rest with
    | b :: rest₁ =>
      if isSecondOfThree lead b then
        match rest₁ with
        | c :: rest₂ =>
          if isContinuation c then (codePoint (lead.toNat % 16) [b, c], rest₂)
          else (replacement, rest₁)
        | [] => (replacement, [])
      else (replacement, rest)
    | [] => (replacement, [])
  else if lead < 0xF5 then
    match rest with
    | b :: rest₁ =>
      if isSecondOfFour lead b then
        match rest₁ with
        | c :: rest₂ =>
          if isContinuation c then
            match rest₂ with
            | d :: rest₃ =>
              if isContinuation d then (codePoint (lead.toNat % 8) [b, c, d], rest₃)
              else (replacement, rest₂)
            | [] => (replacement, [])
          else (replacement, rest₁)
        | [] => (replacement, [])
      else (replacement, rest)
    | [] => (replacement, [])
  -- No character is that large.
  else (replacement, rest)

/-- Decoding a character leaves no more than what came after its lead byte. -/
theorem length_decodeFirst_le (lead : UInt8) (rest : List UInt8) :
    (decodeFirst lead rest).2.length ≤ rest.length := by
  unfold decodeFirst
  repeat' split
  all_goals simp_all <;> omega

/-- Decodes bytes onto the characters already decoded, kept last first. -/
def decodeOnto (decoded : List Char) : List UInt8 → List Char
  | [] => decoded
  | lead :: rest =>
    have := length_decodeFirst_le lead rest
    decodeOnto ((decodeFirst lead rest).1 :: decoded) (decodeFirst lead rest).2
termination_by bytes => bytes.length

/-- The text that bytes hold, with a replacement character for each part that is no UTF-8. -/
def decode (bytes : List UInt8) : String :=
  String.ofList (decodeOnto [] bytes).reverse

end ChannelAccess.Utf8
