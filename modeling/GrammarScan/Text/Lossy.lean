/-!
# Reading bytes with replacement

Bytes that may not be UTF-8 are read by replacing each maximal start of a character that does not
go on as one, and each byte that starts none, by the replacement character U+FFFD.
-/

namespace GrammarScan

/-- The replacement character. -/
def replacementCharacter : Char := Char.ofNat 0xFFFD

/-- Whether a byte continues a character. -/
def isContinuation (b : UInt8) : Bool := 0x80 ≤ b && b < 0xC0

/-- How many bytes a lead byte announces after it; none if it leads no character. -/
def continuationCount (lead : UInt8) : Nat :=
  if 0xC2 ≤ lead && lead < 0xE0 then 1
  else if 0xE0 ≤ lead && lead < 0xF0 then 2
  else if 0xF0 ≤ lead && lead < 0xF5 then 3
  else 0

/-- Whether a byte may come second. After four lead bytes part of the continuation bytes would
give an overlong form, a surrogate or a code point past the last. -/
def isSecond (lead second : UInt8) : Bool :=
  if lead = 0xE0 then 0xA0 ≤ second && second < 0xC0
  else if lead = 0xED then 0x80 ≤ second && second < 0xA0
  else if lead = 0xF0 then 0x90 ≤ second && second < 0xC0
  else if lead = 0xF4 then 0x80 ≤ second && second < 0x90
  else isContinuation second

/-- The payload of a continuation byte below the bits already read. -/
def withContinuation (code : Nat) (b : UInt8) : Nat := code * 0x40 + b.toNat % 0x40

/-- Reads bytes as UTF-8 with replacement. -/
def decodeLossy : List UInt8 → List Char
  | [] => []
  | lead :: rest =>
    if lead < 0x80 then Char.ofNat lead.toNat :: decodeLossy rest
    else
      match continuationCount lead, rest with
      | 0, rest => replacementCharacter :: decodeLossy rest
      | _ + 1, [] => [replacementCharacter]
      | count + 1, second :: rest₁ =>
        if isSecond lead second then
          match count, rest₁ with
          | 0, rest₁ =>
            Char.ofNat (withContinuation (lead.toNat % 0x20) second) :: decodeLossy rest₁
          | _ + 1, [] => [replacementCharacter]
          | count + 1, third :: rest₂ =>
            if isContinuation third then
              match count, rest₂ with
              | 0, rest₂ =>
                Char.ofNat (withContinuation (withContinuation (lead.toNat % 0x10) second) third) ::
                  decodeLossy rest₂
              | _ + 1, [] => [replacementCharacter]
              | _ + 1, fourth :: rest₃ =>
                if isContinuation fourth then
                  Char.ofNat (withContinuation (withContinuation
                    (withContinuation (lead.toNat % 0x08) second) third) fourth) ::
                    decodeLossy rest₃
                else replacementCharacter :: decodeLossy (fourth :: rest₃)
            else replacementCharacter :: decodeLossy (third :: rest₂)
        else replacementCharacter :: decodeLossy (second :: rest₁)

end GrammarScan
