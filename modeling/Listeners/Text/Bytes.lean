/-
Texts as bytes, and bytes as texts.

A text is written as bytes in UTF-8, but not all bytes are those of a text.  Bytes can be
taken for a text only if they are the bytes of one; or they can be read with a replacement
for whatever is none.  A character of which only the first bytes are there is replaced as a
whole, and so is each byte that no character begins with.
-/
namespace Listeners

/-- Bytes, which may be those of a text or not. -/
abbrev Bytes := List UInt8

/-- The bytes of a text. -/
def Text.bytes (s : String) : Bytes := s.toUTF8.data.toList

namespace Bytes

/-- The text that has these bytes, if there is one. -/
def text? (bytes : Bytes) : Option String := String.fromUTF8? bytes.toByteArray

/-- The character at the front, if it is complete. -/
def first? (bytes : Bytes) : Option Char := bytes.toByteArray.utf8DecodeChar? 0

/-- How many bytes of a character follow its first one, and between which values the next of
them lies. -/
def expected (first : UInt8) : Nat × UInt8 × UInt8 :=
  if 0xC2 ≤ first && first ≤ 0xDF then (1, 0x80, 0xBF)
  else if first = 0xE0 then (2, 0xA0, 0xBF)
  else if first = 0xED then (2, 0x80, 0x9F)
  else if 0xE1 ≤ first && first ≤ 0xEF then (2, 0x80, 0xBF)
  else if first = 0xF0 then (3, 0x90, 0xBF)
  else if first = 0xF4 then (3, 0x80, 0x8F)
  else if 0xF1 ≤ first && first ≤ 0xF3 then (3, 0x80, 0xBF)
  else (0, 0x80, 0xBF)

/-- How many bytes in front go on with a character, if at most `count` do and the first of
them lies between `low` and `high`. -/
def continued : Nat → UInt8 → UInt8 → Bytes → Nat
  | count + 1, low, high, byte :: bytes =>
    if low ≤ byte && byte ≤ high then continued count 0x80 0xBF bytes + 1 else 0
  | _, _, _, _ => 0

/-- What stands for bytes that are no character. -/
def replacement : Char := '\uFFFD'

/-- The characters behind the first `skip` bytes, with replacements. -/
def lossyFrom : Nat → Bytes → List Char
  | _, [] => []
  | skip + 1, _ :: bytes => lossyFrom skip bytes
  | 0, byte :: bytes =>
    match first? (byte :: bytes) with
    | some c => c :: lossyFrom (c.utf8Size - 1) bytes
    | none =>
      let (count, low, high) := expected byte
      replacement :: lossyFrom (continued count low high bytes) bytes

/-- The bytes as a text, with replacements for what is none. -/
def lossy (bytes : Bytes) : String := String.ofList (lossyFrom 0 bytes)

example : lossy [0x61, 0xF0, 0x90, 0x80, 0x62, 0xC0, 0x80] = "a\uFFFDb\uFFFD\uFFFD" := by decide

end Bytes

end Listeners
