/-!
# Bytes as text

Values of a log are bytes; people read them as UTF-8.

* `Text.encode` — the UTF-8 bytes of a string.
* `Text.decodeLossy` — bytes as text, where every maximal part of a broken sequence reads as one
  U+FFFD.
* `Text.decodeLoose` — bytes as the characters a pattern is matched against: a lead byte takes all
  continuation bytes that follow, and a continuation byte with no lead stands for itself.
-/

namespace RevisionLog

/-- A byte string. -/
abbrev Bytes := List UInt8

namespace Text

/-- The UTF-8 bytes of `s`. -/
def encode (s : String) : Bytes := s.toUTF8.toList

/-- The character that stands for what cannot be read. -/
def replacement : Char := '\ufffd'

/-- A continuation byte of UTF-8. -/
def isContinuation (b : UInt8) : Bool := 0x80 ≤ b && b ≤ 0xbf

/-- How many continuation bytes follow a lead byte, and the range of the first of them; `none` for
a byte that leads no sequence. -/
def leadOf (b : UInt8) : Option (Nat × UInt8 × UInt8) :=
  if 0xc2 ≤ b && b ≤ 0xdf then some (1, 0x80, 0xbf)
  else if b == 0xe0 then some (2, 0xa0, 0xbf)
  else if b == 0xed then some (2, 0x80, 0x9f)
  else if 0xe1 ≤ b && b ≤ 0xef then some (2, 0x80, 0xbf)
  else if b == 0xf0 then some (3, 0x90, 0xbf)
  else if 0xf1 ≤ b && b ≤ 0xf3 then some (3, 0x80, 0xbf)
  else if b == 0xf4 then some (3, 0x80, 0x8f)
  else none

/-- The bits that a lead byte with `n` continuation bytes adds to the code point. -/
def leadBits (b : UInt8) (n : Nat) : Nat := b.toNat % Nat.pow 2 (6 - n)

/-- A decoder's place between two bytes. -/
inductive Utf8State
  /-- Between characters. -/
  | start
  /-- Inside a sequence: continuation bytes still missing, the code point so far, and the range of
  the next byte. -/
  | inside (missing code : Nat) (lo hi : UInt8)

/-- One byte read between characters. -/
def Utf8State.lead (b : UInt8) : List Char × Utf8State :=
  if b < 0x80 then ([Char.ofNat b.toNat], .start)
  else
    match leadOf b with
    | some (n, lo, hi) => ([], .inside n (leadBits b n) lo hi)
    | none => ([replacement], .start)

/-- One byte read: the characters it completes and the place after it. A byte that does not fit
ends the broken sequence before it and is read anew. -/
def Utf8State.step : Utf8State → UInt8 → List Char × Utf8State
  | .start, b => lead b
  | .inside missing code lo hi, b =>
    if lo ≤ b && b ≤ hi then
      let code := code * 64 + b.toNat % 64
      if missing ≤ 1 then ([Char.ofNat code], .start)
      else ([], .inside (missing - 1) code 0x80 0xbf)
    else
      let (cs, s) := lead b
      (replacement :: cs, s)

/-- The rest of a decoding. -/
def Utf8State.run : Utf8State → Bytes → List Char
  | .start, [] => []
  | .inside .., [] => [replacement]
  | s, b :: bs => let (cs, s') := s.step b; cs ++ s'.run bs

/-- Bytes as text; what is not UTF-8 reads as U+FFFD. -/
def decodeLossy (bs : Bytes) : String := String.ofList (Utf8State.run .start bs)

/-- The code point that a sequence stands for in a loose reading: surrogates, what is too small for
its form, U+FFFE and U+FFFF read as U+FFFD. Code points beyond the last character are kept. -/
def looseCode (code : Nat) : Nat :=
  if code < 0x80 || (0xd800 ≤ code && code < 0xe000) || code == 0xfffe || code == 0xffff then
    replacement.toNat
  else code

/-- The bits of a lead byte in a loose reading. -/
def looseBits (b : UInt8) : Nat :=
  if b < 0xe0 then b.toNat % 32 else if b < 0xf0 then b.toNat % 16
  else if b < 0xf8 then b.toNat % 8 else if b < 0xfc then b.toNat % 4
  else if b < 0xfe then b.toNat % 2 else 0

/-- The rest of a loose reading, inside a sequence with the given code point or between two. A
sequence takes all continuation bytes that follow, and keeps 32 bits of them. -/
def looseFrom : Option Nat → Bytes → List Nat
  | none, [] => []
  | some code, [] => [looseCode code]
  | none, b :: bs =>
    if b < 0xc0 then b.toNat :: looseFrom none bs else looseFrom (some (looseBits b)) bs
  | some code, b :: bs =>
    if isContinuation b then looseFrom (some ((code * 64 + b.toNat % 64) % 4294967296)) bs
    else if b < 0xc0 then looseCode code :: b.toNat :: looseFrom none bs
    else looseCode code :: looseFrom (some (looseBits b)) bs

/-- Bytes as the code points that a pattern sees. -/
def decodeLoose (bs : Bytes) : List Nat := looseFrom none bs

end Text

end RevisionLog
