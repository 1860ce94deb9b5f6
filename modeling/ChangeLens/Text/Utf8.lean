/-!
# `ChangeLens.Text.Utf8`: octets and characters

Syntax trees locate their nodes by octet offsets into the UTF-8 encoding of a text. `encode` gives
those octets. `decode` reads any octets: each maximal piece that is the start of a well-formed
sequence but does not complete one becomes a single replacement character, so that a cut through
the middle of a character still gives a text. `decodeStrict?` refuses such octets instead.
-/

set_option autoImplicit false

namespace ChangeLens.Text.Utf8

/-- The octets of a text. -/
def encode (cs : List Char) : List UInt8 :=
  cs.flatMap String.utf8EncodeChar

/-- What the first octet of a longer sequence promises. -/
structure Lead where
  /-- The number of octets that follow. -/
  tails : Nat
  /-- The least octet that may follow directly. -/
  low : Nat
  /-- The greatest octet that may follow directly. -/
  high : Nat
  /-- The bits of the character that the first octet carries. -/
  bits : Nat

/-- The promise of a first octet beyond ASCII, if it can start a sequence at all. The windows keep
out overlong forms, surrogates and everything beyond U+10FFFF. -/
def lead? (octet : Nat) : Option Lead :=
  if 0xc2 ≤ octet && octet ≤ 0xdf then some ⟨1, 0x80, 0xbf, octet - 0xc0⟩
  else if octet == 0xe0 then some ⟨2, 0xa0, 0xbf, 0⟩
  else if octet == 0xed then some ⟨2, 0x80, 0x9f, 0xd⟩
  else if 0xe1 ≤ octet && octet ≤ 0xef then some ⟨2, 0x80, 0xbf, octet - 0xe0⟩
  else if octet == 0xf0 then some ⟨3, 0x90, 0xbf, 0⟩
  else if 0xf1 ≤ octet && octet ≤ 0xf3 then some ⟨3, 0x80, 0xbf, octet - 0xf0⟩
  else if octet == 0xf4 then some ⟨3, 0x80, 0x8f, 4⟩
  else none

/-- Reads at most `wanted` following octets, the first of them within `low` and `high`. Answers how
many fit and the bits gathered. -/
def readTails (low high bits : Nat) : Nat → List UInt8 → Nat × Nat
  | wanted + 1, octet :: rest =>
    if low ≤ octet.toNat && octet.toNat ≤ high then
      let (count, all) := readTails 0x80 0xbf (64 * bits + (octet.toNat - 0x80)) wanted rest
      (count + 1, all)
    else (0, bits)
  | _, _ => (0, bits)

/-- The character at the start of `octet :: rest`, with the number of octets of `rest` that belong
to it. `none` stands for octets that encode no character. -/
def readChar (octet : UInt8) (rest : List UInt8) : Option Char × Nat :=
  if octet.toNat < 0x80 then (some (Char.ofNat octet.toNat), 0)
  else
    match lead? octet.toNat with
    | none => (none, 0)
    | some lead =>
      let (count, bits) := readTails lead.low lead.high lead.bits lead.tails rest
      (if count = lead.tails then some (Char.ofNat bits) else none, count)

/-- The characters of some octets, `none` for a piece that encodes none; the first `skip` octets
belong to a character already read. -/
def readFrom (skip : Nat) : List UInt8 → List (Option Char)
  | [] => []
  | octet :: rest =>
    match skip with
    | skip + 1 => readFrom skip rest
    | 0 =>
      let (char, taken) := readChar octet rest
      char :: readFrom taken rest

/-- The text of some octets, with U+FFFD for every piece that encodes no character. -/
def decode (octets : List UInt8) : List Char :=
  (readFrom 0 octets).map (·.getD (Char.ofNat 0xfffd))

/-- The text of some octets, if they are well-formed. -/
def decodeStrict? (octets : List UInt8) : Option (List Char) :=
  (readFrom 0 octets).mapM id

end ChangeLens.Text.Utf8
