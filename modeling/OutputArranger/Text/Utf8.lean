/-!
# Text from bytes

Bytes are read as UTF-8. Where they are none, the longest beginning of a character that is there
counts as one unknown character, and reading goes on behind it.
-/

namespace OutputArranger.Utf8

/-- The bounds of the bytes that follow a leading byte, and the bits of the character in it. -/
def shape (lead : Nat) : Option (Nat × List (Nat × Nat)) :=
  let rest := (0x80, 0xBF)
  if lead < 0x80 then some (lead, [])
  else if 0xC2 ≤ lead ∧ lead ≤ 0xDF then some (lead - 0xC0, [rest])
  else if lead = 0xE0 then some (0, [(0xA0, 0xBF), rest])
  else if lead = 0xED then some (0xD, [(0x80, 0x9F), rest])
  else if 0xE1 ≤ lead ∧ lead ≤ 0xEF then some (lead - 0xE0, [rest, rest])
  else if lead = 0xF0 then some (0, [(0x90, 0xBF), rest, rest])
  else if 0xF1 ≤ lead ∧ lead ≤ 0xF3 then some (lead - 0xF0, [rest, rest, rest])
  else if lead = 0xF4 then some (4, [(0x80, 0x8F), rest, rest])
  else none

/-- Reads the bytes that follow, with the bits so far: the character, if it is complete, and what
comes behind. -/
def continued (bits : Nat) : List (Nat × Nat) → List UInt8 → Option Char × List UInt8
  | [], bytes => (some (Char.ofNat bits), bytes)
  | _ :: _, [] => (none, [])
  | (low, high) :: more, b :: rest =>
      if low ≤ b.toNat ∧ b.toNat ≤ high then continued (bits * 64 + (b.toNat - 0x80)) more rest
      else (none, b :: rest)

/-- One character, if there is one, and what comes behind it. -/
def next (lead : UInt8) (rest : List UInt8) : Option Char × List UInt8 :=
  match shape lead.toNat with
  | none => (none, rest)
  | some (bits, bounds) => continued bits bounds rest

/-- The characters of bytes, of which there are at most as many as bytes. -/
def piecesFrom : Nat → List UInt8 → List (Option Char)
  | 0, _ => []
  | _ + 1, [] => []
  | fuel + 1, b :: rest => (next b rest).1 :: piecesFrom fuel (next b rest).2

/-- The characters of bytes, none standing for bytes that are no character. -/
def pieces (bytes : List UInt8) : List (Option Char) := piecesFrom bytes.length bytes

/-- The character that stands for what could not be read. -/
def unknown : Char := '\uFFFD'

/-- The text of bytes that may not be text. -/
def lossyText (bytes : List UInt8) : String :=
  String.ofList ((pieces bytes).map (·.getD unknown))

end OutputArranger.Utf8
