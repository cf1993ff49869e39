import BulkLoad.Bytes

/-!
The text of bytes that may not be well-formed UTF-8. Each longest run of bytes that starts a
character but does not finish it, and each byte that starts none, becomes one replacement character.
-/

namespace BulkLoad.Text

/-- What stands for bytes without meaning. -/
def replacement : Char := Char.ofNat 0xFFFD

/-- The bytes that may follow the first byte of a character: their count, and the bounds of the
first of them. -/
structure Lead where
  following : Nat
  low : Nat
  high : Nat

/-- What the first byte of a character calls for; none for a byte that starts no character. -/
def lead? (b : Nat) : Option Lead :=
  if 0xC2 ≤ b ∧ b ≤ 0xDF then some ⟨1, 0x80, 0xBF⟩
  else if b = 0xE0 then some ⟨2, 0xA0, 0xBF⟩
  else if b = 0xED then some ⟨2, 0x80, 0x9F⟩
  else if 0xE1 ≤ b ∧ b ≤ 0xEF then some ⟨2, 0x80, 0xBF⟩
  else if b = 0xF0 then some ⟨3, 0x90, 0xBF⟩
  else if 0xF1 ≤ b ∧ b ≤ 0xF3 then some ⟨3, 0x80, 0xBF⟩
  else if b = 0xF4 then some ⟨3, 0x80, 0x8F⟩
  else none

/-- A character that has been begun: its bits so far, how many bytes are missing, and the bounds of
the next one. -/
structure Begun where
  bits : Nat
  missing : Nat
  low : Nat
  high : Nat

/-- Takes a byte where a character may begin. -/
def beginWith (out : List Char) (b : Nat) : List Char × Option Begun :=
  if b < 0x80 then (Char.ofNat b :: out, none)
  else match lead? b with
    | some l =>
      (out, some ⟨b % 2 ^ (6 - l.following), l.following, l.low, l.high⟩)
    | none => (replacement :: out, none)

/-- Takes one byte; the text so far is kept backwards. -/
def takeByte (state : List Char × Option Begun) (byte : UInt8) : List Char × Option Begun :=
  let b := byte.toNat
  match state with
  | (out, none) => beginWith out b
  | (out, some begun) =>
    if begun.low ≤ b ∧ b ≤ begun.high then
      let bits := begun.bits * 64 + b % 64
      if begun.missing = 1 then (Char.ofNat bits :: out, none)
      else (out, some ⟨bits, begun.missing - 1, 0x80, 0xBF⟩)
    else beginWith (replacement :: out) b

/-- The text of bytes. -/
def lossy (bytes : Bytes) : String :=
  match bytes.foldl takeByte ([], none) with
  | (out, none) => String.ofList out.reverse
  | (out, some _) => String.ofList (replacement :: out).reverse

end BulkLoad.Text
