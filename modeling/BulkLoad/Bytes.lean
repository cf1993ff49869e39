/-!
Byte strings: the bytes of a text, the text of bytes that are well-formed UTF-8, hexadecimal
notation, and big-endian words.
-/

namespace BulkLoad

/-- Powers are those of the core library, also where other instances are at hand. -/
@[default_instance 20000]
instance (priority := 2000) powerOfNat {α : Type} [NatPow α] : Pow α Nat := instPowNat

abbrev Bytes := List UInt8

namespace Bytes

def ofText (s : String) : Bytes := s.toByteArray.data.toList

/-- The text that the bytes encode, if they are well-formed UTF-8. -/
def toText? (b : Bytes) : Option String := String.fromUTF8? ⟨b.toArray⟩

def lengthOfText (s : String) : Nat := s.utf8ByteSize

/-- One hexadecimal digit, in lower case. -/
def hexDigit (n : Nat) : Char :=
  if n < 10 then Char.ofNat (0x30 + n) else Char.ofNat (0x57 + n)

/-- Hexadecimal notation, two lower-case digits a byte. -/
def toHex (b : Bytes) : String :=
  String.ofList (b.flatMap fun x => [hexDigit (x.toNat / 16), hexDigit (x.toNat % 16)])

def hexValue? (c : Char) : Option Nat :=
  if '0' ≤ c ∧ c ≤ '9' then some (c.toNat - 0x30)
  else if 'a' ≤ c ∧ c ≤ 'f' then some (c.toNat - 0x57)
  else if 'A' ≤ c ∧ c ≤ 'F' then some (c.toNat - 0x37)
  else none

/-- Adds one hexadecimal digit to a number. -/
def hexStep (n : Option Nat) (c : Char) : Option Nat := do
  let n ← n
  let d ← hexValue? c
  pure (n * 16 + d)

/-- The number a hexadecimal text denotes. -/
def hexNat? (cs : List Char) : Option Nat :=
  if cs.isEmpty then none else cs.foldl hexStep (some 0)

/-- Reads pairs of hexadecimal digits onto bytes already read, last first. -/
def ofHexOnto : Bytes → List Char → Option Bytes
  | acc, [] => some acc.reverse
  | _, [_] => none
  | acc, a :: b :: rest =>
    match hexValue? a, hexValue? b with
    | some x, some y => ofHexOnto (UInt8.ofNat (16 * x + y) :: acc) rest
    | _, _ => none

/-- The bytes that hexadecimal notation denotes. -/
def ofHex? (s : String) : Option Bytes := ofHexOnto [] s.toList

/-- The `width` low bytes of a number, highest first. -/
def bigEndian (width : Nat) (n : Nat) : Bytes :=
  match width with
  | 0 => []
  | w + 1 => UInt8.ofNat (n / 256 ^ w) :: bigEndian w n

/-- The number that bytes denote, highest first. -/
def toNat (b : Bytes) : Nat := b.foldl (fun n x => n * 256 + x.toNat) 0

/-- The bytes `n` times over. -/
def times (n : Nat) (b : Bytes) : Bytes := (List.replicate n b).flatten

@[simp] theorem bigEndian_length (width n : Nat) : (bigEndian width n).length = width := by
  induction width with
  | zero => rfl
  | succ w ih => simp [bigEndian, ih]

/-- Bytes read onto a number shift it to the left. -/
theorem foldl_toNat (n : Nat) (b : Bytes) :
    b.foldl (fun n x => n * 256 + x.toNat) n = n * 256 ^ b.length + toNat b := by
  induction b generalizing n with
  | nil => simp [toNat]
  | cons x b ih =>
    simp only [toNat, List.foldl_cons, List.length_cons, Nat.zero_mul, Nat.zero_add]
    rw [ih, ih x.toNat, Nat.pow_succ, Nat.add_mul, Nat.add_assoc, Nat.mul_assoc, Nat.mul_comm 256]

theorem toNat_cons (x : UInt8) (b : Bytes) :
    toNat (x :: b) = x.toNat * 256 ^ b.length + toNat b := by
  simp only [toNat, List.foldl_cons, Nat.zero_mul, Nat.zero_add]
  exact foldl_toNat _ b

/-- A number that fits reads back; a larger one loses its high bytes. -/
theorem toNat_bigEndian (width n : Nat) : toNat (bigEndian width n) = n % 256 ^ width := by
  induction width with
  | zero => simp [bigEndian, toNat, Nat.mod_one]
  | succ w ih =>
    rw [bigEndian, toNat_cons, ih, bigEndian_length, Nat.pow_succ, Nat.mod_mul, Nat.mul_comm,
      Nat.add_comm]
    simp

theorem toNat_lt (b : Bytes) : toNat b < 256 ^ b.length := by
  induction b with
  | nil => simp [toNat]
  | cons x b ih =>
    have hx : x.toNat * 256 ^ b.length ≤ 255 * 256 ^ b.length :=
      Nat.mul_le_mul_right _ (by have := x.toNat_lt; omega)
    rw [toNat_cons, List.length_cons, Nat.pow_succ]
    omega

/-- Strings of one length denote different numbers. -/
theorem toNat_inj {a b : Bytes} (hl : a.length = b.length) (h : toNat a = toNat b) : a = b := by
  induction a generalizing b with
  | nil => exact (List.length_eq_zero_iff.1 hl.symm).symm
  | cons x a ih =>
    cases b with
    | nil => simp at hl
    | cons y b =>
      have hlength : a.length = b.length := by simpa using hl
      have ha := toNat_lt a
      have hb := toNat_lt b
      rw [toNat_cons, toNat_cons, hlength] at h
      rw [hlength] at ha
      -- The first byte is the quotient by the weight of the others, and they are the remainder.
      have hxy : x.toNat = y.toNat := by
        have := congrArg (· / 256 ^ b.length) h
        simpa [Nat.mul_comm _ (256 ^ b.length), Nat.mul_add_div (Nat.pow_pos (n := b.length)
          (show 0 < 256 by decide)), Nat.div_eq_of_lt ha, Nat.div_eq_of_lt hb] using this
      rw [hxy] at h
      rw [UInt8.toNat_inj.1 hxy, ih hlength (by omega)]

/-- Bytes are the word of their number. -/
theorem bigEndian_toNat (b : Bytes) : bigEndian b.length (toNat b) = b :=
  toNat_inj (bigEndian_length _ _)
    (by rw [toNat_bigEndian, Nat.mod_eq_of_lt (toNat_lt b)])

@[simp] theorem toText?_ofText (s : String) : toText? (ofText s) = some s := by
  have h : String.fromUTF8? ⟨s.toByteArray.data⟩ = some s := by
    unfold String.fromUTF8?
    exact dif_pos s.isValidUTF8
  simpa [toText?, ofText] using h

/-- A text has one encoding. -/
theorem ofText_of_toText? {b : Bytes} {s : String} (h : toText? b = some s) : ofText s = b := by
  unfold toText? String.fromUTF8? at h
  split at h
  · cases h
    exact List.toList_toArray
  · cases h

theorem ofText_inj {s t : String} (h : ofText s = ofText t) : s = t := by
  have hs := toText?_ofText s
  rw [h, toText?_ofText] at hs
  exact (Option.some.inj hs).symm

theorem ofText_append (s t : String) : ofText (s ++ t) = ofText s ++ ofText t := by
  simp [ofText]

end Bytes
end BulkLoad
