import Mathlib.Algebra.Order.Ring.Nat
import Mathlib.Data.List.Basic

/-!
# Bytes on the wire

Fixed-width integers in both byte orders, two's complement, UTF-8 text and the
splitting of a byte string at a fixed length.
-/

namespace SqlSafetyProxy.Wire

abbrev Bytes := List UInt8

/-! ## Integers -/

/-- The number written in big-endian order. -/
def beNat : Bytes → Nat
  | [] => 0
  | byte :: rest => byte.toNat * 256 ^ rest.length + beNat rest

/-- The number written in little-endian order. -/
def leNat : Bytes → Nat
  | [] => 0
  | byte :: rest => byte.toNat + 256 * leNat rest

/-- Two's complement reading of a number of the given bit width. -/
def signed (width value : Nat) : Int :=
  if value < 2 ^ (width - 1) then value else value - 2 ^ width

/-- A big-endian signed integer, as `struct.unpack` reads it. -/
def beInt (bytes : Bytes) : Int := signed (8 * bytes.length) (beNat bytes)

/-- A little-endian signed integer. -/
def leInt (bytes : Bytes) : Int := signed (8 * bytes.length) (leNat bytes)

/-- The lowest `size` bytes of a number in big-endian order. -/
def bePack : Nat → Nat → Bytes
  | 0, _ => []
  | size + 1, value => UInt8.ofNat (value / 256 ^ size) :: bePack size value

/-- The lowest `size` bytes of a number in little-endian order. -/
def lePack : Nat → Nat → Bytes
  | 0, _ => []
  | size + 1, value => UInt8.ofNat value :: lePack size (value / 256)

@[simp] theorem length_bePack (size value : Nat) : (bePack size value).length = size := by
  induction size with
  | zero => rfl
  | succ size ih => simp [bePack, ih]

@[simp] theorem length_lePack (size value : Nat) : (lePack size value).length = size := by
  induction size generalizing value with
  | zero => rfl
  | succ size ih => simp [lePack, ih]

theorem toNat_ofNat_byte (value : Nat) : (UInt8.ofNat value).toNat = value % 256 := by
  simp

theorem beNat_bePack (size value : Nat) : beNat (bePack size value) = value % 256 ^ size := by
  induction size with
  | zero => simp [bePack, beNat, Nat.mod_one]
  | succ size ih =>
      rw [bePack, beNat, length_bePack, ih, toNat_ofNat_byte, Nat.pow_succ, Nat.mod_mul]
      rw [Nat.add_comm, Nat.mul_comm]

theorem beNat_lt (bytes : Bytes) : beNat bytes < 256 ^ bytes.length := by
  induction bytes with
  | nil => exact Nat.one_pos
  | cons byte rest ih =>
      have small := byte.toNat_lt
      have upper := Nat.mul_le_mul_right (256 ^ rest.length) (Nat.le_of_lt_succ small)
      rw [beNat, List.length_cons, Nat.pow_succ]
      omega

theorem leNat_lt (bytes : Bytes) : leNat bytes < 256 ^ bytes.length := by
  induction bytes with
  | nil => exact Nat.one_pos
  | cons byte rest ih =>
      have small := byte.toNat_lt
      rw [leNat, List.length_cons, Nat.pow_succ]
      omega

/-- Packing keeps the lowest bytes. -/
theorem bePack_add (size high low : Nat) :
    bePack size (high * 256 ^ size + low) = bePack size low := by
  induction size generalizing high with
  | zero => rfl
  | succ size ih =>
      have power : high * 256 ^ (size + 1) = high * 256 * 256 ^ size := by
        rw [Nat.pow_succ, Nat.mul_comm (256 ^ size), Nat.mul_assoc]
      rw [bePack, bePack, power, ih, Nat.add_comm,
        Nat.add_mul_div_right _ _ (Nat.pow_pos (by decide))]
      congr 1
      apply UInt8.toNat_inj.mp
      simp

theorem bePack_beNat (bytes : Bytes) : bePack bytes.length (beNat bytes) = bytes := by
  induction bytes with
  | nil => rfl
  | cons byte rest ih =>
      rw [List.length_cons, bePack, beNat, bePack_add, ih, Nat.add_comm,
        Nat.add_mul_div_right _ _ (Nat.pow_pos (by decide)), Nat.div_eq_of_lt (beNat_lt rest),
        Nat.zero_add, UInt8.ofNat_toNat]

theorem lePack_leNat (bytes : Bytes) : lePack bytes.length (leNat bytes) = bytes := by
  induction bytes with
  | nil => rfl
  | cons byte rest ih =>
      have quotient : (byte.toNat + 256 * leNat rest) / 256 = leNat rest := by
        have small := byte.toNat_lt
        omega
      rw [List.length_cons, lePack, leNat, quotient, ih]
      congr 1
      apply UInt8.toNat_inj.mp
      have small := byte.toNat_lt
      rw [toNat_ofNat_byte]
      omega

theorem leNat_lePack (size value : Nat) : leNat (lePack size value) = value % 256 ^ size := by
  induction size generalizing value with
  | zero => simp [lePack, leNat, Nat.mod_one]
  | succ size ih =>
      rw [lePack, leNat, ih, toNat_ofNat_byte]
      rw [Nat.pow_succ, Nat.mul_comm (256 ^ size), Nat.mod_mul]

/-- A non-negative number below the sign bit survives packing and signed reading. -/
theorem beInt_bePack {size value : Nat} (fits : value < 2 ^ (8 * size - 1)) :
    beInt (bePack size value) = value := by
  have base : (256 : Nat) ^ size = 2 ^ (8 * size) := by
    rw [Nat.pow_mul]
  have below : value < 256 ^ size := by
    rw [base]
    exact Nat.lt_of_lt_of_le fits (Nat.pow_le_pow_right (by decide) (Nat.sub_le _ _))
  rw [beInt, beNat_bePack, length_bePack, Nat.mod_eq_of_lt below, signed, if_pos fits]

/-! ## Two's complement -/

/-- The numbers that an integer of the given size in bytes can be. -/
def Fits (size : Nat) (isUnsigned : Bool) (value : Int) : Prop :=
  if isUnsigned then 0 ≤ value ∧ value < (2 ^ (8 * size) : Nat)
  else -(2 ^ (8 * size - 1) : Nat) ≤ value ∧ value < (2 ^ (8 * size - 1) : Nat)

/-- The bytes of an integer, negative numbers in two's complement. -/
def leInteger (size : Nat) (value : Int) : Bytes :=
  lePack size (value % (2 ^ (8 * size) : Nat)).toNat

/-- The integer that the bytes are. -/
def integerOf (isUnsigned : Bool) (bytes : Bytes) : Int :=
  if isUnsigned then leNat bytes else leInt bytes

@[simp] theorem length_leInteger (size : Nat) (value : Int) :
    (leInteger size value).length = size := length_lePack _ _

theorem pow_256 (size : Nat) : (256 : Nat) ^ size = 2 ^ (8 * size) := by rw [Nat.pow_mul]

theorem pow_double {width : Nat} (positive : 0 < width) : 2 ^ width = 2 * 2 ^ (width - 1) := by
  obtain ⟨below, rfl⟩ := Nat.exists_eq_succ_of_ne_zero (Nat.pos_iff_ne_zero.mp positive)
  rw [Nat.pow_succ', Nat.succ_sub_one]

theorem signed_eq (width value : Nat) : signed width value =
    if value < 2 ^ (width - 1) then (value : Int) else value - (2 ^ width : Nat) := by
  rw [signed]
  norm_cast

theorem integerOf_fits {bytes : Bytes} {isUnsigned : Bool} (some_ : bytes ≠ []) :
    Fits bytes.length isUnsigned (integerOf isUnsigned bytes) := by
  have small := leNat_lt bytes
  have positive := List.length_pos_of_ne_nil some_
  have double := pow_double (Nat.mul_pos (by decide : 0 < 8) positive)
  rw [pow_256] at small
  cases isUnsigned with
  | true =>
      simp only [Fits, integerOf, if_true]
      omega
  | false =>
      simp only [Fits, integerOf, leInt, signed_eq, Bool.false_eq_true, if_false]
      split <;> omega

/-- Reading the bits as a signed number does not change them. -/
theorem integerOf_emod (bytes : Bytes) (isUnsigned : Bool) :
    integerOf isUnsigned bytes % (2 ^ (8 * bytes.length) : Nat) = leNat bytes := by
  have small := leNat_lt bytes
  rw [pow_256] at small
  have plain : (leNat bytes : Int) % (2 ^ (8 * bytes.length) : Nat) = leNat bytes :=
    Int.emod_eq_of_lt (Int.natCast_nonneg _) (Int.ofNat_lt.mpr small)
  cases isUnsigned with
  | true => exact plain
  | false =>
      simp only [integerOf, leInt, signed_eq, Bool.false_eq_true, if_false]
      split
      · exact plain
      · rw [Int.sub_emod_right, plain]

theorem leInteger_integerOf (bytes : Bytes) (isUnsigned : Bool) :
    leInteger bytes.length (integerOf isUnsigned bytes) = bytes := by
  rw [leInteger, integerOf_emod, Int.toNat_natCast, lePack_leNat]

theorem integerOf_leInteger {size : Nat} {isUnsigned : Bool} {value : Int} (positive : 0 < size)
    (fits : Fits size isUnsigned value) :
    integerOf isUnsigned (leInteger size value) = value := by
  have double := pow_double (Nat.mul_pos (by decide : 0 < 8) positive)
  have power : 0 < 2 ^ (8 * size) := Nat.two_pow_pos _
  have below := Int.emod_lt_of_pos value (Int.ofNat_lt.mpr power)
  have nonneg := Int.emod_nonneg value (Int.ofNat_ne_zero.mpr (Nat.pos_iff_ne_zero.mp power))
  have read : leNat (leInteger size value) = (value % (2 ^ (8 * size) : Nat)).toNat := by
    rw [leInteger, leNat_lePack, pow_256, Nat.mod_eq_of_lt (by omega)]
  cases isUnsigned with
  | true =>
      simp only [Fits, if_true] at fits
      rw [integerOf, if_pos rfl, read, Int.emod_eq_of_lt fits.1 fits.2, Int.toNat_of_nonneg fits.1]
  | false =>
      simp only [Fits, Bool.false_eq_true, if_false] at fits
      simp only [integerOf, leInt, signed_eq, Bool.false_eq_true, if_false, read, length_leInteger]
      by_cases negative : value < 0
      · have wrapped : value % (2 ^ (8 * size) : Nat) = value + (2 ^ (8 * size) : Nat) := by
          rw [← Int.add_emod_right, Int.emod_eq_of_lt (by omega) (by omega)]
        rw [wrapped, if_neg (by omega), Int.toNat_of_nonneg (by omega), Int.add_sub_cancel]
      · rw [Int.emod_eq_of_lt (by omega) (by omega), if_pos (by omega),
          Int.toNat_of_nonneg (by omega)]

/-! ## Text -/

/-- Strict UTF-8 decoding. -/
def decodeUtf8 (bytes : Bytes) : Option String := String.fromUTF8? ⟨bytes.toArray⟩

def encodeUtf8 (text : String) : Bytes := text.toUTF8.data.toList

theorem decodeUtf8_encodeUtf8 (text : String) : decodeUtf8 (encodeUtf8 text) = some text := by
  have same : (⟨(encodeUtf8 text).toArray⟩ : ByteArray) = text.toByteArray := by
    simp [encodeUtf8]
  simp only [decodeUtf8, same, String.fromUTF8?]
  rw [dif_pos text.isValidUTF8]
  rfl

theorem encodeUtf8_ne_nil {text : String} (some_ : text ≠ "") : encodeUtf8 text ≠ [] := by
  intro empty
  have decoded := decodeUtf8_encodeUtf8 text
  rw [empty] at decoded
  have none_ : decodeUtf8 [] = some "" := decodeUtf8_encodeUtf8 ""
  exact some_ (Option.some.inj (decoded.symm.trans none_))

/-- `str.isspace()` of one character. -/
def isSpace (char : Char) : Bool :=
  let code := char.toNat
  (0x09 ≤ code && code ≤ 0x0D) || (0x1C ≤ code && code ≤ 0x20) || code == 0x85 || code == 0xA0
    || code == 0x1680 || (0x2000 ≤ code && code ≤ 0x200A) || code == 0x2028 || code == 0x2029
    || code == 0x202F || code == 0x205F || code == 0x3000

/-- `str.strip()`. -/
def strip (text : String) : String :=
  String.ofList (((text.toList.dropWhile isSpace).reverse.dropWhile isSpace).reverse)

/-- The digits of a number below 16 in the given alphabet. -/
def hexDigit (alphabet : List Char) (value : Nat) : Char := alphabet.getD value '0'

/-- A byte as two lower-case hexadecimal digits. -/
def hexLower (byte : UInt8) : List Char :=
  ['0', '1', '2', '3', '4', '5', '6', '7', '8', '9', 'a', 'b', 'c', 'd', 'e', 'f'] |> fun digits =>
    [hexDigit digits (byte.toNat / 16), hexDigit digits (byte.toNat % 16)]

/-- `0x` and a byte as two upper-case hexadecimal digits. -/
def hexCode (byte : UInt8) : String :=
  ['0', '1', '2', '3', '4', '5', '6', '7', '8', '9', 'A', 'B', 'C', 'D', 'E', 'F'] |> fun digits =>
    String.ofList ['0', 'x', hexDigit digits (byte.toNat / 16), hexDigit digits (byte.toNat % 16)]

/-- A digit is one of the alphabet, or zero. -/
theorem hexDigit_of_all {alphabet : List Char} {p : Char → Prop}
    (all : ∀ char ∈ alphabet, p char) (zero : p '0') (value : Nat) : p (hexDigit alphabet value) := by
  rw [hexDigit, List.getD_eq_getElem?_getD]
  cases found : alphabet[value]? with
  | none => exact zero
  | some char => exact all char (List.mem_of_getElem? found)

/-! ## Flags -/

/-- A bit of a flag word is set. -/
def hasFlag (flags flag : Nat) : Bool := flags &&& flag != 0

/-! ## Splitting -/

/-- The first `size` bytes and the rest, when there are that many. -/
def splitExactly (size : Nat) (bytes : Bytes) : Option (Bytes × Bytes) :=
  if size ≤ bytes.length then some (bytes.take size, bytes.drop size) else none

/-- The bytes before the first NUL and those after it. -/
def splitAtNul : Bytes → Option (Bytes × Bytes)
  | [] => none
  | byte :: rest =>
      if byte = 0 then some ([], rest)
      else (splitAtNul rest).map fun parts => (byte :: parts.1, parts.2)

end SqlSafetyProxy.Wire
