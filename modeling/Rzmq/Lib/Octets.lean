import Mathlib.Algebra.Order.Group.Nat
import Mathlib.Data.List.Induction

/-! Octets and fixed-width numbers in them.  A wire format written over `Octet α` runs on bytes and
also on symbols that stand for the output of a cryptographic primitive.  `be` and `le` write the low
`8 * width` bits of a number, and `beNat` and `leNat` read them back. -/

/-- A type of octets: bytes embed in it, and each of its values reads as a byte. -/
class Octet (α : Type) where
  ofByte : UInt8 → α
  toByte : α → UInt8
  toByte_ofByte : ∀ b, toByte (ofByte b) = b

namespace Octet

open List Nat

attribute [simp] toByte_ofByte

instance : Octet UInt8 where
  ofByte := id
  toByte := id
  toByte_ofByte _ := rfl

variable {α : Type} [Octet α]

def bytes (bs : List UInt8) : List α := bs.map ofByte

def reading (os : List α) : List UInt8 := os.map toByte

@[simp] lemma reading_bytes (bs) : reading (bytes bs : List α) = bs := by
  induction bs with
  | nil => rfl
  | cons b bs ih =>
    simp only [reading, bytes, map_cons, toByte_ofByte] at ih ⊢
    rw [ih]

@[simp] lemma reading_append (xs ys : List α) :
    reading (xs ++ ys) = reading xs ++ reading ys := by
  simp [reading]

@[simp] lemma reading_length (os : List α) : (reading os).length = os.length := by
  simp [reading]

@[simp] lemma bytes_length (bs) : (bytes bs : List α).length = bs.length := by
  simp [bytes]

@[simp] lemma bytes_append (bs cs) :
    (bytes (bs ++ cs) : List α) = bytes bs ++ bytes cs := by
  simp [bytes]

def utf8 (s : String) : List UInt8 := s.toUTF8.data.toList

lemma bytes_utf8_injective : Function.Injective (bytes ∘ utf8 : String → List α) := by
  intro s t same
  have octets := congrArg reading same
  simp only [Function.comp_apply, reading_bytes] at octets
  exact String.toByteArray_inj.mp (ByteArray.ext (Array.toList_inj.mp octets))

def low (n : Nat) : α := ofByte (UInt8.ofNat n)

@[simp] lemma toByte_low (n : Nat) : toByte (low n : α) = UInt8.ofNat n := by
  simp [low]

def be : Nat → Nat → List α
  | 0, _ => []
  | width + 1, n => be width (n / 256) ++ [low n]

def beNat (os : List α) : Nat :=
  os.foldl (fun acc o => acc * 256 + (toByte o).toNat) 0

@[simp] lemma be_length (width n : Nat) : (be width n : List α).length = width := by
  induction width generalizing n with
  | zero => rfl
  | succ width ih => simp [be, ih]

@[simp] lemma beNat_nil : beNat ([] : List α) = 0 := rfl

lemma beNat_append_singleton (os : List α) (o : α) :
    beNat (os ++ [o]) = beNat os * 256 + (toByte o).toNat := by
  simp [beNat]

lemma beNat_lt (os : List α) : beNat os < 256 ^ os.length := by
  induction os using reverseRecOn with
  | nil => simp
  | append_singleton os o ih =>
    rw [beNat_append_singleton, length_append, length_singleton, pow_succ]
    have := (toByte o).toNat_lt
    omega

lemma beNat_be (width n : Nat) : beNat (be width n : List α) = n % 256 ^ width := by
  induction width generalizing n with
  | zero => simp [be, mod_one]
  | succ width ih =>
    have last : (UInt8.ofNat n).toNat = n % 256 := by simp
    rw [be, beNat_append_singleton, ih, toByte_low, last, pow_succ, mul_comm (256 ^ width),
      mod_mul]
    omega

lemma beNat_be_of_lt {width n : Nat} (h : n < 256 ^ width) :
    beNat (be width n : List α) = n := by
  rw [beNat_be, mod_eq_of_lt h]

lemma be_beNat (bs : List UInt8) : be bs.length (beNat bs) = bs := by
  induction bs using reverseRecOn with
  | nil => rfl
  | append_singleton bs b ih =>
    have small := b.toNat_lt
    have front : (beNat bs * 256 + b.toNat) / 256 = beNat bs := by omega
    have last : UInt8.ofNat (beNat bs * 256 + b.toNat) = b := by
      rw [← UInt8.toNat_inj, UInt8.toNat_ofNat']
      omega
    rw [length_append, length_singleton, be, beNat_append_singleton]
    exact congrArg₂ (· ++ [·]) (front.symm ▸ ih) last

def le : Nat → Nat → List UInt8
  | 0, _ => []
  | width + 1, n => UInt8.ofNat n :: le width (n / 256)

def leNat : List UInt8 → Nat
  | [] => 0
  | b :: bs => b.toNat + 256 * leNat bs

lemma leNat_le (width n : Nat) : leNat (le width n) = n % 256 ^ width := by
  induction width generalizing n with
  | zero => simp [le, leNat, mod_one]
  | succ width ih =>
    have first : (UInt8.ofNat n).toNat = n % 256 := by simp
    rw [le, leNat, ih, first, pow_succ, mul_comm (256 ^ width), mod_mul]

lemma le_inj {width n m : Nat} : le width n = le width m ↔ n % 256 ^ width = m % 256 ^ width := by
  constructor
  · intro h
    rw [← leNat_le, ← leNat_le, h]
  · intro h
    induction width generalizing n m with
    | zero => rfl
    | succ width ih =>
      rw [pow_succ, mul_comm (256 ^ width), mod_mul, mod_mul] at h
      have head : n % 256 = m % 256 := by omega
      have tail : n / 256 % 256 ^ width = m / 256 % 256 ^ width := by omega
      rw [le, le, ih tail]
      congr 1
      rw [← UInt8.toNat_inj, UInt8.toNat_ofNat', UInt8.toNat_ofNat']
      exact head

end Octet
