import Mathlib.Tactic

/-!
# Octet strings and big-endian fields

Wire formats are byte strings, and their multi-octet fields are big-endian.
This module fixes both and proves that writing a field and reading it back is
the identity up to the width of the field.
-/

namespace CppRcp.Foundation

abbrev Octets := List UInt8

/-- `width` octets of `value`, most significant first. -/
def putBe : Nat → Nat → Octets
  | 0, _ => []
  | width + 1, value =>
      UInt8.ofNat (value / 256 ^ width) :: putBe width value

/-- The big-endian value of an octet string. -/
def getBe (octets : Octets) : Nat :=
  octets.foldl (fun acc octet => acc * 256 + octet.toNat) 0

@[simp] theorem length_putBe (width value : Nat) :
    (putBe width value).length = width := by
  induction width with
  | zero => rfl
  | succ width ih => simp [putBe, ih]

private theorem getBe_foldl (octets : Octets) (acc : Nat) :
    octets.foldl (fun acc octet => acc * 256 + octet.toNat) acc =
      acc * 256 ^ octets.length + getBe octets := by
  induction octets generalizing acc with
  | nil => simp [getBe]
  | cons octet octets ih =>
      simp only [List.foldl_cons, List.length_cons, getBe]
      rw [ih, ih (0 * 256 + octet.toNat)]
      ring

@[simp] theorem getBe_nil : getBe [] = 0 := rfl

theorem getBe_cons (octet : UInt8) (octets : Octets) :
    getBe (octet :: octets) =
      octet.toNat * 256 ^ octets.length + getBe octets := by
  have h := getBe_foldl octets (0 * 256 + octet.toNat)
  simpa [getBe] using h

theorem getBe_lt (octets : Octets) : getBe octets < 256 ^ octets.length := by
  induction octets with
  | nil => simp
  | cons octet octets ih =>
      rw [getBe_cons, List.length_cons, pow_succ]
      have hOctet : octet.toNat < 256 := octet.toNat_lt
      have hMul : (octet.toNat + 1) * 256 ^ octets.length ≤
          256 * 256 ^ octets.length :=
        Nat.mul_le_mul_right _ hOctet
      linarith

theorem getBe_putBe (width value : Nat) :
    getBe (putBe width value) = value % 256 ^ width := by
  induction width with
  | zero => simp [putBe, Nat.mod_one]
  | succ width ih =>
      rw [putBe, getBe_cons, ih, length_putBe]
      have hOctet : (UInt8.ofNat (value / 256 ^ width)).toNat =
          value / 256 ^ width % 256 := by simp
      rw [hOctet, pow_succ, Nat.mod_mul]
      ring

theorem getBe_putBe_of_lt {width value : Nat} (h : value < 256 ^ width) :
    getBe (putBe width value) = value := by
  rw [getBe_putBe, Nat.mod_eq_of_lt h]

theorem putBe_add (width extra value : Nat) :
    putBe width (extra * 256 ^ width + value) = putBe width value := by
  induction width generalizing extra with
  | zero => rfl
  | succ width ih =>
      have hPower : extra * 256 ^ (width + 1) =
          extra * 256 * 256 ^ width := by
        rw [pow_succ]
        ring
      have hHead : (extra * 256 * 256 ^ width + value) / 256 ^ width =
          extra * 256 + value / 256 ^ width := by
        rw [Nat.add_comm, Nat.add_mul_div_right _ _ (by positivity),
          Nat.add_comm]
      rw [putBe, putBe, hPower, ih, hHead]
      congr 1
      apply UInt8.toNat_inj.mp
      rw [UInt8.toNat_ofNat', UInt8.toNat_ofNat']
      omega

theorem putBe_getBe (octets : Octets) :
    putBe octets.length (getBe octets) = octets := by
  induction octets with
  | nil => rfl
  | cons octet octets ih =>
      have hDiv : (octet.toNat * 256 ^ octets.length + getBe octets) /
          256 ^ octets.length = octet.toNat := by
        rw [Nat.add_comm, Nat.add_mul_div_right _ _ (by positivity),
          Nat.div_eq_of_lt (getBe_lt octets), Nat.zero_add]
      rw [List.length_cons, getBe_cons, putBe, hDiv, putBe_add, ih,
        UInt8.ofNat_toNat]

theorem putBe_take {octets : Octets} {width : Nat}
    (h : width ≤ octets.length) :
    putBe width (getBe (octets.take width)) = octets.take width := by
  have hWidth := putBe_getBe (octets.take width)
  rwa [List.length_take_of_le h] at hWidth

/-- Flag `bit` (0 is the least significant one) of an octet. -/
def flag (octet : UInt8) (bit : Nat) : Bool := octet.toNat.testBit bit

def weight (on : Bool) (value : Nat) : Nat := if on then value else 0

end CppRcp.Foundation
