import CppRcp.Wire.Checksum
import CppRcp.Wire.Header

/-!
# Reserved header bits

Four bits of the message header carry nothing: the decoder skips them and the
encoder writes them as zeros.
-/

namespace CppRcp.E2e

open CppRcp.Foundation CppRcp.Acf

/-- Bits 3 and 4 of octet 2 and bits 2 and 3 of octet 4 carry nothing. -/
def ReservedBit (index bit : Nat) : Prop :=
  index = 2 ∧ (bit = 3 ∨ bit = 4) ∨ index = 4 ∧ (bit = 2 ∨ bit = 3)

instance (index bit : Nat) : Decidable (ReservedBit index bit) :=
  inferInstanceAs (Decidable (_ ∨ _))

def ReservedClear (frame : Octets) : Prop :=
  ∀ index bit, ReservedBit index bit →
    flag (octetAt frame index) bit = false

theorem toNat_clearOctet2 (octet : UInt8) :
    (clearOctet2 octet).toNat = octet.toNat / 32 * 32 + octet.toNat % 8 := by
  have hLt := octet.toNat_lt
  exact toNat_ofNat_of_lt (by omega)

theorem toNat_clearOctet4 (octet : UInt8) :
    (clearOctet4 octet).toNat = octet.toNat / 16 * 16 + octet.toNat % 4 := by
  have hLt := octet.toNat_lt
  exact toNat_ofNat_of_lt (by omega)

private theorem flag_clearOctet2 (octet : UInt8) {bit : Nat} (hBit : bit < 8) :
    flag (clearOctet2 octet) bit =
      (flag octet bit && !decide (bit = 3 ∨ bit = 4)) := by
  unfold flag
  rw [Nat.testBit_eq_decide_div_mod_eq, Nat.testBit_eq_decide_div_mod_eq,
    toNat_clearOctet2]
  interval_cases bit <;> simp <;> omega

private theorem flag_clearOctet4 (octet : UInt8) {bit : Nat} (hBit : bit < 8) :
    flag (clearOctet4 octet) bit =
      (flag octet bit && !decide (bit = 2 ∨ bit = 3)) := by
  unfold flag
  rw [Nat.testBit_eq_decide_div_mod_eq, Nat.testBit_eq_decide_div_mod_eq,
    toNat_clearOctet4]
  interval_cases bit <;> simp <;> omega

theorem octetAt_clearReserved (octets : Octets) (index : Nat) :
    octetAt (clearReserved octets) index =
      if index < octets.length ∧ index = 2 then
        clearOctet2 (octetAt octets index)
      else if index < octets.length ∧ index = 4 then
        clearOctet4 (octetAt octets index)
      else octetAt octets index := by
  unfold clearReserved octetAt
  simp only [List.getD_eq_getElem?_getD, List.getElem?_modify]
  by_cases hIn : index < octets.length
  · by_cases h2 : index = 2
    · subst h2
      simp [hIn]
    · by_cases h4 : index = 4
      · subst h4
        simp [hIn]
      · simp [hIn, h2, h4, Ne.symm h2, Ne.symm h4]
  · simp [hIn]

theorem flag_clearReserved (octets : Octets) (index : Nat) {bit : Nat}
    (hBit : bit < 8) :
    flag (octetAt (clearReserved octets) index) bit =
      (flag (octetAt octets index) bit && !decide (ReservedBit index bit)) := by
  by_cases hIn : index < octets.length
  · rw [octetAt_clearReserved]
    by_cases h2 : index = 2
    · subst h2
      simp [hIn, flag_clearOctet2 _ hBit, ReservedBit]
    · by_cases h4 : index = 4
      · subst h4
        simp [hIn, flag_clearOctet4 _ hBit, ReservedBit]
      · simp [h2, h4, ReservedBit]
  · have hOut : ∀ octets : Octets, octets.length ≤ index →
        octetAt octets index = 0 := by
      intro octets h
      simp [octetAt, List.getD_eq_getElem?_getD, h]
    rw [hOut _ (by simpa using hIn), hOut _ (by omega)]
    simp [flag]

theorem octets_ext {left right : Octets} (hLength : left.length = right.length)
    (h : ∀ index bit, bit < 8 →
      flag (octetAt left index) bit = flag (octetAt right index) bit) :
    left = right := by
  apply List.ext_getElem hLength
  intro i hi hi'
  apply octetBits_injective
  apply List.map_congr_left
  intro bit hBit
  have hFlag := h i bit (List.mem_range.mp hBit)
  simpa [octetAt, List.getD_eq_getElem?_getD, hi, hi'] using hFlag

theorem clearReserved_eq_iff (octets : Octets) :
    clearReserved octets = octets ↔ ReservedClear octets := by
  constructor
  · intro h index bit hReserved
    have hBit : bit < 8 := by
      unfold ReservedBit at hReserved
      omega
    rw [← h, flag_clearReserved _ _ hBit]
    simp [hReserved]
  · intro h
    apply octets_ext (length_clearReserved octets)
    intro index bit hBit
    rw [flag_clearReserved _ _ hBit]
    by_cases hReserved : ReservedBit index bit
    · rw [h index bit hReserved]
      rfl
    · simp [hReserved]

end CppRcp.E2e
