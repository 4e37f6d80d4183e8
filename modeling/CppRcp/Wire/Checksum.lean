import CppRcp.Wire.E2e
import CppRcp.Foundation.ReflectedCrc

/-!
# What the checksum tells apart

The octet-wise CRC-32 is the reflected register of `ReflectedCrc` fed with the
bits of each octet, least significant first.  Octet strings of one length that
differ only within 32 consecutive bits of that order have different checksums.
-/

namespace CppRcp.E2e

open CppRcp.Foundation CppRcp.Foundation.ReflectedCrc CppRcp.Acf

/-! ## The register -/

abbrev poly : BitVec 32 := crc32ReflectedPoly.toBitVec

private theorem poly_msb : poly.msb = true := by decide

def octetBits (octet : UInt8) : List Bool :=
  (List.range 8).map (flag octet)

def bitsOf (octets : Octets) : List Bool := octets.flatMap octetBits

@[simp] theorem length_octetBits (octet : UInt8) :
    (octetBits octet).length = 8 := by
  simp [octetBits]

@[simp] theorem bitsOf_cons (octet : UInt8) (octets : Octets) :
    bitsOf (octet :: octets) = octetBits octet ++ bitsOf octets := rfl

@[simp] theorem bitsOf_append (front back : Octets) :
    bitsOf (front ++ back) = bitsOf front ++ bitsOf back :=
  List.flatMap_append

@[simp] theorem length_bitsOf (octets : Octets) :
    (bitsOf octets).length = 8 * octets.length := by
  induction octets with
  | nil => rfl
  | cons octet octets ih =>
      rw [bitsOf_cons, List.length_append, ih, length_octetBits,
        List.length_cons]
      omega

private theorem flag_eq_getLsbD (octet : UInt8) (bit : Nat) :
    flag octet bit = octet.toBitVec.getLsbD bit := rfl

theorem octetBits_injective : Function.Injective octetBits := by
  intro left right h
  apply UInt8.eq_of_toBitVec_eq
  apply BitVec.eq_of_getLsbD_eq
  intro i hi
  rw [← flag_eq_getLsbD, ← flag_eq_getLsbD]
  have hMap := List.map_inj_left.mp h
  exact hMap i (List.mem_range.mpr hi)

private theorem bitsOf_injective : Function.Injective bitsOf := by
  intro left right h
  induction left generalizing right with
  | nil =>
      cases right with
      | nil => rfl
      | cons octet octets =>
          have hLength := congrArg List.length h
          rw [length_bitsOf, length_bitsOf, List.length_cons] at hLength
          simp at hLength
  | cons octet octets ih =>
      cases right with
      | nil =>
          have hLength := congrArg List.length h
          rw [length_bitsOf, length_bitsOf, List.length_cons] at hLength
          simp at hLength
      | cons octet' octets' =>
          rw [bitsOf_cons, bitsOf_cons] at h
          obtain ⟨hOctet, hRest⟩ := List.append_inj h (by simp)
          rw [octetBits_injective hOctet, ih hRest]

/-! ## The octet-wise update -/

private theorem toBitVec_crc32Shift (crc : UInt32) :
    (crc32Shift crc).toBitVec = shift poly crc.toBitVec := by
  have hLow : (crc &&& 1 ≠ 0) ↔ crc.toBitVec.getLsbD 0 = true := by
    rw [Ne, ← UInt32.toBitVec_inj, UInt32.toBitVec_and]
    change ¬ crc.toBitVec &&& 1#32 = 0#32 ↔ _
    rw [BitVec.and_one_eq_setWidth_ofBool_getLsbD]
    cases crc.toBitVec.getLsbD 0 <;> decide
  unfold crc32Shift shift
  by_cases h : crc.toBitVec.getLsbD 0 = true
  · rw [if_pos (hLow.mpr h), if_pos h]
    simp
  · rw [if_neg (fun hOne => h (hLow.mp hOne)), if_neg h]
    simp

private theorem toBitVec_toUInt32 (octet : UInt8) :
    octet.toUInt32.toBitVec = word 32 (octetBits octet) := by
  apply BitVec.eq_of_getLsbD_eq
  intro i hi
  rw [getLsbD_word (by simp)]
  by_cases hOctet : i < 8
  · simp [octetBits, hOctet, flag_eq_getLsbD, hi]
  · have hHigh : octet.toBitVec.getLsbD i = false :=
      BitVec.getLsbD_of_ge _ _ (by omega)
    simp [octetBits, hOctet, hi, hHigh]

private theorem toBitVec_crc32Update (crc : UInt32) (octet : UInt8) :
    (crc32Update crc octet).toBitVec =
      feed poly crc.toBitVec (octetBits octet) := by
  rw [feed_eq_iterate _ _ (by simp), length_octetBits, ← toBitVec_toUInt32]
  simp only [crc32Update, toBitVec_crc32Shift, UInt32.toBitVec_xor]
  rfl

private theorem toBitVec_crc32_foldl (crc : UInt32) (octets : Octets) :
    (octets.foldl crc32Update crc).toBitVec =
      feed poly crc.toBitVec (bitsOf octets) := by
  induction octets generalizing crc with
  | nil => rfl
  | cons octet octets ih =>
      rw [List.foldl_cons, ih, toBitVec_crc32Update, bitsOf_cons, feed_append]

private theorem toBitVec_crc32 (octets : Octets) :
    (crc32 octets).toBitVec =
      feed poly (BitVec.allOnes 32) (bitsOf octets) ^^^ BitVec.allOnes 32 := by
  rw [crc32, UInt32.toBitVec_xor, toBitVec_crc32_foldl]
  rfl

/-! ## Detection -/

private theorem getElem?_bitsOf (octets : Octets) (index : Nat) {bit : Nat}
    (hBit : bit < 8) :
    (bitsOf octets)[8 * index + bit]? =
      octets[index]?.map (fun octet => flag octet bit) := by
  induction octets generalizing index with
  | nil => simp
  | cons octet octets ih =>
      rw [bitsOf_cons]
      cases index with
      | zero =>
          rw [List.getElem?_append_left (by simpa using hBit)]
          simp [octetBits, hBit]
      | succ index =>
          rw [List.getElem?_append_right (by simp; omega), length_octetBits,
            List.getElem?_cons_succ, ← ih index]
          congr 1
          omega

theorem crc32_inj_of_burst {front left right : Octets} {start : Nat}
    (hLength : left.length = right.length)
    (hAgree : ∀ index bit, bit < 8 →
      8 * index + bit < start ∨ start + 32 ≤ 8 * index + bit →
        flag (octetAt left index) bit = flag (octetAt right index) bit) :
    crc32 (front ++ left) = crc32 (front ++ right) ↔ left = right := by
  have hBits : ∀ i, i < start ∨ start + 32 ≤ i →
      (bitsOf left)[i]? = (bitsOf right)[i]? := by
    intro i hi
    have hSplit : i = 8 * (i / 8) + i % 8 := (Nat.div_add_mod i 8).symm
    have hOctet := hAgree (i / 8) (i % 8) (Nat.mod_lt i (by decide))
      (hSplit ▸ hi)
    rw [hSplit, getElem?_bitsOf _ _ (Nat.mod_lt i (by decide)),
      getElem?_bitsOf _ _ (Nat.mod_lt i (by decide))]
    by_cases hIn : i / 8 < left.length
    · rw [List.getElem?_eq_getElem hIn,
        List.getElem?_eq_getElem (hLength ▸ hIn)]
      simpa [octetAt, List.getD_eq_getElem?_getD, hIn, hLength ▸ hIn]
        using hOctet
    · rw [List.getElem?_eq_none (by omega),
        List.getElem?_eq_none (by omega)]
  constructor
  · intro h
    have hSum := congrArg UInt32.toBitVec h
    rw [toBitVec_crc32, toBitVec_crc32, bitsOf_append, bitsOf_append,
      feed_append, feed_append] at hSum
    apply bitsOf_injective
    exact eq_of_feed_eq poly_msb (by simp [hLength]) hBits
      (BitVec.xor_left_inj _ |>.mp hSum)
  · rintro rfl
    rfl

theorem crc32_inj_of_window {front left right : Octets} (start : Nat)
    (hLength : left.length = right.length)
    (hAgree : ∀ index, index < start ∨ start + 4 ≤ index →
      octetAt left index = octetAt right index) :
    crc32 (front ++ left) = crc32 (front ++ right) ↔ left = right := by
  apply @crc32_inj_of_burst _ _ _ (8 * start) hLength
  intro index bit hBit hOut
  rw [hAgree index (by omega)]

end CppRcp.E2e
