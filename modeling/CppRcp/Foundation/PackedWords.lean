import CppRcp.Foundation.Octets

/-!
# Words packed one after another

A list of big-endian words of one width is an octet string, and an octet string
of the right length is a list of words.  Packing cuts a word to the width;
otherwise the two are inverse to each other.
-/

namespace CppRcp.Foundation

def packBe (width : Nat) (values : List Nat) : Octets :=
  values.flatMap (putBe width)

def unpackBe (width : Nat) : Nat → Octets → List Nat
  | 0, _ => []
  | count + 1, data =>
      getBe (data.take width) :: unpackBe width count (data.drop width)

variable {width count : Nat} {data : Octets}

theorem length_unpackBe : (unpackBe width count data).length = count := by
  induction count generalizing data with
  | zero => rfl
  | succ count ih => rw [unpackBe, List.length_cons, ih]

theorem unpackBe_lt : ∀ value ∈ unpackBe width count data,
    value < 256 ^ width := by
  induction count generalizing data with
  | zero => simp [unpackBe]
  | succ count ih =>
      refine List.forall_mem_cons.mpr ⟨?_, ih⟩
      have hLt := getBe_lt (data.take width)
      have hWidth : 256 ^ (data.take width).length ≤ 256 ^ width :=
        Nat.pow_le_pow_right (by decide) (List.length_take_le _ _)
      exact hLt.trans_le hWidth

theorem unpackBe_packBe (width : Nat) (values : List Nat) :
    unpackBe width values.length (packBe width values) =
      values.map fun value => value % 256 ^ width := by
  induction values with
  | nil => rfl
  | cons value values ih =>
      have hTake : (packBe width (value :: values)).take width =
          putBe width value := List.take_left' (length_putBe width value)
      have hDrop : (packBe width (value :: values)).drop width =
          packBe width values := List.drop_left' (length_putBe width value)
      rw [List.length_cons, unpackBe, hTake, hDrop, ih, getBe_putBe,
        List.map_cons]

theorem packBe_unpackBe (h : data.length = count * width) :
    packBe width (unpackBe width count data) = data := by
  induction count generalizing data with
  | zero =>
      rw [Nat.zero_mul] at h
      rw [List.length_eq_zero_iff.mp h]
      rfl
  | succ count ih =>
      rw [Nat.succ_mul] at h
      have hDropped : (data.drop width).length = count * width := by
        rw [List.length_drop]
        omega
      have hRest := ih hDropped
      have hPacked : packBe width (unpackBe width (count + 1) data) =
          putBe width (getBe (data.take width)) ++
            packBe width (unpackBe width count (data.drop width)) := rfl
      rw [hPacked, hRest, putBe_take (by omega), List.take_append_drop]

theorem getElem?_unpackBe {i : Nat} (h : i < count) :
    (unpackBe width count data)[i]? =
      some (getBe ((data.drop (width * i)).take width)) := by
  induction count generalizing data i with
  | zero => omega
  | succ count ih =>
      cases i with
      | zero => rfl
      | succ i =>
          rw [unpackBe, List.getElem?_cons_succ, ih (by omega),
            List.drop_drop, Nat.mul_succ, Nat.add_comm]

end CppRcp.Foundation
