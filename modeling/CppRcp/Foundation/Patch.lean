import Mathlib.Tactic

/-!
# Patching a block of rows

A register table is rendered as a block: its rows one after another, all of
one length.  A write replaces a span of the block.  What is read outside that
span is read as before, and a read inside a row is a read of that row.
-/

namespace CppRcp.Foundation

section Patch

variable {α : Type}

/-- `width` elements from `start` on. -/
def slice (block : List α) (start width : Nat) : List α :=
  (block.drop start).take width

def patch (block : List α) (start : Nat) (data : List α) : List α :=
  block.take start ++ data ++ block.drop (start + data.length)

def Overlaps (start length lo width : Nat) : Prop :=
  ∃ i, lo ≤ i ∧ i < lo + width ∧ start ≤ i ∧ i < start + length

instance (start length lo width : Nat) :
    Decidable (Overlaps start length lo width) :=
  decidable_of_iff
    (0 < width ∧ 0 < length ∧ lo < start + length ∧ start < lo + width) <| by
      unfold Overlaps
      constructor
      · rintro ⟨hWidth, hLength, hLo, hStart⟩
        exact ⟨max lo start, by omega, by omega, by omega, by omega⟩
      · rintro ⟨i, hLo, hWidth, hStart, hLength⟩
        omega

variable {block data : List α} {start lo width : Nat}

theorem getElem?_slice (block : List α) (start width i : Nat) :
    (slice block start width)[i]? =
      if i < width then block[start + i]? else none := by
  unfold slice
  rw [List.getElem?_take, List.getElem?_drop]

theorem slice_slice (block : List α) (start length lo width : Nat)
    (h : lo + width ≤ length) :
    slice (slice block start length) lo width =
      slice block (start + lo) width := by
  apply List.ext_getElem?
  intro i
  rw [getElem?_slice, getElem?_slice, getElem?_slice]
  by_cases hi : i < width
  · rw [if_pos hi, if_pos hi, if_pos (by omega), Nat.add_assoc]
  · rw [if_neg hi, if_neg hi]

theorem slice_append (block : List α) (start width more : Nat) :
    slice block start width ++ slice block (start + width) more =
      slice block start (width + more) := by
  unfold slice
  rw [← List.drop_drop, List.take_add]

theorem slice_all (h : block.length ≤ width) : slice block 0 width = block := by
  unfold slice
  rw [List.drop_zero, List.take_of_length_le h]

theorem length_slice (h : start + width ≤ block.length) :
    (slice block start width).length = width := by
  unfold slice
  rw [List.length_take, List.length_drop]
  omega

theorem length_patch (h : start + data.length ≤ block.length) :
    (patch block start data).length = block.length := by
  unfold patch
  rw [List.length_append, List.length_append, List.length_take,
    List.length_drop]
  omega

theorem getElem?_patch_of_outside (h : start + data.length ≤ block.length)
    {i : Nat} (hi : i < start ∨ start + data.length ≤ i) :
    (patch block start data)[i]? = block[i]? := by
  have hBefore : (block.take start).length = start :=
    List.length_take_of_le (by omega)
  have hThrough : (block.take start ++ data).length =
      start + data.length := by
    rw [List.length_append, hBefore]
  unfold patch
  rcases hi with hi | hi
  · rw [List.append_assoc, List.getElem?_append_left (hBefore.symm ▸ hi),
      List.getElem?_take_of_lt hi]
  · rw [List.getElem?_append_right (hThrough.symm ▸ hi), hThrough,
      List.getElem?_drop, Nat.add_sub_cancel' hi]

theorem getElem?_patch_of_inside (h : start + data.length ≤ block.length)
    {i : Nat} (hFrom : start ≤ i) (hTo : i < start + data.length) :
    (patch block start data)[i]? = data[i - start]? := by
  have hBefore : (block.take start).length = start :=
    List.length_take_of_le (by omega)
  unfold patch
  rw [List.append_assoc,
    List.getElem?_append_right (hBefore.symm ▸ hFrom), hBefore,
    List.getElem?_append_left (by omega)]

theorem slice_patch (h : start + data.length ≤ block.length)
    (hApart : ¬ Overlaps start data.length lo width) :
    slice (patch block start data) lo width = slice block lo width := by
  apply List.ext_getElem?
  intro i
  rw [getElem?_slice, getElem?_slice]
  split
  · next hi =>
      apply getElem?_patch_of_outside h
      by_contra hInside
      exact hApart ⟨lo + i, by omega, by omega, by omega, by omega⟩
  · rfl

/-! ## Writing past read-only places -/

/-- Writes element by element from `addr` on, and passes over the read-only
places. -/
def writeEach (readOnly : Nat → Bool) : List α → Nat → List α → List α
  | block, _, [] => block
  | block, addr, a :: rest =>
      writeEach readOnly (if readOnly addr then block else block.set addr a)
        (addr + 1) rest

variable {readOnly : Nat → Bool} {addr : Nat}

theorem length_writeEach :
    (writeEach readOnly block addr data).length = block.length := by
  induction data generalizing block addr with
  | nil => rfl
  | cons a rest ih =>
      rw [writeEach, ih]
      split
      · rfl
      · rw [List.length_set]

theorem getElem?_writeEach_of_outside {i : Nat}
    (hi : i < addr ∨ addr + data.length ≤ i) :
    (writeEach readOnly block addr data)[i]? = block[i]? := by
  induction data generalizing block addr with
  | nil => rfl
  | cons a rest ih =>
      rw [List.length_cons] at hi
      rw [writeEach, ih (by omega)]
      split
      · rfl
      · rw [List.getElem?_set_ne (by omega)]

theorem getElem?_writeEach_of_inside {i : Nat} (hFrom : addr ≤ i)
    (hTo : i < addr + data.length) (hBlock : i < block.length)
    (hWritable : readOnly i = false) :
    (writeEach readOnly block addr data)[i]? = data[i - addr]? := by
  induction data generalizing block addr with
  | nil =>
      rw [List.length_nil] at hTo
      omega
  | cons a rest ih =>
      rw [List.length_cons] at hTo
      rw [writeEach]
      rcases Nat.eq_or_lt_of_le hFrom with rfl | hLater
      · rw [getElem?_writeEach_of_outside (by omega), hWritable]
        simp [hBlock]
      · have hStep : i - addr = i - (addr + 1) + 1 := by omega
        rw [ih hLater (by omega) (by split <;> simpa using hBlock), hStep,
          List.getElem?_cons_succ]

theorem slice_writeEach (hApart : ¬ Overlaps addr data.length lo width) :
    slice (writeEach readOnly block addr data) lo width =
      slice block lo width := by
  apply List.ext_getElem?
  intro i
  rw [getElem?_slice, getElem?_slice]
  split
  · next hi =>
      apply getElem?_writeEach_of_outside
      by_contra hInside
      exact hApart ⟨lo + i, by omega, by omega, by omega, by omega⟩
  · rfl

/-! ## Rows -/

variable {rows : List (List α)} {stride : Nat}

theorem length_flatten_rows (hRows : ∀ row ∈ rows, row.length = stride) :
    rows.flatten.length = rows.length * stride := by
  induction rows with
  | nil => simp
  | cons row rows ih =>
      obtain ⟨hRow, hRest⟩ := List.forall_mem_cons.mp hRows
      rw [List.flatten_cons, List.length_append, hRow, ih hRest,
        List.length_cons, Nat.succ_mul, Nat.add_comm]

theorem slice_flatten (hRows : ∀ row ∈ rows, row.length = stride) {i : Nat}
    {row : List α} (hRow : rows[i]? = some row) :
    slice rows.flatten (i * stride) stride = row := by
  induction rows generalizing i with
  | nil => cases hRow
  | cons first rows ih =>
      obtain ⟨hFirst, hRest⟩ := List.forall_mem_cons.mp hRows
      unfold slice
      rw [List.flatten_cons]
      cases i with
      | zero =>
          cases hRow
          rw [Nat.zero_mul, List.drop_zero, ← hFirst, List.take_left]
      | succ i =>
          have hDrop : (first ++ rows.flatten).drop ((i + 1) * stride) =
              rows.flatten.drop (i * stride) := by
            rw [Nat.succ_mul, Nat.add_comm, ← hFirst, ← List.drop_drop,
              List.drop_left]
          rw [hDrop]
          exact ih hRest hRow

theorem getElem?_flatten_rows (hRows : ∀ row ∈ rows, row.length = stride)
    {i j : Nat} {row : List α} (hRow : rows[i]? = some row) (hj : j < stride) :
    rows.flatten[i * stride + j]? = row[j]? := by
  have hSlice := getElem?_slice rows.flatten (i * stride) stride j
  rw [slice_flatten hRows hRow, if_pos hj] at hSlice
  exact hSlice.symm

end Patch

end CppRcp.Foundation
