import CppRcp.Foundation.Patch
import Mathlib.Tactic

/-!
# Tables that are written as a block

A table is rendered as a block, row after row, each by an image of one length.
A write replaces a span of the block and reads every row back, so that a row
outside the span becomes what its own image reads as.

A loop that may fail is followed without failure when an invariant says that no
step fails.  A loop that changes one row at a time changes each row by its own
function.
-/

namespace CppRcp.Foundation

structure RowCodec (α ρ : Type) where
  rowLen : Nat
  render : ρ → List α
  parse : List α → ρ
  length_render : ∀ row, (render row).length = rowLen

namespace RowCodec

variable {α ρ : Type} (codec : RowCodec α ρ)

def block (table : List ρ) : List α := (table.map codec.render).flatten

/-- The table after a write of `data` at `start` of its block. -/
def write (table : List ρ) (start : Nat) (data : List α) : List ρ :=
  (List.range table.length).map fun i =>
    codec.parse (slice (patch (codec.block table) start data)
      (i * codec.rowLen) codec.rowLen)

/-- The span has an element of row `i`. -/
def Covers (start length i : Nat) : Prop :=
  Overlaps start length (i * codec.rowLen) codec.rowLen

instance (start length i : Nat) : Decidable (codec.Covers start length i) :=
  inferInstanceAs (Decidable (Overlaps _ _ _ _))

/-- Every row outside the span is the same in both tables. -/
def KeepsUncovered (start length : Nat) (table after : List ρ) : Prop :=
  ∀ i row, table[i]? = some row → ¬ codec.Covers start length i →
    after[i]? = some row

def UncoveredExact (start length : Nat) (table : List ρ) : Prop :=
  ∀ i row, table[i]? = some row → ¬ codec.Covers start length i →
    codec.parse (codec.render row) = row

variable {codec} {table : List ρ} {start : Nat} {data : List α}

private theorem length_of_mem_images :
    ∀ image ∈ table.map codec.render, image.length = codec.rowLen := by
  intro image hMem
  obtain ⟨row, -, rfl⟩ := List.mem_map.mp hMem
  exact codec.length_render row

private theorem length_block :
    (codec.block table).length = table.length * codec.rowLen := by
  unfold block
  rw [length_flatten_rows length_of_mem_images, List.length_map]

private theorem length_write :
    (codec.write table start data).length = table.length := by
  simp [write]

private theorem slice_block {i : Nat} {row : ρ} (hRow : table[i]? = some row) :
    slice (codec.block table) (i * codec.rowLen) codec.rowLen =
      codec.render row := by
  apply slice_flatten length_of_mem_images
  rw [List.getElem?_map, hRow, Option.map_some]

private theorem getElem?_write_of_uncovered
    (hRange : start + data.length ≤ table.length * codec.rowLen) {i : Nat}
    {row : ρ} (hRow : table[i]? = some row)
    (hApart : ¬ codec.Covers start data.length i) :
    (codec.write table start data)[i]? =
      some (codec.parse (codec.render row)) := by
  have hLength : i < table.length := (List.getElem?_eq_some_iff.mp hRow).1
  have hImage : slice (patch (codec.block table) start data)
      (i * codec.rowLen) codec.rowLen = codec.render row := by
    rw [slice_patch (by rw [length_block]; exact hRange) hApart,
      slice_block hRow]
  simp [write, hLength, hImage]

theorem keepsUncovered_write_iff
    (hRange : start + data.length ≤ table.length * codec.rowLen) :
    codec.KeepsUncovered start data.length table
        (codec.write table start data) ↔
      codec.UncoveredExact start data.length table := by
  apply forall₃_congr
  intro i row hRow
  apply forall_congr'
  intro hApart
  rw [getElem?_write_of_uncovered hRange hRow hApart, Option.some_inj]

end RowCodec

/-! ## Reading a written block back -/

/-- Changes each element of a block of rows as its place in its row says. -/
def mapPlaces {α : Type} (keep : Nat → α → α) (stride : Nat)
    (block : List α) : List α :=
  block.mapIdx fun i a => keep (i % stride) a

section MapPlaces

variable {α ρ : Type} {keep : Nat → α → α} {stride : Nat}
  {block : List α}

theorem length_mapPlaces : (mapPlaces keep stride block).length =
    block.length := by
  simp [mapPlaces]

private theorem getElem?_mapPlaces (i : Nat) :
    (mapPlaces keep stride block)[i]? = block[i]?.map (keep (i % stride)) := by
  simp [mapPlaces]

theorem slice_mapPlaces {i : Nat} :
    slice (mapPlaces keep stride block) (i * stride) stride =
      (slice block (i * stride) stride).mapIdx keep := by
  apply List.ext_getElem?
  intro j
  rw [getElem?_slice, List.getElem?_mapIdx, getElem?_slice]
  split
  · next hj =>
      rw [getElem?_mapPlaces, Nat.mul_add_mod_of_lt hj]
  · rfl

theorem eq_of_rows (count stride : Nat) {a b : List α}
    (hA : a.length = count * stride) (hB : b.length = count * stride)
    (hRows : ∀ i < count,
      slice a (i * stride) stride = slice b (i * stride) stride) :
    a = b := by
  apply List.ext_getElem?
  intro j
  by_cases hj : j < count * stride
  · have hStride : 0 < stride := Nat.pos_of_lt_mul_left hj
    have hRow : j / stride < count := (Nat.div_lt_iff_lt_mul hStride).mpr hj
    have hPlace : j % stride < stride := Nat.mod_lt _ hStride
    have hSplit : j / stride * stride + j % stride = j :=
      Nat.div_add_mod' j stride
    have hElem := congrArg (fun row => row[j % stride]?) (hRows _ hRow)
    simpa [getElem?_slice, hPlace, hSplit] using hElem
  · rw [List.getElem?_eq_none (by omega), List.getElem?_eq_none (by omega)]

theorem mapPlaces_patch_congr {a b data : List α} {start : Nat}
    (hA : start + data.length ≤ a.length) (hB : start + data.length ≤ b.length)
    (h : mapPlaces keep stride a = mapPlaces keep stride b) :
    mapPlaces keep stride (patch a start data) =
      mapPlaces keep stride (patch b start data) := by
  apply List.ext_getElem?
  intro j
  rw [getElem?_mapPlaces, getElem?_mapPlaces]
  by_cases hj : start ≤ j ∧ j < start + data.length
  · rw [getElem?_patch_of_inside hA hj.1 hj.2,
      getElem?_patch_of_inside hB hj.1 hj.2]
  · rw [getElem?_patch_of_outside hA (by omega),
      getElem?_patch_of_outside hB (by omega), ← getElem?_mapPlaces,
      ← getElem?_mapPlaces, h]

/-- A codec whose row images read back as `keep` says has a block that, after
a write, is the one before it patched and read back. -/
theorem RowCodec.block_write {codec : RowCodec α ρ} {table : List ρ}
    {start : Nat} {data : List α}
    (hKeep : ∀ image, image.length = codec.rowLen →
      codec.render (codec.parse image) = image.mapIdx keep)
    (hRange : start + data.length ≤ table.length * codec.rowLen) :
    codec.block (codec.write table start data) =
      mapPlaces keep codec.rowLen (patch (codec.block table) start data) := by
  have hLength : (patch (codec.block table) start data).length =
      table.length * codec.rowLen := by
    rw [length_patch (by rw [RowCodec.length_block]; exact hRange),
      RowCodec.length_block]
  apply eq_of_rows table.length codec.rowLen
  · rw [RowCodec.length_block, RowCodec.length_write]
  · rw [length_mapPlaces, hLength]
  · intro i hi
    have hRow : (codec.write table start data)[i]? =
        some (codec.parse (slice (patch (codec.block table) start data)
          (i * codec.rowLen) codec.rowLen)) := by
      simp [RowCodec.write, hi]
    rw [RowCodec.slice_block hRow, slice_mapPlaces]
    apply hKeep
    apply length_slice
    rw [hLength, ← Nat.succ_mul]
    exact Nat.mul_le_mul_right _ hi

end MapPlaces

/-! ## Loops over rows -/

section Loop

variable {σ ι : Type} {f : σ → ι → Option σ} {g : σ → ι → σ}
  {invariant : σ → Prop}

theorem foldlM_eq_some {is : List ι} {s : σ} (hStart : invariant s)
    (hStep : ∀ s, invariant s → ∀ i ∈ is,
      f s i = some (g s i) ∧ invariant (g s i)) :
    is.foldlM f s = some (is.foldl g s) := by
  induction is generalizing s with
  | nil => rfl
  | cons i is ih =>
      obtain ⟨hHead, hNext⟩ := hStep s hStart i List.mem_cons_self
      have hRest := ih hNext fun s hs j hj =>
        hStep s hs j (List.mem_cons_of_mem i hj)
      simpa [hHead] using hRest

variable {ρ : Type} {rows : List ρ}

theorem foldl_modify_same (i : Nat) (h : ι → ρ → ρ) (is : List ι) :
    is.foldl (fun rows a => rows.modify i (h a)) rows =
      rows.modify i fun row => is.foldl (fun row a => h a row) row := by
  induction is generalizing rows with
  | nil => exact (List.modify_id i rows).symm
  | cons a is ih =>
      rw [List.foldl_cons, ih, List.modify_modify_eq]
      rfl

private theorem getElem?_foldl_modify (h : Nat → ρ → ρ) {is : List Nat}
    (hDistinct : is.Nodup) (j : Nat) :
    (is.foldl (fun rows i => rows.modify i (h i)) rows)[j]? =
      if j ∈ is then rows[j]?.map (h j) else rows[j]? := by
  induction is generalizing rows with
  | nil => simp
  | cons i is ih =>
      obtain ⟨hFresh, hRest⟩ := List.nodup_cons.mp hDistinct
      rw [List.foldl_cons, ih hRest]
      by_cases hij : i = j
      · subst hij
        simp [hFresh]
      · have hji : j ≠ i := fun hEq => hij hEq.symm
        simp [hij, hji]

theorem foldl_modify_eq_mapIdx (h : Nat → ρ → ρ) {is : List Nat}
    (hDistinct : is.Nodup) (hSkipped : ∀ i, i ∉ is → ∀ row, h i row = row) :
    is.foldl (fun rows i => rows.modify i (h i)) rows = rows.mapIdx h := by
  apply List.ext_getElem?
  intro j
  rw [getElem?_foldl_modify h hDistinct, List.getElem?_mapIdx]
  split
  · rfl
  · next hj =>
      cases rows[j]? with
      | none => rfl
      | some row => exact congrArg some (hSkipped j hj row).symm

end Loop

/-! ## Registers written as a block -/

/-- A configuration that is rendered as a block of registers.  A write patches
the block element by element, passes over the read-only places, and reads the
whole block back into the configuration. -/
structure RegisterBlock (α σ : Type) where
  len : Nat
  readOnly : Nat → Bool
  render : σ → List α
  parse : List α → σ → σ
  length_render : ∀ cfg, (render cfg).length = len

namespace RegisterBlock

variable {α σ : Type} (block : RegisterBlock α σ)

def image (cfg : σ) (start : Nat) (data : List α) : List α :=
  writeEach block.readOnly (block.render cfg) start data

def write (cfg : σ) (start : Nat) (data : List α) : σ :=
  block.parse (block.image cfg start data) cfg

def Writes (start length i : Nat) : Prop :=
  start ≤ i ∧ i < start + length ∧ block.readOnly i = false

instance (start length i : Nat) : Decidable (block.Writes start length i) :=
  inferInstanceAs (Decidable (_ ∧ _ ∧ _))

/-- A block that is read and rendered again has at each writable place what
`norm` makes of the element there, and its own elements elsewhere. -/
structure ReadsBack (norm : Nat → α → α) : Prop where
  readOnly : ∀ image cfg i, image.length = block.len → i < block.len →
    block.readOnly i = true →
      (block.render (block.parse image cfg))[i]? = (block.render cfg)[i]?
  writable : ∀ image cfg i, image.length = block.len → i < block.len →
    block.readOnly i = false →
      (block.render (block.parse image cfg))[i]? = image[i]?.map (norm i)
  rendered : ∀ cfg i, i < block.len → block.readOnly i = false →
    (block.render cfg)[i]?.map (norm i) = (block.render cfg)[i]?

variable {block} {norm : Nat → α → α} {cfg : σ} {start i : Nat}
  {data : List α}

private theorem length_image : (block.image cfg start data).length =
    block.len := by
  unfold image
  rw [length_writeEach, block.length_render]

theorem getElem?_image_of_writes (hRange : start + data.length ≤ block.len)
    (h : block.Writes start data.length i) :
    (block.image cfg start data)[i]? = data[i - start]? := by
  obtain ⟨hFrom, hTo, hWritable⟩ := h
  exact getElem?_writeEach_of_inside hFrom hTo
    (by rw [block.length_render]; omega) hWritable

theorem getElem?_image_of_not_writes (hWritable : block.readOnly i = false)
    (h : ¬ block.Writes start data.length i) :
    (block.image cfg start data)[i]? = (block.render cfg)[i]? := by
  apply getElem?_writeEach_of_outside
  unfold Writes at h
  by_contra hInside
  exact h ⟨by omega, by omega, hWritable⟩

private theorem getElem?_render_of_le (h : block.len ≤ i) :
    (block.render cfg)[i]? = none :=
  List.getElem?_eq_none (by rw [block.length_render]; exact h)

theorem render_write_of_writes (hBack : block.ReadsBack norm)
    (hRange : start + data.length ≤ block.len)
    (h : block.Writes start data.length i) :
    (block.render (block.write cfg start data))[i]? =
      data[i - start]?.map (norm i) := by
  have hInside : i < block.len := h.2.1.trans_le hRange
  unfold write
  rw [hBack.writable _ _ _ length_image hInside h.2.2,
    getElem?_image_of_writes hRange h]

theorem render_write_of_not_writes (hBack : block.ReadsBack norm)
    (h : ¬ block.Writes start data.length i) :
    (block.render (block.write cfg start data))[i]? =
      (block.render cfg)[i]? := by
  by_cases hInside : i < block.len
  · unfold write
    cases hPlace : block.readOnly i with
    | true => exact hBack.readOnly _ _ _ length_image hInside hPlace
    | false =>
        rw [hBack.writable _ _ _ length_image hInside hPlace,
          getElem?_image_of_not_writes hPlace h,
          hBack.rendered _ _ hInside hPlace]
  · rw [getElem?_render_of_le (not_lt.mp hInside),
      getElem?_render_of_le (not_lt.mp hInside)]

end RegisterBlock

end CppRcp.Foundation
