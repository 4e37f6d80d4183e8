import CppRcp.Foundation.Table
import Mathlib.Data.Finmap

/-!
# Tables of keyed slots

A fixed number of slots, of which the first `len` are in use, each under a key
of its own.  A key is looked up by a linear scan.  Removing a key moves the
last slot in use to its place.  Whatever the order of the slots, the table is a
finite map.
-/

namespace CppRcp.Foundation

theorem perm_dropLast_set {α : Type} {l : List α} {i : Nat} {last : α}
    (hi : i < l.length) (hLast : l.getLast? = some last) :
    ((l.set i last).dropLast).Perm (l.eraseIdx i) := by
  obtain ⟨before, x, after, rfl, rfl⟩ :
      ∃ before x after, l = before ++ x :: after ∧ before.length = i :=
    ⟨l.take i, l[i], l.drop (i + 1), by simp, by simp; omega⟩
  rw [List.set_append_right _ _ le_rfl, Nat.sub_self, List.set_cons_zero,
    List.eraseIdx_append_of_length_le le_rfl, Nat.sub_self,
    List.eraseIdx_cons_zero]
  cases after using List.reverseRecOn with
  | nil => simp
  | append_singleton middle y =>
      rw [← List.cons_append, ← List.append_assoc, List.getLast?_concat,
        Option.some_inj] at hLast
      subst hLast
      rw [← List.cons_append, ← List.append_assoc, List.dropLast_concat,
        List.perm_append_left_iff]
      exact (List.perm_append_singleton y middle).symm

structure SlotTable (κ ν : Type) (size : Nat) where
  slots : Table (κ × ν) size
  len : Nat
  len_le : len ≤ size
  distinct : ((slots.toList.take len).map Prod.fst).Nodup

namespace SlotTable

variable {κ ν : Type} {size : Nat}

def empty [Inhabited κ] [Inhabited ν] : SlotTable κ ν size where
  slots := Table.replicate size default
  len := 0
  len_le := Nat.zero_le size
  distinct := by simp

def live (t : SlotTable κ ν size) : List (κ × ν) := t.slots.toList.take t.len

private theorem distinct_live (t : SlotTable κ ν size) :
    (t.live.map Prod.fst).Nodup := t.distinct

private theorem length_live (t : SlotTable κ ν size) : t.live.length = t.len :=
    by
  unfold live
  rw [List.length_take, t.slots.length_eq, Nat.min_eq_left t.len_le]

private theorem nodupKeys_live (t : SlotTable κ ν size) :
    (t.live.map Prod.toSigma).NodupKeys := by
  have hKeys : (t.live.map Prod.toSigma).keys = t.live.map Prod.fst := by
    simp [List.keys, Function.comp_def]
  rw [List.NodupKeys, hKeys]
  exact t.distinct

section Lookup

variable [DecidableEq κ] (t : SlotTable κ ν size) {key other : κ} {value : ν}
  {i : Nat}

def findIndex (key : κ) : Option Nat :=
  t.live.findIdx? fun slot => slot.1 = key

def get? (key : κ) : Option ν :=
  (t.findIndex key).bind fun i => t.live[i]?.map Prod.snd

def toMap : Finmap fun _ : κ => ν :=
  (t.live.map Prod.toSigma).toFinmap

variable {t}

private theorem findIndex_eq_some_iff :
    t.findIndex key = some i ↔ ∃ value, t.live[i]? = some (key, value) := by
  unfold findIndex
  rw [List.findIdx?_eq_some_iff_getElem]
  constructor
  · rintro ⟨hi, hKey, -⟩
    refine ⟨t.live[i].2, ?_⟩
    rw [List.getElem?_eq_getElem hi, ← of_decide_eq_true hKey]
  · rintro ⟨value, hSlot⟩
    obtain ⟨hi, hEq⟩ := List.getElem?_eq_some_iff.mp hSlot
    refine ⟨hi, by simp [hEq], fun j hji hKey => ?_⟩
    have hj : j < t.live.length := hji.trans hi
    have hSame : (t.live.map Prod.fst)[j]? = (t.live.map Prod.fst)[i]? := by
      simpa [hi, hj, hEq] using hKey
    have hIndex := (List.getElem?_inj (by simpa using hj)
      t.distinct_live).mp hSame
    omega

private theorem findIndex_eq_none_iff :
    t.findIndex key = none ↔ key ∉ t.live.map Prod.fst := by
  unfold findIndex
  rw [List.findIdx?_eq_none_iff, List.mem_map]
  simp only [decide_eq_false_iff_not]
  exact ⟨fun h ⟨slot, hMem, hKey⟩ => h slot hMem hKey,
    fun h slot hMem hKey => h ⟨slot, hMem, hKey⟩⟩

private theorem get?_eq_some_iff :
    t.get? key = some value ↔ (key, value) ∈ t.live := by
  unfold get?
  rw [List.mem_iff_getElem?, Option.bind_eq_some_iff]
  constructor
  · rintro ⟨i, hIndex, hValue⟩
    obtain ⟨found, hSlot⟩ := findIndex_eq_some_iff.mp hIndex
    rw [hSlot, Option.map_some, Option.some_inj] at hValue
    exact ⟨i, hValue ▸ hSlot⟩
  · rintro ⟨i, hSlot⟩
    exact ⟨i, findIndex_eq_some_iff.mpr ⟨value, hSlot⟩, by simp [hSlot]⟩

private theorem lookup_toMap_eq_some_iff :
    t.toMap.lookup key = some value ↔ (key, value) ∈ t.live := by
  unfold toMap
  rw [Finmap.dlookup_list_toFinmap]
  refine (List.mem_dlookup_iff t.nodupKeys_live).trans ?_
  simp [Sigma.ext_iff]

private theorem lookup_toMap (key : κ) : t.toMap.lookup key = t.get? key := by
  ext value
  exact lookup_toMap_eq_some_iff.trans get?_eq_some_iff.symm

theorem lookup_toMap_of_none (h : t.findIndex key = none) :
    t.toMap.lookup key = none := by
  rw [lookup_toMap, get?, h, Option.bind_none]

theorem lookup_toMap_of_some [Inhabited κ] [Inhabited ν]
    (h : t.findIndex key = some i) :
    t.toMap.lookup key = some (t.slots.get i).2 := by
  obtain ⟨value, hSlot⟩ := findIndex_eq_some_iff.mp h
  have hUsed := (List.getElem?_eq_some_iff.mp hSlot).1
  rw [length_live] at hUsed
  have hGet : t.slots.get i = (key, value) := by
    rw [live, List.getElem?_take_of_lt hUsed] at hSlot
    rw [Table.get, List.getD_eq_getElem?_getD, hSlot, Option.getD_some]
  rw [lookup_toMap, get?, h, Option.bind_some, hSlot, hGet, Option.map_some]

theorem card_keys_toMap : t.toMap.keys.card = t.len := by
  have hKeys : t.toMap.keys = (t.live.map Prod.fst).toFinset := by
    ext key
    rw [Finmap.mem_keys, Finmap.mem_iff, List.mem_toFinset, List.mem_map]
    simp only [lookup_toMap_eq_some_iff]
    simp
  rw [hKeys, List.toFinset_card_of_nodup t.distinct_live, List.length_map,
    length_live]

end Lookup

/-! ## Operations -/

section Push

variable {t : SlotTable κ ν size}

private theorem take_set_len (slot : κ × ν) (hRoom : t.len < size) :
    (t.slots.set t.len slot).toList.take (t.len + 1) = t.live ++ [slot] := by
  have hLength : t.len < t.slots.toList.length := by
    rwa [t.slots.length_eq]
  unfold Table.set live
  rw [List.take_set, List.take_succ_eq_append_getElem hLength,
    List.set_append_right _ _ (by simp)]
  simp [Nat.min_eq_left hLength.le]

variable [DecidableEq κ]

def push (t : SlotTable κ ν size) (key : κ) (value : ν)
    (hFresh : t.findIndex key = none) (hRoom : t.len < size) :
    SlotTable κ ν size where
  slots := t.slots.set t.len (key, value)
  len := t.len + 1
  len_le := hRoom
  distinct := by
    rw [take_set_len _ hRoom, List.map_append]
    exact t.distinct_live.append (List.nodup_singleton _)
      (List.disjoint_singleton.mpr (findIndex_eq_none_iff.mp hFresh))

theorem toMap_push {key : κ} {value : ν} (hFresh : t.findIndex key = none)
    (hRoom : t.len < size) :
    (t.push key value hFresh hRoom).toMap = t.toMap.insert key value := by
  have hLive : (t.push key value hFresh hRoom).live =
      t.live ++ [(key, value)] := take_set_len _ hRoom
  apply Finmap.ext_lookup
  intro other
  ext found
  rw [lookup_toMap_eq_some_iff, hLive, List.mem_append, List.mem_singleton]
  by_cases hKey : other = key
  · subst hKey
    have hNot : (other, found) ∉ t.live := fun hMem =>
      findIndex_eq_none_iff.mp hFresh (List.mem_map_of_mem hMem)
    simp [hNot, eq_comm]
  · rw [Finmap.lookup_insert_of_ne _ hKey, lookup_toMap_eq_some_iff]
    simp [hKey]

end Push

section Slot

variable [DecidableEq κ] {t : SlotTable κ ν size} {key other : κ} {i : Nat}
  {value found : ν}

private theorem mem_eraseIdx_live (hIndex : t.findIndex key = some i) :
    (other, found) ∈ t.live.eraseIdx i ↔
      other ≠ key ∧ (other, found) ∈ t.live := by
  obtain ⟨old, hSlot⟩ := findIndex_eq_some_iff.mp hIndex
  obtain ⟨hi, hEq⟩ := List.getElem?_eq_some_iff.mp hSlot
  have hPerm := List.getElem_cons_eraseIdx_perm hi
  rw [hEq] at hPerm
  have hDistinct := (hPerm.map Prod.fst).nodup_iff.mpr t.distinct_live
  obtain ⟨hNot, -⟩ := List.nodup_cons.mp hDistinct
  rw [← hPerm.mem_iff, List.mem_cons, Prod.mk_inj]
  constructor
  · intro hMem
    refine ⟨?_, Or.inr hMem⟩
    rintro rfl
    exact hNot (List.mem_map.mpr ⟨_, hMem, rfl⟩)
  · rintro ⟨hNe, ⟨hKey, -⟩ | hMem⟩
    · exact absurd hKey hNe
    · exact hMem

private theorem map_fst_take_set (value : ν)
    (hIndex : t.findIndex key = some i) :
    ((t.slots.set i (key, value)).toList.take t.len).map Prod.fst =
      t.live.map Prod.fst := by
  obtain ⟨old, hSlot⟩ := findIndex_eq_some_iff.mp hIndex
  have hKey : (t.live.map Prod.fst)[i]? = some key := by simp [hSlot]
  obtain ⟨hi, hEq⟩ := List.getElem?_eq_some_iff.mp hKey
  unfold Table.set
  rw [List.take_set, List.map_set]
  exact hEq ▸ List.set_getElem_self hi

def put (t : SlotTable κ ν size) (key : κ) (i : Nat) (value : ν)
    (hIndex : t.findIndex key = some i) : SlotTable κ ν size where
  slots := t.slots.set i (key, value)
  len := t.len
  len_le := t.len_le
  distinct := by
    rw [map_fst_take_set value hIndex]
    exact t.distinct_live

theorem toMap_put (hIndex : t.findIndex key = some i) :
    (t.put key i value hIndex).toMap = t.toMap.insert key value := by
  obtain ⟨old, hSlot⟩ := findIndex_eq_some_iff.mp hIndex
  have hLive : (t.put key i value hIndex).live =
      t.live.set i (key, value) := List.take_set
  have hi : i < t.live.length := (List.getElem?_eq_some_iff.mp hSlot).1
  apply Finmap.ext_lookup
  intro other
  ext found
  rw [lookup_toMap_eq_some_iff, hLive,
    (List.set_perm_cons_eraseIdx hi _).mem_iff, List.mem_cons,
    mem_eraseIdx_live hIndex]
  by_cases hKey : other = key
  · subst hKey
    simp [eq_comm]
  · rw [Finmap.lookup_insert_of_ne _ hKey, lookup_toMap_eq_some_iff]
    simp [hKey]

variable [Inhabited κ] [Inhabited ν]

private theorem live_fill (hIndex : t.findIndex key = some i) :
    ((t.slots.set i (t.slots.get (t.len - 1))).toList.take (t.len - 1)).Perm
      (t.live.eraseIdx i) := by
  obtain ⟨old, hSlot⟩ := findIndex_eq_some_iff.mp hIndex
  obtain ⟨hi, -⟩ := List.getElem?_eq_some_iff.mp hSlot
  have hLast : t.live.getLast? = some (t.slots.get (t.len - 1)) := by
    have hUsed : t.len - 1 < t.len := by
      rw [length_live] at hi
      omega
    rw [List.getLast?_eq_getElem?, length_live, live,
      List.getElem?_take_of_lt hUsed, Table.get, List.getD_eq_getElem?_getD,
      List.getElem?_eq_getElem
        (hUsed.trans_le (t.slots.length_eq.symm ▸ t.len_le)),
      Option.getD_some]
  have hPerm := perm_dropLast_set hi hLast
  rw [List.dropLast_eq_take, List.length_set, length_live] at hPerm
  unfold live at hPerm
  rw [← List.take_set, List.take_take, Nat.min_eq_left (Nat.sub_le _ _)]
    at hPerm
  exact hPerm

def remove (t : SlotTable κ ν size) (key : κ) (i : Nat)
    (hIndex : t.findIndex key = some i) : SlotTable κ ν size where
  slots := t.slots.set i (t.slots.get (t.len - 1))
  len := t.len - 1
  len_le := (Nat.sub_le _ _).trans t.len_le
  distinct := by
    rw [((live_fill hIndex).map Prod.fst).nodup_iff]
    exact t.distinct_live.sublist ((List.eraseIdx_sublist _ _).map _)

theorem toMap_remove (hIndex : t.findIndex key = some i) :
    (t.remove key i hIndex).toMap = t.toMap.erase key := by
  have hLive : (t.remove key i hIndex).live.Perm (t.live.eraseIdx i) :=
    live_fill hIndex
  apply Finmap.ext_lookup
  intro other
  ext found
  rw [lookup_toMap_eq_some_iff, hLive.mem_iff, mem_eraseIdx_live hIndex]
  by_cases hKey : other = key
  · subst hKey
    simp
  · rw [Finmap.lookup_erase_ne hKey, lookup_toMap_eq_some_iff]
    simp [hKey]

end Slot

end SlotTable

end CppRcp.Foundation
