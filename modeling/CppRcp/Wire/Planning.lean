import CppRcp.Wire.Fragment

/-!
# How a payload is planned

`plan` cuts a payload into consecutive segments: all but the last are full, are
numbered from 0 on and are marked as followed by more.
-/

namespace CppRcp.Fragment

open CppRcp.Foundation

/-- The total length of the first `i` segments. -/
def lengthBefore (segments : List Segment) (i : Nat) : Nat :=
  ((segments.take i).map Segment.len).sum

/-- Segments that tile a payload of the given length, each within the maximum,
and all but the last followed by more and numbered in order. -/
structure TilesPayload (len ceiling : Nat) (segments : List Segment) :
    Prop where
  nonempty : segments ≠ []
  offset : ∀ i segment, segments[i]? = some segment →
    segment.offset = lengthBefore segments i
  total : lengthBefore segments segments.length = len
  bounded : ∀ segment ∈ segments, segment.len ≤ ceiling
  ms : ∀ i segment, segments[i]? = some segment →
    segment.ms = decide (i + 1 < segments.length)
  number : ∀ i segment, segments[i]? = some segment →
    segment.segmentNum.toNat = if i + 1 < segments.length then i else 0

/-! ## Plans -/

section Plan

variable {len ceiling : Nat}

theorem lengthBefore_succ {segments : List Segment} {i : Nat}
    {segment : Segment} (h : segments[i]? = some segment) :
    lengthBefore segments (i + 1) = lengthBefore segments i + segment.len := by
  unfold lengthBefore
  rw [List.take_add_one, h, Option.toList_some, List.map_append,
    List.sum_append]
  simp

theorem planCount_of_le (h : len ≤ ceiling) (hPos : 0 < ceiling) :
    planCount len ceiling = 1 := by
  unfold planCount
  rw [if_neg (Nat.ne_of_gt hPos), if_pos h, ite_self]

theorem planCount_ne_zero (hPos : 0 < ceiling)
    (hShort : len ≤ defaultReassemblyCapacity) :
    planCount len ceiling ≠ 0 := by
  unfold planCount
  by_cases hEmpty : len = 0
  · simp [hEmpty]
  · rw [if_neg hEmpty, if_neg (Nat.ne_of_gt hPos)]
    have hCount : (len + ceiling - 1) / ceiling ≤ len := by
      apply Nat.div_le_of_le_mul
      obtain ⟨m, rfl⟩ := Nat.exists_eq_succ_of_ne_zero hEmpty
      obtain ⟨c, rfl⟩ := Nat.exists_eq_succ_of_ne_zero (Nat.ne_of_gt hPos)
      simp only [Nat.succ_eq_add_one]
      ring_nf
      omega
    unfold defaultReassemblyCapacity at hShort
    unfold maxIntermediateSegments
    split
    · simp
    · dsimp only
      rw [if_neg (by omega)]
      intro hZero
      rw [Nat.div_eq_zero_iff] at hZero
      omega

theorem planCount_spec {len ceiling : Nat} (hLong : ceiling < len)
    (hCount : planCount len ceiling ≠ 0) :
    0 < ceiling ∧ 2 ≤ planCount len ceiling ∧
      (planCount len ceiling - 1) * ceiling < len ∧
      len ≤ planCount len ceiling * ceiling ∧
      planCount len ceiling ≤ 4097 := by
  unfold planCount at hCount ⊢
  rw [if_neg (by omega)] at hCount ⊢
  split at hCount
  · exact absurd rfl hCount
  · next hPos =>
      rw [if_neg hPos, if_neg (by omega)]
      rw [if_neg (by omega)] at hCount
      dsimp only at hCount ⊢
      by_cases hMany :
          maxIntermediateSegments < (len + ceiling - 1) / ceiling - 1
      · rw [if_pos hMany] at hCount
        exact absurd rfl hCount
      · rw [if_neg hMany]
        simp only [maxIntermediateSegments] at hMany
        have hDiv := Nat.div_add_mod (len + ceiling - 1) ceiling
        have hMod := Nat.mod_lt (len + ceiling - 1) (Nat.pos_of_ne_zero hPos)
        generalize (len + ceiling - 1) / ceiling = count at hDiv hMany ⊢
        rw [Nat.mul_comm] at hDiv
        have hTwo : 2 ≤ count := by
          by_contra hLt
          have hOne : count * ceiling ≤ 1 * ceiling :=
            Nat.mul_le_mul_right _ (by omega)
          omega
        have hPred : (count - 1) * ceiling + ceiling = count * ceiling := by
          rw [← Nat.succ_mul]
          congr 1
          omega
        omega

def manySegments (len ceiling count : Nat) : List Segment :=
  (List.range (count - 1)).map (fun i =>
      ⟨i * ceiling, ceiling, true, UInt16.ofNat i⟩) ++
    [⟨(count - 1) * ceiling, len - (count - 1) * ceiling, false, 0⟩]

theorem getElem?_manySegments {count i : Nat} (hi : i < count - 1) :
    (manySegments len ceiling count)[i]? =
      some ⟨i * ceiling, ceiling, true, UInt16.ofNat i⟩ := by
  unfold manySegments
  rw [List.getElem?_append_left (by simpa using hi), List.getElem?_map,
    List.getElem?_range hi, Option.map_some]

private theorem getElem?_manySegments_last (count : Nat) :
    (manySegments len ceiling count)[count - 1]? =
      some ⟨(count - 1) * ceiling, len - (count - 1) * ceiling, false, 0⟩ := by
  unfold manySegments
  rw [List.getElem?_append_right (by simp)]
  simp

theorem length_manySegments {count : Nat} (hCount : 0 < count) :
    (manySegments len ceiling count).length = count := by
  simp [manySegments]
  omega

private theorem lengthBefore_manySegments {count i : Nat} (hi : i ≤ count - 1) :
    lengthBefore (manySegments len ceiling count) i = i * ceiling := by
  induction i with
  | zero => simp [lengthBefore]
  | succ i ih =>
      rw [lengthBefore_succ (getElem?_manySegments hi), ih (by omega),
        Nat.succ_mul]

private theorem tilesPayload_manySegments {count : Nat} (hTwo : 2 ≤ count)
    (hBelow : (count - 1) * ceiling < len) (hAbove : len ≤ count * ceiling)
    (hFew : count ≤ 4097) :
    TilesPayload len ceiling (manySegments len ceiling count) := by
  have hLength := @length_manySegments len ceiling count (by omega)
  have hLast : (count - 1) * ceiling + ceiling = count * ceiling := by
    rw [← Nat.succ_mul]
    congr 1
    omega
  -- a segment is one of the full ones, or the last
  have hCases : ∀ i segment,
      (manySegments len ceiling count)[i]? = some segment →
      i < count - 1 ∧ segment = ⟨i * ceiling, ceiling, true, UInt16.ofNat i⟩ ∨
        i = count - 1 ∧ segment =
          ⟨(count - 1) * ceiling, len - (count - 1) * ceiling, false, 0⟩ := by
    intro i segment hSegment
    have hi := (List.getElem?_eq_some_iff.mp hSegment).1
    rw [hLength] at hi
    by_cases hFull : i < count - 1
    · rw [getElem?_manySegments hFull] at hSegment
      exact .inl ⟨hFull, (Option.some_inj.mp hSegment).symm⟩
    · have hEq : i = count - 1 := by omega
      subst hEq
      rw [getElem?_manySegments_last] at hSegment
      exact .inr ⟨rfl, (Option.some_inj.mp hSegment).symm⟩
  constructor
  case nonempty => simp [manySegments]
  case offset =>
    intro i segment hSegment
    obtain ⟨hi, rfl⟩ | ⟨rfl, rfl⟩ := hCases i segment hSegment
    · exact (lengthBefore_manySegments (by omega)).symm
    · exact (lengthBefore_manySegments le_rfl).symm
  case total =>
    have hTotal := lengthBefore_succ
      (@getElem?_manySegments_last len ceiling count)
    rw [lengthBefore_manySegments le_rfl, Nat.sub_add_cancel (by omega)]
      at hTotal
    rw [hLength, hTotal]
    dsimp only
    omega
  case bounded =>
    intro segment hMem
    obtain ⟨i, hSegment⟩ := List.mem_iff_getElem?.mp hMem
    obtain ⟨-, rfl⟩ | ⟨-, rfl⟩ := hCases i segment hSegment
    · exact le_rfl
    · dsimp only
      omega
  case ms =>
    intro i segment hSegment
    rw [hLength]
    obtain ⟨hi, rfl⟩ | ⟨rfl, rfl⟩ := hCases i segment hSegment
    · exact (decide_eq_true (by omega)).symm
    · exact (decide_eq_false (by omega)).symm
  case number =>
    intro i segment hSegment
    rw [hLength]
    obtain ⟨hi, rfl⟩ | ⟨rfl, rfl⟩ := hCases i segment hSegment
    · rw [if_pos (by omega), UInt16.toNat_ofNat']
      omega
    · rw [if_neg (by omega)]
      rfl

private theorem tilesPayload_single (hFits : len ≤ ceiling) :
    TilesPayload len ceiling [⟨0, len, false, 0⟩] := by
  have hOnly : ∀ i segment,
      ([⟨0, len, false, 0⟩] : List Segment)[i]? = some segment →
        i = 0 ∧ segment = ⟨0, len, false, 0⟩ := by
    intro i segment hSegment
    rw [List.getElem?_singleton] at hSegment
    split at hSegment
    · next hZero => exact ⟨hZero, (Option.some_inj.mp hSegment).symm⟩
    · cases hSegment
  constructor
  case nonempty => simp
  case total => simp [lengthBefore]
  case bounded => simpa using hFits
  all_goals
    intro i segment hSegment
    obtain ⟨rfl, rfl⟩ := hOnly i segment hSegment
    rfl

theorem plan_eq_manySegments (hLong : ceiling < len)
    (hCount : planCount len ceiling ≠ 0) :
    plan len ceiling (planCount len ceiling) =
      .ok (manySegments len ceiling (planCount len ceiling)) := by
  obtain ⟨-, hTwo, -⟩ := planCount_spec hLong hCount
  unfold plan
  dsimp only
  rw [if_neg hCount, if_neg (by simp), if_neg (by omega)]
  rfl

theorem tilesPayload_plan (hLong : ceiling < len)
    (hCount : planCount len ceiling ≠ 0) :
    TilesPayload len ceiling
      (manySegments len ceiling (planCount len ceiling)) := by
  obtain ⟨-, hTwo, hBelow, hAbove, hFew⟩ := planCount_spec hLong hCount
  exact tilesPayload_manySegments hTwo hBelow hAbove hFew

theorem exists_plan_of_count (hCount : planCount len ceiling ≠ 0) :
    ∃ segments, plan len ceiling (planCount len ceiling) = .ok segments ∧
      segments.length = planCount len ceiling ∧ segments.length ≤ 4097 ∧
        TilesPayload len ceiling segments := by
  by_cases hFits : len ≤ ceiling
  · have hOne : planCount len ceiling = 1 := by
      by_cases hPos : 0 < ceiling
      · exact planCount_of_le hFits hPos
      · have hEmpty : len = 0 := by omega
        simp [planCount, hEmpty]
    refine ⟨[⟨0, len, false, 0⟩], ?_, ?_, ?_, tilesPayload_single hFits⟩
    · simp [plan, hOne]
    · rw [hOne]
      rfl
    · simp
  · obtain ⟨-, hTwo, -, -, hFew⟩ := planCount_spec (not_le.mp hFits) hCount
    have hLength := @length_manySegments len ceiling (planCount len ceiling)
      (by omega)
    exact ⟨manySegments len ceiling (planCount len ceiling),
      plan_eq_manySegments (not_le.mp hFits) hCount, hLength,
      hLength.trans_le hFew, tilesPayload_plan (not_le.mp hFits) hCount⟩

theorem exists_plan (hPos : 0 < ceiling)
    (hShort : len ≤ defaultReassemblyCapacity) :
    ∃ segments, plan len ceiling (planCount len ceiling) = .ok segments ∧
      segments.length = planCount len ceiling ∧
        TilesPayload len ceiling segments := by
  obtain ⟨segments, hPlan, hLength, -, hTiles⟩ :=
    exists_plan_of_count (planCount_ne_zero hPos hShort)
  exact ⟨segments, hPlan, hLength, hTiles⟩

end Plan

/-! ## Segments that tile a payload -/

section Tiles

variable {payload : Octets} {ceiling : Nat} {segments : List Segment}

theorem lengthBefore_le {i : Nat} :
    lengthBefore segments i ≤ lengthBefore segments segments.length := by
  unfold lengthBefore
  rw [List.take_length]
  exact ((List.take_sublist i segments).map Segment.len).sum_le_sum
    fun _ _ => Nat.zero_le _

theorem take_append_slice (hTiles : TilesPayload payload.length ceiling segments)
    {i : Nat} {segment : Segment} (hSegment : segments[i]? = some segment) :
    payload.take (lengthBefore segments i) ++ segment.slice payload =
      payload.take (lengthBefore segments (i + 1)) := by
  rw [lengthBefore_succ hSegment, Segment.slice, hTiles.offset i segment hSegment,
    List.take_add]

theorem TilesPayload.end_le {len : Nat}
    (h : TilesPayload len ceiling segments) {i : Nat} {segment : Segment}
    (hSegment : segments[i]? = some segment) :
    segment.offset + segment.len ≤ len := by
  have hLe := @lengthBefore_le segments (i + 1)
  rwa [h.total, lengthBefore_succ hSegment, ← h.offset i segment hSegment]
    at hLe

theorem TilesPayload.flatten_slices
    (h : TilesPayload payload.length ceiling segments) :
    (segments.map fun segment => segment.slice payload).flatten = payload := by
  have hTake : ∀ i, i ≤ segments.length →
      ((segments.take i).map fun segment => segment.slice payload).flatten =
        payload.take (lengthBefore segments i) := by
    intro i
    induction i with
    | zero => simp [lengthBefore]
    | succ i ih =>
        intro hLe
        have hSegment := List.getElem?_eq_getElem hLe
        rw [List.take_add_one, hSegment, Option.toList_some, List.map_append,
          List.flatten_append, ih (Nat.le_of_succ_le hLe),
          ← take_append_slice h hSegment]
        simp
  have hWhole := hTake segments.length le_rfl
  rwa [List.take_length, h.total, List.take_length] at hWhole

end Tiles

end CppRcp.Fragment
