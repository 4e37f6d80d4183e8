import CppRcp.Wire.RespQueue

/-!
# Queueing several frames in a row

A push that finds no room evicts the entry with the lowest sequence number.
When a batch of frames is pushed, that entry may be a frame of the batch.  The
batch ends up whole exactly if, each time its next frame needs room, an older
entry is left whose number is not above those of the frames already pushed.
-/

namespace CppRcp.Respqueue

open CppRcp.Foundation

/-! ## The lowest entry -/

private theorem mem_of_splitLowest {entries rest : List Entry} {lowest : Entry}
    (h : splitLowest entries = some (lowest, rest)) : lowest ∈ entries :=
  (splitLowest_eq_some h).symm.subset List.mem_cons_self

private theorem subset_of_splitLowest {entries rest : List Entry}
    {lowest : Entry}
    (h : splitLowest entries = some (lowest, rest)) : rest ⊆ entries :=
  fun _ hEntry =>
    (splitLowest_eq_some h).symm.subset (List.mem_cons_of_mem _ hEntry)

theorem splitLowest_le {entries rest : List Entry} {lowest : Entry}
    (h : splitLowest entries = some (lowest, rest)) :
    ∀ entry ∈ entries, lowest.sequenceNum ≤ entry.sequenceNum := by
  induction entries generalizing lowest rest with
  | nil => cases h
  | cons head tail ih =>
      simp only [splitLowest] at h
      split at h
      · next hNone =>
          cases h
          rw [splitLowest_eq_none hNone]
          simp
      · next low others hSome =>
          have hTail := ih hSome
          split at h
          · next hLower =>
              cases h
              intro entry hEntry
              rcases List.mem_cons.mp hEntry with rfl | hRest
              · exact UInt8.le_of_lt hLower
              · exact hTail entry hRest
          · next hNot =>
              cases h
              intro entry hEntry
              rcases List.mem_cons.mp hEntry with rfl | hRest
              · exact UInt8.le_refl _
              · exact UInt8.le_trans (UInt8.not_lt.mp hNot) (hTail entry hRest)

private theorem splitLowest_cons_of_le {head : Entry} {tail : List Entry}
    (h : ∀ entry ∈ tail, head.sequenceNum ≤ entry.sequenceNum) :
    splitLowest (head :: tail) = some (head, tail) := by
  simp only [splitLowest]
  split
  · next hNone => rw [splitLowest_eq_none hNone]
  · next low others hSome =>
      rw [if_neg (UInt8.not_lt.mpr (h low (mem_of_splitLowest hSome)))]

private theorem splitLowest_append {old own rest : List Entry} {lowest : Entry}
    (h : splitLowest old = some (lowest, rest))
    (hOwn : ∀ entry ∈ own, lowest.sequenceNum ≤ entry.sequenceNum) :
    splitLowest (old ++ own) = some (lowest, rest ++ own) := by
  induction old generalizing rest with
  | nil => cases h
  | cons head tail ih =>
      have hLe := splitLowest_le h
      simp only [splitLowest] at h
      split at h
      · next hNone =>
          cases h
          rw [splitLowest_eq_none hNone]
          exact splitLowest_cons_of_le hOwn
      · next low others hSome =>
          split at h
          · next hLower =>
              cases h
              rw [List.cons_append, splitLowest, ih hSome]
              simp only [hLower, if_true, List.cons_append]
          · cases h
            apply splitLowest_cons_of_le
            intro entry hEntry
            rcases List.mem_append.mp hEntry with hTail | hNew
            · exact hLe entry (List.mem_cons_of_mem _ hTail)
            · exact hOwn entry hNew

/-- Some older entry is left, with a number not above those of `own`. -/
def Spares (old own : List Entry) : Prop :=
  ∃ lowest rest, splitLowest old = some (lowest, rest) ∧
    ∀ entry ∈ own, lowest.sequenceNum ≤ entry.sequenceNum

private theorem splitLowest_of_not_spares {old own rest : List Entry}
    {lowest : Entry} (h : ¬Spares old own)
    (hNodup : (own.map Entry.sequenceNum).Nodup)
    (hSplit : splitLowest (old ++ own) = some (lowest, rest)) :
    lowest ∈ own ∧ ∀ entry ∈ rest, entry.sequenceNum ≠ lowest.sequenceNum := by
  have hBelow : ∀ entry ∈ old, lowest.sequenceNum < entry.sequenceNum := by
    intro entry hEntry
    cases hOld : splitLowest old with
    | none =>
        rw [splitLowest_eq_none hOld] at hEntry
        cases hEntry
    | some split =>
        obtain ⟨first, others⟩ := split
        by_contra hNot
        refine h ⟨first, others, hOld, fun own' hOwn => ?_⟩
        have hFirst := splitLowest_le hOld entry hEntry
        have hLowest := splitLowest_le hSplit own'
          (List.mem_append_right _ hOwn)
        exact UInt8.le_trans hFirst
          (UInt8.le_trans (UInt8.not_lt.mp hNot) hLowest)
  have hMem : lowest ∈ own := by
    rcases List.mem_append.mp (mem_of_splitLowest hSplit) with hOld | hOwn
    · exact absurd (hBelow lowest hOld) (UInt8.lt_irrefl _)
    · exact hOwn
  refine ⟨hMem, fun entry hEntry hSame => ?_⟩
  have hPerm := (splitLowest_eq_some hSplit).map Entry.sequenceNum
  have hCount := hPerm.count_eq lowest.sequenceNum
  have hOld : (old.map Entry.sequenceNum).count lowest.sequenceNum = 0 := by
    rw [List.count_eq_zero]
    intro hIn
    obtain ⟨older, hOlder, hEq⟩ := List.mem_map.mp hIn
    have hLt := hBelow older hOlder
    rw [hEq] at hLt
    exact UInt8.lt_irrefl _ hLt
  have hOwn : (own.map Entry.sequenceNum).count lowest.sequenceNum ≤ 1 :=
    List.nodup_iff_count_le_one.mp hNodup _
  have hRest : 0 < (rest.map Entry.sequenceNum).count lowest.sequenceNum :=
    List.count_pos_iff.mpr (List.mem_map.mpr ⟨entry, hEntry, hSame⟩)
  rw [List.map_append, List.count_append, hOld, List.map_cons,
    List.count_cons_self] at hCount
  omega

/-! ## Dropping the lowest entries -/

def dropLowest (entries : List Entry) : Nat → List Entry
  | 0 => entries
  | count + 1 =>
      match splitLowest (dropLowest entries count) with
      | none => []
      | some (_, rest) => rest

/-- The queue takes the frames on top of the entries without evicting. -/
def HasRoomFor (capacityOctets : Nat) (entries : List Entry)
    (frames : List Octets) : Prop :=
  (capacityOctets ≠ 0 →
      sizeOf entries + (frames.map List.length).sum ≤ capacityOctets) ∧
    entries.length + frames.length ≤ maxEntries

private theorem HasRoomFor.of_append {capacityOctets : Nat}
    {entries : List Entry} {frames more : List Octets}
    (h : HasRoomFor capacityOctets entries (frames ++ more)) :
    HasRoomFor capacityOctets entries frames := by
  obtain ⟨hOctets, hLength⟩ := h
  constructor
  · intro hCapacity
    have hSum := hOctets hCapacity
    rw [List.map_append, List.sum_append] at hSum
    omega
  · rw [List.length_append] at hLength
    omega

private theorem HasRoomFor.dropLowest_succ {capacityOctets count : Nat}
    {entries : List Entry} {frames : List Octets}
    (h : HasRoomFor capacityOctets (dropLowest entries count) frames) :
    HasRoomFor capacityOctets (dropLowest entries (count + 1)) frames := by
  rw [dropLowest]
  split
  · next hNone =>
      rw [splitLowest_eq_none hNone] at h
      exact h
  · next lowest rest hSome =>
      have hSize := sizeOf_splitLowest hSome
      have hLength := length_splitLowest hSome
      refine ⟨fun hCapacity => ?_, ?_⟩
      · have hOctets := h.1 hCapacity
        omega
      · have hEntries := h.2
        omega

private theorem HasRoomFor.dropLowest_mono {capacityOctets count more : Nat}
    {entries : List Entry} {frames : List Octets} (hLe : count ≤ more)
    (h : HasRoomFor capacityOctets (dropLowest entries count) frames) :
    HasRoomFor capacityOctets (dropLowest entries more) frames := by
  induction hLe with
  | refl => exact h
  | step _ ih => exact ih.dropLowest_succ

/-! ## A batch of frames -/

def numbered (first : UInt8) (frames : List Octets) : List Entry :=
  frames.mapIdx fun index frame => ⟨frame, first + UInt8.ofNat index⟩

private theorem numbered_snoc (first : UInt8) (frames : List Octets)
    (frame : Octets) :
    numbered first (frames ++ [frame]) =
      numbered first frames ++
        [⟨frame, first + UInt8.ofNat frames.length⟩] := by
  simp [numbered, List.mapIdx_append]

@[simp] theorem length_numbered (first : UInt8) (frames : List Octets) :
    (numbered first frames).length = frames.length := by
  simp [numbered]

@[simp] theorem sizeOf_numbered (first : UInt8) (frames : List Octets) :
    sizeOf (numbered first frames) = (frames.map List.length).sum := by
  induction frames using List.reverseRecOn with
  | nil => rfl
  | append_singleton frames frame ih =>
      rw [numbered_snoc, sizeOf_append, ih]
      simp

private theorem number_injective {first : UInt8} {i j : Nat} (hi : i < 256)
    (hj : j < 256)
    (h : first + UInt8.ofNat i = first + UInt8.ofNat j) : i = j := by
  have hNat := congrArg UInt8.toNat h
  simp only [UInt8.toNat_add, UInt8.toNat_ofNat'] at hNat
  omega

private theorem nodup_numbered {first : UInt8} {frames : List Octets}
    (h : frames.length ≤ maxEntries) :
    ((numbered first frames).map Entry.sequenceNum).Nodup := by
  rw [List.Nodup, List.pairwise_iff_getElem]
  intro i j hi hj hLt hEq
  simp only [List.length_map, length_numbered] at hi hj
  simp only [maxEntries] at h
  simp only [List.getElem_map, numbered, List.getElem_mapIdx] at hEq
  have hSame := number_injective (by omega) (by omega) hEq
  omega

/-- When the next frame of a batch needs room, an older entry can be spared
for it. -/
def SparesBatch (queue : RespQueue) (frames : List Octets) : Prop :=
  ∀ evicted queued frame, queued ++ [frame] <+: frames →
    HasRoomFor queue.capacityOctets (dropLowest queue.entries evicted)
      queued →
    ¬HasRoomFor queue.capacityOctets (dropLowest queue.entries evicted)
      (queued ++ [frame]) →
    Spares (dropLowest queue.entries evicted)
      (numbered queue.nextSequenceNum queued)

theorem sparesBatch_nil (queue : RespQueue) : SparesBatch queue [] := by
  intro evicted queued frame hPrefix
  simp at hPrefix

structure Holds (start queue : RespQueue) (queued : List Octets)
    (evicted : Nat) : Prop where
  entries : queue.entries = dropLowest start.entries evicted ++
    numbered start.nextSequenceNum queued
  capacityOctets : queue.capacityOctets = start.capacityOctets
  maxAvtpduSizeOctets : queue.maxAvtpduSizeOctets = start.maxAvtpduSizeOctets
  nextSequenceNum : queue.nextSequenceNum =
    start.nextSequenceNum + UInt8.ofNat queued.length

theorem Holds.start (queue : RespQueue) : Holds queue queue [] 0 :=
  ⟨by simp [dropLowest, numbered], rfl, rfl, by simp⟩

private theorem Holds.hasRoomFor {start queue : RespQueue}
    {queued : List Octets}
    {evicted : Nat} (h : Holds start queue queued evicted) :
    HasRoomFor start.capacityOctets (dropLowest start.entries evicted)
      queued := by
  constructor
  · intro hCapacity
    have hLe := queue.octets_le (by rwa [h.capacityOctets])
    rw [queue.octets_eq, h.entries, h.capacityOctets, sizeOf_append,
      sizeOf_numbered] at hLe
    exact hLe
  · have hLe := queue.length_le
    rw [h.entries, List.length_append, length_numbered] at hLe
    exact hLe

private theorem Holds.needsRoom_iff {start queue : RespQueue}
    {queued : List Octets}
    {evicted : Nat} (h : Holds start queue queued evicted) (frame : Octets) :
    queue.needsRoom frame.length = true ↔
      ¬HasRoomFor start.capacityOctets (dropLowest start.entries evicted)
        (queued ++ [frame]) := by
  obtain ⟨hOctets, hLength⟩ := h.hasRoomFor
  have hSize : queue.octets = sizeOf (dropLowest start.entries evicted) +
      (queued.map List.length).sum := by
    rw [queue.octets_eq, h.entries, sizeOf_append, sizeOf_numbered]
  have hCount : queue.entries.length =
      (dropLowest start.entries evicted).length + queued.length := by
    rw [h.entries, List.length_append, length_numbered]
  simp only [RespQueue.needsRoom, HasRoomFor, h.capacityOctets, hSize, hCount,
    List.map_append, List.sum_append, List.map_cons, List.map_nil,
    List.sum_cons, List.sum_nil, List.length_append, List.length_singleton,
    Bool.or_eq_true, Bool.and_eq_true, decide_eq_true_eq]
  by_cases hCapacity : start.capacityOctets = 0
  · simp only [hCapacity, ne_eq, not_true_eq_false, false_and, false_or,
      false_implies, true_and]
    omega
  · have hFits := hOctets hCapacity
    simp only [hCapacity, ne_eq, not_false_eq_true, true_and, forall_const]
    omega

structure Lost (start queue : RespQueue) (queued : Nat) : Prop where
  gone : ∃ index, index < queued ∧ ∀ entry ∈ queue.entries,
    entry.sequenceNum ≠ start.nextSequenceNum + UInt8.ofNat index
  capacityOctets : queue.capacityOctets = start.capacityOctets
  maxAvtpduSizeOctets : queue.maxAvtpduSizeOctets = start.maxAvtpduSizeOctets
  nextSequenceNum : queue.nextSequenceNum =
    start.nextSequenceNum + UInt8.ofNat queued

private theorem Lost.of_subset {start a b : RespQueue} {queued : Nat}
    (h : Lost start a queued) (hSubset : b.entries ⊆ a.entries)
    (hLimits : a.SameLimits b) : Lost start b queued := by
  obtain ⟨index, hLt, hGone⟩ := h.gone
  exact ⟨⟨index, hLt, fun entry hEntry => hGone entry (hSubset hEntry)⟩,
    hLimits.capacityOctets.trans h.capacityOctets,
    hLimits.maxAvtpduSizeOctets.trans h.maxAvtpduSizeOctets,
    hLimits.nextSequenceNum.trans h.nextSequenceNum⟩

namespace RespQueue

private theorem evictOne_subset (queue : RespQueue) :
    queue.evictOne.entries ⊆ queue.entries := by
  cases hSplit : splitLowest queue.entries with
  | none => rw [evictOne_of_none hSplit]; exact List.Subset.refl _
  | some split =>
      rw [entries_evictOne hSplit]
      exact subset_of_splitLowest hSplit

private theorem makeRoom_subset (queue : RespQueue) (frameLen fuel : Nat) :
    (queue.makeRoom frameLen fuel).entries ⊆ queue.entries := by
  induction fuel generalizing queue with
  | zero => exact List.Subset.refl _
  | succ fuel ih =>
      unfold makeRoom
      split
      · exact List.Subset.trans (ih queue.evictOne) queue.evictOne_subset
      · exact List.Subset.refl _

end RespQueue

theorem Holds.evictOne {start queue : RespQueue} {queued : List Octets}
    {evicted : Nat} (h : Holds start queue queued evicted)
    (hShort : queued.length ≤ maxEntries) (hSome : queue.entries ≠ []) :
    (Spares (dropLowest start.entries evicted)
        (numbered start.nextSequenceNum queued) →
      Holds start queue.evictOne queued (evicted + 1)) ∧
    (¬Spares (dropLowest start.entries evicted)
        (numbered start.nextSequenceNum queued) →
      Lost start queue.evictOne queued.length) := by
  have hLimits := RespQueue.sameLimits_evictOne queue
  constructor
  · rintro ⟨lowest, rest, hOld, hOwn⟩
    have hSplit := splitLowest_append hOld hOwn
    rw [← h.entries] at hSplit
    refine ⟨?_, hLimits.capacityOctets.trans h.capacityOctets,
      hLimits.maxAvtpduSizeOctets.trans h.maxAvtpduSizeOctets,
      hLimits.nextSequenceNum.trans h.nextSequenceNum⟩
    rw [RespQueue.entries_evictOne hSplit, dropLowest, hOld]
  · intro hNot
    cases hSplit : splitLowest queue.entries with
    | none => exact absurd (splitLowest_eq_none hSplit) hSome
    | some split =>
        obtain ⟨lowest, rest⟩ := split
        have hRest := RespQueue.entries_evictOne hSplit
        rw [h.entries] at hSplit
        obtain ⟨hOwn, hGone⟩ := splitLowest_of_not_spares hNot
          (nodup_numbered hShort) hSplit
        obtain ⟨index, hIndex, hLowest⟩ := List.mem_iff_getElem.mp hOwn
        rw [length_numbered] at hIndex
        have hNumber : lowest.sequenceNum =
            start.nextSequenceNum + UInt8.ofNat index := by
          rw [← hLowest]
          simp [numbered]
        refine ⟨⟨index, hIndex, fun entry hEntry => ?_⟩,
          hLimits.capacityOctets.trans h.capacityOctets,
          hLimits.maxAvtpduSizeOctets.trans h.maxAvtpduSizeOctets,
          hLimits.nextSequenceNum.trans h.nextSequenceNum⟩
        rw [← hNumber]
        rw [hRest] at hEntry
        exact hGone entry hEntry

theorem Holds.makeRoom {start queue : RespQueue} {queued : List Octets}
    {evicted : Nat} (h : Holds start queue queued evicted)
    (hShort : queued.length ≤ maxEntries) {frame : Octets}
    (hFits : start.refuses frame.length = false) (fuel : Nat) :
    (∃ more, Holds start (queue.makeRoom frame.length fuel) queued more ∧
      ∀ between, evicted ≤ between → between < more →
        ¬HasRoomFor start.capacityOctets (dropLowest start.entries between)
          (queued ++ [frame]) ∧
        Spares (dropLowest start.entries between)
          (numbered start.nextSequenceNum queued)) ∨
    (Lost start (queue.makeRoom frame.length fuel) queued.length ∧
      ∃ between,
        HasRoomFor start.capacityOctets (dropLowest start.entries between)
          queued ∧
        ¬HasRoomFor start.capacityOctets (dropLowest start.entries between)
          (queued ++ [frame]) ∧
        ¬Spares (dropLowest start.entries between)
          (numbered start.nextSequenceNum queued)) := by
  induction fuel generalizing queue evicted with
  | zero => exact Or.inl ⟨evicted, h, by omega⟩
  | succ fuel ih =>
      unfold RespQueue.makeRoom
      by_cases hNeeds : queue.needsRoom frame.length = true
      · rw [if_pos hNeeds]
        have hFull := (h.needsRoom_iff frame).mp hNeeds
        have hSome : queue.entries ≠ [] := by
          intro hNil
          have hRefuses : queue.refuses frame.length = false := by
            simpa only [RespQueue.refuses, h.capacityOctets,
              h.maxAvtpduSizeOctets] using hFits
          rw [RespQueue.needsRoom_of_nil hNil hRefuses] at hNeeds
          cases hNeeds
        obtain ⟨hOlder, hOwn⟩ := h.evictOne hShort hSome
        by_cases hSpares : Spares (dropLowest start.entries evicted)
            (numbered start.nextSequenceNum queued)
        · rcases ih (hOlder hSpares) with ⟨more, hHolds, hBetween⟩ | hLost
          · refine Or.inl ⟨more, hHolds, fun between hLe hLt => ?_⟩
            rcases Nat.eq_or_lt_of_le hLe with rfl | hNext
            · exact ⟨hFull, hSpares⟩
            · exact hBetween between hNext hLt
          · exact Or.inr hLost
        · refine Or.inr ⟨?_, evicted, h.hasRoomFor, hFull, hSpares⟩
          exact (hOwn hSpares).of_subset (RespQueue.makeRoom_subset _ _ _)
            (RespQueue.sameLimits_makeRoom _ _ _)
      · rw [if_neg hNeeds]
        exact Or.inl ⟨evicted, h, by omega⟩

/-! ## One push -/

structure Pushed (queue : RespQueue) (frame : Octets)
    (result : RespQueue × Bool) : Prop where
  accepted : result.2 = true
  entries : result.1.entries =
    (queue.makeRoom frame.length queue.entries.length).entries ++
      [⟨frame, queue.nextSequenceNum⟩]
  capacityOctets : result.1.capacityOctets = queue.capacityOctets
  maxAvtpduSizeOctets : result.1.maxAvtpduSizeOctets =
    queue.maxAvtpduSizeOctets
  nextSequenceNum : result.1.nextSequenceNum = queue.nextSequenceNum + 1

namespace RespQueue

theorem push_of_refuses {queue : RespQueue} {frame : Octets}
    (h : queue.refuses frame.length = true) :
    queue.push frame = (queue, false) := by
  simp only [push, pushSeq, h, dite_true]

private theorem pushed_push {queue : RespQueue} {frame : Octets}
    (h : queue.refuses frame.length = false) :
    Pushed queue frame (queue.push frame) := by
  have hLimits :=
    sameLimits_makeRoom queue frame.length queue.entries.length
  have hNot : ¬queue.refuses frame.length = true := by simp [h]
  simp only [push, pushSeq, hNot]
  exact ⟨rfl, rfl, hLimits.capacityOctets, hLimits.maxAvtpduSizeOctets,
    congrArg (· + 1) hLimits.nextSequenceNum⟩

end RespQueue

private theorem number_succ (first : UInt8) (index : Nat) :
    first + UInt8.ofNat index + 1 = first + UInt8.ofNat (index + 1) := by
  apply UInt8.toNat_inj.mp
  simp only [UInt8.toNat_add, UInt8.toNat_ofNat', UInt8.toNat_one]
  omega

theorem Lost.push {start queue : RespQueue} {queued : Nat}
    (h : Lost start queue queued) (hShort : queued < maxEntries)
    {frame : Octets} (hFits : start.refuses frame.length = false) :
    (queue.push frame).2 = true ∧
      Lost start (queue.push frame).1 (queued + 1) := by
  have hRefuses : queue.refuses frame.length = false := by
    simpa only [RespQueue.refuses, h.capacityOctets, h.maxAvtpduSizeOctets]
      using hFits
  have hPushed := RespQueue.pushed_push hRefuses
  refine ⟨hPushed.accepted, ?_,
    hPushed.capacityOctets.trans h.capacityOctets,
    hPushed.maxAvtpduSizeOctets.trans h.maxAvtpduSizeOctets, ?_⟩
  · obtain ⟨index, hLt, hGone⟩ := h.gone
    refine ⟨index, by omega, fun entry hEntry => ?_⟩
    rw [hPushed.entries] at hEntry
    rcases List.mem_append.mp hEntry with hOld | hNew
    · exact hGone entry (RespQueue.makeRoom_subset _ _ _ hOld)
    · rw [List.mem_singleton.mp hNew]
      intro hSame
      simp only [maxEntries] at hShort
      rw [h.nextSequenceNum] at hSame
      have hIndex := number_injective (by omega) (by omega) hSame
      omega
  · rw [hPushed.nextSequenceNum, h.nextSequenceNum, number_succ]

theorem Holds.push {start queue : RespQueue} {queued : List Octets}
    {evicted : Nat} (h : Holds start queue queued evicted)
    (hShort : queued.length < maxEntries)
    (hLeast : ∀ fewer, fewer < evicted →
      ¬HasRoomFor start.capacityOctets (dropLowest start.entries fewer) queued)
    {frame : Octets} (hFits : start.refuses frame.length = false) :
    (queue.push frame).2 = true ∧
      ((∃ more, Holds start (queue.push frame).1 (queued ++ [frame]) more ∧
        (∀ fewer, fewer < more → ¬HasRoomFor start.capacityOctets
          (dropLowest start.entries fewer) (queued ++ [frame])) ∧
        ∀ between,
          HasRoomFor start.capacityOctets (dropLowest start.entries between)
            queued →
          ¬HasRoomFor start.capacityOctets (dropLowest start.entries between)
            (queued ++ [frame]) →
          Spares (dropLowest start.entries between)
            (numbered start.nextSequenceNum queued)) ∨
      (Lost start (queue.push frame).1 (queued.length + 1) ∧
        ∃ between,
          HasRoomFor start.capacityOctets (dropLowest start.entries between)
            queued ∧
          ¬HasRoomFor start.capacityOctets (dropLowest start.entries between)
            (queued ++ [frame]) ∧
          ¬Spares (dropLowest start.entries between)
            (numbered start.nextSequenceNum queued))) := by
  have hRefuses : queue.refuses frame.length = false := by
    simpa only [RespQueue.refuses, h.capacityOctets, h.maxAvtpduSizeOctets]
      using hFits
  have hPushed := RespQueue.pushed_push hRefuses
  refine ⟨hPushed.accepted, ?_⟩
  have hNumber : (queue.push frame).1.nextSequenceNum =
      start.nextSequenceNum + UInt8.ofNat (queued.length + 1) := by
    rw [hPushed.nextSequenceNum, h.nextSequenceNum, number_succ]
  rcases h.makeRoom (Nat.le_of_lt hShort) hFits queue.entries.length with
    ⟨more, hHolds, hBetween⟩ | ⟨hLost, hBetween⟩
  · have hGrown : Holds start (queue.push frame).1 (queued ++ [frame]) more := by
      refine ⟨?_, hPushed.capacityOctets.trans h.capacityOctets,
        hPushed.maxAvtpduSizeOctets.trans h.maxAvtpduSizeOctets, ?_⟩
      · rw [hPushed.entries, hHolds.entries, numbered_snoc, h.nextSequenceNum,
          List.append_assoc]
      · rw [hNumber, List.length_append, List.length_singleton]
    refine Or.inl ⟨more, hGrown, ?_, ?_⟩
    · intro fewer hFewer hRoom
      rcases Nat.lt_or_ge fewer evicted with hLt | hGe
      · exact hLeast fewer hLt hRoom.of_append
      · exact (hBetween fewer hGe hFewer).1 hRoom
    · intro between hRoom hNoRoom
      have hGe : evicted ≤ between := by
        by_contra hLt
        exact hLeast between (Nat.lt_of_not_ge hLt) hRoom
      have hLt : between < more := by
        by_contra hMore
        exact hNoRoom
          (hGrown.hasRoomFor.dropLowest_mono (Nat.le_of_not_lt hMore))
      exact (hBetween between hGe hLt).2
  · refine Or.inr ⟨⟨?_, hPushed.capacityOctets.trans h.capacityOctets,
      hPushed.maxAvtpduSizeOctets.trans h.maxAvtpduSizeOctets, hNumber⟩,
      hBetween⟩
    obtain ⟨index, hLt, hGone⟩ := hLost.gone
    refine ⟨index, by omega, fun entry hEntry => ?_⟩
    rw [hPushed.entries] at hEntry
    rcases List.mem_append.mp hEntry with hOld | hNew
    · exact hGone entry hOld
    · rw [List.mem_singleton.mp hNew]
      intro hSame
      simp only [maxEntries] at hShort
      rw [h.nextSequenceNum] at hSame
      have hIndex := number_injective (by omega) (by omega) hSame
      omega

end CppRcp.Respqueue
