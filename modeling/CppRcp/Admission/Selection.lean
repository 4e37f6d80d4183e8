import CppRcp.Foundation.Least
import CppRcp.Admission.StoreRuns

/-!
# Which request is served

`select_next_due` of `request.hpp` picks from a list of candidates; the
endpoint's `select_due` does the same in place, over its slots.  Both keep the
least of what is due, by priority rank and then by arrival.
-/

namespace CppRcp.Request

open CppRcp.Foundation

structure DueCandidate where
  category : RequestCategory := .standard
  arrivalSeq : Nat := 0
  deriving DecidableEq, Repr

/-- The loop of `select_next_due` from candidate `i` on; `best` goes with the
candidate at that index. -/
def selectNextFrom : List DueCandidate → Nat → Nat × DueCandidate → Nat
  | [], _, best => best.1
  | cur :: due, i, best =>
      selectNextFrom due (i + 1)
        (if decide (priorityRank cur.category < priorityRank best.2.category) ||
            (decide (priorityRank cur.category =
                priorityRank best.2.category) &&
              decide (cur.arrivalSeq < best.2.arrivalSeq)) then (i, cur)
          else best)

def selectNextDue (due : List DueCandidate) : Option Nat :=
  match due with
  | [] => none
  | first :: rest => some (selectNextFrom rest 1 (0, first))

end CppRcp.Request

namespace CppRcp.Server

open CppRcp.Foundation CppRcp.Acf CppRcp.Request

namespace Endpoint

/-! ## The requests that are due -/

/-- The slots in use and due, with their indices from `index` on. -/
def dueFrom (epEnable : Bool) (ctx : TickContext) :
    List PendingRequest → Nat → List (Nat × PendingRequest)
  | [], _ => []
  | slot :: slots, index =>
      if slot.inUse && (isDue epEnable slot ctx).2 then
        (index, slot) :: dueFrom epEnable ctx slots (index + 1)
      else dueFrom epEnable ctx slots (index + 1)

def due (ep : Endpoint) (ctx : TickContext) : List (Nat × PendingRequest) :=
  dueFrom ep.epEnable ctx ep.slots.toList 0

def candidateOf (slot : PendingRequest) : DueCandidate :=
  ⟨slot.category, slot.sequence⟩

def serviceKey (entry : Nat × PendingRequest) : Nat ×ₗ Nat :=
  toLex (priorityRank entry.2.category, entry.2.sequence)

theorem serviceKey_lt_iff (a b : Nat × PendingRequest) :
    serviceKey a < serviceKey b ↔ servedBefore a.2 b.2 = true := by
  unfold serviceKey servedBefore
  rw [Prod.Lex.toLex_lt_toLex]
  simp

private theorem mem_dueFrom {epEnable : Bool} {ctx : TickContext}
    {slots : List PendingRequest} {start index : Nat} {slot : PendingRequest} :
    (index, slot) ∈ dueFrom epEnable ctx slots start ↔
      start ≤ index ∧ slots[index - start]? = some slot ∧
        slot.inUse = true ∧ (isDue epEnable slot ctx).2 = true := by
  induction slots generalizing start with
  | nil => simp [dueFrom]
  | cons first slots ih =>
      have hTail : (index, slot) ∈ dueFrom epEnable ctx slots (start + 1) ↔
          start < index ∧ (first :: slots)[index - start]? = some slot ∧
            slot.inUse = true ∧ (isDue epEnable slot ctx).2 = true := by
        rw [ih]
        constructor
        · rintro ⟨hLe, hGet, hUse, hDue⟩
          have hIndex : index - start = index - (start + 1) + 1 := by omega
          rw [hIndex, List.getElem?_cons_succ]
          exact ⟨hLe, hGet, hUse, hDue⟩
        · rintro ⟨hLt, hGet, hUse, hDue⟩
          have hIndex : index - start = index - (start + 1) + 1 := by omega
          rw [hIndex, List.getElem?_cons_succ] at hGet
          exact ⟨hLt, hGet, hUse, hDue⟩
      unfold dueFrom
      by_cases hFirst : (first.inUse && (isDue epEnable first ctx).2) = true
      · rw [if_pos hFirst, List.mem_cons, hTail, Prod.mk.injEq]
        rw [Bool.and_eq_true] at hFirst
        constructor
        · rintro (⟨rfl, rfl⟩ | ⟨hLt, hRest⟩)
          · simp [hFirst]
          · exact ⟨hLt.le, hRest⟩
        · rintro ⟨hLe, hGet, hRest⟩
          rcases hLe.eq_or_lt with rfl | hLt
          · rw [Nat.sub_self, List.getElem?_cons_zero, Option.some_inj] at hGet
            exact .inl ⟨rfl, hGet.symm⟩
          · exact .inr ⟨hLt, hGet, hRest⟩
      · rw [if_neg hFirst, hTail]
        constructor
        · rintro ⟨hLt, hRest⟩
          exact ⟨hLt.le, hRest⟩
        · rintro ⟨hLe, hGet, hUse, hDue⟩
          rcases hLe.eq_or_lt with rfl | hLt
          · rw [Nat.sub_self, List.getElem?_cons_zero, Option.some_inj] at hGet
            rw [hGet, hUse, hDue] at hFirst
            exact absurd rfl hFirst
          · exact ⟨hLt, hGet, hUse, hDue⟩

theorem mem_due {ep : Endpoint} {ctx : TickContext} {index : Nat}
    {slot : PendingRequest} :
    (index, slot) ∈ ep.due ctx ↔
      ep.slots.pending index = some slot ∧
        (isDue ep.epEnable slot ctx).2 = true := by
  rw [due, mem_dueFrom, Slots.pending_eq_some]
  simp [and_assoc]

/-! ## The two selectors -/

private theorem selectBest_eq (epEnable : Bool) (ctx : TickContext)
    (slots : List PendingRequest) (index : Nat)
    (best : Option (Nat × PendingRequest)) :
    selectBest epEnable ctx slots index best =
      (dueFrom epEnable ctx slots index).foldl (keepLeast serviceKey)
        best := by
  induction slots generalizing index best with
  | nil => rfl
  | cons slot slots ih =>
      unfold selectBest dueFrom
      dsimp only
      rw [ih]
      by_cases hDue : (slot.inUse && (isDue epEnable slot ctx).2) = true
      · rw [if_pos hDue, List.foldl_cons, hDue, Bool.true_and]
        congr 1
        unfold keepLeast
        cases best with
        | none => rfl
        | some chosen =>
            dsimp only
            simp only [serviceKey_lt_iff]
      · rw [if_neg hDue, Bool.not_eq_true] at *
        rw [hDue, Bool.false_and]
        rfl

private theorem selectNextFrom_eq (before rest : List (Nat × PendingRequest))
    (position : Nat) (entry : Nat × PendingRequest)
    (hEntry : (before ++ rest)[position]? = some entry) :
    (before ++ rest)[selectNextFrom
        (rest.map fun entry => candidateOf entry.2) before.length
        (position, candidateOf entry.2)]? =
      rest.foldl (keepLeast serviceKey) (some entry) := by
  induction rest generalizing before position entry with
  | nil => exact hEntry
  | cons next rest ih =>
      have hSplit : before ++ next :: rest = (before ++ [next]) ++ rest := by
        simp
      have hLength : before.length + 1 = (before ++ [next]).length := by simp
      rw [List.map_cons, selectNextFrom, List.foldl_cons, hSplit, hLength]
      have hBefore : (decide (priorityRank (candidateOf next.2).category <
              priorityRank (candidateOf entry.2).category) ||
            (decide (priorityRank (candidateOf next.2).category =
                priorityRank (candidateOf entry.2).category) &&
              decide ((candidateOf next.2).arrivalSeq <
                (candidateOf entry.2).arrivalSeq))) =
          servedBefore next.2 entry.2 := rfl
      dsimp only
      rw [hBefore, keepLeast]
      simp only [serviceKey_lt_iff]
      by_cases hNext : servedBefore next.2 entry.2 = true
      · rw [if_pos hNext, if_pos hNext]
        exact ih (before ++ [next]) before.length next (by simp)
      · rw [if_neg hNext, if_neg hNext]
        exact ih (before ++ [next]) position entry (hSplit ▸ hEntry)

private theorem selectDue_eq_selectNextDue (ep : Endpoint) (ctx : TickContext) :
    (ep.selectDue ctx).2 =
      (selectNextDue ((ep.due ctx).map fun entry =>
        candidateOf entry.2)).bind fun position =>
          (ep.due ctx)[position]?.map Prod.fst := by
  change (selectBest ep.epEnable ctx ep.slots.toList 0 none).map Prod.fst = _
  rw [selectBest_eq]
  change ((ep.due ctx).foldl (keepLeast serviceKey) none).map Prod.fst = _
  cases hDue : ep.due ctx with
  | nil => rfl
  | cons first rest =>
      have hSelect := selectNextFrom_eq [first] rest 0 first (by simp)
      rw [List.map_cons, selectNextDue, Option.bind_some]
      rw [List.singleton_append, List.length_singleton] at hSelect
      rw [hSelect]
      rfl

/-! ## What holds of a due request -/

theorem armIfStartable_fields (slot : PendingRequest) (ctx : TickContext) :
    (armIfStartable slot ctx).1.category = slot.category ∧
      (armIfStartable slot ctx).1.presentationTime =
        slot.presentationTime := by
  unfold armIfStartable
  split
  · exact ⟨rfl, rfl⟩
  · split
    · exact ⟨rfl, rfl⟩
    · split <;> exact ⟨rfl, rfl⟩

private theorem gates_of_isDue {epEnable : Bool} {slot : PendingRequest}
    {ctx : TickContext} (h : (isDue epEnable slot ctx).2 = true) :
    (kindIsGatedByEpEnable slot.category = true → epEnable = true) ∧
      (isSafety slot = true → ctx.inSafeState = true) ∧
      (slot.hasPresentationGate = true → ctx.gptpLocked = true ∧
        timedDue slot.presentationGateNs ctx.gptpNow = true) ∧
      (slot.category = .timed → ctx.gptpLocked = true ∧
        timedDue slot.presentationTime ctx.gptpNow = true) := by
  obtain ⟨hCategory, hTime⟩ := armIfStartable_fields slot ctx
  unfold isDue at h
  split at h
  · cases h
  · next hEnable =>
      split at h
      · cases h
      · next hSafety =>
          split at h
          · cases h
          · next hGate =>
              refine ⟨?_, ?_, ?_, ?_⟩
              · intro hKind
                simpa [hKind] using hEnable
              · intro hSafe
                simpa [hSafe] using hSafety
              · intro hGated
                simpa [hGated] using hGate
              · intro hTimed
                split at h
                · cases h
                · next armed hArm =>
                    rw [hArm] at hCategory hTime
                    dsimp only at h hCategory hTime
                    rw [hTimed] at hCategory
                    split at h
                    · cases h
                    · next hAuxiliary =>
                        unfold auxiliaryConditionMet at hAuxiliary
                        unfold delayExpired at h
                        rw [hCategory] at hAuxiliary h
                        rw [← hTime]
                        exact ⟨by simpa using hAuxiliary, h⟩

/-! ## The least of what is due -/

theorem selectDue_eq_leastBy (ep : Endpoint) (ctx : TickContext) :
    (ep.selectDue ctx).2 =
      (leastBy serviceKey (ep.due ctx)).map Prod.fst := by
  change (selectBest ep.epEnable ctx ep.slots.toList 0 none).map _ = _
  rw [selectBest_eq]
  rfl

theorem selectDue_eq_some {ep : Endpoint} {ctx : TickContext} {index : Nat}
    (h : (ep.selectDue ctx).2 = some index) :
    ∃ slot, ep.slots.pending index = some slot ∧
      (isDue ep.epEnable slot ctx).2 = true ∧
      ∀ other found, ep.slots.pending other = some found →
        (isDue ep.epEnable found ctx).2 = true →
          serviceKey (index, slot) ≤ serviceKey (other, found) := by
  rw [selectDue_eq_leastBy, Option.map_eq_some_iff] at h
  obtain ⟨⟨index, slot⟩, hSome, rfl⟩ := h
  obtain ⟨hMem, hKey⟩ := leastBy_eq_some serviceKey hSome
  obtain ⟨hPending, hDue⟩ := mem_due.mp hMem
  refine ⟨slot, hPending, hDue, ?_⟩
  intro other found hFound hFoundDue
  exact hKey (other, found) (mem_due.mpr ⟨hFound, hFoundDue⟩)

/-! ## Whole runs -/

/-- What `select_due` says along every run of an endpoint. -/
theorem selectDue_run (ops : List EndpointOp) (ctx : TickContext) :
    let ep := (run Endpoint.step {} ops).1
    ((ep.selectDue ctx).2 = none ↔ ∀ index slot,
        ep.slots.pending index = some slot →
          (isDue ep.epEnable slot ctx).2 = false) ∧
    ((ep.selectDue ctx).2 =
      (selectNextDue ((ep.due ctx).map fun entry =>
        candidateOf entry.2)).bind fun position =>
          (ep.due ctx)[position]?.map Prod.fst) ∧
    ∀ index, (ep.selectDue ctx).2 = some index →
      ∃ slot, ep.slots.pending index = some slot ∧
        (isDue ep.epEnable slot ctx).2 = true ∧
        (∀ other found, ep.slots.pending other = some found →
          (isDue ep.epEnable found ctx).2 = true → other ≠ index →
            servedBefore slot found = true) ∧
        (kindIsGatedByEpEnable slot.category = true → ep.epEnable = true) ∧
        (isSafety slot = true → ctx.inSafeState = true) ∧
        (slot.hasPresentationGate = true → ctx.gptpLocked = true ∧
          timedDue slot.presentationGateNs ctx.gptpNow = true) ∧
        (slot.category = .timed → ctx.gptpLocked = true ∧
          timedDue slot.presentationTime ctx.gptpNow = true) := by
  intro ep
  have hStore : StoreInvariant ep :=
    invariant_run (I := StoreInvariant)
      (fun _ op h => storeInvariant_step h op) ops storeInvariant_fresh
  refine ⟨?_, selectDue_eq_selectNextDue ep ctx, ?_⟩
  · rw [selectDue_eq_leastBy, Option.map_eq_none_iff, leastBy_eq_none_iff,
      List.eq_nil_iff_forall_not_mem]
    constructor
    · intro hNone index slot hPending
      have hNot := hNone (index, slot)
      rw [mem_due] at hNot
      simpa [hPending] using hNot
    · rintro hNone ⟨index, slot⟩ hMem
      obtain ⟨hPending, hDue⟩ := mem_due.mp hMem
      rw [hNone index slot hPending] at hDue
      cases hDue
  · intro index hIndex
    obtain ⟨slot, hPending, hDue, hKey⟩ := selectDue_eq_some hIndex
    refine ⟨slot, hPending, hDue, ?_, gates_of_isDue hDue⟩
    intro other found hFound hFoundDue hNe
    have hLe := hKey other found hFound hFoundDue
    rw [← serviceKey_lt_iff (index, slot) (other, found)]
    apply lt_of_le_of_ne hLe
    -- equal keys would give two stored requests one sequence number
    intro hSame
    have hSequence := congrArg (fun key => (ofLex key).2) hSame
    exact hStore.sequence_ne other index found slot hNe hFound hPending
      hSequence.symm

end Endpoint

end CppRcp.Server
