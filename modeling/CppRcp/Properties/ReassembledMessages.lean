import CppRcp.Wire.Reassembling

/-!
# What a reassembler hands out

Whatever is fed to a reassembler, its buffer holds the payloads of the
fragments it accepted since it was last reset, and within its capacity.  A
message is complete only when its fragments were consecutive; but a buffer that
is not reset between two messages still holds the first when the second is
complete.
-/

namespace CppRcp.Fragment

open CppRcp.Foundation

/-! ## Runs -/

inductive ReasmOp
  | feed (fed : Fed)
  | reset
  deriving DecidableEq, Repr

def reasmStep (reasm : Reassembler) :
    ReasmOp → Reassembler × Option ReasmResult
  | .feed fed => ((reasm.feedOne fed).1, some (reasm.feedOne fed).2)
  | .reset => (reasm.reset, none)

/-- What was accepted since the last reset: the fragments of the messages
completed since, and those of the message in progress. -/
structure Accepted where
  finished : List (List Fed) := []
  current : List Fed := []

def Accepted.note (accepted : Accepted) :
    ReasmOp → Option ReasmResult → Accepted
  | .reset, _ => {}
  | .feed fed, some .continue =>
      { accepted with current := accepted.current ++ [fed] }
  | .feed fed, some .complete =>
      ⟨accepted.finished ++ [accepted.current ++ [fed]], []⟩
  | .feed _, _ => accepted

def acceptedAlong : Reassembler → Accepted → List ReasmOp → Accepted
  | _, accepted, [] => accepted
  | reasm, accepted, op :: ops =>
      acceptedAlong (reasmStep reasm op).1
        (accepted.note op (reasmStep reasm op).2) ops

def payloads (fragments : List Fed) : Octets :=
  (fragments.map Fed.payload).flatten

def Accepted.bytes (accepted : Accepted) : Octets :=
  payloads accepted.finished.flatten ++ payloads accepted.current

/-- All fragments announce more, and are numbered from 0 on, modulo
`2 ^ 16`. -/
def Numbered (fragments : List Fed) : Prop :=
  ∀ i fed, fragments[i]? = some fed →
    fed.ms = true ∧ fed.segmentNum = UInt16.ofNat i

/-- The fragments of a message: all but the last are numbered and announce
more. -/
def IsMessage (fragments : List Fed) : Prop :=
  ∃ before last, fragments = before ++ [last] ∧ Numbered before ∧
    last.ms = false

/-! ## The invariant -/

structure HoldsAccepted (maxTotalLen : Nat) (accepted : Accepted)
    (reasm : Reassembler) : Prop where
  maxTotalLen : reasm.maxTotalLen = maxTotalLen
  bounded : reasm.buf.length ≤ reasm.capacity
  bytes : reasm.buf = accepted.bytes
  messages : ∀ message ∈ accepted.finished, IsMessage message
  current : Numbered accepted.current
  next : reasm.nextSegmentNum = UInt16.ofNat accepted.current.length

section Invariant

variable {maxTotalLen : Nat} {accepted : Accepted} {reasm : Reassembler}

theorem Numbered.append {fragments : List Fed} {fed : Fed}
    (h : Numbered fragments) (hMs : fed.ms = true)
    (hNumber : fed.segmentNum = UInt16.ofNat fragments.length) :
    Numbered (fragments ++ [fed]) := by
  intro i other hOther
  rcases Nat.lt_or_ge i fragments.length with hi | hi
  · rw [List.getElem?_append_left hi] at hOther
    exact h i other hOther
  · rw [List.getElem?_append_right hi, List.getElem?_singleton] at hOther
    split at hOther
    · next hZero =>
        cases hOther
        rw [show i = fragments.length by omega]
        exact ⟨hMs, hNumber⟩
    · cases hOther

private theorem payloads_append (fragments : List Fed) (fed : Fed) :
    payloads (fragments ++ [fed]) = payloads fragments ++ fed.payload := by
  simp [payloads]

private theorem holdsAccepted_reset
    (h : HoldsAccepted maxTotalLen accepted reasm) :
    HoldsAccepted maxTotalLen {} reasm.reset where
  maxTotalLen := h.maxTotalLen
  bounded := Nat.zero_le _
  bytes := by simp [Reassembler.reset, Accepted.bytes, payloads]
  messages := by simp
  current := by simp [Numbered]
  next := rfl

private theorem length_append_le (h : reasm.buf.length ≤ reasm.capacity)
    {fed : Fed} (hFits : reasm.fits fed.payload.length = true) :
    (reasm.buf ++ fed.payload).length ≤ reasm.capacity := by
  rw [Reassembler.fits_iff] at hFits
  rw [List.length_append]
  omega

private theorem holdsAccepted_feed
    (h : HoldsAccepted maxTotalLen accepted reasm) (fed : Fed) :
    HoldsAccepted maxTotalLen
      (accepted.note (.feed fed) (some (reasm.feedOne fed).2))
      (reasm.feedOne fed).1 := by
  have hEffect := reasm.feedOne_effect fed
  generalize (reasm.feedOne fed).1 = after, (reasm.feedOne fed).2 = result
    at hEffect ⊢
  cases hEffect with
  | refused hError =>
      rcases hError with rfl | rfl
      · exact h
      · exact h
  | continued hMs hNumber hFits =>
      have hNext := hNumber.trans h.next
      constructor
      case maxTotalLen => exact h.maxTotalLen
      case bounded => exact length_append_le h.bounded hFits
      case bytes =>
        simp only [Accepted.note, Accepted.bytes, payloads_append, h.bytes,
          List.append_assoc]
      case messages => exact h.messages
      case current => exact h.current.append hMs hNext
      case next =>
        simp only [Reassembler.nextSegmentNum, Accepted.note, if_true, hNext,
          List.length_append, List.length_singleton]
        exact (UInt16.ofNat_add _ _).symm
  | completed hMs hFits =>
      constructor
      case maxTotalLen => exact h.maxTotalLen
      case bounded => exact length_append_le h.bounded hFits
      case bytes =>
        simp [Accepted.note, Accepted.bytes, payloads, h.bytes]
      case messages =>
        intro message hMem
        rcases List.mem_append.mp hMem with hOld | hNew
        · exact h.messages message hOld
        · rw [List.mem_singleton.mp hNew]
          exact ⟨accepted.current, fed, rfl, h.current, hMs⟩
      case current => simp [Accepted.note, Numbered]
      case next => rfl

private theorem holdsAccepted_along (ops : List ReasmOp)
    (h : HoldsAccepted maxTotalLen accepted reasm) :
    HoldsAccepted maxTotalLen (acceptedAlong reasm accepted ops)
      (run reasmStep reasm ops).1 := by
  induction ops generalizing reasm accepted with
  | nil => exact h
  | cons op ops ih =>
      rw [acceptedAlong, run_cons]
      cases op with
      | feed fed => exact ih (holdsAccepted_feed h fed)
      | reset => exact ih (holdsAccepted_reset h)

private theorem holdsAccepted_fresh (maxTotalLen : Nat) :
    HoldsAccepted maxTotalLen {} { maxTotalLen } :=
  @holdsAccepted_reset maxTotalLen {} { maxTotalLen }
    ⟨rfl, Nat.zero_le _, rfl, by simp, by simp [Numbered], rfl⟩

end Invariant

/-- In every run of feeds and resets: the buffer stays within the capacity and
holds what was accepted since the last reset; a feed that reports an error
changes nothing; one that completes a message ends consecutive fragments, and
what it hands out is the message, after those completed since the last
reset. -/
theorem reassembly_run (maxTotalLen : Nat) (ops : List ReasmOp) (fed : Fed) :
    let reasm := (run reasmStep { maxTotalLen } ops).1
    let accepted := acceptedAlong { maxTotalLen } {} ops
    let after := reasm.feedOne fed
    reasm.buf.length ≤ min maxTotalLen defaultReassemblyCapacity ∧
      reasm.buf = accepted.bytes ∧
      (after.2 = .errOutOfOrder ∨ after.2 = .errTooLarge →
        after.1 = reasm) ∧
      (after.2 = .complete →
        IsMessage (accepted.current ++ [fed]) ∧
          after.1.buf = payloads accepted.finished.flatten ++
            payloads (accepted.current ++ [fed]) ∧
          (accepted.finished = [] →
            after.1.buf = payloads (accepted.current ++ [fed]))) := by
  intro reasm accepted after
  have h : HoldsAccepted maxTotalLen accepted reasm :=
    holdsAccepted_along ops (holdsAccepted_fresh maxTotalLen)
  have hEffect := reasm.feedOne_effect fed
  refine ⟨?_, h.bytes, ?_, ?_⟩
  · have hBounded := h.bounded
    rwa [Reassembler.capacity, h.maxTotalLen] at hBounded
  · intro hError
    unfold after at hError ⊢
    generalize (reasm.feedOne fed).1 = later, (reasm.feedOne fed).2 = result
      at hEffect hError ⊢
    cases hEffect with
    | refused _ => rfl
    | continued _ _ _ => simp at hError
    | completed _ _ => simp at hError
  · intro hComplete
    have hBuf : after.1.buf = reasm.buf ++ fed.payload ∧ fed.ms = false := by
      unfold after at hComplete ⊢
      generalize (reasm.feedOne fed).1 = later, (reasm.feedOne fed).2 = result
        at hEffect hComplete ⊢
      cases hEffect with
      | refused hError => simp [hComplete] at hError
      | continued _ _ _ => cases hComplete
      | completed hMs _ => exact ⟨rfl, hMs⟩
    have hBytes : after.1.buf = payloads accepted.finished.flatten ++
        payloads (accepted.current ++ [fed]) := by
      rw [hBuf.1, h.bytes, Accepted.bytes, payloads_append, List.append_assoc]
    refine ⟨⟨accepted.current, fed, rfl, h.current, hBuf.2⟩, hBytes, ?_⟩
    intro hNone
    rw [hBytes, hNone]
    rfl

/-- Without a reset in between, the second message is handed out after the
first. -/
theorem reassembly_run_unreset :
    let first : Fed := ⟨false, 0, [1]⟩
    let second : Fed := ⟨false, 0, [2]⟩
    let result := run reasmStep {} [.feed first, .feed second]
    result.2 = [some .complete, some .complete] ∧
      result.1.buf ≠ payloads [second] ∧ result.1.buf = [1, 2] := by
  decide

end CppRcp.Fragment
