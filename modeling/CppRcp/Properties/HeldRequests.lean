import CppRcp.Admission.StoreRuns

/-!
# Requests held by a disabled endpoint

A request submitted to a disabled endpoint is held in a queue, and drained
from it once the endpoint is enabled again.  A request submitted to an enabled
endpoint is executed at once, as is a configuration request at any time, even
where others are still held; so the order of submission is kept among the held
requests only.
-/

namespace CppRcp.Server

open CppRcp.Foundation CppRcp.Acf CppRcp.Request

/-! ## What an operation hands to the handler -/

/-- The frame that the operation submits, on its own or as an admission of an
untimed standard request. -/
def submits (ep : Endpoint) : EndpointOp → Option Octets
  | .submit frame => some frame
  | .admitWithAck frame _ tv _ _ =>
      if ep.admissionSuspended || tv ||
          (acfCommonHeaderLen ≤ frame.length &&
            !headerIsRequest (decodeAcfMessageInfo frame)) ||
          (Endpoint.peekRequestType frame).isSome then none
      else some frame
  | _ => none

def executesNow (ep : Endpoint) (frame : Octets) : Bool :=
  ep.epEnable || Endpoint.isConfigRequest frame

/-- The frames that the caller has to execute, by what the operation
returns. -/
def handed : EndpointOp → EndpointOutput → List Octets
  | .submit frame, .executeNow true => [frame]
  | .admitWithAck frame _ _ _ _, .admitted result =>
      if result.outcome = .executeNow then [frame] else []
  | .drainOne, .frame (some frame) => [frame]
  | _, _ => []

def drained : EndpointOp → EndpointOutput → List Octets
  | .drainOne, .frame (some frame) => [frame]
  | _, _ => []

def held (ep : Endpoint) (op : EndpointOp) : List Octets :=
  match submits ep op with
  | none => []
  | some frame =>
      if executesNow ep frame then []
      else if ep.queue.length < maxQueuedFrames then [frame] else []

inductive QueueEffect (ep : Endpoint) (op : EndpointOp) :
    List Octets → EndpointOutput → Prop
  | executed {frame output} (hSubmits : submits ep op = some frame)
      (hNow : executesNow ep frame = true)
      (hHanded : handed op output = [frame]) (hDrained : drained op output = []) :
      QueueEffect ep op ep.queue output
  | stored {frame output} (hSubmits : submits ep op = some frame)
      (hLater : executesNow ep frame = false)
      (hHanded : handed op output = []) (hDrained : drained op output = []) :
      QueueEffect ep op
        (ep.queue ++
          if ep.queue.length < maxQueuedFrames then [frame] else [])
        output
  | drained {frame queue output} (hSubmits : submits ep op = none)
      (hEnabled : ep.epEnable = true) (hQueue : ep.queue = frame :: queue)
      (hHanded : handed op output = [frame])
      (hDrained : drained op output = [frame]) :
      QueueEffect ep op queue output
  | quiet {output} (hSubmits : submits ep op = none)
      (hHanded : handed op output = []) (hDrained : drained op output = [])
      (hEmpty : op = .drainOne → ep.epEnable = true → ep.queue = []) :
      QueueEffect ep op ep.queue output

section Step

variable (ep : Endpoint)

private theorem submit_cases (frame : Octets) :
    executesNow ep frame = true ∧ (ep.submit frame).2.1 = true ∧
        (ep.submit frame).1.queue = ep.queue ∨
      executesNow ep frame = false ∧ (ep.submit frame).2.1 = false ∧
        (ep.submit frame).1.queue = ep.queue ++
          if ep.queue.length < maxQueuedFrames then [frame] else [] := by
  unfold Endpoint.submit executesNow
  by_cases hNow : (ep.epEnable || Endpoint.isConfigRequest frame) = true
  · rw [if_pos hNow]
    exact .inl ⟨hNow, rfl, rfl⟩
  · rw [if_neg hNow]
    refine .inr ⟨by simpa using hNow, ?_⟩
    by_cases hFull : maxQueuedFrames ≤ ep.queue.length
    · rw [if_pos hFull, if_neg (not_lt.mpr hFull), List.append_nil]
      exact ⟨rfl, rfl⟩
    · rw [if_neg hFull, if_pos (not_le.mp hFull)]
      exact ⟨rfl, rfl⟩

private theorem queue_admitUnderTscfGate (frame : Octets) (now : UInt32)
    (gate : Nat)
    (category : RequestCategory) (type : Option RequestTypeOpcode) :
    (ep.admitUnderTscfGate frame now gate category type).1.queue = ep.queue ∧
      (ep.admitUnderTscfGate frame now gate category type).2.outcome ≠
        .executeNow := by
  unfold Endpoint.admitUnderTscfGate
  rcases hClaim : ep.claimSlot with _ | ⟨index, slot, claimed⟩
  · simp
  · have hQueue := queue_claimSlot hClaim
    exact ⟨hQueue, by simp⟩

private theorem queue_admitConditional (frame : Octets) (now : UInt32)
    (tv : Bool) (gate : Nat) (type : RequestTypeOpcode) :
    (ep.admitConditional frame now tv gate type).1.queue = ep.queue ∧
      (ep.admitConditional frame now tv gate type).2.outcome ≠
        .executeNow := by
  unfold Endpoint.admitConditional
  rcases hClaim : ep.claimSlot with _ | ⟨index, slot, claimed⟩
  · simp
  · dsimp only
    have hQueue := queue_claimSlot hClaim
    split
    · exact ⟨hQueue, by simp⟩
    · exact ⟨hQueue, by simp⟩

private theorem admitWithAck_queueEffect (frame : Octets) (now : UInt32)
    (tv : Bool) (ts : UInt32) (gptp : Nat) :
    QueueEffect ep (.admitWithAck frame now tv ts gptp)
      (ep.admitWithAck frame now tv ts gptp).1.queue
      (.admitted (ep.admitWithAck frame now tv ts gptp).2) := by
  have hQuiet : ∀ {ep' : Endpoint} {result : AdmitResult},
      submits ep (.admitWithAck frame now tv ts gptp) = none →
      ep'.queue = ep.queue ∧ result.outcome ≠ .executeNow →
      QueueEffect ep (.admitWithAck frame now tv ts gptp) ep'.queue
        (.admitted result) := by
    intro ep' result hNone hSame
    rw [hSame.1]
    exact .quiet hNone (by simp [handed, hSame.2]) rfl nofun
  unfold Endpoint.admitWithAck
  dsimp only
  by_cases hSuspended : ep.admissionSuspended = true
  · rw [if_pos hSuspended]
    exact hQuiet (by simp [submits, hSuspended]) (by simp)
  rw [if_neg hSuspended]
  by_cases hResponse : (decide (acfCommonHeaderLen ≤ frame.length) &&
      !headerIsRequest (decodeAcfMessageInfo frame)) = true
  · rw [if_pos hResponse]
    exact hQuiet (by simp [submits, hResponse]) (by simp)
  rw [if_neg hResponse]
  cases hPeek : Endpoint.peekRequestType frame with
  | some type =>
      have hNone : submits ep (.admitWithAck frame now tv ts gptp) = none := by
        simp [submits, hPeek]
      dsimp only
      split
      · split
        · exact hQuiet hNone (queue_admitUnderTscfGate ..)
        · exact hQuiet hNone (by simp)
      · exact hQuiet hNone (queue_admitConditional ..)
  | none =>
      dsimp only
      cases tv with
      | true =>
          rw [if_pos rfl]
          exact hQuiet (by simp [submits]) (queue_admitUnderTscfGate ..)
      | false =>
          have hSome : submits ep (.admitWithAck frame now false ts gptp) =
              some frame := by
            simp [submits, hPeek, hSuspended, hResponse]
          rw [if_neg Bool.false_ne_true]
          have hCases := submit_cases ep frame
          rcases hSubmit : ep.submit frame with ⟨ep', _ | _, ack⟩
          · rw [hSubmit] at hCases
            obtain ⟨-, ⟨⟩, -⟩ | ⟨hLater, -, hQueue⟩ := hCases
            dsimp only at hQueue ⊢
            rw [hQueue]
            exact .stored hSome hLater (by simp [handed]) rfl
          · rw [hSubmit] at hCases
            obtain ⟨hNow, -, hQueue⟩ | ⟨-, ⟨⟩, -⟩ := hCases
            dsimp only at hQueue ⊢
            rw [hQueue]
            exact .executed hSome hNow (by simp [handed]) rfl

private theorem drainOne_queueEffect :
    QueueEffect ep .drainOne ep.drainOne.1.queue (.frame ep.drainOne.2) := by
  unfold Endpoint.drainOne
  by_cases hEnabled : ep.epEnable = true
  · rw [if_neg (by simp [hEnabled])]
    cases hQueue : ep.queue with
    | nil =>
        dsimp only
        exact .quiet rfl rfl rfl fun _ _ => hQueue
    | cons frame queue =>
        dsimp only
        exact .drained rfl hEnabled hQueue rfl rfl
  · rw [if_pos (by simpa using hEnabled)]
    exact .quiet rfl rfl rfl fun _ h => absurd h hEnabled

theorem queueEffect_step (op : EndpointOp) :
    QueueEffect ep op (ep.step op).1.queue (ep.step op).2 := by
  cases op with
  | submit frame =>
      change QueueEffect ep (.submit frame) (ep.submit frame).1.queue
        (.executeNow (ep.submit frame).2.1)
      obtain ⟨hNow, hAnswer, hQueue⟩ | ⟨hLater, hAnswer, hQueue⟩ :=
        submit_cases ep frame
      · rw [hAnswer, hQueue]
        exact .executed rfl hNow rfl rfl
      · rw [hAnswer, hQueue]
        exact .stored rfl hLater rfl rfl
  | drainOne => exact drainOne_queueEffect ep
  | admitWithAck frame now tv ts gptp =>
      exact admitWithAck_queueEffect ep frame now tv ts gptp
  | complete index ctx =>
      have hQueue : (ep.complete index ctx).1.queue = ep.queue := by
        unfold Endpoint.complete
        split
        · rfl
        · split <;> rfl
      change QueueEffect ep _ (ep.complete index ctx).1.queue _
      rw [hQueue]
      exact .quiet rfl rfl rfl nofun
  | chainPredecessorDone index now =>
      have hQueue : (ep.chainPredecessorDone index now).queue = ep.queue := by
        unfold Endpoint.chainPredecessorDone
        split
        · rfl
        · split <;> rfl
      change QueueEffect ep _ (ep.chainPredecessorDone index now).queue _
      rw [hQueue]
      exact .quiet rfl rfl rfl nofun
  | tagChain index group position =>
      have hQueue : (ep.tagChain index group position).queue = ep.queue := by
        unfold Endpoint.tagChain
        split <;> rfl
      change QueueEffect ep _ (ep.tagChain index group position).queue _
      rw [hQueue]
      exact .quiet rfl rfl rfl nofun
  | cancelSingle num state =>
      have hQueue : (ep.cancelSingle num state).1.queue = ep.queue := by
        unfold Endpoint.cancelSingle
        split
        · rfl
        · dsimp only
          split <;> rfl
      change QueueEffect ep _ (ep.cancelSingle num state).1.queue _
      rw [hQueue]
      exact .quiet rfl rfl rfl nofun
  | cancelChainFrom group position =>
      have hQueue : (ep.cancelChainFrom group position).queue = ep.queue := by
        unfold Endpoint.cancelChainFrom
        split <;> rfl
      change QueueEffect ep _ (ep.cancelChainFrom group position).queue _
      rw [hQueue]
      exact .quiet rfl rfl rfl nofun
  | _ => exact .quiet rfl rfl rfl nofun

end Step

/-! ## Runs -/

/-- The frames held along a run, in the order they were submitted. -/
def heldFrames : Endpoint → List EndpointOp → List Octets
  | _, [] => []
  | ep, op :: ops => held ep op ++ heldFrames (ep.step op).1 ops

/-- The frames drained along a run, in order. -/
def drainedFrames : Endpoint → List EndpointOp → List Octets
  | _, [] => []
  | ep, op :: ops => drained op (ep.step op).2 ++ drainedFrames (ep.step op).1 ops

def handedFrames : Endpoint → List EndpointOp → List Octets
  | _, [] => []
  | ep, op :: ops => handed op (ep.step op).2 ++ handedFrames (ep.step op).1 ops

private theorem queue_step (ep : Endpoint) (op : EndpointOp) :
    ep.queue ++ held ep op =
      drained op (ep.step op).2 ++ (ep.step op).1.queue := by
  have hEffect := queueEffect_step ep op
  unfold held
  generalize (ep.step op).1.queue = queue, (ep.step op).2 = output
    at hEffect ⊢
  cases hEffect with
  | executed hSubmits hNow _ hDrained => simp [hSubmits, hNow, hDrained]
  | stored hSubmits hLater _ hDrained => simp [hSubmits, hLater, hDrained]
  | drained hSubmits _ hQueue _ hDrained => simp [hSubmits, hQueue, hDrained]
  | quiet hSubmits _ hDrained _ => simp [hSubmits, hDrained]

private theorem queue_conserved (ops : List EndpointOp) (ep : Endpoint) :
    ep.queue ++ heldFrames ep ops =
      drainedFrames ep ops ++ (run Endpoint.step ep ops).1.queue := by
  induction ops generalizing ep with
  | nil => simp [heldFrames, drainedFrames]
  | cons op ops ih =>
      rw [heldFrames, drainedFrames, run_cons, ← List.append_assoc,
        queue_step, List.append_assoc, ih, List.append_assoc]

private theorem length_queue_step {ep : Endpoint}
    (h : ep.queue.length ≤ maxQueuedFrames) (op : EndpointOp) :
    (ep.step op).1.queue.length ≤ maxQueuedFrames := by
  have hEffect := queueEffect_step ep op
  generalize (ep.step op).1.queue = queue, (ep.step op).2 = output
    at hEffect ⊢
  cases hEffect with
  | executed _ _ _ _ => exact h
  | stored _ _ _ _ =>
      rw [List.length_append]
      split
      · next hRoom => exact hRoom
      · exact h
  | drained _ _ hQueue _ _ =>
      rw [hQueue, List.length_cons] at h
      exact Nat.le_of_succ_le h
  | quiet _ _ _ _ => exact h

/-- The laws of one operation: what a disabled endpoint hands out was just
submitted as a configuration request; what is executed at once leaves the
queue alone; nothing else but a drain hands out anything, and a drain of an
enabled endpoint hands out the head of its queue and removes it. -/
structure HandsOut (ep : Endpoint) (op : EndpointOp) (queue : List Octets)
    (output : EndpointOutput) : Prop where
  disabled : ep.epEnable = false → ∀ frame ∈ handed op output,
    submits ep op = some frame ∧ Endpoint.isConfigRequest frame = true
  executed : ∀ frame, submits ep op = some frame →
    executesNow ep frame = true →
      handed op output = [frame] ∧ queue = ep.queue
  stored : ∀ frame, submits ep op = some frame →
    executesNow ep frame = false → handed op output = []
  other : submits ep op = none → handed op output = drained op output
  drains : op = .drainOne → ep.epEnable = true → ∀ frame rest,
    ep.queue = frame :: rest → drained op output = [frame] ∧ queue = rest

private theorem QueueEffect.handsOut {ep : Endpoint} {op : EndpointOp}
    {queue : List Octets} {output : EndpointOutput}
    (h : QueueEffect ep op queue output) : HandsOut ep op queue output := by
  cases h with
  | executed hSubmits hNow hHanded hDrained =>
      constructor
      case disabled =>
        intro hDisabled frame hMem
        rw [hHanded, List.mem_singleton] at hMem
        subst hMem
        exact ⟨hSubmits, by simpa [executesNow, hDisabled] using hNow⟩
      case drains =>
        rintro rfl
        cases hSubmits
      all_goals simp_all
  | stored hSubmits hLater hHanded hDrained =>
      constructor
      case drains =>
        rintro rfl
        cases hSubmits
      all_goals simp_all
  | drained hSubmits hEnabled hQueue hHanded hDrained =>
      constructor
      case drains =>
        intro _ _ frame rest hSame
        rw [hQueue] at hSame
        cases hSame
        exact ⟨hDrained, rfl⟩
      all_goals simp_all
  | quiet hSubmits hHanded hDrained hEmpty => constructor <;> simp_all

private theorem drainedFrames_append (ops more : List EndpointOp)
    (ep : Endpoint) :
    drainedFrames ep (ops ++ more) =
      drainedFrames ep ops ++
        drainedFrames (run Endpoint.step ep ops).1 more := by
  induction ops generalizing ep with
  | nil => simp [drainedFrames]
  | cons op ops ih =>
      simp only [List.cons_append, drainedFrames, run_cons, ih,
        List.append_assoc]

private theorem drainedFrames_replicate (queue : List Octets) {ep : Endpoint}
    (hEnabled : ep.epEnable = true) (hQueue : ep.queue = queue) :
    drainedFrames ep (List.replicate queue.length .drainOne) = queue := by
  induction queue generalizing ep with
  | nil => rfl
  | cons frame queue ih =>
      have hDrain : ep.step .drainOne =
          ({ ep with queue := queue }, .frame (some frame)) := by
        simp [Endpoint.step, Endpoint.drainOne, hEnabled, hQueue]
      rw [List.length_cons, List.replicate_succ, drainedFrames, hDrain]
      exact congrArg (frame :: ·) (ih hEnabled rfl)

private theorem heldFrames_drained (ops : List EndpointOp) :
    drainedFrames {} (ops ++ .setEnable true ::
        List.replicate (run Endpoint.step {} ops).1.queue.length .drainOne) =
      heldFrames {} ops := by
  have hHeld := queue_conserved ops {}
  rw [drainedFrames_append, drainedFrames]
  generalize (run Endpoint.step {} ops).1 = ep at hHeld ⊢
  have hRest := @drainedFrames_replicate ep.queue
    (ep.step (.setEnable true)).1 rfl rfl
  rw [hRest]
  simpa [drained] using hHeld.symm

/-- Along every run the held requests are drained in the order they were
submitted, each once, and never more than the queue has room for are held; a
disabled endpoint executes only the configuration requests submitted to it.
Once the endpoint is enabled, as many drains as requests are held hand out
every one of them. -/
theorem held_run (ops : List EndpointOp) :
    heldFrames {} ops =
        drainedFrames {} ops ++ (run Endpoint.step {} ops).1.queue ∧
      (run Endpoint.step {} ops).1.queue.length ≤ maxQueuedFrames ∧
      Along Endpoint.step
        (fun ep op => HandsOut ep op (ep.step op).1.queue (ep.step op).2)
        {} ops ∧
      drainedFrames {} (ops ++ .setEnable true ::
          List.replicate (run Endpoint.step {} ops).1.queue.length .drainOne) =
        heldFrames {} ops := by
  refine ⟨queue_conserved ops {}, ?_, ?_, heldFrames_drained ops⟩
  · exact invariant_run
      (I := fun ep : Endpoint => ep.queue.length ≤ maxQueuedFrames)
      (fun _ op h => length_queue_step h op) ops (Nat.zero_le _)
  · rw [along_iff_getElem]
    exact fun i hi => (queueEffect_step _ _).handsOut

def firstFrame : Octets := [0x1C, 2, 0, 1, 0, 1, 0, 0]
def secondFrame : Octets := [0x1C, 2, 0, 1, 0, 2, 0, 0]
def configFrame : Octets := [0x1C, 2, 0, 1, 0x70, 3, 0, 0]

/-- The second request overtakes the first, which is held and drained later;
the configuration request is executed while the endpoint is disabled. -/
theorem held_run_overtaken :
    let ops : List EndpointOp :=
      [.setEnable false, .submit firstFrame, .submit configFrame,
        .setEnable true, .submit secondFrame, .drainOne]
    heldFrames {} ops = [firstFrame] ∧
      handedFrames {} ops = [configFrame, secondFrame, firstFrame] ∧
      (run Endpoint.step {} (ops.take 2)).1.epEnable = false ∧
      handed (.submit configFrame)
        ((run Endpoint.step {} (ops.take 2)).1.step (.submit configFrame)).2 =
          [configFrame] := by
  decide

end CppRcp.Server
