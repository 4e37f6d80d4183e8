import CppRcp.Bringup.Lifecycle
import CppRcp.Foundation.Runs

/-!
# Runs of lifecycle transitions

The check that guards the last step of bring-up accepts exactly the snapshots
whose tables agree, and `RcpConfigured` is entered and left only by the steps
that the guards let through, in any order of calls.
-/

namespace CppRcp.Lifecycle

open CppRcp.Foundation CppRcp.Mock CppRcp.Regmap

/-! ## The check -/

/-- What a snapshot must satisfy before the server may go live: endpoints in
use are bound to a stream, and configured streams have a response stream and
an endpoint in use. -/
structure RcpConsistent (snap : PlausibilitySnapshot) : Prop where
  associated : ∀ ep ∈ snap.endpoints, ep.epUsed = true →
    ep.hasStreamAssoc = true
  answered : ∀ (index : Nat) (rs : RequestStreamPlausibility),
    snap.requestStreams[index]? = some rs → rs.configured = true →
      rs.hasResponseStream = true ∧
        rs.responseStreamIndex < snap.responseStreamCount
  bound : ∀ (index : Nat) (rs : RequestStreamPlausibility),
    snap.requestStreams[index]? = some rs → rs.configured = true →
      ∃ ep ∈ snap.endpoints, ep.epUsed = true ∧ ep.hasStreamAssoc = true ∧
        ep.requestStreamIndex = index

private theorem hasBoundEndpoint_iff {index : Nat}
    {endpoints : List EndpointPlausibility} :
    hasBoundEndpoint index endpoints = true ↔
      ∃ ep ∈ endpoints, ep.epUsed = true ∧ ep.hasStreamAssoc = true ∧
        ep.requestStreamIndex = index := by
  induction endpoints with
  | nil => simp [hasBoundEndpoint]
  | cons ep rest ih => simp [hasBoundEndpoint, ih, and_assoc]

private theorem endpointsAssociated_iff
    {endpoints : List EndpointPlausibility} :
    endpointsAssociated endpoints = true ↔
      ∀ ep ∈ endpoints, ep.epUsed = true → ep.hasStreamAssoc = true := by
  induction endpoints with
  | nil => simp [endpointsAssociated]
  | cons ep rest ih =>
      rw [endpointsAssociated, List.forall_mem_cons, ← ih]
      cases ep.epUsed <;> cases ep.hasStreamAssoc <;> simp

/-- What the check demands of the request stream in slot `index`. -/
def StreamConsistent (snap : PlausibilitySnapshot) (index : Nat)
    (rs : RequestStreamPlausibility) : Prop :=
  rs.configured = true →
    rs.hasResponseStream = true ∧
      rs.responseStreamIndex < snap.responseStreamCount ∧
      hasBoundEndpoint index snap.endpoints = true

private theorem requestStreamsConsistentFrom_iff {snap : PlausibilitySnapshot}
    {start : Nat} {streams : List RequestStreamPlausibility} :
    requestStreamsConsistentFrom snap start streams = true ↔
      ∀ index rs, streams[index]? = some rs →
        StreamConsistent snap (start + index) rs := by
  induction streams generalizing start with
  | nil => simp [requestStreamsConsistentFrom]
  | cons rs rest ih =>
      have hFirst : requestStreamsConsistentFrom snap start (rs :: rest) =
            true ↔
          StreamConsistent snap start rs ∧
            requestStreamsConsistentFrom snap (start + 1) rest = true := by
        rw [requestStreamsConsistentFrom, StreamConsistent]
        cases rs.configured <;> cases rs.hasResponseStream <;>
          cases hasBoundEndpoint start snap.endpoints <;> simp
      rw [hFirst, ih]
      constructor
      · rintro ⟨hHead, hTail⟩ index row hRow
        cases index with
        | zero =>
            obtain rfl : rs = row := by simpa using hRow
            exact hHead
        | succ index =>
            have hNext := hTail index row (by simpa using hRow)
            rwa [Nat.add_assoc, Nat.add_comm 1] at hNext
      · intro hAll
        refine ⟨hAll 0 rs rfl, fun index row hRow => ?_⟩
        have hNext := hAll (index + 1) row (by simpa using hRow)
        rwa [Nat.add_comm index, ← Nat.add_assoc] at hNext

private theorem checkRcpCfg_eq_none_iff {snap : PlausibilitySnapshot} :
    checkRcpCfg snap = none ↔ RcpConsistent snap := by
  have hLoops : checkRcpCfg snap = none ↔
      endpointsAssociated snap.endpoints = true ∧
        requestStreamsConsistent snap = true := by
    unfold checkRcpCfg
    cases endpointsAssociated snap.endpoints <;>
      cases requestStreamsConsistent snap <;> simp
  rw [hLoops, endpointsAssociated_iff, requestStreamsConsistent,
    requestStreamsConsistentFrom_iff]
  simp only [Nat.zero_add, StreamConsistent, hasBoundEndpoint_iff]
  constructor
  · rintro ⟨hEndpoints, hStreams⟩
    exact
      { associated := hEndpoints
        answered := fun index rs hRow hConfigured =>
          have h := hStreams index rs hRow hConfigured
          ⟨h.1, h.2.1⟩
        bound := fun index rs hRow hConfigured =>
          (hStreams index rs hRow hConfigured).2.2 }
  · intro h
    refine ⟨h.associated, fun index rs hRow hConfigured => ?_⟩
    obtain ⟨hResponse, hInRange⟩ := h.answered index rs hRow hConfigured
    exact ⟨hResponse, hInRange, h.bound index rs hRow hConfigured⟩

/-! ## One call -/

inductive Moves (request : Requested) : ServerState → ServerState → Prop
  | raised (hCheck : checkHwCfg request.snap = none) :
      Moves request .hwUnconfigured .hwConfigured
  | completed (hWriter : authorized request.writer = true)
      (hCheck : checkRcpCfg request.snap = none) :
      Moves request .hwConfigured .rcpConfigured
  | demoted (hWriter : request.writer.viaRootClientEp0 = true ∨
        request.writer.viaValidStreamAssociation = true)
      (hIdle : request.allOtherEpsIdle = true) :
      Moves request .rcpConfigured .hwConfigured
  | reset (hWriter : authorized request.writer = true)
      (hIdle : request.allOtherEpsIdle = true) :
      Moves request .hwConfigured .hwUnconfigured
  | cleared (hWriter : request.writer.viaRootClientEp0 = true)
      (hIdle : request.allOtherEpsIdle = true) :
      Moves request .rcpConfigured .hwUnconfigured

/-- What a call does: it moves to the target and tells every subscriber so, or
it changes and tells nothing. -/
inductive Effect (state : ServerState) (request : Requested) :
    ServerState → Answer → Prop
  | moved (h : Moves request state request.target) :
      Effect state request request.target
        { notified := some (state, request.target) }
  | stayed (h : request.target = state) : Effect state request state {}
  | refused (error : LifecycleErrc) :
      Effect state request state { error := some error }

theorem Moves.ne {request : Requested} {state next : ServerState}
    (h : Moves request state next) : state ≠ next := by
  cases h <;> simp

private theorem effect_commit {state : ServerState} {request : Requested}
    (h : Moves request state request.target) :
    Effect state request (commit state request.target).1
      (commit state request.target).2 := by
  simp only [commit, notifyStateChanged, if_neg h.ne]
  exact .moved h

theorem transition_effect (state : ServerState) (request : Requested) :
    Effect state request (transition state request).1
      (transition state request).2 := by
  by_cases hSame : request.target = state
  · simp only [transition, if_pos hSame]
    exact .stayed hSame
  · obtain ⟨target, snap, writer, idle⟩ := request
    simp only [transition, if_neg hSame]
    cases state <;> cases target <;> simp only <;> try exact absurd rfl hSame
    case hwUnconfigured.hwConfigured =>
      cases hCheck : checkHwCfg snap with
      | some error => exact .refused error
      | none => exact effect_commit (.raised hCheck)
    case hwUnconfigured.rcpConfigured => exact .refused _
    case hwConfigured.hwUnconfigured =>
      cases hWriter : authorized writer with
      | false => exact .refused _
      | true =>
          cases idle with
          | false => exact .refused _
          | true => exact effect_commit (.reset hWriter rfl)
    case hwConfigured.rcpConfigured =>
      cases hWriter : authorized writer with
      | false => exact .refused _
      | true =>
          cases hCheck : checkRcpCfg snap with
          | some error => exact .refused error
          | none => exact effect_commit (.completed hWriter hCheck)
    case rcpConfigured.hwUnconfigured =>
      cases hRoot : writer.viaRootClientEp0 with
      | false => exact .refused _
      | true =>
          cases idle with
          | false => exact .refused _
          | true => exact effect_commit (.cleared hRoot rfl)
    case rcpConfigured.hwConfigured =>
      by_cases hWriter : writer.viaRootClientEp0 = true ∨
          writer.viaValidStreamAssociation = true
      · rw [if_neg (by grind)]
        cases idle with
        | false => exact .refused _
        | true => exact effect_commit (.demoted hWriter rfl)
      · rw [if_pos (by grind)]
        exact .refused _

/-! ## Runs -/

/-- What one call keeps to. -/
structure Guarded (state : ServerState) (request : Requested) : Prop where
  entered : (transition state request).1 = .rcpConfigured →
    state ≠ .rcpConfigured →
      state = .hwConfigured ∧ RcpConsistent request.snap ∧
        authorized request.writer = true
  left : state = .rcpConfigured →
    (transition state request).1 ≠ .rcpConfigured →
      (request.writer.viaRootClientEp0 = true ∨
          request.writer.viaValidStreamAssociation = true) ∧
        request.allOtherEpsIdle = true
  refused : (transition state request).2.error ≠ none →
    (transition state request).1 = state

section Call

variable {state next : ServerState} {request : Requested} {answer : Answer}

theorem Effect.entered (h : Effect state request next answer)
    (hNext : next = .rcpConfigured) (hOutside : state ≠ .rcpConfigured) :
    state = .hwConfigured ∧ RcpConsistent request.snap ∧
      authorized request.writer = true := by
  cases h with
  | stayed _ => exact absurd hNext hOutside
  | refused _ => exact absurd hNext hOutside
  | moved hMoves =>
      rw [hNext] at hMoves
      cases hMoves with
      | completed hWriter hCheck =>
          exact ⟨rfl, checkRcpCfg_eq_none_iff.mp hCheck, hWriter⟩

theorem Effect.left (h : Effect state request next answer)
    (hState : state = .rcpConfigured) (hNext : next ≠ .rcpConfigured) :
    (request.writer.viaRootClientEp0 = true ∨
        request.writer.viaValidStreamAssociation = true) ∧
      request.allOtherEpsIdle = true := by
  cases h with
  | stayed _ => exact absurd hState hNext
  | refused _ => exact absurd hState hNext
  | moved hMoves =>
      rw [hState] at hMoves
      generalize request.target = target at hMoves
      cases hMoves with
      | demoted hWriter hIdle => exact ⟨hWriter, hIdle⟩
      | cleared hRoot hIdle => exact ⟨.inl hRoot, hIdle⟩

theorem Effect.unchanged (h : Effect state request next answer)
    (hError : answer.error ≠ none) : next = state := by
  cases h with
  | moved _ => exact absurd rfl hError
  | stayed _ => rfl
  | refused _ => rfl

end Call

private theorem guarded_transition (state : ServerState) (request : Requested) :
    Guarded state request :=
  have hEffect := transition_effect state request
  ⟨hEffect.entered, hEffect.left, hEffect.unchanged⟩

private theorem exists_completion {state : ServerState}
    {requests : List Requested} (hStart : state ≠ .rcpConfigured)
    (hEnd : (run transition state requests).1 = .rcpConfigured) :
    ∃ before request after, requests = before ++ request :: after ∧
      (run transition state before).1 = .hwConfigured ∧
      RcpConsistent request.snap ∧ authorized request.writer = true ∧
      ∀ m, (run transition state (before ++ request :: after.take m)).1 =
        .rcpConfigured := by
  obtain ⟨before, request, after, rfl, hOutside, hInside⟩ :=
    @exists_last_entry _ _ _ transition (· = .rcpConfigured) state requests
      hStart hEnd
  have hEntered := hInside 0
  rw [List.take_zero, run_append] at hEntered
  obtain ⟨hFrom, hSnap, hWriter⟩ :=
    (guarded_transition (run transition state before).1 request).entered
      hEntered hOutside
  exact ⟨before, request, after, rfl, hFrom, hSnap, hWriter, hInside⟩

/-- The check accepts exactly the consistent snapshots; in every run of calls
each one keeps to the guards, and a server that went live did so by a call
that they let through. -/
theorem lifecycle_run :
    (∀ snap, checkRcpCfg snap = none ↔ RcpConsistent snap) ∧
      ∀ state requests,
        Along transition Guarded state requests ∧
        (state ≠ .rcpConfigured →
          (run transition state requests).1 = .rcpConfigured →
          ∃ before request after, requests = before ++ request :: after ∧
            (run transition state before).1 = .hwConfigured ∧
            RcpConsistent request.snap ∧ authorized request.writer = true ∧
            ∀ m, (run transition state
              (before ++ request :: after.take m)).1 = .rcpConfigured) := by
  refine ⟨fun _ => checkRcpCfg_eq_none_iff, fun state requests =>
    ⟨?_, exists_completion⟩⟩
  exact along_iff_getElem.mpr fun _ _ => guarded_transition _ _

end CppRcp.Lifecycle
