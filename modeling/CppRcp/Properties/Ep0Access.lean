import CppRcp.Bringup.Ep0
import CppRcp.Foundation.Runs

/-!
# Who may write the register map

Over any run of EP0: the tables have one row for each endpoint, or EP0 was
built over a map whose sizes disagree and answers for no endpoint; one client
at a time is root; only the root client changes generic settings, and only it
or the owner of an endpoint the functional ones; a refused call changes
nothing.

From `HwConfigured` on the generic settings of the endpoints are locked, and
in `RcpConfigured` the functional ones too.  The writes of single rows respect
this; a write of the whole map does not ask for the lock.
-/

namespace CppRcp.Access

open CppRcp.Foundation CppRcp.Lifecycle CppRcp.Mock CppRcp.Regmap

variable {ρ : Type}

/-! ## Sizes -/

structure TablesAgree (ep0 : Ep0 ρ) : Prop where
  owners : ep0.endpointOwner.length = ep0.regs.svrEpCount.toNat
  generic : ep0.regs.genericConfigs.length = ep0.regs.svrEpCount.toNat
  functional : ep0.regs.functionalConfigs.length = ep0.regs.svrEpCount.toNat

/-- EP0 over a map whose sizes disagree keeps the map it was `given` and has
no owner slots. -/
structure FailsClosed (given : RegisterMap ρ) (ep0 : Ep0 ρ) : Prop where
  unfit : sizeInvariantHolds given = false
  kept : ep0.regs = given
  noOwners : ep0.endpointOwner = []

private theorem sizeInvariantHolds_iff {regs : RegisterMap ρ} :
    sizeInvariantHolds regs = true ↔
      regs.genericConfigs.length = regs.svrEpCount.toNat ∧
        regs.functionalConfigs.length = regs.svrEpCount.toNat := by
  simp [sizeInvariantHolds]

private theorem tables_construct (regs : RegisterMap ρ)
    (lifecycle : ServerState) :
    TablesAgree (construct regs lifecycle) ∨
      FailsClosed regs (construct regs lifecycle) := by
  cases hSizes : sizeInvariantHolds regs with
  | false => exact .inr ⟨hSizes, rfl, by simp [construct, hSizes]⟩
  | true =>
      obtain ⟨hGeneric, hFunctional⟩ := sizeInvariantHolds_iff.mp hSizes
      exact .inl ⟨by simp [construct, hSizes], hGeneric, hFunctional⟩

private theorem pos_of_ne_kEp0 {target : EndpointId} (h : target ≠ kEp0) :
    0 < target.toNat :=
  Nat.pos_of_ne_zero fun hZero => h (UInt16.toNat_inj.mp hZero)

private theorem FailsClosed.no_slot {given : RegisterMap ρ} {ep0 : Ep0 ρ}
    (h : FailsClosed given ep0) {target : EndpointId} :
    ¬ (target ≠ kEp0 ∧ target.toNat ≤ ep0.endpointOwner.length) := by
  rintro ⟨hTarget, hSlot⟩
  rw [h.noOwners] at hSlot
  exact absurd (pos_of_ne_kEp0 hTarget) (Nat.not_lt.mpr hSlot)

private theorem tables_step {given : RegisterMap ρ} (ep0 : Ep0 ρ)
    (call : Call ρ) (h : TablesAgree ep0 ∨ FailsClosed given ep0) :
    TablesAgree (step ep0 call).1 ∨ FailsClosed given (step ep0 call).1 := by
  have hEffect := step_effect ep0 call
  generalize step ep0 call = result at hEffect ⊢
  obtain ⟨next, error⟩ := result
  cases hEffect with
  | refused | readable | writable => exact h
  | claimed | released | moved =>
      rcases h with h | h
      · exact .inl ⟨h.owners, h.generic, h.functional⟩
      · exact .inr ⟨h.unfit, h.kept, h.noOwners⟩
  | assigned ep client =>
      rcases h with h | h
      · exact .inl ⟨by simpa using h.owners, h.generic, h.functional⟩
      · exact .inr ⟨h.unfit, h.kept, by simp [h.noOwners]⟩
  | replaced client newMap hRoot hSizes =>
      obtain ⟨hGeneric, hFunctional⟩ := sizeInvariantHolds_iff.mp hSizes
      exact .inl ⟨by simp, hGeneric, hFunctional⟩
  | wroteGeneric client target cfg hRoot hSlot =>
      rcases h with h | h
      · exact .inl ⟨h.owners, by simpa [Ep0.setGenericConfig] using h.generic,
          h.functional⟩
      · exact absurd hSlot h.no_slot
  | wroteFunctional client target cfg hWriter hSlot =>
      rcases h with h | h
      · exact .inl ⟨h.owners, h.generic,
          by simpa [Ep0.setFunctionalConfig] using h.functional⟩
      · exact absurd hSlot h.no_slot

/-- The endpoint that a call is about; the access checks are also asked about
EP0 itself. -/
def Call.endpoint : Call ρ → Option EndpointId
  | .setEndpointOwner ep _ => some ep
  | .checkReadAccess target => if target = kEp0 then none else some target
  | .checkWriteAccess _ target _ =>
      if target = kEp0 then none else some target
  | .writeGenericConfig _ target _ => some target
  | .writeFunctionalConfig _ target _ => some target
  | _ => none

theorem FailsClosed.answers {given : RegisterMap ρ} {ep0 : Ep0 ρ}
    (h : FailsClosed given ep0) {call : Call ρ} {ep : EndpointId}
    (hEndpoint : call.endpoint = some ep) :
    (step ep0 call).2 = some .invalidParameter := by
  have hAccess : ∀ client target block, target ≠ kEp0 →
      ep0.checkWriteAccess client target block = some .invalidParameter := by
    intro client target block hTarget
    simp [Ep0.checkWriteAccess, hTarget, h.noOwners, pos_of_ne_kEp0]
  cases call with
  | setEndpointOwner target client =>
      by_cases hTarget : target = kEp0 <;>
        simp [step, Ep0.setEndpointOwner, hTarget, h.noOwners, pos_of_ne_kEp0]
  | checkReadAccess target =>
      have hTarget : target ≠ kEp0 := by
        rintro rfl
        simp [Call.endpoint] at hEndpoint
      simp [step, Ep0.checkReadAccess, hTarget, h.noOwners, pos_of_ne_kEp0]
  | checkWriteAccess client target block =>
      have hTarget : target ≠ kEp0 := by
        rintro rfl
        simp [Call.endpoint] at hEndpoint
      exact hAccess client target block hTarget
  | writeGenericConfig client target cfg =>
      by_cases hTarget : target = kEp0 <;>
        simp [step, Ep0.writeGenericConfig, hTarget, hAccess]
  | writeFunctionalConfig client target cfg =>
      by_cases hTarget : target = kEp0 <;>
        simp [step, Ep0.writeFunctionalConfig, hTarget, hAccess]
  | _ => simp [Call.endpoint] at hEndpoint

/-! ## Writers -/

/-- The client that a call comes from. -/
def Call.client : Call ρ → Option Client
  | .claimRootClient client => some client
  | .checkWriteAccess client _ _ => some client
  | .writeWholeMap client _ => some client
  | .writeGenericConfig client _ _ => some client
  | .writeFunctionalConfig client _ _ => some client
  | _ => none

/-- What one call keeps to.  Row `i` of a table is that of endpoint
`i + 1`. -/
structure Authorized (ep0 : Ep0 ρ) (call : Call ρ) : Prop where
  generic : ∀ i : Nat,
    (step ep0 call).1.regs.genericConfigs[i]? ≠ ep0.regs.genericConfigs[i]? →
      ∃ client, call.client = some client ∧ ep0.isRootClient client = true
  functional : ∀ i : Nat,
    (step ep0 call).1.regs.functionalConfigs[i]? ≠
        ep0.regs.functionalConfigs[i]? →
      ∃ client, call.client = some client ∧
        (ep0.isRootClient client = true ∨
          ep0.endpointOwner[i]? = some (some client))
  root : ∀ client, ep0.rootClient = some client →
    (step ep0 call).1.rootClient = some client ∨ call = .releaseRootClient
  refused : (step ep0 call).2 ≠ none → (step ep0 call).1 = ep0

section Call

variable {ep0 next : Ep0 ρ} {call : Call ρ} {error : Option RegMapErrc}

theorem Effect.generic (h : Effect ep0 call next error) (i : Nat)
    (hChanged : next.regs.genericConfigs[i]? ≠
      ep0.regs.genericConfigs[i]?) :
    ∃ client, call.client = some client ∧
      ep0.isRootClient client = true := by
  cases h with
  | replaced client newMap hRoot => exact ⟨client, rfl, hRoot⟩
  | wroteGeneric client target cfg hRoot => exact ⟨client, rfl, hRoot⟩
  | _ => exact absurd rfl hChanged

theorem Effect.functional (h : Effect ep0 call next error) (i : Nat)
    (hChanged : next.regs.functionalConfigs[i]? ≠
      ep0.regs.functionalConfigs[i]?) :
    ∃ client, call.client = some client ∧
      (ep0.isRootClient client = true ∨
        ep0.endpointOwner[i]? = some (some client)) := by
  cases h with
  | replaced client newMap hRoot => exact ⟨client, rfl, .inl hRoot⟩
  | wroteFunctional client target cfg hWriter =>
      refine ⟨client, rfl, hWriter.imp_right fun hOwns => ?_⟩
      have hRow : target.toNat - 1 = i := by
        by_contra hOther
        exact hChanged (List.getElem?_set_ne hOther)
      simpa [Ep0.owns, hRow] using hOwns
  | _ => exact absurd rfl hChanged

theorem Effect.root (h : Effect ep0 call next error) (client : Client)
    (hRoot : ep0.rootClient = some client) :
    next.rootClient = some client ∨ call = .releaseRootClient := by
  cases h with
  | claimed other hFree =>
      rw [hRoot] at hFree
      exact .inl (hFree.resolve_left (by simp)).symm
  | released => exact .inr rfl
  | _ => exact .inl hRoot

theorem Effect.unchanged (h : Effect ep0 call next error)
    (hError : error ≠ none) : next = ep0 := by
  cases h with
  | refused => rfl
  | _ => exact absurd rfl hError

end Call

private theorem authorized_step (ep0 : Ep0 ρ) (call : Call ρ) :
    Authorized ep0 call :=
  have hEffect := step_effect ep0 call
  ⟨hEffect.generic, hEffect.functional, hEffect.root, hEffect.unchanged⟩

private theorem isRootClient_unique {ep0 : Ep0 ρ} {a b : Client}
    (ha : ep0.isRootClient a = true) (hb : ep0.isRootClient b = true) :
    a = b := by
  simp only [Ep0.isRootClient, beq_iff_eq] at ha hb
  exact Option.some_inj.mp (ha.symm.trans hb)

/-! ## Runs -/

theorem ep0_run (regs : RegisterMap ρ) (lifecycle : ServerState)
    (calls : List (Call ρ)) :
    let ep0 := (run step (construct regs lifecycle) calls).1
    (TablesAgree ep0 ∨
        FailsClosed regs ep0 ∧
          ∀ (call : Call ρ) ep, call.endpoint = some ep →
            (step ep0 call).2 = some .invalidParameter) ∧
      (∀ a b, ep0.isRootClient a = true → ep0.isRootClient b = true →
        a = b) ∧
      Along step Authorized (construct regs lifecycle) calls := by
  have hTables := @invariant_run _ _ _ step
    (fun ep0 => TablesAgree ep0 ∨ FailsClosed regs ep0) tables_step
    (construct regs lifecycle) calls (tables_construct regs lifecycle)
  refine ⟨hTables.imp_right fun h => ⟨h, fun _ _ => h.answers⟩,
    fun _ _ => isRootClient_unique, ?_⟩
  exact along_iff_getElem.mpr fun _ _ => authorized_step _ _

def undersizedMap : RegisterMap Unit where
  svrEpCount := 4
  genericConfigs := [{}]
  functionalConfigs := [{}]
  others := ()

theorem ep0_over_undersizedMap :
    ¬ ∀ (regs : RegisterMap Unit) (lifecycle : ServerState)
        (calls : List (Call Unit)),
      let ep0 := (run step (construct regs lifecycle) calls).1
      ep0.endpointOwner.length = ep0.regs.genericConfigs.length ∧
        ep0.endpointOwner.length = ep0.regs.functionalConfigs.length := by
  intro h
  exact absurd (h undersizedMap .hwUnconfigured []).1 (by decide)

/-! ## Locked settings -/

/-- The call changes no row of a locked table. -/
structure LocksKept (ep0 : Ep0 ρ) (call : Call ρ) : Prop where
  generic : genericConfigLocked ep0.lifecycle = true →
    (step ep0 call).1.regs.genericConfigs = ep0.regs.genericConfigs
  functional : functionalConfigLocked ep0.lifecycle = true →
    (step ep0 call).1.regs.functionalConfigs = ep0.regs.functionalConfigs

/-- A whole map that the root client writes, and that is not turned down for
its sizes, agrees with the present one where that is locked. -/
def RespectsLocks (ep0 : Ep0 ρ) (call : Call ρ) : Prop :=
  ∀ client newMap, call = .writeWholeMap client newMap →
    ep0.isRootClient client = true → sizeInvariantHolds newMap = true →
      (genericConfigLocked ep0.lifecycle = true →
          newMap.genericConfigs = ep0.regs.genericConfigs) ∧
        (functionalConfigLocked ep0.lifecycle = true →
          newMap.functionalConfigs = ep0.regs.functionalConfigs)

private theorem writeWholeMap_accepted {ep0 : Ep0 ρ} {client : Client}
    {newMap : RegisterMap ρ} (hRoot : ep0.isRootClient client = true)
    (hSizes : sizeInvariantHolds newMap = true) :
    (step ep0 (.writeWholeMap client newMap)).1.regs = newMap := by
  simp [step, Ep0.writeWholeMap, hRoot, hSizes]

section Call

variable {ep0 next : Ep0 ρ} {call : Call ρ} {error : Option RegMapErrc}

private theorem Effect.generic_locked (h : Effect ep0 call next error)
    (hRespects : RespectsLocks ep0 call)
    (hLocked : genericConfigLocked ep0.lifecycle = true) :
    next.regs.genericConfigs = ep0.regs.genericConfigs := by
  cases h with
  | replaced client newMap hRoot hSizes =>
      exact (hRespects client newMap rfl hRoot hSizes).1 hLocked
  | wroteGeneric client target cfg hRoot hSlot hUnlocked =>
      rw [hLocked] at hUnlocked
      contradiction
  | _ => rfl

private theorem Effect.functional_locked (h : Effect ep0 call next error)
    (hRespects : RespectsLocks ep0 call)
    (hLocked : functionalConfigLocked ep0.lifecycle = true) :
    next.regs.functionalConfigs = ep0.regs.functionalConfigs := by
  cases h with
  | replaced client newMap hRoot hSizes =>
      exact (hRespects client newMap rfl hRoot hSizes).2 hLocked
  | wroteFunctional client target cfg hWriter hSlot hUnlocked =>
      rw [hLocked] at hUnlocked
      contradiction
  | _ => rfl

private theorem locksKept_iff : LocksKept ep0 call ↔ RespectsLocks ep0 call :=
    by
  constructor
  · rintro h client newMap rfl hRoot hSizes
    have hRegs := writeWholeMap_accepted hRoot hSizes
    exact ⟨fun hLocked => by rw [← h.generic hLocked, hRegs],
      fun hLocked => by rw [← h.functional hLocked, hRegs]⟩
  · intro h
    have hEffect := step_effect ep0 call
    exact ⟨hEffect.generic_locked h, hEffect.functional_locked h⟩

end Call

/-- A run keeps the locks exactly when its writes of the whole map do. -/
theorem locks_run_iff (ep0 : Ep0 ρ) (calls : List (Call ρ)) :
    Along step LocksKept ep0 calls ↔ Along step RespectsLocks ep0 calls :=
  ⟨fun h => h.mono fun _ _ => locksKept_iff.mp,
    fun h => h.mono fun _ _ => locksKept_iff.mpr⟩

def oneEndpoint (epUsed : Bool) : RegisterMap Unit where
  svrEpCount := 1
  genericConfigs := [{ epUsed }]
  functionalConfigs := [{}]
  others := ()

theorem locks_broken_by_root :
    ¬ ∀ (regs : RegisterMap Unit) (lifecycle : ServerState)
        (calls : List (Call Unit)),
      Along step LocksKept (construct regs lifecycle) calls := by
  intro h
  obtain ⟨-, hWrite, -⟩ := h (oneEndpoint false) .rcpConfigured
    [.claimRootClient 1, .writeWholeMap 1 (oneEndpoint true)]
  exact absurd (hWrite.generic (by decide)) (by decide)

end CppRcp.Access
