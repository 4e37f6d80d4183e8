import CppRcp.Bringup.Lifecycle

/-!
# EP0

`regmap::Ep0`: who may write what of the register map.  One client at a time
holds the root slot and may write everything; the owner of an endpoint may
write the functional settings of that endpoint.  The lifecycle state is the
server's and changes between the calls.
-/

namespace CppRcp.Access

open CppRcp.Foundation CppRcp.Lifecycle CppRcp.Mock CppRcp.Regmap

abbrev Client := Nat

abbrev EndpointId := UInt16

def kEp0 : EndpointId := 0

inductive ConfigBlock
  | generic | functional
  deriving DecidableEq, Repr

structure EndpointFunctionalConfig where
  data : Octets := []
  deriving DecidableEq, Repr

/-- The endpoint tables and their count; `others` are the registers that EP0
only hands over with the whole map. -/
structure RegisterMap (ρ : Type) where
  svrEpCount : UInt16
  genericConfigs : List EndpointGenericConfig
  functionalConfigs : List EndpointFunctionalConfig
  others : ρ
  deriving DecidableEq, Repr

def sizeInvariantHolds {ρ : Type} (regs : RegisterMap ρ) : Bool :=
  regs.genericConfigs.length == regs.svrEpCount.toNat &&
    regs.functionalConfigs.length == regs.svrEpCount.toNat

structure Ep0 (ρ : Type) where
  regs : RegisterMap ρ
  lifecycle : ServerState
  rootClient : Option Client
  endpointOwner : List (Option Client)
  deriving DecidableEq, Repr

variable {ρ : Type}

/-- The constructor: over a map whose sizes disagree no endpoint has an
owner slot. -/
def construct (regs : RegisterMap ρ) (lifecycle : ServerState) : Ep0 ρ where
  regs
  lifecycle
  rootClient := none
  endpointOwner :=
    List.replicate
      (if sizeInvariantHolds regs then regs.svrEpCount.toNat else 0) none

namespace Ep0

variable (ep0 : Ep0 ρ)

def isEndpointTableConsistent : Bool :=
  sizeInvariantHolds ep0.regs &&
    ep0.endpointOwner.length == ep0.regs.svrEpCount.toNat

def isRootClient (client : Client) : Bool := ep0.rootClient == some client

def owns (client : Client) (target : EndpointId) : Bool :=
  ep0.endpointOwner[target.toNat - 1]? == some (some client)

def claimRootClient (client : Client) : Ep0 ρ × Option RegMapErrc :=
  if ep0.rootClient.isSome && !ep0.isRootClient client then
    (ep0, some .requestRejected)
  else ({ ep0 with rootClient := some client }, none)

def releaseRootClient : Ep0 ρ := { ep0 with rootClient := none }

def setEndpointOwner (ep : EndpointId) (client : Client) :
    Ep0 ρ × Option RegMapErrc :=
  if ep = kEp0 ∨ ep0.endpointOwner.length < ep.toNat then
    (ep0, some .invalidParameter)
  else
    ({ ep0 with
        endpointOwner := ep0.endpointOwner.set (ep.toNat - 1) (some client) },
      none)

def checkReadAccess (target : EndpointId) : Option RegMapErrc :=
  if target ≠ kEp0 ∧ ep0.endpointOwner.length < target.toNat then
    some .invalidParameter
  else none

def locked : ConfigBlock → Bool
  | .generic => genericConfigLocked ep0.lifecycle
  | .functional => functionalConfigLocked ep0.lifecycle

def checkWriteAccess (client : Client) (target : EndpointId)
    (block : ConfigBlock) : Option RegMapErrc :=
  if target = kEp0 then
    if ep0.isRootClient client then none else some .unauthorizedAccess
  else if ep0.endpointOwner.length < target.toNat then some .invalidParameter
  else if !(ep0.isRootClient client ||
      (block == .functional && ep0.owns client target)) then
    some .unauthorizedAccess
  else if ep0.locked block then some .lockedMemAccess
  else none

def writeWholeMap (client : Client) (newMap : RegisterMap ρ) :
    Ep0 ρ × Option RegMapErrc :=
  if !ep0.isRootClient client then (ep0, some .unauthorizedAccess)
  else if !sizeInvariantHolds newMap then (ep0, some .invalidParameter)
  else
    ({ ep0 with
        regs := newMap
        endpointOwner := List.replicate newMap.svrEpCount.toNat none },
      none)

def setGenericConfig (index : Nat) (cfg : EndpointGenericConfig) : Ep0 ρ :=
  { ep0 with
    regs :=
      { ep0.regs with
        genericConfigs := ep0.regs.genericConfigs.set index cfg } }

def setFunctionalConfig (index : Nat) (cfg : EndpointFunctionalConfig) :
    Ep0 ρ :=
  { ep0 with
    regs :=
      { ep0.regs with
        functionalConfigs := ep0.regs.functionalConfigs.set index cfg } }

def writeGenericConfig (client : Client) (target : EndpointId)
    (cfg : EndpointGenericConfig) : Ep0 ρ × Option RegMapErrc :=
  if target = kEp0 then (ep0, some .invalidParameter)
  else
    match ep0.checkWriteAccess client target .generic with
    | some error => (ep0, some error)
    | none =>
        if ep0.regs.genericConfigs.length ≤ target.toNat - 1 then
          (ep0, some .invalidParameter)
        else (ep0.setGenericConfig (target.toNat - 1) cfg, none)

def writeFunctionalConfig (client : Client) (target : EndpointId)
    (cfg : EndpointFunctionalConfig) : Ep0 ρ × Option RegMapErrc :=
  if target = kEp0 then (ep0, some .invalidParameter)
  else
    match ep0.checkWriteAccess client target .functional with
    | some error => (ep0, some error)
    | none =>
        if ep0.regs.functionalConfigs.length ≤ target.toNat - 1 then
          (ep0, some .invalidParameter)
        else (ep0.setFunctionalConfig (target.toNat - 1) cfg, none)

end Ep0

/-! ## Calls -/

/-- The operations of the class, and the change of the lifecycle state that
the server makes between them. -/
inductive Call (ρ : Type)
  | claimRootClient (client : Client)
  | releaseRootClient
  | setEndpointOwner (ep : EndpointId) (client : Client)
  | checkReadAccess (target : EndpointId)
  | checkWriteAccess (client : Client) (target : EndpointId)
      (block : ConfigBlock)
  | writeWholeMap (client : Client) (newMap : RegisterMap ρ)
  | writeGenericConfig (client : Client) (target : EndpointId)
      (cfg : EndpointGenericConfig)
  | writeFunctionalConfig (client : Client) (target : EndpointId)
      (cfg : EndpointFunctionalConfig)
  | lifecycleChanged (state : ServerState)

def step (ep0 : Ep0 ρ) : Call ρ → Ep0 ρ × Option RegMapErrc
  | .claimRootClient client => ep0.claimRootClient client
  | .releaseRootClient => (ep0.releaseRootClient, none)
  | .setEndpointOwner ep client => ep0.setEndpointOwner ep client
  | .checkReadAccess target => (ep0, ep0.checkReadAccess target)
  | .checkWriteAccess client target block =>
      (ep0, ep0.checkWriteAccess client target block)
  | .writeWholeMap client newMap => ep0.writeWholeMap client newMap
  | .writeGenericConfig client target cfg =>
      ep0.writeGenericConfig client target cfg
  | .writeFunctionalConfig client target cfg =>
      ep0.writeFunctionalConfig client target cfg
  | .lifecycleChanged state => ({ ep0 with lifecycle := state }, none)

/-! ## What a call does -/

inductive Effect (ep0 : Ep0 ρ) :
    Call ρ → Ep0 ρ → Option RegMapErrc → Prop
  | refused (call : Call ρ) (error : RegMapErrc) :
      Effect ep0 call ep0 (some error)
  | readable (target : EndpointId) :
      Effect ep0 (.checkReadAccess target) ep0 none
  | writable (client : Client) (target : EndpointId) (block : ConfigBlock) :
      Effect ep0 (.checkWriteAccess client target block) ep0 none
  | claimed (client : Client)
      (hFree : ep0.rootClient = none ∨ ep0.rootClient = some client) :
      Effect ep0 (.claimRootClient client)
        { ep0 with rootClient := some client } none
  | released : Effect ep0 .releaseRootClient ep0.releaseRootClient none
  | assigned (ep : EndpointId) (client : Client) :
      Effect ep0 (.setEndpointOwner ep client)
        { ep0 with
          endpointOwner :=
            ep0.endpointOwner.set (ep.toNat - 1) (some client) } none
  | replaced (client : Client) (newMap : RegisterMap ρ)
      (hRoot : ep0.isRootClient client = true)
      (hSizes : sizeInvariantHolds newMap = true) :
      Effect ep0 (.writeWholeMap client newMap)
        { ep0 with
          regs := newMap
          endpointOwner := List.replicate newMap.svrEpCount.toNat none } none
  | wroteGeneric (client : Client) (target : EndpointId)
      (cfg : EndpointGenericConfig)
      (hRoot : ep0.isRootClient client = true)
      (hSlot : target ≠ kEp0 ∧ target.toNat ≤ ep0.endpointOwner.length)
      (hUnlocked : genericConfigLocked ep0.lifecycle = false) :
      Effect ep0 (.writeGenericConfig client target cfg)
        (ep0.setGenericConfig (target.toNat - 1) cfg) none
  | wroteFunctional (client : Client) (target : EndpointId)
      (cfg : EndpointFunctionalConfig)
      (hWriter : ep0.isRootClient client = true ∨
        ep0.owns client target = true)
      (hSlot : target ≠ kEp0 ∧ target.toNat ≤ ep0.endpointOwner.length)
      (hUnlocked : functionalConfigLocked ep0.lifecycle = false) :
      Effect ep0 (.writeFunctionalConfig client target cfg)
        (ep0.setFunctionalConfig (target.toNat - 1) cfg) none
  | moved (state : ServerState) :
      Effect ep0 (.lifecycleChanged state)
        { ep0 with lifecycle := state } none

private theorem Ep0.checkWriteAccess_granted {ep0 : Ep0 ρ} {client : Client}
    {target : EndpointId} {block : ConfigBlock} (hTarget : target ≠ kEp0)
    (h : ep0.checkWriteAccess client target block = none) :
    target.toNat ≤ ep0.endpointOwner.length ∧
      (ep0.isRootClient client = true ∨
        block = .functional ∧ ep0.owns client target = true) ∧
      ep0.locked block = false := by
  unfold Ep0.checkWriteAccess at h
  rw [if_neg hTarget] at h
  split at h
  · contradiction
  · next hSlot =>
      split at h
      · contradiction
      · next hWriter =>
          split at h
          · contradiction
          · next hUnlocked =>
              simp only [Bool.not_eq_true', Bool.not_eq_false,
                Bool.or_eq_true, Bool.and_eq_true, beq_iff_eq] at hWriter
              exact ⟨Nat.le_of_not_lt hSlot, hWriter, by simpa using hUnlocked⟩

theorem step_effect (ep0 : Ep0 ρ) (call : Call ρ) :
    Effect ep0 call (step ep0 call).1 (step ep0 call).2 := by
  cases call with
  | claimRootClient client =>
      simp only [step, Ep0.claimRootClient]
      split
      · exact .refused _ _
      · next hFree =>
          refine .claimed client ?_
          cases hRoot : ep0.rootClient with
          | none => exact .inl rfl
          | some root => simpa [hRoot, Ep0.isRootClient] using hFree
  | releaseRootClient => exact .released
  | setEndpointOwner ep client =>
      simp only [step, Ep0.setEndpointOwner]
      split
      · exact .refused _ _
      · exact .assigned ep client
  | checkReadAccess target =>
      simp only [step, Ep0.checkReadAccess]
      split
      · exact .refused _ _
      · exact .readable target
  | checkWriteAccess client target block =>
      simp only [step]
      cases ep0.checkWriteAccess client target block with
      | some error => exact .refused _ _
      | none => exact .writable client target block
  | writeWholeMap client newMap =>
      simp only [step, Ep0.writeWholeMap]
      cases hRoot : ep0.isRootClient client with
      | false => exact .refused _ _
      | true =>
          cases hSizes : sizeInvariantHolds newMap with
          | false => exact .refused _ _
          | true => exact .replaced client newMap hRoot hSizes
  | writeGenericConfig client target cfg =>
      simp only [step, Ep0.writeGenericConfig]
      by_cases hTarget : target = kEp0
      · rw [if_pos hTarget]
        exact .refused _ _
      · rw [if_neg hTarget]
        cases hAccess : ep0.checkWriteAccess client target .generic with
        | some error => exact .refused _ _
        | none =>
            obtain ⟨hSlot, hWriter, hUnlocked⟩ :=
              Ep0.checkWriteAccess_granted hTarget hAccess
            simp only
            split
            · exact .refused _ _
            · exact .wroteGeneric client target cfg (by simpa using hWriter)
                ⟨hTarget, hSlot⟩ hUnlocked
  | writeFunctionalConfig client target cfg =>
      simp only [step, Ep0.writeFunctionalConfig]
      by_cases hTarget : target = kEp0
      · rw [if_pos hTarget]
        exact .refused _ _
      · rw [if_neg hTarget]
        cases hAccess : ep0.checkWriteAccess client target .functional with
        | some error => exact .refused _ _
        | none =>
            obtain ⟨hSlot, hWriter, hUnlocked⟩ :=
              Ep0.checkWriteAccess_granted hTarget hAccess
            simp only
            split
            · exact .refused _ _
            · exact .wroteFunctional client target cfg (by simpa using hWriter)
                ⟨hTarget, hSlot⟩ hUnlocked
  | lifecycleChanged state => exact .moved state

end CppRcp.Access
