import CppRcp.Bringup.Config

/-!
# What a failed load leaves behind

`load` adds the channels one by one and stops at the first that the registry
refuses, and `apply_to_mock` writes the general registers before it counts
the pins.  Each leaves its target as it was in exactly the cases in which
nothing is written before the failure.
-/

namespace CppRcp.Config

open CppRcp.Foundation CppRcp.Regmap CppRcp.Host.Shmem

/-! ## Channels -/

section Channels

variable {reg : Registry} {streamKey key : UInt64}

private theorem addChannel_of_closed (h : reg.closed = true)
    (channel : Channel) :
    reg.addChannel channel = (reg, some .closed) := by
  rw [Registry.addChannel, if_pos h]

private theorem addChannel_of_mem (hOpen : reg.closed = false)
    (h : streamKey ∈ reg.channels) :
    reg.addChannel (newChannel streamKey) = (reg, some .alreadyExists) := by
  have hKey : (newChannel streamKey).streamKey = streamKey := rfl
  rw [Registry.addChannel, if_neg (by simp [hOpen]), hKey, if_pos h]

private theorem addChannel_of_notMem (hOpen : reg.closed = false)
    (h : streamKey ∉ reg.channels) :
    reg.addChannel (newChannel streamKey) =
      ({ reg with
          channels := reg.channels.insert streamKey (newChannel streamKey) },
        none) := by
  have hKey : (newChannel streamKey).streamKey = streamKey := rfl
  rw [Registry.addChannel, if_neg (by simp [hOpen]), hKey, if_neg h]

private theorem mem_addChannel (channel : Channel) (h : key ∈ reg.channels) :
    key ∈ (reg.addChannel channel).1.channels := by
  unfold Registry.addChannel
  split
  · exact h
  split
  · exact h
  · exact Std.TreeMap.mem_insert.mpr (.inr h)

private theorem mem_loadEndpoints {entries : List EndpointManifestEntry}
    {bootstrapped : List UInt64} (h : key ∈ reg.channels) :
    key ∈ (loadEndpoints entries bootstrapped reg).1.channels := by
  induction entries generalizing bootstrapped reg with
  | nil => exact h
  | cons entry entries ih =>
      simp only [loadEndpoints]
      split
      · exact ih h
      · split
        · exact mem_addChannel _ h
        · exact ih (mem_addChannel _ h)

/-- An open registry refuses no stream that it has no channel of, and the
streams of one load do not get in each other's way. -/
theorem loadEndpoints_ok_iff {entries : List EndpointManifestEntry}
    {bootstrapped : List UInt64} (hOpen : reg.closed = false) :
    (loadEndpoints entries bootstrapped reg).2 = none ↔
      ∀ e ∈ entries, e.streamKey ∈ bootstrapped ∨
        e.streamKey ∉ reg.channels := by
  induction entries generalizing bootstrapped reg with
  | nil => simp [loadEndpoints]
  | cons entry entries ih =>
      rw [List.forall_mem_cons]
      simp only [loadEndpoints]
      by_cases hDone : entry.streamKey ∈ bootstrapped
      · rw [if_pos hDone, ih hOpen]
        simp [hDone]
      · rw [if_neg hDone]
        by_cases hMem : entry.streamKey ∈ reg.channels
        · simp [addChannel_of_mem hOpen hMem, hDone, hMem]
        · rw [addChannel_of_notMem hOpen hMem]
          dsimp only
          rw [ih (by exact hOpen)]
          simp only [hMem, not_false_eq_true, or_true, true_and]
          refine forall₂_congr fun e _ => ?_
          by_cases hSame : e.streamKey = entry.streamKey
          · simp [hSame, hMem]
          · have hOther : ¬ compare entry.streamKey e.streamKey = .eq := by
              simpa using Ne.symm hSame
            simp [hSame, hOther, Std.TreeMap.mem_insert]

end Channels

/-! ## Both targets -/

variable {ρ : Type}

/-- The target of each function that fails is as it was. -/
structure LeavesTargets (manifest : Manifest) (reg : Registry)
    (regs : ServerRegisters ρ) : Prop where
  load : ∀ (json : Text) (reg' : Registry) (error : RegistryError),
    parseJson json = .ok manifest →
      load json reg = .ok (reg', some error) → reg' = reg
  loadManifest : ∀ error, (loadManifest manifest reg).2 = some error →
    (loadManifest manifest reg).1 = reg
  loadToMock : ∀ (json : Text) (regs' : ServerRegisters ρ)
    (error : ApplyError), parseJson json = .ok manifest →
      loadToMock json regs = .ok (regs', some error) → regs' = regs
  applyToMock : ∀ error, (applyToMock manifest regs).2 = some error →
    (applyToMock manifest regs).1 = regs

/-- Nothing is added before the stream that is refused. -/
def AddsCleanly (manifest : Manifest) (reg : Registry) : Prop :=
  reg.closed = true ∨ (∀ e ∈ manifest.endpoints, e.streamKey ∉ reg.channels) ∨
    ∃ first, manifest.endpoints.head? = some first ∧
      first.streamKey ∈ reg.channels

/-- There is room for the pins, or the server has the manifest's values. -/
def AppliesCleanly (manifest : Manifest) (regs : ServerRegisters ρ) : Prop :=
  manifest.hwPinMap.length ≤ tableMaxEntries ∨
    regs.vendorId = manifest.server.vendorId ∧
      regs.deviceId = manifest.server.deviceId ∧
      (manifest.server.magic = 0 ∨ regs.magic = manifest.server.magic) ∧
      regs.svrImplementedOptions ||| manifest.server.svrImplementedOptions =
        regs.svrImplementedOptions

private theorem loadManifest_iff (manifest : Manifest) (reg : Registry) :
    (∀ error, (loadManifest manifest reg).2 = some error →
      (loadManifest manifest reg).1 = reg) ↔ AddsCleanly manifest reg := by
  unfold loadManifest AddsCleanly
  cases hClosed : reg.closed with
  | true =>
      refine iff_of_true (fun error _ => ?_) (.inl rfl)
      cases manifest.endpoints with
      | nil => rfl
      | cons entry entries =>
          simp [loadEndpoints, addChannel_of_closed hClosed]
  | false =>
      simp only [Bool.false_eq_true, false_or]
      cases hEndpoints : manifest.endpoints with
      | nil => simp [loadEndpoints]
      | cons entry entries =>
          by_cases hFirst : entry.streamKey ∈ reg.channels
          · refine iff_of_true (fun error _ => ?_) (.inr ⟨entry, rfl, hFirst⟩)
            simp [loadEndpoints, addChannel_of_mem hClosed hFirst]
          · have hAdded : entry.streamKey ∈
                (loadEndpoints (entry :: entries) [] reg).1.channels := by
              simp only [loadEndpoints, List.not_mem_nil, if_false,
                addChannel_of_notMem hClosed hFirst]
              exact mem_loadEndpoints (Std.TreeMap.mem_insert_self)
            have hChanged :
                (loadEndpoints (entry :: entries) [] reg).1 ≠ reg :=
              fun hSame => hFirst (hSame ▸ hAdded)
            have hOk : (loadEndpoints (entry :: entries) [] reg).2 = none ↔ _ :=
              loadEndpoints_ok_iff hClosed
            simp only [List.not_mem_nil, false_or] at hOk
            rw [← hOk]
            constructor
            · intro hClean
              left
              by_contra hFails
              obtain ⟨error, hError⟩ := Option.ne_none_iff_exists'.mp hFails
              exact hChanged (hClean error hError)
            · rintro (hOk | ⟨first, hHead, hMem⟩) error hError
              · rw [hOk] at hError
                cases hError
              · obtain rfl : entry = first := by simpa using hHead
                exact absurd hMem hFirst

private theorem applyServer_eq_iff (server : ServerManifest)
    (regs : ServerRegisters ρ) :
    applyServer server regs = regs ↔
      regs.vendorId = server.vendorId ∧ regs.deviceId = server.deviceId ∧
        (server.magic = 0 ∨ regs.magic = server.magic) ∧
        regs.svrImplementedOptions ||| server.svrImplementedOptions =
          regs.svrImplementedOptions := by
  obtain ⟨vendorId, deviceId, magic, options, capacity, pins, others⟩ := regs
  have hMagic : (if server.magic ≠ 0 then server.magic else magic) = magic ↔
      server.magic = 0 ∨ magic = server.magic := by
    by_cases hZero : server.magic = 0
    · simp [hZero]
    · simp [hZero, eq_comm]
  simp only [applyServer, ServerRegisters.mk.injEq, and_true]
  rw [hMagic, eq_comm, eq_comm (a := server.deviceId)]

private theorem applyToMock_iff (manifest : Manifest)
    (regs : ServerRegisters ρ) :
    (∀ error, (applyToMock manifest regs).2 = some error →
      (applyToMock manifest regs).1 = regs) ↔
        AppliesCleanly manifest regs := by
  rw [AppliesCleanly, ← applyServer_eq_iff]
  simp only [applyToMock]
  split
  · next hNone => simp [hNone]
  split
  · next hLarge =>
      constructor
      · exact fun h => .inr (h .valueTooLarge rfl)
      · rintro (hRoom | hSame) error -
        · exact absurd hLarge (Nat.not_lt.mpr hRoom)
        · exact hSame
  · next hFits => simp [Nat.not_lt.mp hFits]

theorem leavesTargets_iff (manifest : Manifest) (reg : Registry)
    (regs : ServerRegisters ρ) :
    LeavesTargets manifest reg regs ↔
      AddsCleanly manifest reg ∧ AppliesCleanly manifest regs := by
  rw [← loadManifest_iff, ← applyToMock_iff]
  constructor
  · exact fun h => ⟨h.loadManifest, h.applyToMock⟩
  · rintro ⟨hLoad, hApply⟩
    refine ⟨fun json reg' error hParsed hLoaded => ?_, hLoad,
      fun json regs' error hParsed hLoaded => ?_, hApply⟩
    · rw [load, hParsed] at hLoaded
      have hPair := Except.ok.inj hLoaded
      exact (congrArg Prod.fst hPair).symm.trans
        (hLoad error (congrArg Prod.snd hPair))
    · rw [loadToMock, hParsed] at hLoaded
      have hPair := Except.ok.inj hLoaded
      exact (congrArg Prod.fst hPair).symm.trans
        (hApply error (congrArg Prod.snd hPair))

def secondTaken : Manifest where
  endpoints := [{ streamKey := 1 }, { streamKey := 2 }]

theorem secondTaken_not_leavesTargets :
    ¬ ∀ (manifest : Manifest) (reg : Registry) (regs : ServerRegisters Unit),
      LeavesTargets manifest reg regs := by
  intro h
  have hLoads := (h secondTaken (Registry.addChannel {} (newChannel 2)).1
    { others := () }).loadManifest .alreadyExists rfl
  have hChannels := congrArg (fun reg : Registry => reg.channels.size) hLoads
  exact absurd hChannels (by decide)

end CppRcp.Config
