import CppRcp.Host.Client

/-!
# Whose entry a call erases

The table of pending calls is keyed by bus and transaction number, and a call
erases by key when it leaves.  In every run the entry under a key belongs to
the latest call with that key, so that a leaving call erases its own entry, or
that of a later call with the same numbers.  As long as no call is begun with
the numbers of one that has not returned, every waiting call keeps its entry.
-/

namespace CppRcp.Host

open CppRcp.Foundation CppRcp.Acf CppRcp.Transport

/-! ## Keys -/

private theorem toNat_pendingKey (busId : UInt16) (transactionNum : UInt8) :
    (pendingKey busId transactionNum).toNat =
      busId.toNat * 256 + transactionNum.toNat := by
  have hBus := busId.toNat_lt
  have hNum : transactionNum.toNat < 2 ^ 8 := transactionNum.toNat_lt
  have hShift : (busId.toUInt32 <<< 8).toNat = busId.toNat <<< 8 := by
    have hEight : (8 : UInt32).toNat = 8 := rfl
    rw [UInt32.toNat_shiftLeft, UInt16.toNat_toUInt32, hEight,
      Nat.shiftLeft_eq]
    change busId.toNat * 256 % 2 ^ 32 = busId.toNat * 256
    omega
  rw [pendingKey, UInt32.toNat_or, hShift, UInt8.toNat_toUInt32,
    ← Nat.shiftLeft_add_eq_or_of_lt hNum, Nat.shiftLeft_eq]

theorem pendingKey_inj {busId busId' : UInt16}
    {transactionNum transactionNum' : UInt8} :
    pendingKey busId transactionNum = pendingKey busId' transactionNum' ↔
      busId = busId' ∧ transactionNum = transactionNum' := by
  constructor
  · intro hKey
    have hNat := congrArg UInt32.toNat hKey
    rw [toNat_pendingKey, toNat_pendingKey] at hNat
    have hNum := transactionNum.toNat_lt
    have hNum' := transactionNum'.toNat_lt
    exact ⟨UInt16.toNat_inj.mp (by omega), UInt8.toNat_inj.mp (by omega)⟩
  · rintro ⟨rfl, rfl⟩
    rfl

/-! ## Steps -/

namespace Client

variable {client : Client}

@[simp] theorem calls_setCall (id : Nat) (call : Call) :
    (client.setCall id call).calls =
      Function.update client.calls id (some call) := rfl

@[simp] theorem pending_setCall (id : Nat) (call : Call) :
    (client.setCall id call).pending = client.pending := rfl

@[simp] theorem calls_setPending (key : UInt32) (owner : Option Nat) :
    (client.setPending key owner).calls = client.calls := rfl

@[simp] theorem pending_setPending (key : UInt32) (owner : Option Nat) :
    (client.setPending key owner).pending =
      Function.update client.pending key owner := rfl

inductive Does (client : Client) : Event → Client × Effect → Prop
  | stays {event : Event} {effect : Effect}
      (hEffect : effect = .nothing ∨ effect = .delivered none ∨
        ∃ result, effect = .refused result) :
      Does client event (client, effect)
  | closes : Does client .close ({ client with closed := true }, .nothing)
  | registers {info : AcfMessageInfo} {done hasDeadline : Bool} :
      Does client (.request info done hasDeadline)
        (client.register
          { busId := info.byteBusId
            transactionNum := info.transactionNum
            hasDeadline := hasDeadline }, .nothing)
  | advances {event : Event} {id : Nat} {call : Call} {stage : Stage}
      (hCall : client.calls id = some call)
      (hFrom : call.inFlight = true)
      (hTo : { call with stage := stage }.inFlight = true)
      (hWaiting : { call with stage := stage }.isWaiting = true →
        call.isWaiting = true)
      (hResponse : ∀ response, stage = .leaving (.response response) →
        call.promise = some response) :
      Does client event
        (client.setCall id { call with stage := stage }, .nothing)
  | delivers {response : Frame} {id : Nat} {call : Call}
      (hPending : client.pending (pendingKey response.info.byteBusId
        response.info.transactionNum) = some id)
      (hCall : client.calls id = some call) :
      Does client (.receive response)
        ((client.setCall id { call with promise := some response }).setPending
          (pendingKey response.info.byteBusId response.info.transactionNum)
          none, .delivered (some id))
  | leaves {id : Nat} {call : Call} {result : RequestResult}
      (hCall : client.calls id = some call)
      (hStage : call.stage = .leaving result) :
      Does client (.cleanup id)
        ((client.setCall id
            { call with stage := .returned result }).setPending call.key none,
          .erased (client.pending call.key))

theorem does_step (client : Client) (event : Event) :
    Does client event (client.step event) := by
  cases event with
  | request info done hasDeadline =>
      simp only [step]
      split
      · exact .stays (.inr (.inr ⟨_, rfl⟩))
      · split
        · exact .stays (.inr (.inr ⟨_, rfl⟩))
        · exact .registers
  | sent id ok =>
      simp only [step]
      split
      · next call hCall =>
          split
          · next hStage =>
              have hFrom : call.inFlight = true := by
                rw [Call.inFlight, hStage]
              split
              · refine .advances hCall hFrom rfl ?_ (by simp)
                intro hWaiting
                rw [Call.isWaiting, hStage]
                exact hWaiting
              · exact .advances hCall hFrom rfl (by simp [Call.isWaiting])
                  (by simp)
          · exact .stays (.inl rfl)
      · exact .stays (.inl rfl)
  | receive response =>
      simp only [step]
      split
      · next id hPending =>
          split
          · next call hCall => exact .delivers hPending hCall
          · exact .stays (.inr (.inl rfl))
      · exact .stays (.inr (.inl rfl))
  | wake id =>
      simp only [step]
      split
      · next call hCall =>
          split
          · next frame hStage hPromise =>
              have hFrom : call.inFlight = true := by
                rw [Call.inFlight, hStage]
              exact .advances hCall hFrom rfl (by simp [Call.isWaiting])
                (by simpa using hPromise)
          · exact .stays (.inl rfl)
      · exact .stays (.inl rfl)
  | expire id =>
      simp only [step]
      split
      · next call hCall =>
          split
          · next hReady =>
              have hFrom : call.inFlight = true := by
                rw [Call.inFlight, hReady.1]
              exact .advances hCall hFrom rfl (by simp [Call.isWaiting])
                (by simp)
          · exact .stays (.inl rfl)
      · exact .stays (.inl rfl)
  | cleanup id =>
      simp only [step]
      split
      · next call hCall =>
          split
          · next result hStage => exact .leaves hCall hStage
          · exact .stays (.inl rfl)
      · exact .stays (.inl rfl)
  | close => exact .closes

/-! ## Owners -/

/-- An entry belongs to a call in flight that was not answered, the latest with
its key. -/
structure Owned (client : Client) : Prop where
  numbered : ∀ id call, client.calls id = some call → id < client.count
  owner : ∀ key id, client.pending key = some id →
    ∃ call, client.calls id = some call ∧ call.key = key ∧
      call.promise = none ∧ call.inFlight = true
  latest : ∀ key owner, client.pending key = some owner →
    ∀ id call, client.calls id = some call → call.key = key → id ≤ owner

theorem owned_empty : ({} : Client).Owned where
  numbered := by
    intro id call hCall
    cases hCall
  owner := by
    intro key id hPending
    cases hPending
  latest := by
    intro key owner hPending
    cases hPending

theorem Owned.register (h : client.Owned) (call : Call)
    (hNew : call.promise = none ∧ call.inFlight = true) :
    (client.register call).Owned where
  numbered := by
    intro id other hCall
    change Function.update client.calls client.count (some call) id = _
      at hCall
    change id < client.count + 1
    by_cases hId : id = client.count
    · omega
    · rw [Function.update_of_ne hId] at hCall
      have hLt := h.numbered id other hCall
      omega
  owner := by
    intro key id hPending
    change Function.update client.pending call.key (some client.count) key = _
      at hPending
    change ∃ other, Function.update client.calls client.count (some call) id =
      some other ∧ _
    by_cases hKey : key = call.key
    · subst hKey
      rw [Function.update_self] at hPending
      obtain rfl := Option.some.inj hPending
      exact ⟨call, Function.update_self .., rfl, hNew⟩
    · rw [Function.update_of_ne hKey] at hPending
      obtain ⟨other, hCall, hOther⟩ := h.owner key id hPending
      have hLt := h.numbered id other hCall
      exact ⟨other, by rwa [Function.update_of_ne (by omega)], hOther⟩
  latest := by
    intro key owner hPending id other hCall hKey
    change Function.update client.pending call.key (some client.count) key = _
      at hPending
    change Function.update client.calls client.count (some call) id = _
      at hCall
    by_cases hSame : key = call.key
    · rw [hSame, Function.update_self] at hPending
      obtain rfl := Option.some.inj hPending
      by_cases hId : id = client.count
      · omega
      · rw [Function.update_of_ne hId] at hCall
        exact (h.numbered id other hCall).le
    · rw [Function.update_of_ne hSame] at hPending
      by_cases hId : id = client.count
      · rw [hId, Function.update_self] at hCall
        obtain rfl := Option.some.inj hCall
        exact absurd hKey.symm hSame
      · rw [Function.update_of_ne hId] at hCall
        exact h.latest key owner hPending id other hCall hKey

theorem Owned.setCall (h : client.Owned) {id : Nat} {call next : Call}
    (hCall : client.calls id = some call) (hKey : next.key = call.key)
    (hOwner : client.pending call.key = some id →
      next.promise = none ∧ next.inFlight = true) :
    (client.setCall id next).Owned where
  numbered := by
    intro other otherCall hOther
    by_cases hId : other = id
    · exact hId ▸ h.numbered id call hCall
    · rw [calls_setCall, Function.update_of_ne hId] at hOther
      exact h.numbered other otherCall hOther
  owner := by
    intro key owner hPending
    rw [pending_setCall] at hPending
    rw [calls_setCall]
    obtain ⟨owning, hOwning, hOwnKey, hOwn⟩ := h.owner key owner hPending
    by_cases hId : owner = id
    · subst hId
      obtain rfl := Option.some.inj (hCall.symm.trans hOwning)
      subst hOwnKey
      exact ⟨next, Function.update_self .., hKey, hOwner hPending⟩
    · exact ⟨owning, by rwa [Function.update_of_ne hId], hOwnKey, hOwn⟩
  latest := by
    intro key owner hPending other otherCall hOther hOtherKey
    by_cases hId : other = id
    · rw [hId, calls_setCall, Function.update_self] at hOther
      obtain rfl := Option.some.inj hOther
      rw [hId]
      exact h.latest key owner hPending id call hCall
        (hKey.symm.trans hOtherKey)
    · rw [calls_setCall, Function.update_of_ne hId] at hOther
      exact h.latest key owner hPending other otherCall hOther hOtherKey

theorem Owned.erase (h : client.Owned) {key : UInt32} {id : Nat}
    {call next : Call} (hCall : client.calls id = some call)
    (hKey : call.key = key) (hNext : next.key = call.key) :
    ((client.setCall id next).setPending key none).Owned := by
  have hErased : (client.setPending key none).Owned :=
    { numbered := h.numbered
      owner := by
        intro other owner hPending
        by_cases hOther : other = key
        · rw [hOther, pending_setPending, Function.update_self] at hPending
          cases hPending
        · rw [pending_setPending, Function.update_of_ne hOther] at hPending
          exact h.owner other owner hPending
      latest := by
        intro other owner hPending
        by_cases hOther : other = key
        · rw [hOther, pending_setPending, Function.update_self] at hPending
          cases hPending
        · rw [pending_setPending, Function.update_of_ne hOther] at hPending
          exact h.latest other owner hPending }
  refine @Owned.setCall _ hErased _ _ next hCall hNext ?_
  intro hPending
  rw [hKey, pending_setPending, Function.update_self] at hPending
  cases hPending

theorem owned_step (client : Client) (event : Event) (h : client.Owned) :
    (client.step event).1.Owned := by
  have hDoes := does_step client event
  generalize client.step event = result at hDoes
  cases hDoes with
  | stays _ => exact h
  | closes => exact ⟨h.numbered, h.owner, h.latest⟩
  | registers => exact h.register _ ⟨rfl, rfl⟩
  | @advances _ id call stage hCall _ hTo =>
      apply @Owned.setCall _ h _ _ { call with stage := stage } hCall rfl
      intro hPending
      obtain ⟨owning, hOwning, -, hPromise, -⟩ := h.owner _ _ hPending
      obtain rfl := Option.some.inj (hCall.symm.trans hOwning)
      exact ⟨hPromise, hTo⟩
  | delivers hPending hCall =>
      obtain ⟨owning, hOwning, hKey, -⟩ := h.owner _ _ hPending
      obtain rfl := Option.some.inj (hCall.symm.trans hOwning)
      exact h.erase hCall hKey rfl
  | leaves hCall _ => exact h.erase hCall rfl rfl

theorem owned_run (events : List Event) : (run step {} events).1.Owned :=
  invariant_run owned_step events owned_empty

/-! ## Calls with numbers of their own -/

def BeginsApart (client : Client) : Event → Prop
  | .request info _ _ => ∀ id call, client.calls id = some call →
      call.inFlight = true →
        ¬ (call.busId = info.byteBusId ∧
          call.transactionNum = info.transactionNum)
  | _ => True

def Apart (client : Client) : Prop :=
  ∀ id id' call call', client.calls id = some call →
    client.calls id' = some call' → call.inFlight = true →
      call'.inFlight = true → call.key = call'.key → id = id'

/-- Calls in flight have different keys, and those that wait own their
entries. -/
structure Kept (client : Client) : Prop extends client.Owned where
  apart : client.Apart
  waiting : ∀ id call, client.calls id = some call →
    call.isWaiting = true → client.pending call.key = some id

private theorem inFlight_of_isWaiting {call : Call}
    (h : call.isWaiting = true) :
    call.inFlight = true := by
  unfold Call.isWaiting at h
  unfold Call.inFlight
  split at h <;> simp_all

private theorem kept_empty : ({} : Client).Kept where
  toOwned := owned_empty
  apart := by
    intro id id' call call' hCall
    cases hCall
  waiting := by
    intro id call hCall
    cases hCall

theorem Kept.register (h : client.Kept) (call : Call)
    (hNew : call.promise = none ∧ call.inFlight = true)
    (hApart : ∀ id other, client.calls id = some other →
      other.inFlight = true → other.key ≠ call.key) :
    (client.register call).Kept where
  toOwned := h.toOwned.register call hNew
  apart := by
    intro id id' first second hFirst hSecond hFlying hFlying' hKey
    change Function.update client.calls client.count (some call) id = _
      at hFirst
    change Function.update client.calls client.count (some call) id' = _
      at hSecond
    by_cases hId : id = client.count <;> by_cases hId' : id' = client.count
    · rw [hId, hId']
    · rw [hId, Function.update_self] at hFirst
      rw [Function.update_of_ne hId'] at hSecond
      obtain rfl := Option.some.inj hFirst
      exact absurd hKey.symm (hApart id' second hSecond hFlying')
    · rw [hId', Function.update_self] at hSecond
      rw [Function.update_of_ne hId] at hFirst
      obtain rfl := Option.some.inj hSecond
      exact absurd hKey (hApart id first hFirst hFlying)
    · rw [Function.update_of_ne hId] at hFirst
      rw [Function.update_of_ne hId'] at hSecond
      exact h.apart id id' first second hFirst hSecond hFlying hFlying' hKey
  waiting := by
    intro id other hCall hWaiting
    change Function.update client.calls client.count (some call) id = _
      at hCall
    change Function.update client.pending call.key (some client.count)
      other.key = _
    by_cases hId : id = client.count
    · rw [hId, Function.update_self] at hCall
      obtain rfl := Option.some.inj hCall
      rw [Function.update_self, hId]
    · rw [Function.update_of_ne hId] at hCall
      have hKey := hApart id other hCall (inFlight_of_isWaiting hWaiting)
      rw [Function.update_of_ne hKey]
      exact h.waiting id other hCall hWaiting

theorem Apart.setCall (h : client.Apart) {id : Nat} {call next : Call}
    (hCall : client.calls id = some call) (hKey : next.key = call.key)
    (hFrom : call.inFlight = true) : (client.setCall id next).Apart := by
  have hSource : ∀ place it, (client.setCall id next).calls place = some it →
      it.inFlight = true → ∃ old, client.calls place = some old ∧
        old.inFlight = true ∧ old.key = it.key := by
    intro place it hIt hFlies
    by_cases hPlace : place = id
    · rw [hPlace, calls_setCall, Function.update_self] at hIt
      obtain rfl := Option.some.inj hIt
      exact ⟨call, hPlace ▸ hCall, hFrom, hKey.symm⟩
    · rw [calls_setCall, Function.update_of_ne hPlace] at hIt
      exact ⟨it, hIt, hFlies, rfl⟩
  intro first second one other hOne hOther hFlying hFlying' hSame
  obtain ⟨old, hOld, hOldFlies, hOldKey⟩ := hSource first one hOne hFlying
  obtain ⟨old', hOld', hOldFlies', hOldKey'⟩ :=
    hSource second other hOther hFlying'
  exact h first second old old' hOld hOld' hOldFlies hOldFlies'
    (by rw [hOldKey, hOldKey', hSame])

theorem Kept.setCall (h : client.Kept) {id : Nat} {call next : Call}
    (hCall : client.calls id = some call) (hKey : next.key = call.key)
    (hFrom : call.inFlight = true)
    (hWaiting : next.isWaiting = true → call.isWaiting = true)
    (hOwned : (client.setCall id next).Owned) :
    (client.setCall id next).Kept where
  toOwned := hOwned
  apart := h.apart.setCall hCall hKey hFrom
  waiting := by
    intro place it hIt hWaits
    rw [pending_setCall]
    by_cases hPlace : place = id
    · rw [hPlace, calls_setCall, Function.update_self] at hIt
      obtain rfl := Option.some.inj hIt
      rw [hKey, hPlace]
      exact h.waiting id call hCall (hWaiting hWaits)
    · rw [calls_setCall, Function.update_of_ne hPlace] at hIt
      exact h.waiting place it hIt hWaits

theorem Kept.erase (h : client.Kept) {id : Nat} {call next : Call}
    (hCall : client.calls id = some call) (hKey : next.key = call.key)
    (hFrom : call.inFlight = true) (hDone : next.isWaiting = false) :
    ((client.setCall id next).setPending call.key none).Kept where
  toOwned := h.toOwned.erase hCall rfl hKey
  apart := h.apart.setCall hCall hKey hFrom
  waiting := by
    intro place it hIt hWaits
    change Function.update client.calls id (some next) place = _ at hIt
    by_cases hPlace : place = id
    · rw [hPlace, Function.update_self] at hIt
      obtain rfl := Option.some.inj hIt
      rw [hDone] at hWaits
      cases hWaits
    · rw [Function.update_of_ne hPlace] at hIt
      have hOther : it.key ≠ call.key := by
        intro hSame
        exact hPlace (h.apart place id it call hIt hCall
          (inFlight_of_isWaiting hWaits) hFrom hSame)
      change Function.update client.pending call.key none it.key = _
      rw [Function.update_of_ne hOther]
      exact h.waiting place it hIt hWaits

theorem kept_step (client : Client) (event : Event) (h : client.Kept)
    (hApart : client.BeginsApart event) : (client.step event).1.Kept := by
  have hOwned := owned_step client event h.toOwned
  have hDoes := does_step client event
  generalize client.step event = result at hDoes hOwned
  cases hDoes with
  | stays _ => exact h
  | closes => exact ⟨hOwned, h.apart, h.waiting⟩
  | registers =>
      apply h.register _ ⟨rfl, rfl⟩
      intro id call hCall hFlying hKey
      exact hApart id call hCall hFlying (pendingKey_inj.mp hKey)
  | advances hCall hFrom _ hWaiting _ =>
      exact h.setCall hCall rfl hFrom hWaiting hOwned
  | @delivers response id call hPending hCall =>
      obtain ⟨owning, hOwning, hKey, -, hFrom⟩ := h.owner _ _ hPending
      obtain rfl := Option.some.inj (hCall.symm.trans hOwning)
      rw [← hKey]
      refine h.erase hCall rfl hFrom ?_
      unfold Call.isWaiting
      split <;> rfl
  | @leaves id call result hCall hStage =>
      have hFrom : call.inFlight = true := by
        rw [Call.inFlight, hStage]
      exact h.erase hCall rfl hFrom rfl

theorem kept_run {events : List Event}
    (h : Along step BeginsApart {} events) :
    (run step {} events).1.Kept :=
  invariant_run_along kept_step kept_empty h

/-! ## Runs -/

private theorem pending_cleanup (client : Client) (id : Nat) {key : UInt32}
    (hChanged : (client.step (.cleanup id)).1.pending key ≠
      client.pending key) :
    ∃ call, client.calls id = some call ∧ key = call.key ∧
      (client.step (.cleanup id)).1.pending key = none := by
  have hDoes := does_step client (.cleanup id)
  generalize client.step (.cleanup id) = result at hDoes hChanged
  cases hDoes with
  | stays _ => exact absurd rfl hChanged
  | advances => exact absurd rfl hChanged
  | @leaves _ call _ hCall hStage =>
      by_cases hKey : key = call.key
      · subst hKey
        exact ⟨call, hCall, rfl, Function.update_self ..⟩
      · exact absurd (Function.update_of_ne hKey ..) hChanged

/-- A response reaches at most one call, which has its numbers and was not
answered before; a leaving call erases the entry of another one only if that
one has its numbers and was begun after it, and changes the table under no
other key; and in a run in which calls are begun with numbers of their own,
every waiting call has its entry. -/
theorem pending_run (events : List Event) :
    let client := (run step {} events).1
    (∀ response id,
      (client.step (.receive response)).2 = .delivered (some id) →
        ∃ call, client.calls id = some call ∧
          call.busId = response.info.byteBusId ∧
          call.transactionNum = response.info.transactionNum ∧
          call.promise = none) ∧
    (∀ leaving owner,
      (client.step (.cleanup leaving)).2 = .erased (some owner) →
        ∃ call other, client.calls leaving = some call ∧
          client.calls owner = some other ∧ other.busId = call.busId ∧
          other.transactionNum = call.transactionNum ∧ leaving ≤ owner) ∧
    (∀ leaving key,
      (client.step (.cleanup leaving)).1.pending key ≠ client.pending key →
        ∃ call, client.calls leaving = some call ∧ key = call.key ∧
          (client.step (.cleanup leaving)).1.pending key = none) ∧
    (Along step BeginsApart {} events → ∀ id call,
      client.calls id = some call → call.isWaiting = true →
        client.pending call.key = some id) := by
  intro client
  have hOwned : client.Owned := owned_run events
  refine ⟨?_, ?_, fun leaving _ => pending_cleanup client leaving,
    fun hApart => (kept_run hApart).waiting⟩
  · intro response id hEffect
    have hDoes := does_step client (.receive response)
    generalize client.step (.receive response) = result at hDoes hEffect
    cases hDoes with
    | stays hStays =>
        rcases hStays with h | h | ⟨_, h⟩ <;> rw [h] at hEffect <;>
          cases hEffect
    | advances => cases hEffect
    | delivers hPending hCall =>
        cases hEffect
        obtain ⟨call, hOwner, hKey, hPromise, -⟩ := hOwned.owner _ _ hPending
        obtain ⟨hBus, hNum⟩ := pendingKey_inj.mp hKey
        exact ⟨call, hOwner, hBus, hNum, hPromise⟩
  · intro leaving owner hEffect
    have hDoes := does_step client (.cleanup leaving)
    generalize client.step (.cleanup leaving) = result at hDoes hEffect
    cases hDoes with
    | stays hStays =>
        rcases hStays with h | h | ⟨_, h⟩ <;> rw [h] at hEffect <;>
          cases hEffect
    | advances => cases hEffect
    | @leaves _ call _ hCall hStage =>
        have hPending : client.pending call.key = some owner :=
          Effect.erased.inj hEffect
        obtain ⟨other, hOther, hKey, -⟩ := hOwned.owner _ _ hPending
        obtain ⟨hBus, hNum⟩ := pendingKey_inj.mp hKey
        exact ⟨call, other, hCall, hOther, hBus, hNum,
          hOwned.latest _ _ hPending leaving call hCall rfl⟩

def answeredRun : List Event :=
  [.request { byteBusId := 1, transactionNum := 7 } false true, .sent 0 true]

theorem pending_run_answered :
    ((run step {} answeredRun).1.step
        (.receive { info := { byteBusId := 1, transactionNum := 7 } })).2 =
      .delivered (some 0) ∧
    (run step {} answeredRun).1.pending (pendingKey 1 7) = some 0 := by
  have hApart : Along step BeginsApart {} answeredRun := by
    refine ⟨?_, trivial, trivial⟩
    intro id call hCall
    cases hCall
  exact ⟨rfl, (pending_run answeredRun).2.2.2 hApart 0
    { busId := 1, transactionNum := 7, hasDeadline := true,
      stage := .waiting } rfl rfl⟩

/-- A second call registers itself with the numbers of the first, which has
been answered but has not left. -/
def reusedRun : List Event :=
  answeredRun ++
    [.receive { info := { byteBusId := 1, transactionNum := 7 } },
      .request { byteBusId := 1, transactionNum := 7 } false true,
      .sent 1 true, .wake 0]

/-- Leaving, the first call erases the entry of the second. -/
theorem reused_erased :
    ¬ ∀ (events : List Event) (leaving owner : Nat) (other : Call),
      ((run step {} events).1.step (.cleanup leaving)).2 =
        .erased (some owner) →
      (run step {} events).1.calls owner = some other →
      other.isWaiting = true → leaving = owner := by
  intro hAll
  have hSame := hAll reusedRun 0 1
    { busId := 1, transactionNum := 7, hasDeadline := true,
      stage := .waiting } rfl rfl rfl
  cases hSame

end Client

end CppRcp.Host
