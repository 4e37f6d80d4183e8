import CppRcp.Foundation.Budget
import CppRcp.Host.RateLimit

/-!
# How much a domain is admitted in a window

A bucket never holds more than the burst, and what it holds grows with time at
the rate.  The tokens less what the rate has given until the last request are
a potential that every admission on the domain spends, so that the admissions
after the first one in a window are paid by the time that is left of it.
-/

namespace CppRcp.Host.RateLimit

open CppRcp.Foundation
open Std (TreeMap)

/-! ## One bucket -/

namespace TokenBucket

variable {cfg : Config} {bucket : TokenBucket} {nowMs : UInt64}

/-- What holds of each bucket that the manager keeps. -/
structure Sound (cfg : Config) (bucket : TokenBucket) : Prop where
  cfg_eq : bucket.cfg = cfg
  nonneg : 0 ≤ bucket.tokens
  le_burst : bucket.tokens ≤ cfg.burst

theorem sound_new (hBurst : 0 ≤ cfg.burst) : Sound cfg { cfg } where
  cfg_eq := rfl
  nonneg := by
    change (0 : ℚ) ≤ cfg.burst
    exact_mod_cast hBurst
  le_burst := le_refl _

private theorem tokens_take (bucket : TokenBucket) (nowMs : UInt64) :
    (if (bucket.take nowMs).2 then 1 else 0) + (bucket.take nowMs).1.tokens =
      bucket.refilled nowMs := by
  simp only [take]
  split <;> simp

private theorem seen_take (bucket : TokenBucket) (nowMs : UInt64) :
    (bucket.take nowMs).1.hasLast = true ∧
      (bucket.take nowMs).1.lastMs = nowMs := by
  simp only [take]
  split <;> exact ⟨rfl, rfl⟩

private theorem refilled_le_burst (nowMs : UInt64) (h : Sound cfg bucket) :
    bucket.refilled nowMs ≤ cfg.burst := by
  simp only [refilled, h.cfg_eq]
  split
  · split
    · exact le_refl _
    · next hLow => exact not_lt.mp hLow
  · exact h.le_burst

private theorem refilled_nonneg (nowMs : UInt64) (hRate : 0 ≤ cfg.rate)
    (hBurst : 0 ≤ cfg.burst) (h : Sound cfg bucket) : 0 ≤ bucket.refilled nowMs := by
  simp only [refilled, h.cfg_eq]
  split
  · split
    · exact_mod_cast hBurst
    · have hGrowth : 0 ≤ ((nowMs - bucket.lastMs).toNat : ℚ) / 1000 * cfg.rate :=
        mul_nonneg (by positivity) hRate
      linarith [h.nonneg]
  · exact h.nonneg

private theorem refilled_le (hCfg : bucket.cfg = cfg)
    (hSeen : bucket.hasLast = true) (hTime : bucket.lastMs ≤ nowMs) :
    bucket.refilled nowMs ≤ bucket.tokens +
      ((nowMs.toNat : ℚ) - bucket.lastMs.toNat) / 1000 * cfg.rate := by
  have hTimes : bucket.lastMs.toNat ≤ nowMs.toNat :=
    UInt64.le_iff_toNat_le.mp hTime
  have hSpan : ((nowMs - bucket.lastMs).toNat : ℚ) =
      (nowMs.toNat : ℚ) - bucket.lastMs.toNat := by
    rw [UInt64.toNat_sub_of_le _ _ hTime, Nat.cast_sub hTimes]
  simp only [refilled, hCfg, hSeen, if_true, hSpan]
  split
  · next hHigh => exact hHigh.le
  · exact le_refl _

private theorem sound_take (hRate : 0 ≤ cfg.rate) (hBurst : 0 ≤ cfg.burst)
    (h : Sound cfg bucket) : Sound cfg (bucket.take nowMs).1 := by
  have hHigh := refilled_le_burst nowMs h
  have hLow := refilled_nonneg nowMs hRate hBurst h
  simp only [take]
  split
  · exact ⟨h.cfg_eq, hLow, hHigh⟩
  · next hEnough =>
      refine ⟨h.cfg_eq, ?_, ?_⟩
      · change 0 ≤ bucket.refilled nowMs - 1
        linarith
      · change bucket.refilled nowMs - 1 ≤ cfg.burst
        linarith

end TokenBucket

/-! ## One request -/

/-- The request bypasses the buckets. -/
def Request.exempt (cfg : Config) (request : Request) : Bool :=
  cfg.exemptSafetyTagged && request.isSafetyTagged

def Request.asks (cfg : Config) (key : EndpointKey) (request : Request) :
    Bool :=
  request.key = key && !request.exempt cfg

def Admission.spends (cfg : Config) (key : EndpointKey)
    (admission : Admission) : Bool :=
  admission.request.asks cfg key && admission.error.isNone

namespace Manager

variable {manager : Manager} {request : Request} {key : EndpointKey}

def bucket (manager : Manager) (key : EndpointKey) : TokenBucket :=
  manager.buckets[key]?.getD { cfg := manager.cfg }

private theorem step_of_exempt (h : request.exempt manager.cfg = true) :
    manager.step request = (manager, ⟨request, none⟩) := by
  have hGuard :
      (manager.cfg.exemptSafetyTagged && request.isSafetyTagged) = true := h
  simp only [step, admitRequest, hGuard, if_true]

private theorem step_of_not_exempt (h : request.exempt manager.cfg = false) :
    manager.step request =
      let taken := (manager.bucket request.key).take request.nowMs
      ({ manager with
          buckets := manager.buckets.insert request.key taken.1 },
        ⟨request, if taken.2 then none else some .admissionDenied⟩) := by
  have hGuard :
      (manager.cfg.exemptSafetyTagged && request.isSafetyTagged) = false := h
  simp only [step, admitRequest, hGuard, Bool.false_eq_true, if_false]
  rfl

@[simp] theorem request_step : (manager.step request).2.request = request := rfl

@[simp] theorem cfg_step : (manager.step request).1.cfg = manager.cfg := by
  cases h : request.exempt manager.cfg with
  | true => rw [step_of_exempt h]
  | false => rw [step_of_not_exempt h]

private theorem buckets_step_of_not_asks
    (h : request.asks manager.cfg key = false) :
    (manager.step request).1.buckets[key]? = manager.buckets[key]? := by
  cases hExempt : request.exempt manager.cfg with
  | true => rw [step_of_exempt hExempt]
  | false =>
      have hOther : request.key ≠ key := by simpa [Request.asks, hExempt] using h
      rw [step_of_not_exempt hExempt]
      change (manager.buckets.insert request.key _)[key]? = _
      rw [TreeMap.getElem?_insert, if_neg (by simpa using hOther)]

private theorem step_of_asks (h : request.asks manager.cfg key = true) :
    (manager.step request).1.buckets[key]? =
        some ((manager.bucket key).take request.nowMs).1 ∧
      (manager.step request).2.spends manager.cfg key =
        ((manager.bucket key).take request.nowMs).2 := by
  obtain ⟨hKey, hExempt⟩ : request.key = key ∧
      request.exempt manager.cfg = false := by simpa [Request.asks] using h
  subst hKey
  rw [step_of_not_exempt hExempt]
  constructor
  · exact TreeMap.getElem?_insert_self
  · simp only [Admission.spends, h]
    split <;> simp_all

private theorem not_spends_step (h : request.asks manager.cfg key = false)
    (manager' : Manager) :
    (manager'.step request).2.spends manager.cfg key = false := by
  simp [Admission.spends, h]

/-! ## What the manager keeps -/

structure Sound (cfg : Config) (manager : Manager) : Prop where
  cfg_eq : manager.cfg = cfg
  buckets : ∀ (key : EndpointKey) (bucket : TokenBucket),
    manager.buckets[key]? = some bucket → TokenBucket.Sound cfg bucket

variable {cfg : Config}

theorem sound_new (cfg : Config) : Sound cfg { cfg } where
  cfg_eq := rfl
  buckets key bucket h := by simp at h

theorem Sound.bucket (hBurst : 0 ≤ cfg.burst) (h : Sound cfg manager)
    (key : EndpointKey) : TokenBucket.Sound cfg (manager.bucket key) := by
  unfold Manager.bucket
  cases hBucket : manager.buckets[key]? with
  | none =>
      rw [h.cfg_eq]
      exact TokenBucket.sound_new hBurst
  | some bucket => exact h.buckets key bucket hBucket

theorem sound_step (hRate : 0 ≤ cfg.rate) (hBurst : 0 ≤ cfg.burst)
    (manager : Manager) (request : Request) (h : Sound cfg manager) :
    Sound cfg (manager.step request).1 := by
  refine ⟨cfg_step.trans h.cfg_eq, fun key bucket hBucket => ?_⟩
  cases hAsks : request.asks manager.cfg key with
  | true =>
      rw [(step_of_asks hAsks).1, Option.some.injEq] at hBucket
      subst hBucket
      exact TokenBucket.sound_take hRate hBurst (h.bucket hBurst key)
  | false =>
      rw [buckets_step_of_not_asks hAsks] at hBucket
      exact h.buckets key bucket hBucket

/-! ## The requests after the first one -/

structure Used (cfg : Config) (key : EndpointKey) (nowMs : UInt64)
    (manager : Manager) : Prop where
  sound : Sound cfg manager
  hasLast : (manager.bucket key).hasLast = true
  lastMs_le : (manager.bucket key).lastMs ≤ nowMs

/-- The tokens of the domain less what the rate has given until its last
request. -/
def potential (cfg : Config) (key : EndpointKey) (manager : Manager) : ℚ :=
  (manager.bucket key).tokens -
    ((manager.bucket key).lastMs.toNat : ℚ) / 1000 * cfg.rate

private theorem bucket_step_of_asks (h : request.asks manager.cfg key = true) :
    (manager.step request).1.bucket key =
      ((manager.bucket key).take request.nowMs).1 := by
  rw [bucket, (step_of_asks h).1, Option.getD_some]

private theorem bucket_step_of_not_asks
    (h : request.asks manager.cfg key = false) :
    (manager.step request).1.bucket key = manager.bucket key := by
  rw [bucket, buckets_step_of_not_asks h, cfg_step, bucket]

private theorem spends_add_potential (h : Sound cfg manager)
    (hAsks : request.asks cfg key = true) :
    (if (manager.step request).2.spends cfg key then 1 else 0) +
        potential cfg key (manager.step request).1 =
      (manager.bucket key).refilled request.nowMs -
        (request.nowMs.toNat : ℚ) / 1000 * cfg.rate := by
  obtain rfl := h.cfg_eq
  rw [potential, (step_of_asks hAsks).2, bucket_step_of_asks hAsks,
    (TokenBucket.seen_take _ _).2, ← TokenBucket.tokens_take]
  ring

private theorem spends_add_potential_le (hBurst : 0 ≤ cfg.burst)
    (request : Request) (h : Used cfg key request.nowMs manager) :
    (if (manager.step request).2.spends cfg key then 1 else 0) +
        potential cfg key (manager.step request).1 ≤
      potential cfg key manager := by
  cases hAsks : request.asks cfg key with
  | true =>
      rw [spends_add_potential h.sound hAsks, potential]
      have hRefilled := TokenBucket.refilled_le
        (h.sound.bucket hBurst key).cfg_eq h.hasLast h.lastMs_le
      linarith
  | false =>
      obtain rfl := h.sound.cfg_eq
      rw [not_spends_step hAsks, potential, bucket_step_of_not_asks hAsks]
      simp [potential]

private theorem used_step_of_asks (hRate : 0 ≤ cfg.rate)
    (hBurst : 0 ≤ cfg.burst)
    (h : Sound cfg manager) (hAsks : request.asks cfg key = true) :
    Used cfg key request.nowMs (manager.step request).1 := by
  have hSound := sound_step hRate hBurst manager request h
  obtain rfl := h.cfg_eq
  obtain ⟨hLast, hTime⟩ :=
    TokenBucket.seen_take (manager.bucket key) request.nowMs
  rw [← bucket_step_of_asks hAsks] at hLast hTime
  exact ⟨hSound, hLast, UInt64.le_of_eq hTime⟩

private theorem used_step (hRate : 0 ≤ cfg.rate) (hBurst : 0 ≤ cfg.burst)
    (h : Used cfg key request.nowMs manager) :
    Used cfg key request.nowMs (manager.step request).1 := by
  cases hAsks : request.asks cfg key with
  | true => exact used_step_of_asks hRate hBurst h.sound hAsks
  | false =>
      have hSound := sound_step hRate hBurst manager request h.sound
      obtain rfl := h.sound.cfg_eq
      have hSame := bucket_step_of_not_asks hAsks
      exact ⟨hSound, by rw [hSame]; exact h.hasLast,
        by rw [hSame]; exact h.lastMs_le⟩

private theorem along_used (hRate : 0 ≤ cfg.rate) (hBurst : 0 ≤ cfg.burst)
    {requests : List Request} {nowMs : UInt64}
    (h : Used cfg key nowMs manager)
    (hFrom : ∀ request ∈ requests, nowMs ≤ request.nowMs)
    (hOrder : requests.Pairwise fun a b => a.nowMs ≤ b.nowMs) :
    Along step (fun manager request => Used cfg key request.nowMs manager)
      manager requests := by
  induction requests generalizing manager nowMs with
  | nil => trivial
  | cons request requests ih =>
      obtain ⟨hFirst, hRest⟩ := List.forall_mem_cons.mp hFrom
      obtain ⟨hLater, hOrder⟩ := List.pairwise_cons.mp hOrder
      have hUsed : Used cfg key request.nowMs manager :=
        ⟨h.sound, h.hasLast, UInt64.le_trans h.lastMs_le hFirst⟩
      exact ⟨hUsed, ih (used_step hRate hBurst hUsed) hLater hOrder⟩

/-! ## A window -/

structure Until (cfg : Config) (key : EndpointKey) (ends : ℚ)
    (manager : Manager) : Prop where
  sound : Sound cfg manager
  lastMs_le : ((manager.bucket key).lastMs.toNat : ℚ) ≤ ends

private theorem until_step (hRate : 0 ≤ cfg.rate) (hBurst : 0 ≤ cfg.burst)
    {ends : ℚ}
    (manager : Manager) (request : Request) (h : Until cfg key ends manager)
    (hEnds : (request.nowMs.toNat : ℚ) ≤ ends) :
    Until cfg key ends (manager.step request).1 := by
  have hSound := sound_step hRate hBurst manager request h.sound
  obtain rfl := h.sound.cfg_eq
  refine ⟨hSound, ?_⟩
  cases hAsks : request.asks manager.cfg key with
  | true =>
      rw [bucket_step_of_asks hAsks, (TokenBucket.seen_take _ _).2]
      exact hEnds
  | false =>
      rw [bucket_step_of_not_asks hAsks]
      exact h.lastMs_le

private theorem neg_le_potential (hRate : 0 ≤ cfg.rate) (hBurst : 0 ≤ cfg.burst)
    {ends : ℚ} (h : Until cfg key ends manager) :
    -(ends / 1000 * cfg.rate) ≤ potential cfg key manager := by
  have hGiven : ((manager.bucket key).lastMs.toNat : ℚ) / 1000 * cfg.rate ≤
      ends / 1000 * cfg.rate := by
    have hTime := h.lastMs_le
    gcongr
  have hTokens := (h.sound.bucket hBurst key).nonneg
  rw [potential]
  linarith

private theorem spent_from_asking (hRate : 0 ≤ cfg.rate)
    (hBurst : 0 ≤ cfg.burst)
    {requests : List Request} {ends : ℚ} (h : Sound cfg manager)
    (hAsks : request.asks cfg key = true)
    (hOrder : (request :: requests).Pairwise fun a b => a.nowMs ≤ b.nowMs)
    (hEnds : ∀ r ∈ request :: requests, (r.nowMs.toNat : ℚ) ≤ ends) :
    ((run step manager (request :: requests)).2.countP
        (Admission.spends cfg key) : ℚ) ≤
      cfg.burst + cfg.rate * (ends - request.nowMs.toNat) / 1000 := by
  obtain ⟨hLater, hRest⟩ := List.pairwise_cons.mp hOrder
  obtain ⟨hFirstEnds, hRestEnds⟩ := List.forall_mem_cons.mp hEnds
  have hUsed := used_step_of_asks hRate hBurst h hAsks
  have hFirst := spends_add_potential h hAsks
  have hHigh := TokenBucket.refilled_le_burst request.nowMs
    (h.bucket hBurst key)
  have hSpent := countP_add_potential_le
    (fun manager request => spends_add_potential_le hBurst request)
    (along_used hRate hBurst hUsed hLater hRest)
  have hUntil : Until cfg key ends (manager.step request).1 := by
    refine ⟨hUsed.sound, le_trans ?_ hFirstEnds⟩
    exact_mod_cast UInt64.le_iff_toNat_le.mp hUsed.lastMs_le
  have hLast := neg_le_potential hRate hBurst
    (invariant_run_along (until_step hRate hBurst) hUntil
      (along_iff_forall_mem.mpr hRestEnds))
  rw [run_cons, List.countP_cons]
  push_cast
  linarith

private theorem spent_within (key : EndpointKey) (hRate : 0 ≤ cfg.rate)
    (hBurst : 0 ≤ cfg.burst)
    {requests : List Request} {starts ends : ℚ} (hWindow : starts ≤ ends)
    (h : Sound cfg manager)
    (hOrder : requests.Pairwise fun a b => a.nowMs ≤ b.nowMs)
    (hStarts : ∀ r ∈ requests, starts ≤ (r.nowMs.toNat : ℚ))
    (hEnds : ∀ r ∈ requests, (r.nowMs.toNat : ℚ) ≤ ends) :
    ((run step manager requests).2.countP (Admission.spends cfg key) : ℚ) ≤
      cfg.burst + cfg.rate * (ends - starts) / 1000 := by
  induction requests generalizing manager with
  | nil =>
      have hSpan : 0 ≤ cfg.rate * (ends - starts) / 1000 :=
        div_nonneg (mul_nonneg hRate (sub_nonneg.mpr hWindow)) (by norm_num)
      have hNone : (0 : ℚ) ≤ cfg.burst := by exact_mod_cast hBurst
      simpa using add_nonneg hNone hSpan
  | cons request requests ih =>
      cases hAsks : request.asks cfg key with
      | true =>
          have hFirst := (List.forall_mem_cons.mp hStarts).1
          refine (spent_from_asking hRate hBurst h hAsks hOrder hEnds).trans ?_
          gcongr
      | false =>
          -- The window goes on with the bucket as it was.
          have hRest := ih (sound_step hRate hBurst manager request h)
            (List.pairwise_cons.mp hOrder).2
            (List.forall_mem_cons.mp hStarts).2
            (List.forall_mem_cons.mp hEnds).2
          obtain rfl := h.cfg_eq
          rw [run_cons, List.countP_cons, not_spends_step hAsks]
          simpa using hRest

end Manager

def Admission.within (starts ends : ℚ) (admission : Admission) : Bool :=
  starts ≤ admission.request.nowMs.toNat ∧
    (admission.request.nowMs.toNat : ℚ) ≤ ends

/-- How many requests took a token of the domain in the window. -/
def admittedIn (cfg : Config) (key : EndpointKey) (starts ends : ℚ)
    (admissions : List Admission) : Nat :=
  admissions.countP fun admission =>
    admission.spends cfg key && admission.within starts ends

namespace Manager

variable {manager : Manager} {cfg : Config} {starts ends : ℚ}

private theorem admittedIn_of_outside (cfg : Config) (key : EndpointKey)
    (manager : Manager) {requests : List Request}
    (h : ∀ r ∈ requests,
      (r.nowMs.toNat : ℚ) < starts ∨ ends < (r.nowMs.toNat : ℚ)) :
    admittedIn cfg key starts ends (run step manager requests).2 = 0 := by
  refine countP_run_eq_zero manager fun r hMem manager => ?_
  rcases h r hMem with hEarly | hLate
  · simp [Admission.within, not_le.mpr hEarly]
  · simp [Admission.within, not_le.mpr hLate]

private theorem admittedIn_le (cfg : Config) (key : EndpointKey)
    (starts ends : ℚ) (admissions : List Admission) :
    admittedIn cfg key starts ends admissions ≤
      admissions.countP (Admission.spends cfg key) := by
  refine List.countP_mono_left fun admission _ hBoth => ?_
  exact (Bool.and_eq_true_iff.mp hBoth).1

private theorem admittedIn_run_le (hRate : 0 ≤ cfg.rate)
    (hBurst : 0 ≤ cfg.burst)
    (key : EndpointKey) (hWindow : starts ≤ ends) {requests : List Request}
    (h : Sound cfg manager)
    (hOrder : requests.Pairwise fun a b => a.nowMs ≤ b.nowMs) :
    (admittedIn cfg key starts ends (run step manager requests).2 : ℚ) ≤
      cfg.burst + cfg.rate * (ends - starts) / 1000 := by
  have hMono : requests.Pairwise fun a b =>
      (a.nowMs.toNat : ℚ) ≤ b.nowMs.toNat := by
    refine hOrder.imp fun {a b} hab => ?_
    exact_mod_cast UInt64.le_iff_toNat_le.mp hab
  obtain ⟨before, rest, rfl, hBefore, hRest⟩ := exists_append_of_pairwise
    (p := fun r : Request => (r.nowMs.toNat : ℚ) < starts)
    (hMono.imp fun hab hb => hab.trans_lt hb)
  obtain ⟨within, after, rfl, hWithin, hAfter⟩ := exists_append_of_pairwise
    (p := fun r : Request => (r.nowMs.toNat : ℚ) ≤ ends)
    ((List.pairwise_append.mp hMono).2.1.imp fun hab hb => hab.trans hb)
  have hStarts := (List.forall_mem_append.mp hRest).1
  have hOrderWithin := (List.pairwise_append.mp
    (List.pairwise_append.mp hOrder).2.1).1
  have hSound := invariant_run (sound_step hRate hBurst) before h
  have hSpent := spent_within key hRate hBurst hWindow hSound hOrderWithin
    (fun r hMem => not_lt.mp (hStarts r hMem)) hWithin
  have hCount := admittedIn_le cfg key starts ends
    (run step (run step manager before).1 within).2
  have hNoneBefore : admittedIn cfg key starts ends
      (run step manager before).2 = 0 :=
    admittedIn_of_outside cfg key manager
      fun r hMem => .inl (hBefore r hMem)
  have hNoneAfter : admittedIn cfg key starts ends
      (run step (run step (run step manager before).1 within).1 after).2 = 0 :=
    admittedIn_of_outside cfg key _
      fun r hMem => .inr (not_le.mp (hAfter r hMem))
  rw [run_append, run_append]
  simp only [admittedIn, List.countP_append] at hNoneBefore hNoneAfter hCount ⊢
  rw [hNoneBefore, hNoneAfter, Nat.zero_add, Nat.add_zero]
  exact (Nat.cast_le.mpr hCount).trans hSpent

end Manager

/-- Admissions on a domain are bounded in every window of every run, requests
on other domains leave its bucket alone, and exempt requests are admitted and
change nothing. -/
theorem admissions_bounded (cfg : Config) (hRate : 0 ≤ cfg.rate)
    (hBurst : 0 ≤ cfg.burst) :
    (∀ (requests : List Request) (key : EndpointKey) (starts ends : ℚ),
      requests.Pairwise (fun a b => a.nowMs ≤ b.nowMs) → starts ≤ ends →
        (admittedIn cfg key starts ends
            (run Manager.step { cfg } requests).2 : ℚ) ≤
          cfg.burst + cfg.rate * (ends - starts) / 1000) ∧
      (∀ (manager : Manager) (request : Request) (key : EndpointKey),
        request.key ≠ key →
          (manager.step request).1.buckets[key]? = manager.buckets[key]?) ∧
      ∀ (manager : Manager) (request : Request),
        request.exempt manager.cfg = true →
          manager.step request = (manager, ⟨request, none⟩) := by
  refine ⟨fun requests key starts ends hOrder hWindow => ?_,
    fun manager request key hOther => ?_,
    fun manager request hExempt => Manager.step_of_exempt hExempt⟩
  · exact Manager.admittedIn_run_le hRate hBurst key hWindow
      (Manager.sound_new cfg) hOrder
  · exact Manager.buckets_step_of_not_asks (by simp [Request.asks, hOther])

theorem admissions_bounded_twice :
    (admittedIn { rate := 1, burst := 1 } {} 0 0
        (run Manager.step { cfg := { rate := 1, burst := 1 } }
          [{ key := {}, nowMs := 0 }, { key := {}, nowMs := 0 }]).2 : ℚ) ≤
        (1 : Int) + 1 * (0 - 0) / 1000 ∧
      (({ } : Manager).step { key := {}, nowMs := 0 }).1.buckets[
          ({ byteBusId := 1 } : EndpointKey)]? = none ∧
      (({ } : Manager).step
          { key := {}, isSafetyTagged := true, nowMs := 0 }).2.error = none := by
  obtain ⟨hWindow, -, -⟩ := admissions_bounded { rate := 1, burst := 1 }
    (by decide) (by decide)
  obtain ⟨-, hOther, hExempt⟩ := admissions_bounded {} (by decide) (by decide)
  refine ⟨hWindow _ {} 0 0 (by decide) (by decide), ?_, ?_⟩
  · rw [hOther {} _ { byteBusId := 1 } (by decide)]
    rfl
  · rw [hExempt {} _ rfl]

end CppRcp.Host.RateLimit
