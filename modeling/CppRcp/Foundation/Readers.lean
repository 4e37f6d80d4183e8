import CppRcp.Foundation.Octets

/-!
# Readers of an octet stream

A reader takes a value from the front of a stream or fails.  The law of a
field is that a reader takes exactly the octets of its value, whatever follows
them, and fails on every proper part of them; it is kept by sequencing, and
carries over to a stream of many records.
-/

namespace CppRcp.Foundation

variable {ε α β : Type}

/-! ## Little-endian numbers -/

def putLe (width value : Nat) : Octets := (putBe width value).reverse

def getLe (octets : Octets) : Nat := getBe octets.reverse

@[simp] theorem length_putLe (width value : Nat) :
    (putLe width value).length = width := by
  simp [putLe]

private theorem getLe_putLe (width value : Nat) :
    getLe (putLe width value) = value % 256 ^ width := by
  rw [getLe, putLe, List.reverse_reverse, getBe_putBe]

/-! ## Readers -/

theorem except_bind_eq_ok {x : Except ε α} {f : α → Except ε β} {b : β} :
    x >>= f = .ok b ↔ ∃ a, x = .ok a ∧ f a = .ok b := by
  cases x with
  | error e =>
      constructor
      · intro h
        cases h
      · rintro ⟨a, hOk, -⟩
        cases hOk
  | ok a =>
      constructor
      · intro h
        exact ⟨a, rfl, h⟩
      · rintro ⟨_, hOk, h⟩
        cases hOk
        exact h

abbrev Reader (ε α : Type) := StateT Octets (Except ε) α

namespace Reader

theorem bind_eq_ok {read : Reader ε α} {next : α → Reader ε β}
    {octets rest : Octets} {result : β}
    (h : (read >>= next) octets = .ok (result, rest)) :
    ∃ value more, read octets = .ok (value, more) ∧
      next value more = .ok (result, rest) := by
  change (read octets >>= fun pair => next pair.1 pair.2) = _ at h
  obtain ⟨pair, hRead, hNext⟩ := except_bind_eq_ok.mp h
  exact ⟨pair.1, pair.2, hRead, hNext⟩

theorem lift_eq_ok {answer : Except ε α} {octets rest : Octets} {value : α}
    (h : (StateT.lift answer : Reader ε α) octets = .ok (value, rest)) :
    answer = .ok value := by
  cases answer with
  | error e => cases h
  | ok result =>
      cases h
      rfl

theorem bind_of_ok {read : Reader ε α} {octets rest : Octets} {value : α}
    (h : read octets = .ok (value, rest)) (next : α → Reader ε β) :
    (read >>= next) octets = next value rest := by
  change (read octets >>= fun pair => next pair.1 pair.2) = _
  rw [h]
  rfl

private theorem bind_of_error {read : Reader ε α} {octets : Octets} {e : ε}
    (h : read octets = .error e) (next : α → Reader ε β) :
    (read >>= next) octets = .error e := by
  change (read octets >>= fun pair => next pair.1 pair.2) = _
  rw [h]
  rfl

/-! ## Fields -/

structure Takes (read : Reader ε α) (octets : Octets) (value : α) : Prop where
  whole : ∀ rest, read (octets ++ rest) = .ok (value, rest)
  cut : ∀ part, part <+: octets → part ≠ octets → ∃ e, read part = .error e

theorem Takes.nothing {read : Reader ε α} {value : α}
    (h : ∀ rest, read rest = .ok (value, rest)) : Takes read [] value where
  whole := h
  cut _ hPart hNe := absurd (List.prefix_nil.mp hPart) hNe

theorem Takes.pure (value : α) :
    Takes (Pure.pure value : Reader ε α) [] value :=
  .nothing fun _ => rfl

theorem Takes.lift {answer : Except ε α} {value : α} (h : answer = .ok value) :
    Takes (StateT.lift answer) [] value := by
  subst h
  exact .nothing fun _ => rfl

theorem Takes.bind {read : Reader ε α} {next : α → Reader ε β}
    {octets more : Octets} {value : α} {result : β}
    (h : Takes read octets value) (hNext : Takes (next value) more result) :
    Takes (read >>= next) (octets ++ more) result where
  whole rest := by
    rw [List.append_assoc, bind_of_ok (h.whole _), hNext.whole]
  cut part hPart hNe := by
    by_cases hShort : part.length < octets.length
    · have hFirst : part <+: octets := List.prefix_of_prefix_length_le hPart
        (List.prefix_append _ _) hShort.le
      obtain ⟨e, hError⟩ := h.cut part hFirst fun hSame =>
        Nat.ne_of_lt hShort (congrArg List.length hSame)
      exact ⟨e, bind_of_error hError next⟩
    · obtain ⟨tail, rfl⟩ : octets <+: part := List.prefix_of_prefix_length_le
        (List.prefix_append _ _) hPart (Nat.le_of_not_lt hShort)
      obtain ⟨e, hError⟩ := hNext.cut tail
        ((List.prefix_append_right_inj octets).mp hPart)
          fun hSame => hNe (congrArg (octets ++ ·) hSame)
      exact ⟨e, by rw [bind_of_ok (h.whole tail), hError]⟩

theorem Takes.bind_nil {read : Reader ε α} {next : α → Reader ε β}
    {octets : Octets} {value : α} {result : β} (h : Takes read octets value)
    (hNext : Takes (next value) [] result) :
    Takes (read >>= next) octets result := by
  have hBoth := h.bind hNext
  rwa [List.append_nil] at hBoth

theorem Takes.map {read : Reader ε α} {octets : Octets} {value : α}
    (f : α → β) (h : Takes read octets value) :
    Takes (f <$> read) octets (f value) :=
  show Takes (read >>= fun value => Pure.pure (f value)) octets (f value) from
    h.bind_nil (.pure (f value))

/-- The next `n` octets. -/
def octets (e : ε) (n : Nat) : Reader ε Octets := fun stream =>
  if stream.length < n then .error e else .ok (stream.take n, stream.drop n)

theorem length_of_octets {e : ε} {n : Nat} {stream field rest : Octets}
    (h : octets e n stream = .ok (field, rest)) : field.length = n := by
  unfold octets at h
  split at h
  · cases h
  · next hLong =>
      cases h
      rw [List.length_take]
      omega

theorem takes_octets (e : ε) {n : Nat} {field : Octets}
    (h : field.length = n) : Takes (octets e n) field field where
  whole rest := by
    subst h
    simp [octets]
  cut part hPart hNe := by
    refine ⟨e, if_pos ?_⟩
    rw [← h]
    exact Nat.lt_of_le_of_ne hPart.length_le fun hSame =>
      hNe (hPart.eq_of_length hSame)

theorem takes_putLe (e : ε) (width value : Nat) :
    Takes (getLe <$> octets e width) (putLe width value)
      (value % 256 ^ width) := by
  rw [← getLe_putLe]
  exact (takes_octets e (length_putLe width value)).map getLe

/-! ## What a reader consumes -/

/-- The reader takes `n` octets or more. -/
def Consumes (n : Nat) (read : Reader ε α) : Prop :=
  ∀ stream value rest, read stream = .ok (value, rest) →
    rest.length + n ≤ stream.length

theorem Consumes.mono {m n : Nat} {read : Reader ε α}
    (h : Consumes n read) (hLe : m ≤ n) : Consumes m read := by
  intro stream value rest hRead
  have hLength := h stream value rest hRead
  omega

theorem Consumes.pure (value : α) :
    Consumes 0 (Pure.pure value : Reader ε α) := by
  intro stream result rest hRead
  cases hRead
  exact le_rfl

theorem Consumes.lift (answer : Except ε α) :
    Consumes 0 (StateT.lift answer : Reader ε α) := by
  intro stream result rest hRead
  cases answer with
  | error e => cases hRead
  | ok value =>
      cases hRead
      exact le_rfl

theorem Consumes.octets (e : ε) (n : Nat) : Consumes n (octets e n) := by
  intro stream value rest hRead
  unfold Reader.octets at hRead
  split at hRead
  · cases hRead
  · next hLong =>
      cases hRead
      rw [List.length_drop]
      omega

theorem Consumes.bind {m n : Nat} {read : Reader ε α}
    {next : α → Reader ε β} (h : Consumes m read)
    (hNext : ∀ value, Consumes n (next value)) :
    Consumes (m + n) (read >>= next) := by
  intro stream result rest hRead
  obtain ⟨value, more, hFirst, hRest⟩ := bind_eq_ok hRead
  have hLength := h stream value more hFirst
  have hMore := hNext value more result rest hRest
  omega

theorem Consumes.map {n : Nat} {read : Reader ε α} (f : α → β)
    (h : Consumes n read) : Consumes n (f <$> read) :=
  h.bind fun value => Consumes.pure (f value)

/-! ## Streams of records -/

def many (read : Reader ε α) : Nat → Octets → Except ε (List α)
  | 0, _ => .ok []
  | fuel + 1, stream =>
      if stream = [] then .ok []
      else
        match read stream with
        | .error e => .error e
        | .ok (value, rest) => (value :: ·) <$> many read fuel rest

def all (read : Reader ε α) (stream : Octets) : Except ε (List α) :=
  many read stream.length stream

section Streams

variable {read : Reader ε α} (hConsumes : Consumes 1 read)

private theorem many_nil (fuel : Nat) : many read fuel [] = .ok [] := by
  cases fuel <;> rfl

include hConsumes

private theorem many_fuel {fuel more : Nat} {stream : Octets}
    (hFuel : stream.length ≤ fuel) (hMore : stream.length ≤ more) :
    many read fuel stream = many read more stream := by
  induction fuel generalizing more stream with
  | zero =>
      obtain rfl := List.length_eq_zero_iff.mp (Nat.le_zero.mp hFuel)
      rw [many_nil, many_nil]
  | succ fuel ih =>
      cases more with
      | zero =>
          obtain rfl := List.length_eq_zero_iff.mp (Nat.le_zero.mp hMore)
          rw [many_nil, many_nil]
      | succ more =>
          rw [many, many]
          cases hRead : read stream with
          | error e => rfl
          | ok pair =>
              have hLength := hConsumes stream pair.1 pair.2 hRead
              have hSame : many read fuel pair.2 = many read more pair.2 :=
                ih (by omega) (by omega)
              dsimp only
              rw [hSame]

private theorem all_of_ok {stream rest : Octets} {value : α}
    (h : read stream = .ok (value, rest)) :
    all read stream = (value :: ·) <$> all read rest := by
  have hLength := hConsumes stream value rest h
  have hNonempty : stream ≠ [] := by
    rintro rfl
    simp at hLength
  have hPos := List.length_pos_of_ne_nil hNonempty
  obtain ⟨fuel, hFuel⟩ := Nat.exists_eq_add_of_le' hPos
  have hSame : many read fuel rest = all read rest :=
    many_fuel hConsumes (by omega) le_rfl
  rw [all, hFuel, many, if_neg hNonempty, h]
  dsimp only
  rw [hSame]

omit hConsumes in
private theorem all_of_error {stream : Octets} {e : ε} (hNonempty : stream ≠ [])
    (h : read stream = .error e) : all read stream = .error e := by
  have hPos := List.length_pos_of_ne_nil hNonempty
  obtain ⟨fuel, hFuel⟩ := Nat.exists_eq_add_of_le' hPos
  rw [all, hFuel, many, if_neg hNonempty, h]

theorem all_eq_ok {stream : Octets} {values : List α}
    (hNonempty : stream ≠ []) (h : all read stream = .ok values) :
    ∃ value rest tail, read stream = .ok (value, rest) ∧
      values = value :: tail ∧ all read rest = .ok tail := by
  cases hRead : read stream with
  | error e =>
      rw [all_of_error hNonempty hRead] at h
      cases h
  | ok pair =>
      rw [all_of_ok hConsumes hRead] at h
      cases hRest : all read pair.2 with
      | error e =>
          rw [hRest] at h
          cases h
      | ok tail =>
          rw [hRest] at h
          cases h
          exact ⟨pair.1, pair.2, tail, rfl, rfl, hRest⟩

variable {put : β → Octets} {result : β → α}

theorem all_flatMap {records : List β}
    (hTakes : ∀ record ∈ records, Takes read (put record) (result record)) :
    all read (records.flatMap put) = .ok (records.map result) := by
  induction records with
  | nil => rfl
  | cons record records ih =>
      obtain ⟨hFirst, hRest⟩ := List.forall_mem_cons.mp hTakes
      rw [List.flatMap_cons, all_of_ok hConsumes (hFirst.whole _), ih hRest]
      rfl

theorem all_cut {records : List β}
    (hTakes : ∀ record ∈ records, Takes read (put record) (result record))
    {part : Octets} (hPart : part <+: records.flatMap put)
    (hInside : ∀ n, part ≠ (records.take n).flatMap put) :
    ∃ e, all read part = .error e := by
  induction records generalizing part with
  | nil => exact absurd (List.prefix_nil.mp hPart) (hInside 0)
  | cons record records ih =>
      obtain ⟨hFirst, hRest⟩ := List.forall_mem_cons.mp hTakes
      rw [List.flatMap_cons] at hPart
      by_cases hShort : part.length < (put record).length
      · have hField : part <+: put record := List.prefix_of_prefix_length_le
          hPart (List.prefix_append _ _) hShort.le
        obtain ⟨e, hError⟩ := hFirst.cut part hField fun hSame =>
          Nat.ne_of_lt hShort (congrArg List.length hSame)
        exact ⟨e, all_of_error (hInside 0) hError⟩
      · obtain ⟨tail, rfl⟩ : put record <+: part :=
          List.prefix_of_prefix_length_le (List.prefix_append _ _) hPart
            (Nat.le_of_not_lt hShort)
        have hTail := (List.prefix_append_right_inj _).mp hPart
        obtain ⟨e, hError⟩ := ih hRest hTail fun n hSame =>
          hInside (n + 1) (by rw [List.take_succ_cons, List.flatMap_cons, hSame])
        refine ⟨e, ?_⟩
        rw [all_of_ok hConsumes (hFirst.whole tail), hError]
        rfl

end Streams

end Reader

end CppRcp.Foundation
