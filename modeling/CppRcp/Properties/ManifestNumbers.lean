import CppRcp.Foundation.Readers
import CppRcp.Properties.ManifestObjects

/-!
# The numbers of a manifest as they are written

The parser reads a run of digits wherever a number stands.  What is written
there may go on behind the digits, and need not fit the field.  The readings
of a text are the numbers, stream keys and malformed places in the order in
which the parser comes to them: it throws at the first one that it refuses.
-/

namespace CppRcp.Config

open CppRcp.Foundation

/-! ## Numbers -/

def fractionOf (text : Text) : ℚ × Text :=
  match text with
  | '.' :: rest =>
      let run := rest.takeWhile Char.isDigit
      ((Nat.ofDigitChars 10 run 0 : ℚ) / 10 ^ run.length,
        rest.dropWhile Char.isDigit)
  | _ => (0, text)

def exponentOf (text : Text) : Int :=
  match text with
  | c :: rest =>
      if c = 'e' ∨ c = 'E' then
        let (negative, unsigned) := signPrefix rest
        let size := Nat.ofDigitChars 10 (unsigned.takeWhile Char.isDigit) 0
        if negative then -size else size
      else 0
  | [] => 0

structure Numeral where
  digits : Nat
  written : ℚ
  deriving DecidableEq

def numeralAt (colon : Text) : Option Numeral :=
  let begins := (colon.drop 1).dropWhile fun c => c = ' ' ∨ c = '\t'
  let run := begins.takeWhile Char.isDigit
  let digits := Nat.ofDigitChars 10 run 0
  let (fraction, rest) := fractionOf (begins.dropWhile Char.isDigit)
  if run = [] then none
  else some ⟨digits, (digits + fraction) * 10 ^ exponentOf rest⟩

def numberIn (text key : Text) : Option Numeral := do
  let k ← find (quoted key) text
  let colon ← find [':'] k
  numeralAt colon

private theorem ofDigitChars_lt {run : Text} (h : ∀ c ∈ run, c.isDigit = true) :
    Nat.ofDigitChars 10 run 0 < 10 ^ run.length := by
  induction run using List.reverseRecOn with
  | nil => simp [Nat.ofDigitChars_nil]
  | append_singleton run c ih =>
      obtain ⟨hRun, hLast⟩ := List.forall_mem_append.mp h
      have hDigit := (digitValue_eq (hLast c (List.mem_singleton_self c))).2
      rw [(digitValue_eq (hLast c (List.mem_singleton_self c))).1] at hDigit
      have hBefore := ih hRun
      rw [Nat.ofDigitChars_append, Nat.ofDigitChars_cons, Nat.ofDigitChars_nil,
        List.length_append, List.length_singleton, pow_succ]
      omega

theorem fractionOf_bounds (text : Text) :
    0 ≤ (fractionOf text).1 ∧ (fractionOf text).1 < 1 := by
  unfold fractionOf
  split
  · next rest =>
      have hLt : Nat.ofDigitChars 10 (rest.takeWhile Char.isDigit) 0 <
          10 ^ (rest.takeWhile Char.isDigit).length :=
        ofDigitChars_lt fun c hc => List.mem_takeWhile_imp hc
      refine ⟨by positivity, ?_⟩
      rw [div_lt_one (by positivity)]
      exact_mod_cast hLt
  · exact ⟨le_refl 0, one_pos⟩

private theorem mod_eq_self_of_mul {digits width k : Nat}
    (h : digits % 2 ^ width * 10 ^ (k + 1) = digits) :
    digits % 2 ^ width = digits := by
  have hOdd : Nat.Coprime (2 ^ width) (10 ^ (k + 1) - 1) := by
    refine Nat.Coprime.pow_left _ (Nat.coprime_two_left.mpr ?_)
    refine Nat.Even.sub_odd (Nat.one_le_pow _ _ (by norm_num)) ?_ odd_one
    exact (by decide : Even 10).pow_of_ne_zero (Nat.succ_ne_zero k)
  have hSplit := Nat.mod_add_div digits (2 ^ width)
  have hDvd : 2 ^ width ∣ digits % 2 ^ width * (10 ^ (k + 1) - 1) := by
    refine ⟨digits / 2 ^ width, ?_⟩
    rw [Nat.mul_sub_one, h]
    omega
  have hZero : digits % 2 ^ width = 0 :=
    Nat.eq_zero_of_dvd_of_lt (hOdd.dvd_of_dvd_mul_right hDvd)
      (Nat.mod_lt _ (by positivity))
  rw [hZero, Nat.zero_mul] at h
  rw [hZero, ← h]

/-- The low bits of the digits are the number that is written only where they
are all of them. -/
theorem mod_eq_written_iff {digits width : Nat} {fraction : ℚ}
    (hFraction : 0 ≤ fraction ∧ fraction < 1) (exponent : Int) :
    ((digits % 2 ^ width : Nat) : ℚ) = (digits + fraction) * 10 ^ exponent ↔
      digits < 2 ^ width ∧
        (digits + fraction) * 10 ^ exponent = (digits : ℚ) := by
  constructor
  · intro h
    suffices hSame : digits % 2 ^ width = digits by
      refine ⟨hSame ▸ Nat.mod_lt _ (by positivity), ?_⟩
      rw [← h, hSame]
    rcases le_or_gt 0 exponent with hPos | hNeg
    · refine le_antisymm (Nat.mod_le _ _) ?_
      have hPower : (1 : ℚ) ≤ 10 ^ exponent := one_le_zpow₀ (by norm_num) hPos
      have hDigits : (digits : ℚ) ≤ (digits + fraction) * 10 ^ exponent := by
        calc (digits : ℚ) ≤ digits + fraction := by linarith [hFraction.1]
          _ ≤ (digits + fraction) * 10 ^ exponent :=
            le_mul_of_one_le_right (by linarith [hFraction.1,
              (Nat.cast_nonneg digits : (0 : ℚ) ≤ digits)]) hPower
      rw [← h] at hDigits
      exact_mod_cast hDigits
    · obtain ⟨k, rfl⟩ : ∃ k : Nat, exponent = -(k + 1 : Nat) :=
        ⟨(-exponent - 1).toNat, by omega⟩
      rw [zpow_neg, zpow_natCast, ← div_eq_mul_inv,
        eq_div_iff (by positivity)] at h
      have hLow : (digits : ℚ) ≤ (digits % 2 ^ width * 10 ^ (k + 1) : Nat) := by
        push_cast at h ⊢
        linarith [hFraction.1]
      have hHigh : ((digits % 2 ^ width * 10 ^ (k + 1) : Nat) : ℚ) <
          (digits + 1 : Nat) := by
        push_cast at h ⊢
        linarith [hFraction.2]
      refine mod_eq_self_of_mul (k := k) (le_antisymm ?_ ?_)
      · exact Nat.lt_succ_iff.mp (by exact_mod_cast hHigh)
      · exact_mod_cast hLow
  · rintro ⟨hFits, hWritten⟩
    rw [hWritten, Nat.mod_eq_of_lt hFits]

/-! ## Stream keys -/

structure KeyNumeral where
  negative : Bool
  base : Nat
  digits : Text
  deriving DecidableEq

def keyNumeral (text : Text) : KeyNumeral :=
  let (negative, unsigned) := signPrefix (text.dropWhile isSpace)
  let (base, begins) := basePrefix unsigned
  { negative, base, digits := begins.takeWhile (digitValue · < base) }

def keyNumber (text : Text) : Int :=
  let numeral := keyNumeral text
  let size := digitsValue (if numeral.base = 16 then 16 else 10) numeral.digits
  if numeral.negative then -size else size

def KeyFits (text : Text) : Prop :=
  let numeral := keyNumeral text
  (numeral.negative = true → digitsValue numeral.base numeral.digits = 0) ∧
    (numeral.base = 8 →
      digitsValue 8 numeral.digits = digitsValue 10 numeral.digits)

instance (text : Text) : Decidable (KeyFits text) :=
  inferInstanceAs (Decidable (_ ∧ _))

private theorem basePrefix_cases (text : Text) :
    (basePrefix text).1 = 16 ∨ (basePrefix text).1 = 8 ∨
      (basePrefix text).1 = 10 := by
  unfold basePrefix
  split
  · split <;> simp
  · simp
  · simp

private theorem signed_eq_iff {negative : Bool} {value size : Nat}
    (hValue : value < 2 ^ 64) :
    ((if negative then -UInt64.ofNat value else UInt64.ofNat value).toNat :
        Int) = (if negative then -(size : Int) else size) ↔
      (negative = true → value = 0) ∧ value = size := by
  have hRead : (UInt64.ofNat value).toNat = value :=
    UInt64.toNat_ofNat_of_lt' hValue
  cases negative with
  | false =>
      simp only [Bool.false_eq_true, if_false, hRead, false_implies, true_and]
      exact Nat.cast_inj
  | true =>
      have hNeg : (-UInt64.ofNat value).toNat = (2 ^ 64 - value) % 2 ^ 64 := by
        rw [UInt64.toNat_neg, hRead]
        rfl
      simp only [if_true, hNeg, true_implies]
      by_cases hZero : value = 0
      · subst hZero
        simp [eq_comm]
      · rw [Nat.mod_eq_of_lt (by omega)]
        refine iff_of_false ?_ fun h => hZero h.1
        omega

theorem key_eq_iff {text : Text} {key : UInt64}
    (h : parseStreamKey text = .ok key) :
    (key.toNat : Int) = keyNumber text ↔ KeyFits text := by
  unfold parseStreamKey stoull at h
  unfold keyNumber KeyFits keyNumeral
  rcases hSign : signPrefix (text.dropWhile isSpace) with ⟨negative, unsigned⟩
  rcases hBase : basePrefix unsigned with ⟨base, begins⟩
  simp only [hSign, hBase] at h ⊢
  have hCases := basePrefix_cases unsigned
  rw [hBase] at hCases
  split at h
  · next value hRead =>
      cases h
      split at hRead
      · cases hRead
      · next hDigits =>
          obtain ⟨-, hLt⟩ := not_or.mp hDigits
          obtain ⟨rfl, -⟩ := Prod.mk.inj (Option.some.inj hRead)
          refine (signed_eq_iff (Nat.not_le.mp hLt)).trans
            (and_congr_right fun _ => ?_)
          rcases hCases with rfl | rfl | rfl <;> simp
  · cases h

/-! ## Readings -/

/-- What the parser finds where it reads a value: nothing that it accepts, a
number for a field of so many bits, or a stream key. -/
inductive Reading
  | malformed
  | number (numeral : Numeral) (width : Nat)
  | key (text : Text)

namespace Reading

def refused : Reading → Bool
  | malformed => true
  | number numeral _ => decide (2 ^ 64 ≤ numeral.digits)
  | key _ => false

/-- The field can have the value that is written. -/
def Fits : Reading → Prop
  | malformed => False
  | number numeral width =>
      numeral.digits < 2 ^ width ∧ numeral.written = numeral.digits
  | key text => KeyFits text

end Reading

section

variable {α β : Type} {x : Except ParseFailure α}
  {f : α → Except ParseFailure β} {rs rs' : List Reading} {P Q : α → Prop}

/-- A part of the parser comes to the readings in their order, and throws at
the first one that is refused. -/
def Reads (x : Except ParseFailure α) (rs : List Reading) (Q : α → Prop) :
    Prop :=
  match rs.find? Reading.refused with
  | none => ∃ a, x = .ok a ∧ Q a
  | some .malformed => ∃ what, x = .error (.parseError what)
  | some _ => x = .error .outOfRange

theorem reads_ok {a : α} (h : Q a) : Reads (.ok a) [] Q := ⟨a, rfl, h⟩

theorem reads_malformed (what : String) (rs : List Reading) :
    Reads (.error (.parseError what)) (.malformed :: rs) Q := ⟨what, rfl⟩

theorem Reads.bind {R : β → Prop} (hx : Reads x rs Q)
    (hf : ∀ a, Q a → Reads (f a) rs' R) : Reads (x >>= f) (rs ++ rs') R := by
  unfold Reads at hx ⊢
  rw [List.find?_append]
  cases hFirst : rs.find? Reading.refused with
  | none =>
      rw [hFirst] at hx
      obtain ⟨a, rfl, ha⟩ := hx
      exact hf a ha
  | some reading =>
      rw [hFirst] at hx
      cases reading with
      | malformed =>
          obtain ⟨what, rfl⟩ := hx
          exact ⟨what, rfl⟩
      | number numeral width =>
          subst hx
          rfl
      | key text =>
          subst hx
          rfl

theorem Reads.map {R : β → Prop} (g : α → β) (hx : Reads x rs P)
    (h : ∀ a, P a → R (g a)) : Reads (g <$> x) rs R := by
  have hBind : Reads (x >>= fun a => .ok (g a)) (rs ++ []) R :=
    hx.bind fun a ha => reads_ok (h a ha)
  rw [List.append_nil] at hBind
  cases x <;> exact hBind

theorem Reads.mono (hx : Reads x rs P) (h : ∀ a, P a → Q a) :
    Reads x rs Q := by
  have hMap := hx.map id h
  cases x <;> exact hMap

end

end CppRcp.Config
