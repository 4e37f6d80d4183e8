import Mathlib.Tactic

/-!
# Reflected cyclic redundancy checks

A register of `width` bits that takes a message bit by bit, least significant
end first: each step adds the bit to the low end, shifts right, and adds the
polynomial when a one falls out.  The register is linear, and when the high
bit of the polynomial is set a step can be undone; so two messages that differ
in at most `width` consecutive bits never leave the same register.  A forward
register takes a message in words of its own width, most significant bit first;
read from the other end it is the reflected one.
-/

namespace CppRcp.Foundation.ReflectedCrc

variable {width : Nat} (poly : BitVec width)

def shift (register : BitVec width) : BitVec width :=
  if register.getLsbD 0 then (register >>> 1) ^^^ poly else register >>> 1

def lowBit (width : Nat) (bit : Bool) : BitVec width :=
  (BitVec.ofBool bit).setWidth width

def feedBit (register : BitVec width) (bit : Bool) : BitVec width :=
  shift poly (register ^^^ lowBit width bit)

def feed (register : BitVec width) (bits : List Bool) : BitVec width :=
  bits.foldl (feedBit poly) register

@[simp] theorem feed_nil (register : BitVec width) :
    feed poly register [] = register := rfl

@[simp] theorem feed_cons (register : BitVec width) (bit : Bool)
    (bits : List Bool) :
    feed poly register (bit :: bits) =
      feed poly (feedBit poly register bit) bits := rfl

theorem feed_append (register : BitVec width) (front back : List Bool) :
    feed poly register (front ++ back) =
      feed poly (feed poly register front) back :=
  List.foldl_append

private theorem getLsbD_shift (register : BitVec width) (i : Nat) :
    (shift poly register).getLsbD i =
      (register.getLsbD (i + 1) ^^
        (register.getLsbD 0 && poly.getLsbD i)) := by
  unfold shift
  split <;> rename_i h <;>
    simp [h, BitVec.getLsbD_xor, BitVec.getLsbD_ushiftRight, Nat.add_comm 1 i]

private theorem getLsbD_lowBit_succ (bit : Bool) (i : Nat) :
    (lowBit width bit).getLsbD (i + 1) = false := by
  simp [lowBit, BitVec.getLsbD_setWidth]

private theorem getLsbD_lowBit_zero (hWidth : 0 < width) (bit : Bool) :
    (lowBit width bit).getLsbD 0 = bit := by
  simp [lowBit, hWidth]

/-! ## Linearity -/

private theorem shift_xor (left right : BitVec width) :
    shift poly (left ^^^ right) = shift poly left ^^^ shift poly right := by
  apply BitVec.eq_of_getLsbD_eq
  intro i _
  simp only [getLsbD_shift, BitVec.getLsbD_xor]
  cases left.getLsbD 0 <;> cases right.getLsbD 0 <;>
    cases poly.getLsbD i <;> simp [Bool.xor_comm]

private theorem lowBit_xor (left right : Bool) :
    lowBit width (left ^^ right) = lowBit width left ^^^ lowBit width right := by
  apply BitVec.eq_of_getLsbD_eq
  intro i hi
  cases i with
  | zero =>
      rw [BitVec.getLsbD_xor]
      iterate 3 rw [getLsbD_lowBit_zero hi]
  | succ i => simp only [BitVec.getLsbD_xor, getLsbD_lowBit_succ,
      Bool.xor_false]

private theorem feedBit_xor (left right : BitVec width)
    (leftBit rightBit : Bool) :
    feedBit poly (left ^^^ right) (leftBit ^^ rightBit) =
      feedBit poly left leftBit ^^^ feedBit poly right rightBit := by
  unfold feedBit
  rw [← shift_xor, lowBit_xor]
  congr 1
  ac_rfl

private theorem feed_zipWith_xor (left right : BitVec width)
    {leftBits rightBits : List Bool}
    (hLength : leftBits.length = rightBits.length) :
    feed poly (left ^^^ right) (List.zipWith Bool.xor leftBits rightBits) =
      feed poly left leftBits ^^^ feed poly right rightBits := by
  induction leftBits generalizing left right rightBits with
  | nil =>
      obtain rfl := List.length_eq_zero_iff.mp hLength.symm
      rfl
  | cons leftBit leftBits ih =>
      cases rightBits with
      | nil => simp at hLength
      | cons rightBit rightBits =>
          simp only [List.zipWith_cons_cons, feed_cons]
          rw [feedBit_xor]
          exact ih _ _ (by simpa using hLength)

/-! ## Whole words -/

def word (width : Nat) : List Bool → BitVec width
  | [] => 0
  | bit :: bits => lowBit width bit ^^^ (word width bits <<< 1)

theorem getLsbD_word {bits : List Bool} (hLength : bits.length ≤ width)
    (i : Nat) : (word width bits).getLsbD i = bits.getD i false := by
  induction bits generalizing i with
  | nil => simp [word]
  | cons bit bits ih =>
      rw [List.length_cons] at hLength
      have hWidth : 0 < width := by omega
      cases i with
      | zero =>
          rw [word, BitVec.getLsbD_xor, getLsbD_lowBit_zero hWidth]
          simp
      | succ i =>
          rw [word, BitVec.getLsbD_xor, getLsbD_lowBit_succ,
            BitVec.getLsbD_shiftLeft]
          by_cases hi : i + 1 < width
          · simpa [hi] using ih (by omega) i
          · have hEnd : bits.length ≤ i := by omega
            simp [hi, hEnd]

private theorem shift_shiftLeft {register : BitVec width}
    (hHigh : register.getLsbD (width - 1) = false) :
    shift poly (register <<< 1) = register := by
  apply BitVec.eq_of_getLsbD_eq
  intro i hi
  rw [getLsbD_shift]
  by_cases hNext : i + 1 < width
  · simp [BitVec.getLsbD_shiftLeft, hNext, BitVec.getLsbD_eq_getElem hi]
  · have hLast : i = width - 1 := by omega
    simp [BitVec.getLsbD_shiftLeft, hLast, hHigh]

theorem feed_eq_iterate (register : BitVec width) {bits : List Bool}
    (hLength : bits.length ≤ width) :
    feed poly register bits =
      (shift poly)^[bits.length] (register ^^^ word width bits) := by
  induction bits generalizing register with
  | nil => simp [word]
  | cons bit bits ih =>
      rw [List.length_cons] at hLength
      have hHigh : (word width bits).getLsbD (width - 1) = false := by
        rw [getLsbD_word (by omega), List.getD_eq_getElem?_getD,
          List.getElem?_eq_none (by omega), Option.getD_none]
      rw [feed_cons, ih _ (by omega), List.length_cons,
        Function.iterate_succ_apply]
      congr 1
      rw [word, ← BitVec.xor_assoc, shift_xor, shift_shiftLeft poly hHigh,
        feedBit]

/-! ## Undoing a step -/

section Invertible

variable {poly} (hPoly : poly.msb = true)

include hPoly

private theorem width_pos : 0 < width := by
  rcases Nat.eq_zero_or_pos width with rfl | h
  · rw [BitVec.msb_zero_length] at hPoly
    exact absurd hPoly Bool.false_ne_true
  · exact h

private theorem getLsbD_zero_of_shift (register : BitVec width) :
    register.getLsbD 0 = (shift poly register).getLsbD (width - 1) := by
  have hHigh : poly.getLsbD (width - 1) = true := by
    rw [← BitVec.msb_eq_getLsbD_last]
    exact hPoly
  have hOut : register.getLsbD (width - 1 + 1) = false := by
    apply BitVec.getLsbD_of_ge
    omega
  rw [getLsbD_shift, hHigh, hOut]
  simp

private theorem shift_injective : Function.Injective (shift poly) := by
  intro left right h
  have hLow : left.getLsbD 0 = right.getLsbD 0 := by
    rw [getLsbD_zero_of_shift hPoly, h, ← getLsbD_zero_of_shift hPoly]
  apply BitVec.eq_of_getLsbD_eq
  intro i _
  cases i with
  | zero => exact hLow
  | succ i =>
      have hBit := congrArg (fun register => register.getLsbD i) h
      simp only [getLsbD_shift, hLow] at hBit
      exact Bool.xor_right_inj.mp
        (by rw [Bool.xor_comm, hBit, Bool.xor_comm])

private theorem feed_injective (bits : List Bool) :
    Function.Injective (fun register => feed poly register bits) := by
  induction bits with
  | nil => exact fun _ _ h => h
  | cons bit bits ih =>
      intro left right h
      have hStep := shift_injective hPoly (ih h)
      exact BitVec.xor_left_inj (lowBit width bit) |>.mp hStep

private theorem getLsbD_of_feed_eq_zero {register : BitVec width}
    {bits : List Bool}
    (hLength : bits.length ≤ width) (hZero : feed poly register bits = 0)
    (i : Nat) : register.getLsbD i = bits.getD i false := by
  induction bits generalizing register i with
  | nil =>
      rw [feed_nil] at hZero
      simp [hZero]
  | cons bit bits ih =>
      rw [List.length_cons] at hLength
      have hNext := ih (by omega) hZero
      -- the remaining bits do not reach the high end, so a zero fell out
      have hLow : (register ^^^ lowBit width bit).getLsbD 0 = false := by
        rw [getLsbD_zero_of_shift hPoly]
        change (feedBit poly register bit).getLsbD (width - 1) = false
        rw [hNext, List.getD_eq_getElem?_getD,
          List.getElem?_eq_none (by omega), Option.getD_none]
      cases i with
      | zero =>
          rw [BitVec.getLsbD_xor,
            getLsbD_lowBit_zero (width_pos hPoly)] at hLow
          simpa using hLow
      | succ i =>
          have hBit := hNext i
          rw [feedBit, getLsbD_shift, hLow, BitVec.getLsbD_xor,
            getLsbD_lowBit_succ] at hBit
          simpa using hBit

/-- A nonzero pattern of at most `width` bits leaves its trace in a register
that was zero. -/
theorem eq_false_of_feed_zero {bits : List Bool}
    (hLength : bits.length ≤ width) (hZero : feed poly 0 bits = 0) :
    ∀ bit ∈ bits, bit = false := by
  intro bit hBit
  obtain ⟨i, hi, rfl⟩ := List.getElem_of_mem hBit
  have h := getLsbD_of_feed_eq_zero hPoly hLength hZero i
  simpa [List.getD_eq_getElem?_getD, hi] using h.symm

/-- Messages that differ within `width` consecutive bits leave different
registers. -/
theorem window_eq_of_feed_eq {register : BitVec width}
    {front back window window' : List Bool}
    (hLength : window.length = window'.length)
    (hWindow : window.length ≤ width)
    (h : feed poly register (front ++ window ++ back) =
      feed poly register (front ++ window' ++ back)) :
    window = window' := by
  rw [feed_append, feed_append, feed_append _ _ (front ++ window'),
    feed_append] at h
  have hMiddle := feed_injective hPoly back h
  set start := feed poly register front
  have hDiff := feed_zipWith_xor poly start start hLength
  rw [hMiddle, BitVec.xor_self, BitVec.xor_self] at hDiff
  have hFalse := eq_false_of_feed_zero hPoly
    (by rw [List.length_zipWith]; omega) hDiff
  apply List.ext_getElem hLength
  intro i hi hi'
  have hZip : i < (List.zipWith Bool.xor window window').length := by
    rw [List.length_zipWith]
    omega
  have hBit := hFalse _ (List.getElem_mem hZip)
  rw [List.getElem_zipWith] at hBit
  simpa using hBit

theorem eq_of_feed_eq {register : BitVec width} {left right : List Bool}
    {start : Nat} (hLength : left.length = right.length)
    (hAgree : ∀ i, i < start ∨ start + width ≤ i → left[i]? = right[i]?)
    (h : feed poly register left = feed poly register right) :
    left = right := by
  have hTake : left.take start = right.take start := by
    apply List.ext_getElem?
    intro i
    rw [List.getElem?_take, List.getElem?_take]
    split
    · rename_i hi
      exact hAgree i (.inl hi)
    · rfl
  have hDrop : (left.drop start).drop width =
      (right.drop start).drop width := by
    apply List.ext_getElem?
    intro i
    rw [List.drop_drop, List.drop_drop, List.getElem?_drop,
      List.getElem?_drop]
    exact hAgree _ (.inr (by omega))
  have hWindow : ∀ bits : List Bool, bits =
      bits.take start ++ (bits.drop start).take width ++
        (bits.drop start).drop width := by
    intro bits
    rw [List.append_assoc, List.take_append_drop, List.take_append_drop]
  rw [hWindow left, hWindow right, hTake, hDrop] at h
  have hSame := window_eq_of_feed_eq hPoly (by simp [hLength])
    (by simp) h
  rw [hWindow left, hWindow right, hTake, hDrop, hSame]

end Invertible

end CppRcp.Foundation.ReflectedCrc

/-! ## Forward registers -/

namespace CppRcp.Foundation.ForwardCrc

open CppRcp.Foundation

variable {width : Nat} (poly : BitVec width)

def shift (register : BitVec width) : BitVec width :=
  if register.msb then (register <<< 1) ^^^ poly else register <<< 1

def update (register word : BitVec width) : BitVec width :=
  (shift poly)^[width] (register ^^^ word)

def wordBits (word : BitVec width) : List Bool :=
  (List.range width).map word.getMsbD

@[simp] theorem length_wordBits (word : BitVec width) :
    (wordBits word).length = width := by
  simp [wordBits]

private theorem wordBits_injective :
    Function.Injective (@wordBits width) := by
  intro left right h
  have hMap := List.map_inj_left.mp h
  apply BitVec.eq_of_getMsbD_eq
  intro i hi
  exact hMap i (List.mem_range.mpr hi)

private theorem flatMap_wordBits_inj {left right : List (BitVec width)}
    (hLength : left.length = right.length)
    (h : left.flatMap wordBits = right.flatMap wordBits) : left = right := by
  induction left generalizing right with
  | nil => exact (List.length_eq_zero_iff.mp hLength.symm).symm
  | cons word words ih =>
      cases right with
      | nil => simp at hLength
      | cons word' words' =>
          rw [List.flatMap_cons, List.flatMap_cons] at h
          obtain ⟨hWord, hRest⟩ := List.append_inj h (by simp)
          rw [wordBits_injective hWord, ih (by simpa using hLength) hRest]

/-! ## The reflected register -/

private theorem reverse_xor (left right : BitVec width) :
    (left ^^^ right).reverse = left.reverse ^^^ right.reverse := by
  apply BitVec.eq_of_getLsbD_eq
  intro i _
  simp [BitVec.getLsbD_reverse]

private theorem reverse_shiftLeft_one (register : BitVec width) :
    (register <<< 1).reverse = register.reverse >>> 1 := by
  apply BitVec.eq_of_getLsbD_eq
  intro i hi
  rw [BitVec.getLsbD_reverse, BitVec.getMsbD_shiftLeft,
    BitVec.getLsbD_ushiftRight, BitVec.getLsbD_reverse, Nat.add_comm]

private theorem reverse_shift (register : BitVec width) :
    (shift poly register).reverse =
      ReflectedCrc.shift poly.reverse register.reverse := by
  have hLow : register.reverse.getLsbD 0 = register.msb := by
    rw [BitVec.getLsbD_reverse]
    rfl
  unfold shift ReflectedCrc.shift
  rw [hLow]
  split
  · rw [reverse_xor, reverse_shiftLeft_one]
  · exact reverse_shiftLeft_one register

private theorem reverse_iterate (n : Nat) (register : BitVec width) :
    ((shift poly)^[n] register).reverse =
      (ReflectedCrc.shift poly.reverse)^[n] register.reverse := by
  induction n generalizing register with
  | zero => rfl
  | succ n ih =>
      rw [Function.iterate_succ_apply, ih, reverse_shift,
        Function.iterate_succ_apply]

private theorem word_wordBits (word : BitVec width) :
    ReflectedCrc.word width (wordBits word) = word.reverse := by
  apply BitVec.eq_of_getLsbD_eq
  intro i hi
  rw [ReflectedCrc.getLsbD_word (by simp), BitVec.getLsbD_reverse]
  simp [wordBits, hi]

private theorem reverse_update (register word : BitVec width) :
    (update poly register word).reverse =
      ReflectedCrc.feed poly.reverse register.reverse (wordBits word) := by
  rw [ReflectedCrc.feed_eq_iterate _ _ (by simp), length_wordBits,
    word_wordBits, update, reverse_iterate, reverse_xor]

private theorem reverse_foldl (register : BitVec width)
    (words : List (BitVec width)) :
    (words.foldl (update poly) register).reverse =
      ReflectedCrc.feed poly.reverse register.reverse
        (words.flatMap wordBits) := by
  induction words generalizing register with
  | nil => rfl
  | cons word words ih =>
      rw [List.foldl_cons, ih, reverse_update, List.flatMap_cons,
        ReflectedCrc.feed_append]

/-! ## Detection -/

private theorem getElem?_flatMap_wordBits (words : List (BitVec width))
    (index : Nat) {bit : Nat} (hBit : bit < width) :
    (words.flatMap wordBits)[width * index + bit]? =
      words[index]?.map (fun word => word.getMsbD bit) := by
  induction words generalizing index with
  | nil => simp
  | cons word words ih =>
      rw [List.flatMap_cons]
      cases index with
      | zero =>
          rw [List.getElem?_append_left (by simpa using hBit)]
          simp [wordBits, hBit]
      | succ index =>
          have hIndex : width * (index + 1) + bit - width =
              width * index + bit := by
            rw [Nat.mul_add]
            omega
          rw [List.getElem?_append_right (by rw [Nat.mul_add]; simp; omega),
            length_wordBits, hIndex, ih, List.getElem?_cons_succ]

/-- Messages that differ only within `width` consecutive bits leave different
registers. -/
theorem foldl_inj_of_burst (hPoly : poly.getLsbD 0 = true)
    {register : BitVec width} {left right : List (BitVec width)} {start : Nat}
    (hLength : left.length = right.length)
    (hAgree : ∀ index bit, bit < width →
      width * index + bit < start ∨ start + width ≤ width * index + bit →
        (left[index]?.map fun word => word.getMsbD bit) =
          right[index]?.map fun word => word.getMsbD bit)
    (h : left.foldl (update poly) register =
      right.foldl (update poly) register) :
    left = right := by
  have hWidth : 0 < width := by
    rcases Nat.eq_zero_or_pos width with rfl | hWidth
    · simp at hPoly
    · exact hWidth
  have hReverse : poly.reverse.msb = true := by
    rwa [BitVec.msb_reverse]
  have hBits : ∀ i, i < start ∨ start + width ≤ i →
      (left.flatMap wordBits)[i]? = (right.flatMap wordBits)[i]? := by
    intro i hi
    have hSplit : i = width * (i / width) + i % width :=
      (Nat.div_add_mod i width).symm
    have hBit := Nat.mod_lt i hWidth
    rw [hSplit, getElem?_flatMap_wordBits _ _ hBit,
      getElem?_flatMap_wordBits _ _ hBit]
    exact hAgree _ _ hBit (hSplit ▸ hi)
  apply flatMap_wordBits_inj hLength
  apply ReflectedCrc.eq_of_feed_eq hReverse (by simp [hLength]) hBits
  rw [← reverse_foldl, h, reverse_foldl]

end CppRcp.Foundation.ForwardCrc
