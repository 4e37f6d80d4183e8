import CppRcp.Cli.Json
import CppRcp.Foundation.Base64

/-!
# Decoding an encoding

The decoder returns the octets of any encoding, as an octet is taken from the
low bits of the accumulator.  Its values stay in the range of a signed 32-bit
integer as long as the number that the letters write does.
-/

namespace CppRcp.Cli

open CppRcp.Foundation

/-! ## Letters -/

private theorem b64Val_letter : ∀ v < 64, b64Val (Base64.letter v) = v := by
  decide

private theorem not_b64Skipped_letter : ∀ v < 64,
    b64Skipped (Base64.letter v) = false := by
  decide

private theorem b64Skipped_of_isSpace {c : UInt8}
    (h : Base64.isSpace c = true) :
    b64Skipped c = true := by
  simp only [Base64.isSpace, b64Skipped, Bool.or_eq_true] at h ⊢
  tauto

/-! ## What the loop does not see -/

private theorem b64Loop_filter {p : UInt8 → Bool}
    (hSkip : ∀ c, p c = false → b64Skipped c = true) (s : B64State)
    (text : Octets) : b64Loop s (text.filter p) = b64Loop s text := by
  induction text generalizing s with
  | nil => rfl
  | cons c rest ih =>
      cases hc : p c with
      | true =>
          rw [List.filter_cons_of_pos hc, b64Loop, b64Loop]
          split
          · exact ih s
          · split
            · rfl
            · exact ih _
      | false =>
          rw [List.filter_cons_of_neg (by simp [hc]), ih, b64Loop,
            if_pos (hSkip c hc)]

private theorem accumulated_filter {p : UInt8 → Bool}
    (hSkip : ∀ c, p c = false → b64Skipped c = true) (s : B64State)
    (text : Octets) : accumulated s (text.filter p) = accumulated s text := by
  induction text generalizing s with
  | nil => rfl
  | cons c rest ih =>
      cases hc : p c with
      | true =>
          rw [List.filter_cons_of_pos hc, accumulated, accumulated]
          split
          · exact ih s
          · split
            · rfl
            · rw [ih]
      | false =>
          rw [List.filter_cons_of_neg (by simp [hc]), ih, accumulated,
            if_pos (hSkip c hc)]

/-! ## The letters of an encoding -/

def pushAll (s : B64State) (sextets : List Nat) : B64State :=
  sextets.foldl (fun s (v : Nat) => s.push v) s

@[simp] theorem pushAll_nil (s : B64State) : pushAll s [] = s := rfl

@[simp] theorem pushAll_cons (s : B64State) (v : Nat) (sextets : List Nat) :
    pushAll s (v :: sextets) = pushAll (s.push v) sextets := rfl

def shiftedAll (s : B64State) : List Nat → List Int
  | [] => []
  | v :: sextets => s.shifted v :: shiftedAll (s.push v) sextets

private theorem b64Loop_letters {sextets : List Nat} (h : ∀ v ∈ sextets, v < 64)
    (s : B64State) :
    b64Loop s (sextets.map Base64.letter) = (true, pushAll s sextets) := by
  induction sextets generalizing s with
  | nil => rfl
  | cons v sextets ih =>
      have hv : v < 64 := h v (by simp)
      rw [List.map_cons, b64Loop, not_b64Skipped_letter v hv, b64Val_letter v hv,
        if_neg (by simp), if_neg (by omega)]
      exact ih (fun w hw => h w (by simp [hw])) _

private theorem accumulated_letters {sextets : List Nat}
    (h : ∀ v ∈ sextets, v < 64) (s : B64State) :
    accumulated s (sextets.map Base64.letter) = shiftedAll s sextets := by
  induction sextets generalizing s with
  | nil => rfl
  | cons v sextets ih =>
      have hv : v < 64 := h v (by simp)
      rw [List.map_cons, accumulated, not_b64Skipped_letter v hv,
        b64Val_letter v hv, if_neg (by simp), if_neg (by omega), shiftedAll,
        ih (fun w hw => h w (by simp [hw]))]

private theorem filter_encode (octets : Octets) (padded : Bool) :
    (Base64.encode octets padded).filter (fun c => !b64Skipped c) =
      (Base64.sextets octets).map Base64.letter := by
  have hLetters : ((Base64.sextets octets).map Base64.letter).filter
      (fun c => !b64Skipped c) = (Base64.sextets octets).map Base64.letter := by
    rw [List.filter_eq_self]
    intro c hc
    obtain ⟨v, hv, rfl⟩ := List.mem_map.mp hc
    rw [not_b64Skipped_letter v (Base64.sextets_lt octets v hv)]
    rfl
  have hPad : (List.replicate (Base64.padCount octets) Base64.pad).filter
      (fun c => !b64Skipped c) = [] := by
    rw [List.filter_eq_nil_iff]
    intro c hc
    rw [List.eq_of_mem_replicate hc]
    decide
  rw [Base64.encode, List.filter_append, hLetters]
  cases padded with
  | false => simp
  | true => simp [hPad]

private theorem filter_of_encodes {text octets : Octets}
    (h : Base64.Encodes text octets) :
    text.filter (fun c => !b64Skipped c) =
      (Base64.sextets octets).map Base64.letter := by
  obtain ⟨padded, hText⟩ := h
  rw [← filter_encode octets padded, ← hText, List.filter_filter]
  congr 1
  funext c
  cases hc : b64Skipped c with
  | true => rfl
  | false =>
      have hSpace : Base64.isSpace c = false := by
        by_contra hSpace
        rw [b64Skipped_of_isSpace (by simpa using hSpace)] at hc
        cases hc
      simp [hSpace]

/-! ## The octets -/

def nextBuf (buf : BitVec 32) (v : Nat) : BitVec 32 :=
  (buf <<< 6) ||| BitVec.ofInt 32 v

private theorem toNat_nextBuf (buf : BitVec 32) {v : Nat} (hv : v < 64) :
    (nextBuf buf v).toNat = (buf.toNat * 64 + v) % 2 ^ 32 := by
  have hValue : (BitVec.ofInt 32 v).toNat = v := by
    simp only [BitVec.toNat_ofInt]
    omega
  have hLow : (buf <<< 6) &&& BitVec.ofInt 32 v = 0#32 := by
    apply BitVec.eq_of_getLsbD_eq
    intro i hi
    rw [BitVec.getLsbD_and, BitVec.getLsbD_shiftLeft]
    by_cases hSix : i < 6
    · simp [hSix]
    · have hHigh : (BitVec.ofInt 32 v).getLsbD i = false := by
        have hPow : 2 ^ 6 ≤ 2 ^ i := Nat.pow_le_pow_right (by decide) (by omega)
        rw [BitVec.getLsbD, hValue]
        exact Nat.testBit_lt_two_pow (by omega)
      rw [hHigh]
      simp
  rw [nextBuf, ← BitVec.add_eq_or_of_and_eq_zero _ _ hLow, BitVec.toNat_add,
    BitVec.toNat_shiftLeft, hValue, Nat.shiftLeft_eq]
  omega

private theorem ofNat_octet (buf : BitVec 32) {k : Nat} (hk : k ≤ 24) :
    UInt8.ofNat ((buf.sshiftRight k) &&& 0xFF).toNat =
      UInt8.ofNat (buf.toNat / 2 ^ k) := by
  apply UInt8.toNat_inj.mp
  rw [UInt8.toNat_ofNat', UInt8.toNat_ofNat']
  apply Nat.eq_of_testBit_eq
  intro i
  rw [Nat.testBit_mod_two_pow, Nat.testBit_mod_two_pow,
    Nat.testBit_div_two_pow]
  by_cases hi : i < 8
  · have hMask : ∀ i < 8, (0xFF : BitVec 32).getLsbD i = true := by decide
    change (decide (i < 8) && BitVec.getLsbD _ i) =
      (decide (i < 8) && buf.getLsbD (i + k))
    rw [BitVec.getLsbD_and, hMask i hi, BitVec.getLsbD_sshiftRight,
      if_pos (by omega), Nat.add_comm k i]
    simp [show ¬ 32 ≤ i by omega]
  · simp [hi]

private theorem push_keep (buf : BitVec 32) (out : Octets) (v : Nat) :
    B64State.push ⟨buf, 0, out⟩ v = ⟨nextBuf buf v, 6, out⟩ := rfl

private theorem push_emit (buf : BitVec 32) {bits : Nat} (hBits : bits ≤ 24)
    (out : Octets) (v : Nat) :
    B64State.push ⟨buf, bits + 2, out⟩ v =
      ⟨nextBuf buf v, bits,
        out ++ [UInt8.ofNat ((nextBuf buf v).toNat / 2 ^ bits)]⟩ := by
  have hShift : bits + 2 + 6 - 8 = bits := by omega
  rw [B64State.push, if_pos (by simp only; omega)]
  simp only [hShift]
  rw [← ofNat_octet _ hBits]
  rfl

private theorem octet_of_letters (buf : BitVec 32) {v w k : Nat} (hv : v < 64)
    (hw : w < 64) (hk : k = 4 ∨ k = 2 ∨ k = 0) {octet : UInt8}
    (h : (v * 64 + w) / 2 ^ k % 256 = octet.toNat) :
    UInt8.ofNat ((nextBuf (nextBuf buf v) w).toNat / 2 ^ k) = octet := by
  apply UInt8.toNat_inj.mp
  rw [UInt8.toNat_ofNat', toNat_nextBuf _ hw, toNat_nextBuf _ hv, ← h]
  rcases hk with rfl | rfl | rfl
  · omega
  · omega
  · omega

private theorem out_pushAll_sextets (buf : BitVec 32) (out octets : Octets) :
    (pushAll ⟨buf, 0, out⟩ (Base64.sextets octets)).out = out ++ octets := by
  induction octets using Base64.sextets.induct generalizing buf out with
  | case1 a b c octets ih =>
      have ha := a.toNat_lt
      have hb := b.toNat_lt
      have hc := c.toNat_lt
      simp only [Base64.sextets, pushAll_cons]
      rw [push_keep, push_emit _ (by decide : 4 ≤ 24),
        push_emit _ (by decide : 2 ≤ 24), push_emit _ (by decide : 0 ≤ 24), ih]
      have hFirst : (a.toNat / 4 * 64 + (a.toNat % 4 * 16 + b.toNat / 16)) /
          2 ^ 4 % 256 = a.toNat := by omega
      have hSecond : ((a.toNat % 4 * 16 + b.toNat / 16) * 64 +
          (b.toNat % 16 * 4 + c.toNat / 64)) / 2 ^ 2 % 256 = b.toNat := by
        omega
      have hThird : ((b.toNat % 16 * 4 + c.toNat / 64) * 64 + c.toNat % 64) /
          2 ^ 0 % 256 = c.toNat := by omega
      rw [octet_of_letters _ (by omega) (by omega) (.inl rfl) hFirst,
        octet_of_letters _ (by omega) (by omega) (.inr (.inl rfl)) hSecond,
        octet_of_letters _ (by omega) (by omega) (.inr (.inr rfl)) hThird]
      simp
  | case2 a b =>
      have ha := a.toNat_lt
      have hb := b.toNat_lt
      simp only [Base64.sextets, pushAll_cons, pushAll_nil]
      rw [push_keep, push_emit _ (by decide : 4 ≤ 24),
        push_emit _ (by decide : 2 ≤ 24)]
      have hFirst : (a.toNat / 4 * 64 + (a.toNat % 4 * 16 + b.toNat / 16)) /
          2 ^ 4 % 256 = a.toNat := by omega
      have hSecond : ((a.toNat % 4 * 16 + b.toNat / 16) * 64 +
          b.toNat % 16 * 4) / 2 ^ 2 % 256 = b.toNat := by
        omega
      rw [octet_of_letters _ (by omega) (by omega) (.inl rfl) hFirst,
        octet_of_letters _ (by omega) (by omega) (.inr (.inl rfl)) hSecond]
      simp
  | case3 a =>
      have ha := a.toNat_lt
      simp only [Base64.sextets, pushAll_cons, pushAll_nil]
      rw [push_keep, push_emit _ (by decide : 4 ≤ 24)]
      have hFirst : (a.toNat / 4 * 64 + a.toNat % 4 * 16) / 2 ^ 4 % 256 =
          a.toNat := by omega
      rw [octet_of_letters _ (by omega) (by omega) (.inl rfl) hFirst]
  | case4 => simp [Base64.sextets, pushAll]

/-! ## The range -/

def InRange (values : List Int) : Prop :=
  ∀ value ∈ values, -2 ^ 31 ≤ value ∧ value < 2 ^ 31

private theorem le_foldl (sextets : List Nat) (acc : Nat) :
    acc ≤ sextets.foldl (fun acc v => acc * 64 + v) acc := by
  induction sextets generalizing acc with
  | nil => exact le_rfl
  | cons v sextets ih =>
      rw [List.foldl_cons]
      have hStep := ih (acc * 64 + v)
      omega

private theorem buf_push (s : B64State) (v : Nat) :
    (s.push v).buf = nextBuf s.buf v := by
  rw [B64State.push]
  split
  · rfl
  · rfl

private theorem inRange_shiftedAll_iff {sextets : List Nat}
    (h : ∀ v ∈ sextets, v < 64) {s : B64State}
    (hBuf : s.buf.toNat < 2 ^ 31) :
    InRange (shiftedAll s sextets) ↔
      sextets.foldl (fun acc v => acc * 64 + v) s.buf.toNat < 2 ^ 31 := by
  induction sextets generalizing s with
  | nil => simpa [shiftedAll, InRange] using hBuf
  | cons v sextets ih =>
      have hv : v < 64 := h v (by simp)
      have hShifted : s.shifted v = ((s.buf.toNat * 64 + v : Nat) : Int) := by
        rw [B64State.shifted, BitVec.toInt_eq_toNat_of_lt (by omega)]
        omega
      rw [shiftedAll, InRange, List.forall_mem_cons, hShifted, List.foldl_cons]
      by_cases hNext : s.buf.toNat * 64 + v < 2 ^ 31
      · have hPush : (s.push v).buf.toNat = s.buf.toNat * 64 + v := by
          rw [buf_push, toNat_nextBuf _ hv]
          omega
        have hRest := ih (fun w hw => h w (by simp [hw])) (hPush ▸ hNext)
        rw [hPush] at hRest
        rw [← hRest]
        exact and_iff_right ⟨by omega, by omega⟩
      · have hLe := le_foldl sextets (s.buf.toNat * 64 + v)
        refine iff_of_false ?_ (by omega)
        intro hAll
        omega

/-! ## Encodings -/

private theorem b64Loop_of_encodes {text octets : Octets}
    (h : Base64.Encodes text octets) (s : B64State) :
    b64Loop s text = (true, pushAll s (Base64.sextets octets)) := by
  have hText := filter_of_encodes h
  rw [← b64Loop_letters (Base64.sextets_lt octets), ← hText]
  exact (b64Loop_filter (fun c hc => by simpa using hc) s text).symm

private theorem accumulated_of_encodes {text octets : Octets}
    (h : Base64.Encodes text octets) (s : B64State) :
    accumulated s text = shiftedAll s (Base64.sextets octets) := by
  have hText := filter_of_encodes h
  rw [← accumulated_letters (Base64.sextets_lt octets), ← hText]
  exact (accumulated_filter (fun c hc => by simpa using hc) s text).symm

private theorem b64Decode_of_encodes {text octets : Octets}
    (h : Base64.Encodes text octets) : b64Decode text = (true, octets) := by
  rw [b64Decode, b64Loop_of_encodes h]
  change (true, (pushAll _ _).out) = _
  rw [out_pushAll_sextets, List.nil_append]

def DecodeLaw (text octets : Octets) : Prop :=
  b64Decode text = (true, octets) ∧ InRange (accumulated {} text)

/-- The number of an encoding is that of its octets, followed by the bits that
fill up the last letter. -/
theorem decodeLaw_iff {text octets : Octets}
    (h : Base64.Encodes text octets) :
    DecodeLaw text octets ↔
      getBe octets * 2 ^ Base64.fillBits octets < 2 ^ 31 := by
  have hStart : ({} : B64State).buf.toNat < 2 ^ 31 := by decide
  have hRange := inRange_shiftedAll_iff (Base64.sextets_lt octets) hStart
  rw [DecodeLaw, accumulated_of_encodes h, hRange]
  change _ ∧ Base64.numeral (Base64.sextets octets) < 2 ^ 31 ↔ _
  rw [Base64.numeral_sextets]
  exact and_iff_right (b64Decode_of_encodes h)

theorem decodeLaw_iff_short :
    DecodeLaw [65, 81, 10, 73, 68] [1, 2, 3] :=
  (decodeLaw_iff ⟨true, by decide⟩).mpr (by decide)

/-- `gAAAAA==`, four octets of which the first has its high bit set. -/
theorem long_not_decodeLaw :
    Base64.Encodes [103, 65, 65, 65, 65, 65, 61, 61] [0x80, 0, 0, 0] ∧
      ¬ DecodeLaw [103, 65, 65, 65, 65, 65, 61, 61] [0x80, 0, 0, 0] := by
  refine ⟨⟨true, by decide⟩, fun h => absurd h.2 ?_⟩
  unfold InRange
  decide

end CppRcp.Cli
