import CppRcp.Peripherals.Bitframe
import CppRcp.Foundation.ReflectedCrc
import Mathlib.Data.FinEnum

/-!
# What a bit frame keeps

Decoding a frame returns its content, and a frame that is accepted is the
encoding of what is returned.  A frame with one wrong bit is refused by the
parity of its symbol.  Content that differs within eight consecutive bits, in
the order in which they are framed, is refused by the CRC.
-/

namespace CppRcp.Iseled

open CppRcp.Foundation

/-! ## Symbols -/

private theorem popcount4Loop_step (v c : UInt8) :
    popcount4Loop v c = popcount4Loop (v >>> 1) (c + (v &&& 0x01)) := by
  by_cases h : v = 0
  · subst h
    have hZero : ∀ c, popcount4Loop 0 c = c := fun c => by
      rw [popcount4Loop, dif_pos rfl]
    exact (hZero c).trans ((hZero (c + 0)).trans (UInt8.add_zero c)).symm
  · rw [popcount4Loop, dif_neg h]

set_option maxRecDepth 10000 in
private theorem popcount4_eq (n : UInt8) :
    popcount4 n =
      let b0 : UInt8 := n &&& 0x0F
      let b1 : UInt8 := b0 >>> 1
      let b2 : UInt8 := b1 >>> 1
      let b3 : UInt8 := b2 >>> 1
      0 + (b0 &&& 1) + (b1 &&& 1) + (b2 &&& 1) + (b3 &&& 1) := by
  have hLow : ∀ n : UInt8, (n &&& 0x0F) >>> 1 >>> 1 >>> 1 >>> 1 = 0 := by
    decide
  rw [popcount4, popcount4Loop_step, popcount4Loop_step, popcount4Loop_step,
    popcount4Loop_step, hLow, popcount4Loop, dif_pos rfl]

private theorem symbolEncode_low (nibble : UInt8) :
    ∃ n < 16, nibble &&& 0x0F = UInt8.ofNat n ∧
      symbolEncode nibble = symbolEncode (UInt8.ofNat n) := by
  have hLow : (nibble &&& 0x0F).toNat = nibble.toNat % 16 := by
    rw [UInt8.toNat_and]
    exact Nat.and_two_pow_sub_one_eq_mod nibble.toNat 4
  refine ⟨(nibble &&& 0x0F).toNat, by omega, UInt8.ofNat_toNat.symm, ?_⟩
  rw [UInt8.ofNat_toNat, symbolEncode, symbolEncode, UInt8.and_assoc,
    UInt8.and_self]

private theorem symbolDecode_symbolEncode : ∀ nibble : UInt8,
    symbolDecode (symbolEncode nibble) = some (nibble &&& 0x0F) := by
  intro nibble
  obtain ⟨n, hn, hLow, hEncode⟩ := symbolEncode_low nibble
  have hAll : ∀ n < 16,
      symbolDecode (symbolEncode (UInt8.ofNat n)) = some (UInt8.ofNat n) := by
    simp only [symbolDecode, symbolEncode, popcount4_eq]
    decide
  rw [hEncode, hLow, hAll n hn]

set_option maxRecDepth 2000 in
private theorem symbolEncode_of_symbolDecode {symbol nibble : UInt8}
    (hClear : symbol.toNat < 32) (h : symbolDecode symbol = some nibble) :
    symbolEncode nibble = symbol ∧ nibble.toNat < 16 := by
  have hAll : ∀ s < 32, ∀ nibble ∈ symbolDecode (UInt8.ofNat s),
      symbolEncode nibble = UInt8.ofNat s ∧ nibble.toNat < 16 := by
    simp only [symbolDecode, symbolEncode, popcount4_eq]
    decide
  rw [← @UInt8.ofNat_toNat symbol] at h ⊢
  exact hAll symbol.toNat hClear nibble h

private theorem symbolDecode_flipped : ∀ nibble : UInt8, ∀ bit < 5,
    symbolDecode (symbolEncode nibble ^^^ UInt8.ofNat (2 ^ bit)) = none := by
  intro nibble
  obtain ⟨n, hn, -, hEncode⟩ := symbolEncode_low nibble
  have hAll : ∀ n < 16, ∀ bit < 5,
      symbolDecode (symbolEncode (UInt8.ofNat n) ^^^ UInt8.ofNat (2 ^ bit)) =
        none := by
    simp only [symbolDecode, symbolEncode, popcount4_eq]
    decide
  rw [hEncode]
  exact hAll n hn

set_option maxRecDepth 10000 in
private theorem octet_of_nibbles : ∀ octet : UInt8,
    ((octet >>> 4 &&& 0x0F) <<< 4) ||| (octet &&& 0x0F &&& 0x0F) = octet := by
  decide

private theorem symbolsOf_nibbles {hi lo : UInt8} (hHi : hi.toNat < 16)
    (hLo : lo.toNat < 16) :
    symbolsOf ((hi <<< 4) ||| lo) = [symbolEncode hi, symbolEncode lo] := by
  have hAll : ∀ hi < 16, ∀ lo < 16,
      (UInt8.ofNat hi <<< 4 ||| UInt8.ofNat lo) >>> 4 = UInt8.ofNat hi ∧
        (UInt8.ofNat hi <<< 4 ||| UInt8.ofNat lo) &&& 0x0F =
          UInt8.ofNat lo := by
    decide
  obtain ⟨hHigh, hLow⟩ := hAll _ hHi _ hLo
  rw [UInt8.ofNat_toNat, UInt8.ofNat_toNat] at hHigh hLow
  rw [symbolsOf, hHigh, hLow]

/-! ## Pairs of symbols -/

private theorem length_flatMap_symbolsOf (content : Octets) :
    (content.flatMap symbolsOf).length = 2 * content.length := by
  induction content with
  | nil => rfl
  | cons octet content ih =>
      rw [List.flatMap_cons, List.length_append, ih, List.length_cons]
      simp only [symbolsOf, List.length_cons, List.length_nil]
      omega

private theorem decodeSymbols_flatMap (content : Octets) :
    decodeSymbols (content.flatMap symbolsOf) = .ok content := by
  induction content with
  | nil => rfl
  | cons octet content ih =>
      rw [List.flatMap_cons, symbolsOf, List.cons_append, List.cons_append,
        List.nil_append, decodeSymbols]
      simp only [symbolDecode_symbolEncode, ih, octet_of_nibbles]
      rfl

private theorem flatMap_of_decodeSymbols {symbols bytes : Octets}
    (hEven : symbols.length % 2 = 0) (hClear : ∀ s ∈ symbols, s.toNat < 32)
    (h : decodeSymbols symbols = .ok bytes) :
    bytes.flatMap symbolsOf = symbols := by
  induction symbols using decodeSymbols.induct generalizing bytes with
  | case1 high low symbols hi lo hLo hHi ih =>
      simp only [decodeSymbols, hHi, hLo] at h
      cases hRest : decodeSymbols symbols with
      | error e =>
          rw [hRest] at h
          cases h
      | ok rest =>
          rw [hRest] at h
          cases h
          have hSymbols := ih
            (by simp only [List.length_cons] at hEven; omega)
            (fun s hs => hClear s (by simp [hs])) hRest
          obtain ⟨hHigh, hHiLt⟩ :=
            symbolEncode_of_symbolDecode (hClear high (by simp)) hHi
          obtain ⟨hLow, hLoLt⟩ :=
            symbolEncode_of_symbolDecode (hClear low (by simp)) hLo
          rw [List.flatMap_cons, symbolsOf_nibbles hHiLt hLoLt, hSymbols,
            hHigh, hLow]
          rfl
  | case2 high low symbols hNone =>
      rw [decodeSymbols] at h
      split at h
      · next hi lo hHi hLo => exact absurd hLo (hNone hi lo hHi)
      · cases h
  | case3 symbols hNil =>
      cases symbols with
      | nil =>
          cases h
          rfl
      | cons high symbols =>
          cases symbols with
          | nil => simp at hEven
          | cons low symbols => exact absurd rfl (hNil high low symbols)

private theorem decodeSymbols_error {symbols : Octets} {symbol : UInt8}
    (hEven : symbols.length % 2 = 0) (hMem : symbol ∈ symbols)
    (hNone : symbolDecode symbol = none) :
    decodeSymbols symbols = .error (.iseled .badSymbol) := by
  induction symbols using decodeSymbols.induct with
  | case1 high low symbols hi lo hLo hHi ih =>
      have hRest : symbol ∈ symbols := by
        rcases List.mem_cons.mp hMem with rfl | hMem
        · rw [hNone] at hHi
          cases hHi
        · rcases List.mem_cons.mp hMem with rfl | hMem
          · rw [hNone] at hLo
            cases hLo
          · exact hMem
      simp only [decodeSymbols, hHi, hLo]
      rw [ih (by simp only [List.length_cons] at hEven; omega) hRest]
      rfl
  | case2 high low symbols hOther =>
      rw [decodeSymbols]
      split
      · next hi lo hHi hLo => exact absurd hLo (hOther hi lo hHi)
      · rfl
  | case3 symbols hNil =>
      cases symbols with
      | nil => simp at hMem
      | cons high symbols =>
          cases symbols with
          | nil => simp at hEven
          | cons low symbols => exact absurd rfl (hNil high low symbols)

/-! ## The CRC -/

/-- The strings agree bit by bit outside eight consecutive bits, counted from
the high bit of the first octet as they are framed. -/
def AgreeOutside (start : Nat) (left right : Octets) : Prop :=
  ∀ index bit, bit < 8 →
    8 * index + bit < start ∨ start + 8 ≤ 8 * index + bit →
      (left[index]?.map fun octet => flag octet (7 - bit)) =
        right[index]?.map fun octet => flag octet (7 - bit)

set_option maxRecDepth 10000 in
private theorem toBitVec_crc8Shift : ∀ crc : UInt8,
    (crc8Shift crc).toBitVec =
      ForwardCrc.shift crc8Poly.toBitVec crc.toBitVec := by
  decide

private theorem toBitVec_crc8Update (crc octet : UInt8) :
    (crc8Update crc octet).toBitVec =
      ForwardCrc.update crc8Poly.toBitVec crc.toBitVec octet.toBitVec := by
  have h : Function.Semiconj UInt8.toBitVec crc8Shift
      (ForwardCrc.shift crc8Poly.toBitVec) := toBitVec_crc8Shift
  rw [crc8Update, ForwardCrc.update, ← UInt8.toBitVec_xor]
  exact h.iterate_right 8 (crc ^^^ octet)

private theorem toBitVec_crc8_foldl (crc : UInt8) (data : Octets) :
    (data.foldl crc8Update crc).toBitVec =
      (data.map UInt8.toBitVec).foldl
        (ForwardCrc.update crc8Poly.toBitVec) crc.toBitVec := by
  induction data generalizing crc with
  | nil => rfl
  | cons octet data ih =>
      rw [List.foldl_cons, ih, toBitVec_crc8Update, List.map_cons,
        List.foldl_cons]

private theorem flag_eq_getMsbD (octet : UInt8) {bit : Nat} (hBit : bit < 8) :
    flag octet (7 - bit) = octet.toBitVec.getMsbD bit := by
  rw [BitVec.getMsbD_eq_getLsbD]
  simp only [hBit, decide_true, Bool.true_and]
  rfl

private theorem crc8_inj_of_burst {left right : Octets} {start : Nat}
    (hLength : left.length = right.length)
    (hAgree : AgreeOutside start left right) (h : crc8 left = crc8 right) :
    left = right := by
  have hInjective : Function.Injective UInt8.toBitVec :=
    fun _ _ hBits => UInt8.eq_of_toBitVec_eq hBits
  have hWords : ∀ index bit, bit < 8 →
      8 * index + bit < start ∨ start + 8 ≤ 8 * index + bit →
        ((left.map UInt8.toBitVec)[index]?.map fun word =>
            word.getMsbD bit) =
          (right.map UInt8.toBitVec)[index]?.map fun word =>
            word.getMsbD bit := by
    intro index bit hBit hOut
    have hFlags := hAgree index bit hBit hOut
    simp only [flag_eq_getMsbD _ hBit] at hFlags
    simpa [Function.comp_def] using hFlags
  apply hInjective.list_map
  have hRegisters : (crc8 left).toBitVec = (crc8 right).toBitVec :=
    congrArg UInt8.toBitVec h
  rw [crc8, crc8, toBitVec_crc8_foldl, toBitVec_crc8_foldl] at hRegisters
  exact ForwardCrc.foldl_inj_of_burst crc8Poly.toBitVec (by decide)
    (by simp [hLength]) hWords hRegisters

/-! ## Frames -/

def contentOf (data : Octets) (appendCrc : Bool) : Octets :=
  if appendCrc then data ++ [crc8 data] else data

private theorem encodeBitframe_eq (data : Octets) (appendCrc : Bool) :
    encodeBitframe data appendCrc =
      (contentOf data appendCrc).flatMap symbolsOf := rfl

@[simp] theorem length_encodeBitframe (data : Octets) (appendCrc : Bool) :
    (encodeBitframe data appendCrc).length =
      bitframeEncodedLen data.length appendCrc := by
  rw [encodeBitframe_eq, length_flatMap_symbolsOf, bitframeEncodedLen]
  cases appendCrc with
  | false => simp [contentOf, Nat.mul_comm]
  | true => simp [contentOf, Nat.mul_comm]

private theorem decodeBitframe_framed (data : Octets) (crc : UInt8) :
    decodeBitframe ((data ++ [crc]).flatMap symbolsOf) true =
      if crc = crc8 data then .ok data
      else .error (.iseled .crcMismatch) := by
  have hCount : 2 * (data ++ [crc]).length / 2 = data.length + 1 := by simp
  rw [decodeBitframe, decodeSymbols_flatMap, length_flatMap_symbolsOf, hCount]
  by_cases h : crc = crc8 data
  · simp [h, bind, Except.bind]
  · simp [h, bind, Except.bind]

private theorem decodeBitframe_encodeBitframe (data : Octets) (crc : Bool) :
    decodeBitframe (encodeBitframe data crc) crc = .ok data := by
  cases crc with
  | false =>
      rw [encodeBitframe_eq, contentOf, if_neg (by simp), decodeBitframe,
        decodeSymbols_flatMap, length_flatMap_symbolsOf]
      simp [bind, Except.bind]
  | true =>
      rw [encodeBitframe_eq, contentOf, if_pos rfl, decodeBitframe_framed,
        if_pos rfl]

private theorem decodeSymbols_of_decodeBitframe {symbols data : Octets}
    {crc : Bool} (h : decodeBitframe symbols crc = .ok data) :
    symbols.length % 2 = 0 ∧ ∃ bytes, decodeSymbols symbols = .ok bytes := by
  rw [decodeBitframe] at h
  by_cases hOdd : symbols.length % 2 ≠ 0
  · rw [if_pos hOdd] at h
    cases h
  · rw [if_neg hOdd] at h
    refine ⟨Decidable.not_not.mp hOdd, ?_⟩
    by_cases hShort : crc = true ∧ symbols.length / 2 = 0
    · rw [if_pos hShort] at h
      cases h
    · rw [if_neg hShort] at h
      cases hBytes : decodeSymbols symbols with
      | error e =>
          rw [hBytes] at h
          cases h
      | ok bytes => exact ⟨bytes, rfl⟩

private theorem encodeBitframe_of_decodeBitframe {symbols data : Octets}
    {crc : Bool} (hClear : ∀ s ∈ symbols, s.toNat < 32)
    (h : decodeBitframe symbols crc = .ok data) :
    encodeBitframe data crc = symbols := by
  obtain ⟨hEven, bytes, hBytes⟩ := decodeSymbols_of_decodeBitframe h
  obtain rfl := flatMap_of_decodeSymbols hEven hClear hBytes
  rw [encodeBitframe_eq]
  congr 1
  cases crc with
  | false =>
      have hPlain := decodeBitframe_encodeBitframe bytes false
      rw [encodeBitframe_eq, contentOf, if_neg (by simp), h] at hPlain
      cases hPlain
      rfl
  | true =>
      rcases bytes.eq_nil_or_concat with rfl | ⟨content, crc, rfl⟩
      · cases h
      · rw [List.concat_eq_append, decodeBitframe_framed] at h
        split at h
        · next hCrc =>
            cases h
            rw [contentOf, if_pos rfl, List.concat_eq_append, hCrc]
        · cases h

private theorem decodeBitframe_flipped (data : Octets) (crc : Bool)
    {i bit : Nat}
    (hSymbol : i < (encodeBitframe data crc).length) (hBit : bit < 5) :
    decodeBitframe ((encodeBitframe data crc).modify i
        (· ^^^ UInt8.ofNat (2 ^ bit))) crc =
      .error (.iseled .badSymbol) := by
  have hLength := length_encodeBitframe data crc
  rw [bitframeEncodedLen] at hLength
  obtain ⟨octet, -, hOctet⟩ :=
    List.mem_flatMap.mp (List.getElem_mem hSymbol)
  have hEncoded : ∃ nibble,
      (encodeBitframe data crc)[i] = symbolEncode nibble := by
    simp only [symbolsOf, List.mem_cons, List.not_mem_nil, or_false] at hOctet
    rcases hOctet with hHigh | hLow
    · exact ⟨_, hHigh⟩
    · exact ⟨_, hLow⟩
  obtain ⟨nibble, hNibble⟩ := hEncoded
  have hMem : symbolEncode nibble ^^^ UInt8.ofNat (2 ^ bit) ∈
      (encodeBitframe data crc).modify i (· ^^^ UInt8.ofNat (2 ^ bit)) := by
    rw [List.mem_iff_getElem?]
    refine ⟨i, ?_⟩
    rw [List.getElem?_modify_eq, List.getElem?_eq_getElem hSymbol, hNibble]
    rfl
  have hError := decodeSymbols_error
    (by rw [List.length_modify]; omega) hMem
    (symbolDecode_flipped nibble bit hBit)
  rw [decodeBitframe, List.length_modify, hError, if_neg (by omega),
    if_neg (by omega)]
  rfl

private theorem decodeBitframe_burst {left right : Octets} {start : Nat}
    (hLength : left.length = right.length) (hDistinct : left ≠ right)
    (hAgree : AgreeOutside start left right) :
    decodeBitframe (encodeBitframe right false ++
        encodeBitframe [crc8 left] false) true =
      .error (.iseled .crcMismatch) := by
  have hContent : encodeBitframe right false ++
      encodeBitframe [crc8 left] false =
        (right ++ [crc8 left]).flatMap symbolsOf := by
    rw [List.flatMap_append]
    rfl
  rw [hContent, decodeBitframe_framed, if_neg]
  exact fun h => hDistinct (crc8_inj_of_burst hLength hAgree h)

/-- A frame decodes to its content, no other symbols decode to it, and no
wrong bit and no burst goes unseen. -/
theorem bitframe_faithful :
    (∀ data crc, decodeBitframe (encodeBitframe data crc) crc = .ok data) ∧
    (∀ symbols data crc, (∀ s ∈ symbols, s.toNat < 32) →
      decodeBitframe symbols crc = .ok data →
        encodeBitframe data crc = symbols) ∧
    (∀ data crc i bit, i < (encodeBitframe data crc).length → bit < 5 →
      decodeBitframe ((encodeBitframe data crc).modify i
          (· ^^^ UInt8.ofNat (2 ^ bit))) crc =
        .error (.iseled .badSymbol)) ∧
    (∀ left right start, left.length = right.length → left ≠ right →
      AgreeOutside start left right →
        decodeBitframe (encodeBitframe right false ++
            encodeBitframe [crc8 left] false) true =
          .error (.iseled .crcMismatch)) :=
  ⟨decodeBitframe_encodeBitframe,
    fun _ _ _ hClear h => encodeBitframe_of_decodeBitframe hClear h,
    fun _ _ _ _ hSymbol hBit => decodeBitframe_flipped _ _ hSymbol hBit,
    fun _ _ _ hLength hDistinct hAgree =>
      decodeBitframe_burst hLength hDistinct hAgree⟩

theorem bitframe_faithful_applied :
    encodeBitframe [] true = [0, 0] ∧
      decodeBitframe ((encodeBitframe [0x12] false).modify 1
          (· ^^^ UInt8.ofNat (2 ^ 4))) false = .error (.iseled .badSymbol) ∧
      decodeBitframe (encodeBitframe [0x10] false ++
          encodeBitframe [crc8 [0x12]] false) true =
        .error (.iseled .crcMismatch) := by
  have hZero : symbolDecode 0 = some 0 := by
    rw [symbolDecode, popcount4_eq]
    decide
  refine ⟨?_, ?_, ?_⟩
  · exact bitframe_faithful.2.1 [0, 0] [] true (by simp)
      (by simp only [decodeBitframe, decodeSymbols, hZero]; decide)
  · exact bitframe_faithful.2.2.1 [0x12] false 1 4
      (by simp [bitframeEncodedLen]) (by decide)
  · refine bitframe_faithful.2.2.2 [0x12] [0x10] 0 rfl (by decide) ?_
    intro index bit hBit hOut
    cases index with
    | zero => omega
    | succ index => rfl

end CppRcp.Iseled
