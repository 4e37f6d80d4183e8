import CppRcp.Foundation.Octets

/-!
# Base64

Three octets are written as four letters of six bits each.  A last group of
one or two octets takes two or three letters, the rest of whose bits are
zero, and can be filled up with padding.
-/

namespace CppRcp.Foundation.Base64

open CppRcp.Foundation

def letter (sextet : Nat) : UInt8 :=
  if sextet < 26 then UInt8.ofNat (65 + sextet)
  else if sextet < 52 then UInt8.ofNat (97 + (sextet - 26))
  else if sextet < 62 then UInt8.ofNat (48 + (sextet - 52))
  else if sextet = 62 then 43
  else 47

def pad : UInt8 := 61

def isSpace (c : UInt8) : Bool :=
  c == 32 || c == 9 || c == 10 || c == 13

def sextets : Octets → List Nat
  | a :: b :: c :: octets =>
      a.toNat / 4 :: (a.toNat % 4 * 16 + b.toNat / 16) ::
        (b.toNat % 16 * 4 + c.toNat / 64) :: c.toNat % 64 :: sextets octets
  | [a, b] =>
      [a.toNat / 4, a.toNat % 4 * 16 + b.toNat / 16, b.toNat % 16 * 4]
  | [a] => [a.toNat / 4, a.toNat % 4 * 16]
  | [] => []

def padCount (octets : Octets) : Nat := (3 - octets.length % 3) % 3

def encode (octets : Octets) (padded : Bool) : Octets :=
  (sextets octets).map letter ++
    if padded then List.replicate (padCount octets) pad else []

/-- The text is an encoding with white space in any places. -/
def Encodes (text octets : Octets) : Prop :=
  ∃ padded, text.filter (fun c => !isSpace c) = encode octets padded

def isLetter (c : UInt8) : Bool :=
  65 ≤ c && c ≤ 90 || 97 ≤ c && c ≤ 122 || 48 ≤ c && c ≤ 57 || c == 43 ||
    c == 47

/-- The letters are those of whole octets, and the padding is left out or
fills up their last group. -/
def isValid (text : Octets) : Bool :=
  let chars := text.filter fun c => !isSpace c
  let letters := chars.takeWhile isLetter
  let pads := chars.dropWhile isLetter
  letters.length % 4 != 1 && pads.all (· == pad) &&
    (pads.isEmpty || pads.length == (4 - letters.length % 4) % 4)

theorem sextets_lt (octets : Octets) : ∀ v ∈ sextets octets, v < 64 := by
  induction octets using sextets.induct with
  | case1 a b c octets ih =>
      intro v hv
      have ha := a.toNat_lt
      have hb := b.toNat_lt
      have hc := c.toNat_lt
      simp only [sextets, List.mem_cons] at hv
      rcases hv with rfl | rfl | rfl | rfl | hv
      · omega
      · omega
      · omega
      · omega
      · exact ih v hv
  | case2 a b =>
      intro v hv
      have ha := a.toNat_lt
      have hb := b.toNat_lt
      simp only [sextets, List.mem_cons, List.not_mem_nil, or_false] at hv
      omega
  | case3 a =>
      intro v hv
      have ha := a.toNat_lt
      simp only [sextets, List.mem_cons, List.not_mem_nil, or_false] at hv
      omega
  | case4 => simp [sextets]

/-! ## Valid texts -/

/-! ## The number that is written -/

/-- The bits of the last letter that carry nothing. -/
def fillBits (octets : Octets) : Nat := 2 * padCount octets

def numeral (sextets : List Nat) : Nat :=
  sextets.foldl (fun acc v => acc * 64 + v) 0

private theorem foldl_sextets (octets : Octets) (acc : Nat) :
    (sextets octets).foldl (fun acc v => acc * 64 + v) acc =
      (acc * 256 ^ octets.length + getBe octets) * 2 ^ fillBits octets := by
  induction octets using sextets.induct generalizing acc with
  | case1 a b c octets ih =>
      have hFill : fillBits (a :: b :: c :: octets) = fillBits octets := by
        simp only [fillBits, padCount, List.length_cons]
        congr 3
        omega
      have hGroup : ((acc * 64 + a.toNat / 4) * 64 +
          (a.toNat % 4 * 16 + b.toNat / 16)) * 64 +
            (b.toNat % 16 * 4 + c.toNat / 64) =
          acc * 262144 + a.toNat * 1024 + b.toNat * 4 + c.toNat / 64 := by
        omega
      have hThree : (acc * 262144 + a.toNat * 1024 + b.toNat * 4 +
          c.toNat / 64) * 64 + c.toNat % 64 =
            acc * 256 ^ 3 + a.toNat * 256 ^ 2 + b.toNat * 256 + c.toNat := by
        omega
      simp only [sextets, List.foldl_cons]
      rw [hGroup, hThree, ih, hFill, getBe_cons, getBe_cons, getBe_cons]
      simp only [List.length_cons]
      ring
  | case2 a b =>
      have hFill : fillBits [a, b] = 2 := rfl
      simp only [sextets, List.foldl_cons, List.foldl_nil]
      rw [hFill, getBe_cons, getBe_cons, getBe_nil]
      simp only [List.length_cons, List.length_nil]
      omega
  | case3 a =>
      have hFill : fillBits [a] = 4 := rfl
      simp only [sextets, List.foldl_cons, List.foldl_nil]
      rw [hFill, getBe_cons, getBe_nil]
      simp only [List.length_cons, List.length_nil]
      omega
  | case4 => simp [sextets, fillBits, padCount]

theorem numeral_sextets (octets : Octets) :
    numeral (sextets octets) = getBe octets * 2 ^ fillBits octets := by
  rw [numeral, foldl_sextets, Nat.zero_mul, Nat.zero_add]

end CppRcp.Foundation.Base64
