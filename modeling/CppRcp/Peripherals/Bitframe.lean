import CppRcp.Foundation.Octets
import CppRcp.Wire.ErrorCode

/-!
# Bit framing of the ISELED pins

An octet is framed as two symbols of five bits, each a nibble under its own
even-parity bit.  A CRC-8 of the content can be framed behind it.
-/

namespace CppRcp.Iseled

open CppRcp.Foundation

/-! ## Symbols -/

private theorem toNat_shiftRight_one_lt {v : UInt8} (h : v ≠ 0) :
    (v >>> 1).toNat < v.toNat := by
  have hPos : v.toNat ≠ 0 := fun hZero => h (UInt8.toNat_inj.mp hZero)
  have hHalf : (v >>> 1).toNat = v.toNat / 2 := by
    rw [UInt8.toNat_shiftRight]
    exact Nat.shiftRight_eq_div_pow _ 1
  omega

def popcount4Loop (v c : UInt8) : UInt8 :=
  if h : v = 0 then c
  else popcount4Loop (v >>> 1) (c + (v &&& 0x01))
termination_by v.toNat
decreasing_by exact toNat_shiftRight_one_lt h

def popcount4 (n : UInt8) : UInt8 := popcount4Loop (n &&& 0x0F) 0

def symbolEncode (nibble : UInt8) : UInt8 :=
  let n := nibble &&& 0x0F
  let parity := popcount4 n &&& 0x01
  (parity <<< 4) ||| n

def symbolDecode (symbol : UInt8) : Option UInt8 :=
  let s := symbol &&& 0x1F
  let n := s &&& 0x0F
  let parityBit := (s >>> 4) &&& 0x01
  let wantParity := popcount4 n &&& 0x01
  if parityBit ≠ wantParity then none else some n

/-! ## The native CRC -/

def crc8Poly : UInt8 := 0x07

def crc8Shift (crc : UInt8) : UInt8 :=
  if crc &&& 0x80 ≠ 0 then (crc <<< 1) ^^^ crc8Poly else crc <<< 1

def crc8Update (crc octet : UInt8) : UInt8 :=
  crc8Shift^[8] (crc ^^^ octet)

def crc8 (data : Octets) : UInt8 := data.foldl crc8Update 0x00

/-! ## Frames -/

def bitframeEncodedLen (dataLen : Nat) (appendCrc : Bool) : Nat :=
  (dataLen + if appendCrc then 1 else 0) * 2

def symbolsOf (octet : UInt8) : Octets :=
  [symbolEncode (octet >>> 4), symbolEncode (octet &&& 0x0F)]

def encodeBitframe (data : Octets) (appendCrc : Bool) : Octets :=
  let content := if appendCrc then data ++ [crc8 data] else data
  content.flatMap symbolsOf

def decodeSymbols : Octets → Except ErrorCode Octets
  | high :: low :: symbols =>
      match symbolDecode high, symbolDecode low with
      | some hi, some lo => do
          let bytes ← decodeSymbols symbols
          return ((hi <<< 4) ||| lo) :: bytes
      | _, _ => .error (.iseled .badSymbol)
  | _ => .ok []

def decodeBitframe (symbols : Octets) (expectCrc : Bool) :
    Except ErrorCode Octets :=
  let byteCount := symbols.length / 2
  if symbols.length % 2 ≠ 0 then .error (.iseled .oddSymbolCount)
  else if expectCrc ∧ byteCount = 0 then .error (.iseled .shortFrame)
  else do
    let bytes ← decodeSymbols symbols
    if expectCrc then
      let content := bytes.take (byteCount - 1)
      if bytes[byteCount - 1]? ≠ some (crc8 content) then
        .error (.iseled .crcMismatch)
      else .ok content
    else .ok bytes

end CppRcp.Iseled
