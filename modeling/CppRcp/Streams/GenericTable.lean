import CppRcp.Foundation.Octets
import CppRcp.Foundation.Patch
import CppRcp.Streams.Config

/-!
# The generic endpoint table

`regmap::ep_generic_cfg`: the generic endpoint settings as a block of 12-octet
rows.  A write does not read the block back: it stores the fields that it
covers, one by one.  Reading octets or rows that are not there is `none`.
-/

namespace CppRcp.Regmap

open CppRcp.Foundation

namespace EpGenericCfg

def rowLen : Nat := 12

inductive ReconfigErrc
  | shortWrite | outOfRange
  deriving DecidableEq, Repr

def usByReg : List UInt32 := [1, 10, 20, 50]

def epDelayTimeRegToUs (reg : UInt8) : UInt32 :=
  usByReg.getD (reg &&& 0x3).toNat 0

def epReqStorageSizeWordsToOctets (words : UInt16) : UInt32 :=
  words.toUInt32 * 4

/-- A writable field of a row: where it is, and what its octets change in the
row of the given number. -/
structure RowField where
  offset : Nat
  width : Nat
  store : Nat → Octets → EndpointGenericConfig → EndpointGenericConfig

/-- `ep_used`, which endpoint 0 keeps set, and `ep_delay_time`. -/
def octet1 : RowField where
  offset := 1
  width := 1
  store rowIndex octets row :=
    let octet := UInt8.ofNat (getBe octets)
    { row with
      epUsed := if rowIndex = 0 then true else flag octet 0
      epDelayTime := epDelayTimeRegToUs (octet >>> 4 &&& 0x3) }

def reqStorageSize : RowField where
  offset := 2
  width := 2
  store _ octets row :=
    { row with
      epReqStorageSize :=
        epReqStorageSizeWordsToOctets (UInt16.ofNat (getBe octets)) }

def description : RowField where
  offset := 4
  width := 4
  store _ octets row :=
    { row with epDescription := UInt32.ofNat (getBe octets) }

def txBufferSize : RowField where
  offset := 8
  width := 2
  store _ octets row :=
    { row with epTxBufferSize := UInt16.ofNat (getBe octets) }

def rxBufferSize : RowField where
  offset := 10
  width := 2
  store _ octets row :=
    { row with epRxBufferSize := UInt16.ofNat (getBe octets) }

def fields : List RowField :=
  [octet1, reqStorageSize, description, txBufferSize, rxBufferSize]

def read (data : Octets) (start width : Nat) : Option Octets :=
  if start + width ≤ data.length then some (slice data start width) else none

/-- One field of row `rowIndex`, if the write covers it. -/
def applyField (start : Nat) (data : Octets) (rowIndex : Nat)
    (table : List EndpointGenericConfig) (field : RowField) :
    Option (List EndpointGenericConfig) := do
  let place := rowIndex * rowLen + field.offset
  if start ≤ place ∧ place + field.width ≤ start + data.length then
    let octets ← read data (place - start) field.width
    let row ← table[rowIndex]?
    return table.set rowIndex (field.store rowIndex octets row)
  else return table

def applyRow (start : Nat) (data : Octets)
    (table : List EndpointGenericConfig) (rowIndex : Nat) :
    Option (List EndpointGenericConfig) :=
  fields.foldlM (applyField start data rowIndex) table

def touchedRows (start length : Nat) : List Nat :=
  List.range' (start / rowLen)
    ((start + length - 1) / rowLen + 1 - start / rowLen)

/-- `apply_reconfig`; the table after the write, and the error if it is
rejected. -/
def applyReconfig (table : List EndpointGenericConfig) (start : UInt16)
    (data : Octets) :
    Option (List EndpointGenericConfig × Option ReconfigErrc) := do
  if data.length = 0 then return (table, some .shortWrite)
  if table.length * rowLen < start.toNat + data.length then
    return (table, some .outOfRange)
  let after ← (touchedRows start.toNat data.length).foldlM
    (applyRow start.toNat data) table
  return (after, none)

end EpGenericCfg

end CppRcp.Regmap
