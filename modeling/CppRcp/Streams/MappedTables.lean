import CppRcp.Foundation.RowBlock
import CppRcp.Streams.StreamTable

/-!
# The pin map, the endpoint map and the response queue table

`regmap::hw_pin_map`, `regmap::ep_id_map` and `regmap::response_queue_cfg`:
three more tables that a write renders as a block and reads back whole.  The
last two hold fields that are wider in memory than in the block.
-/

namespace CppRcp.Regmap

open CppRcp.Foundation
open RequestStreamCfg (field saturate)

/-- `apply_reconfig` of a table of rows of one length; the table after the
write, and the error if it is rejected. -/
def applyRowReconfig {ρ ε : Type} (codec : RowCodec UInt8 ρ)
    (shortWrite outOfRange : ε) (table : List ρ) (start : UInt16)
    (data : Octets) : List ρ × Option ε :=
  if data.length = 0 then (table, some shortWrite)
  else if tableMaxEntries < table.length then (table, some outOfRange)
  else if table.length * codec.rowLen < start.toNat + data.length then
    (table, some outOfRange)
  else (codec.write table start.toNat data, none)

structure HwPinMapEntry where
  hwEpNr : UInt8 := 0
  hwEpPinNr : UInt8 := 0
  hwPinType : UInt8 := 0
  deriving DecidableEq, Repr

namespace HwPinMap

inductive ReconfigErrc
  | shortWrite | outOfRange
  deriving DecidableEq, Repr

def rowLen : Nat := 3

def renderRow (row : HwPinMapEntry) : Octets :=
  [row.hwEpNr, row.hwEpPinNr, row.hwPinType]

def parseRow (octets : Octets) : HwPinMapEntry where
  hwEpNr := UInt8.ofNat (field octets 0 1)
  hwEpPinNr := UInt8.ofNat (field octets 1 1)
  hwPinType := UInt8.ofNat (field octets 2 1)

def codec : RowCodec UInt8 HwPinMapEntry where
  rowLen := rowLen
  render := renderRow
  parse := parseRow
  length_render row := by simp [renderRow, rowLen]

def render (table : List HwPinMapEntry) : Octets := codec.block table

def applyReconfig (table : List HwPinMapEntry) (start : UInt16)
    (data : Octets) : List HwPinMapEntry × Option ReconfigErrc :=
  applyRowReconfig codec .shortWrite .outOfRange table start data

end HwPinMap

namespace EpIdMap

inductive ReconfigErrc
  | shortWrite | outOfRange
  deriving DecidableEq, Repr

def rowLen : Nat := 4

/-- Keeps the low octet of `epId` and the low 11 bits of `byteBusId`; the
channel selection in the low four bits of the last word is always 0. -/
def renderRow (row : EpIdMappingEntry) : Octets :=
  [row.requestStreamIndex, UInt8.ofNat row.epId.toNat] ++
    putBe 2 ((row.byteBusId.toNat &&& 0x7FF) <<< 5 |||
      weight row.crcRequired 0x10)

def parseRow (octets : Octets) : EpIdMappingEntry :=
  let bbidCtrl := field octets 2 2
  { requestStreamIndex := UInt8.ofNat (field octets 0 1)
    epId := UInt16.ofNat (field octets 1 1)
    byteBusId := UInt16.ofNat (bbidCtrl >>> 5 &&& 0x7FF)
    crcRequired := bbidCtrl.testBit 4 }

def codec : RowCodec UInt8 EpIdMappingEntry where
  rowLen := rowLen
  render := renderRow
  parse := parseRow
  length_render row := by simp [renderRow, rowLen]

def render (table : List EpIdMappingEntry) : Octets := codec.block table

def applyReconfig (table : List EpIdMappingEntry) (start : UInt16)
    (data : Octets) : List EpIdMappingEntry × Option ReconfigErrc :=
  applyRowReconfig codec .shortWrite .outOfRange table start data

end EpIdMap

namespace ResponseQueueCfg

inductive ReconfigErrc
  | shortWrite | outOfRange
  deriving DecidableEq, Repr

def rowLen : Nat := 10

def renderRow (row : ResponseQueueConfig) : Octets :=
  putBe 2 row.streamUid.toNat ++ putBe 2 row.maxAvtpduSize.toNat ++
    putBe 2 row.queueSize.toNat ++ putBe 2 row.flushOnCount.toNat ++
    putBe 2 (saturate 0xFFFF row.flushTimeUs.toNat)

def parseRow (octets : Octets) : ResponseQueueConfig where
  streamUid := UInt16.ofNat (field octets 0 2)
  maxAvtpduSize := UInt16.ofNat (field octets 2 2)
  queueSize := UInt16.ofNat (field octets 4 2)
  flushOnCount := UInt16.ofNat (field octets 6 2)
  flushTimeUs := UInt32.ofNat (field octets 8 2)

def codec : RowCodec UInt8 ResponseQueueConfig where
  rowLen := rowLen
  render := renderRow
  parse := parseRow
  length_render row := by simp [renderRow, rowLen]

def render (table : List ResponseQueueConfig) : Octets := codec.block table

def applyReconfig (table : List ResponseQueueConfig) (start : UInt16)
    (data : Octets) : List ResponseQueueConfig × Option ReconfigErrc :=
  applyRowReconfig codec .shortWrite .outOfRange table start data

end ResponseQueueCfg

end CppRcp.Regmap
