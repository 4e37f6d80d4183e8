import CppRcp.Foundation.Octets
import CppRcp.Foundation.Patch
import CppRcp.Streams.Config

/-!
# The request-stream register table

`regmap::request_stream_cfg`: the configured request streams as a block of
24-octet rows.  A write renders all rows, replaces the octets written and reads
all rows back.  The rendering keeps less than a row holds: it saturates two
fields, rounds the watchdog interval down to whole ticks, and joins the two
settings of the sequence check, and those of the watchdog, in one bit each.
-/

namespace CppRcp.Regmap

open CppRcp.Foundation

namespace RequestStreamCfg

def rowLen : Nat := 24

inductive ReconfigErrc
  | shortWrite | outOfRange
  deriving DecidableEq, Repr

/-! ## Watchdog ticks -/

/-- Rounds down; `none` if there is no tick length, or the count does not fit
its 16 bits. -/
def wdTimeoutMsToTicks (timeoutMs msPerTick : UInt32) : Option UInt16 :=
  if msPerTick = 0 then none
  else if 0xFFFF < (timeoutMs / msPerTick).toNat then none
  else some (UInt16.ofNat (timeoutMs / msPerTick).toNat)

def wdTimeoutTicksToMs (ticks : UInt16) (msPerTick : UInt32) :
    Option UInt32 :=
  if msPerTick = 0 then none
  else if 0xFFFFFFFF < ticks.toNat * msPerTick.toNat then none
  else some (UInt32.ofNat (ticks.toNat * msPerTick.toNat))

/-! ## Rows -/

def saturate (limit value : Nat) : Nat := if limit < value then limit else value

/-- Octet `0x000D`.  The bit of a pair is set only when both settings are. -/
def flagsOctet (row : RequestStreamConfig) (blocked : Bool) : UInt8 :=
  UInt8.ofNat
    (weight row.rxEnforceE2e 0x01 +
      weight (row.rxEnforceSeq && row.rxSeqSafestateEnable) 0x02 +
      weight (row.rxWdEnable && row.rxWdSafestateEnable) 0x04 +
      weight row.rxOvrflwSafestateEnable 0x08 +
      weight blocked 0x80)

def renderRow (msPerTick : UInt32) (blocked : Bool)
    (row : RequestStreamConfig) : Octets :=
  putBe 8 row.streamId.toNat ++
    putBe 2 (saturate 0xFFFF row.rxStreamMaxRequestSize) ++
    putBe 2
      ((wdTimeoutMsToTicks row.rxWdTimeoutInterval msPerTick).getD 0).toNat ++
    [row.rxSecureChannelIndex, flagsOctet row blocked,
      UInt8.ofNat (saturate 0xFF row.rxSafestateSequencer.toNat),
      row.rxSafeSequencerState, row.rxAckStreamIndex, row.rxRespStreamIndex] ++
    List.replicate 6 0

/-- `render`; the blocked streams are absent where the source passes a null
pointer. -/
def render (table : List RequestStreamConfig) (msPerTick : UInt32)
    (blocked : Option (List Bool)) : Octets :=
  (table.mapIdx fun i row =>
    renderRow msPerTick (blocked.any fun streams => streams.getD i false)
      row).flatten

def field (octets : Octets) (offset width : Nat) : Nat :=
  getBe (slice octets offset width)

/-- Bit 7 of octet `0x000D`, and the fields without a register position, are
not read back. -/
def parseRow (msPerTick : UInt32) (octets : Octets)
    (row : RequestStreamConfig) : RequestStreamConfig :=
  let bits := UInt8.ofNat (field octets 0x0D 1)
  { row with
    streamId := UInt64.ofNat (field octets 0x00 8)
    rxStreamMaxRequestSize := field octets 0x08 2
    rxWdTimeoutInterval :=
      (wdTimeoutTicksToMs (UInt16.ofNat (field octets 0x0A 2))
        msPerTick).getD row.rxWdTimeoutInterval
    rxSecureChannelIndex := UInt8.ofNat (field octets 0x0C 1)
    rxEnforceE2e := flag bits 0
    rxEnforceSeq := flag bits 1
    rxSeqSafestateEnable := flag bits 1
    rxWdEnable := flag bits 2
    rxWdSafestateEnable := flag bits 2
    rxOvrflwSafestateEnable := flag bits 3
    rxSafestateSequencer := UInt16.ofNat (field octets 0x0E 1)
    rxSafeSequencerState := UInt8.ofNat (field octets 0x0F 1)
    rxAckStreamIndex := UInt8.ofNat (field octets 0x10 1)
    rxRespStreamIndex := UInt8.ofNat (field octets 0x11 1) }

/-! ## Writes -/

/-- `apply_reconfig`; the table after the write, and the error if it is
rejected. -/
def applyReconfig (table : List RequestStreamConfig) (start : UInt16)
    (data : Octets) (msPerTick : UInt32) :
    List RequestStreamConfig × Option ReconfigErrc :=
  if data.length = 0 then (table, some .shortWrite)
  else if tableMaxEntries < table.length then (table, some .outOfRange)
  else if table.length * rowLen < start.toNat + data.length then
    (table, some .outOfRange)
  else
    let block := patch (render table msPerTick none) start.toNat data
    (table.mapIdx fun i row =>
        parseRow msPerTick (slice block (i * rowLen) rowLen) row,
      none)

end RequestStreamCfg

end CppRcp.Regmap
