import CppRcp.Admission.Endpoint
import CppRcp.Peripherals.Endpoints
import CppRcp.Streams.Guards
import CppRcp.Wire.Fragment
import CppRcp.Wire.RespQueue

/-!
# The state of the mock server

`mock.hpp`'s `Server`: the lifecycle state and the registers, one peripheral
and one admission half for each of the ten hosted buses, and the per-stream
trackers, reassemblers and response queues.
-/

namespace CppRcp.Mock

open CppRcp.Foundation CppRcp.Acf CppRcp.E2e CppRcp.Regmap CppRcp.Server

/-! ## Hosted buses -/

inductive Bus
  | gpio | spi | i2c | adc | pwmIn | lin | can | uart | iseled | mdio
  deriving DecidableEq, Repr

def Bus.index : Bus → Nat
  | .gpio => 0
  | .spi => 1
  | .i2c => 2
  | .adc => 3
  | .pwmIn => 4
  | .lin => 5
  | .can => 6
  | .uart => 7
  | .iseled => 8
  | .mdio => 9

def busCount : Nat := 10

private theorem Bus.index_lt (bus : Bus) : bus.index < busCount := by
  cases bus <;> decide

private theorem Bus.index_injective {a b : Bus} (h : a.index = b.index) : a =
    b := by
  cases a <;> cases b <;> first | rfl | exact absurd h (by decide)

/-- The bus a `byte_bus_id` names; endpoint ids and bus ids agree. -/
def Bus.ofId (byteBusId : UInt16) : Option Bus :=
  match byteBusId.toNat with
  | 1 => some .gpio
  | 2 => some .spi
  | 3 => some .i2c
  | 4 => some .adc
  | 5 => some .pwmIn
  | 6 => some .lin
  | 7 => some .can
  | 8 => some .uart
  | 9 => some .iseled
  | 10 => some .mdio
  | _ => none

def allBuses : List Bus :=
  [.gpio, .spi, .i2c, .adc, .pwmIn, .lin, .can, .uart, .iseled, .mdio]

/-! ## Peripherals -/

/-- The ten peripherals with the scripted answers of the devices behind
them. -/
structure Peripherals where
  gpio : Gpio.GpioEndpoint := {}
  spi : Spi.SpiEndpoint := {}
  i2c : I2c.I2cEndpoint := {}
  adc : Adc.AdcEndpoint := {}
  adcCfg : Adc.AdcFunctionalConfig := {}
  pwmIn : Pwm.PwmInEndpoint := {}
  lin : Lin.LinEndpoint := {}
  can : Can.CanEndpoint := {}
  uart : Uart.UartEndpoint := {}
  iseled : Iseled.IseledEndpoint := {}
  mdio : Mdio.MdioEndpoint := {}
  spiPoci : List Octets := List.replicate Spi.maxChannels []
  i2cResponse : Octets := []
  i2cAcked : Bool := true
  adcSamples : List UInt16 := []
  linResponse : Octets := []
  linResponded : Bool := true
  iseledResponse : Octets := []
  deriving DecidableEq, Repr

/-! ## The server -/

inductive ServerState
  | hwUnconfigured | hwConfigured | rcpConfigured
  deriving DecidableEq, Repr

def makeInitialRegisterMap : RegisterMap :=
  { genericConfigs := List.replicate busCount {}
    epIdMapping := allBuses.map fun bus =>
      { epId := UInt16.ofNat (bus.index + 1)
        byteBusId := UInt16.ofNat (bus.index + 1)
        requestStreamIndex := 1 }
    svrEpBytebusIdMapCapacity := 10 }

instance : Inhabited Fragment.Reassembler := ⟨{}⟩

instance : Inhabited Respqueue.RespQueue := ⟨.empty⟩

instance : Inhabited Endpoint := ⟨{}⟩

structure Server where
  lifecycle : ServerState := .hwUnconfigured
  regs : RegisterMap := makeInitialRegisterMap
  peripherals : Peripherals := {}
  admissions : Table Endpoint busCount := .replicate busCount {}
  gptpTriggerState : GptpTriggerState := {}
  streamFaultTracker : StreamFaultTracker := .empty
  seqTrackers : Table RxSequenceGuard tableMaxEntries :=
    .replicate tableMaxEntries {}
  rxWatchdogs : Table RxWatchdog tableMaxEntries :=
    .replicate tableMaxEntries {}
  streamStatus : Table StreamStatus tableMaxEntries :=
    .replicate tableMaxEntries {}
  fragReassemblers : Table Fragment.Reassembler tableMaxEntries :=
    .replicate tableMaxEntries {}
  fragFirstHeaders : Table Octets tableMaxEntries :=
    .replicate tableMaxEntries []
  respQueues : Table Respqueue.RespQueue tableMaxEntries :=
    .replicate tableMaxEntries .empty
  deriving DecidableEq, Repr

namespace Server

def admission (server : Server) (bus : Bus) : Endpoint :=
  server.admissions.get bus.index

def setAdmission (server : Server) (bus : Bus) (ep : Endpoint) : Server :=
  { server with admissions := server.admissions.set bus.index ep }

/-- The one-based row of a stream, 0 when it is not configured. -/
def streamIndex (server : Server) (streamId : StreamId) : UInt8 :=
  resolveIndex server.regs.requestStreams streamId

def operationalRequestsAllowed (server : Server) : Bool :=
  decide (server.lifecycle = .rcpConfigured)

@[simp] theorem admission_setAdmission_self (server : Server) (bus : Bus)
    (ep : Endpoint) : (server.setAdmission bus ep).admission bus = ep :=
  Table.get_set_self bus.index_lt

theorem admission_setAdmission_ne (server : Server) {bus other : Bus}
    (ep : Endpoint) (h : bus ≠ other) :
    (server.setAdmission bus ep).admission other = server.admission other :=
  Table.get_set_ne fun hIndex => h (Bus.index_injective hIndex)

theorem setAdmission_admission (server : Server) (bus : Bus) :
    server.setAdmission bus (server.admission bus) = server := by
  simp [setAdmission, admission, Table.set_get]

end Server

end CppRcp.Mock
