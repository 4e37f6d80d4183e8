import CppRcp.Wire.Acf

/-!
# What the endpoint kinds share

`endpoint.hpp`: the write semantics and the row-2 reading of `evt[2:0]`, and
the registry through which a peripheral raises trigger signals.
-/

namespace CppRcp.Endpoint

open CppRcp.Foundation

inductive WriteSemantics
  | replace | or | and | xor | reserved | add | subtract | reconfigure
  deriving DecidableEq, Repr

def writeSemanticsOf (evtOp : UInt8) : WriteSemantics :=
  match evtOp.toNat % 8 with
  | 0 => .replace
  | 1 => .or
  | 2 => .and
  | 3 => .xor
  | 4 => .reserved
  | 5 => .add
  | 6 => .subtract
  | _ => .reconfigure

inductive EvtRow2Kind
  | plain | configWrite | reserved
  deriving DecidableEq, Repr

def evtRow2KindOf (evtOp : UInt8) : EvtRow2Kind :=
  match evtOp.toNat % 8 with
  | 0 => .plain
  | 7 => .configWrite
  | _ => .reserved

def saturatingAdd (a b : UInt32) : UInt32 :=
  if a + b < a then 0xFFFFFFFF else a + b

def saturatingSubtract (a b : UInt32) : UInt32 :=
  if a < b then 0 else a - b

def applyBitmaskWrite (op : WriteSemantics) (current operand : UInt32) :
    Except ErrorCode UInt32 :=
  match op with
  | .replace => .ok operand
  | .or => .ok (current ||| operand)
  | .and => .ok (current &&& operand)
  | .xor => .ok (current ^^^ operand)
  | .add => .ok (saturatingAdd current operand)
  | .subtract => .ok (saturatingSubtract current operand)
  | .reserved => .error (.endpoint .reservedWriteSemantics)
  | .reconfigure => .error (.endpoint .nonCombinableWriteSemantics)

/-- The switch every row-2 endpoint makes on `evt[2:0]`: run a plain request,
refuse the others. -/
def onRow2 {σ : Type} (evtOp : UInt8) (configWriteNotSupported : ErrorCode)
    (endpoint : σ) (plain : σ × Option ErrorCode) : σ × Option ErrorCode :=
  match evtRow2KindOf evtOp with
  | .plain => plain
  | .reserved => (endpoint, some (.endpoint .reservedEvtRow2))
  | .configWrite => (endpoint, some configWriteNotSupported)

/-! ## Trigger signals -/

structure TriggerRegistry where
  enabled : List UInt16 := []
  pending : List UInt16 := []
  deriving DecidableEq, Repr

namespace TriggerRegistry

def enable (registry : TriggerRegistry) (id : UInt16) : TriggerRegistry :=
  if registry.enabled.contains id then registry
  else { registry with enabled := registry.enabled ++ [id] }

def disable (registry : TriggerRegistry) (id : UInt16) : TriggerRegistry :=
  { registry with enabled := registry.enabled.filter fun other => other ≠ id }

def notify (registry : TriggerRegistry) (id : UInt16) : TriggerRegistry :=
  if registry.enabled.contains id then
    { registry with pending := registry.pending ++ [id] }
  else registry

def drain (registry : TriggerRegistry) : TriggerRegistry × List UInt16 :=
  ({ registry with pending := [] }, registry.pending)

end TriggerRegistry

end CppRcp.Endpoint
