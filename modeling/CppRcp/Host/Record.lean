import CppRcp.Foundation.Readers
import CppRcp.Wire.AcfMessages

/-!
# Recorded traffic

`record.hpp`: a record holds request and response pairs, writes them to a file
one after another and reads them back.  A file is a string of octets; the fixed
fields are in the byte order of the host, taken to be little-endian.
-/

namespace CppRcp.Host.Recording

open CppRcp.Foundation CppRcp.Acf

/-- The category that a code belongs to; each header of the library has one of
its own. -/
inductive ErrorCategory
  | system
  | generic
  | rcp (header : Nat)
  deriving DecidableEq, Repr

/-- `std::error_code`: two codes compare equal when both parts agree. -/
structure StdErrorCode where
  value : Int32 := 0
  category : ErrorCategory := .system
  deriving DecidableEq, Repr

def StdErrorCode.isError (error : StdErrorCode) : Bool := error.value ≠ 0

structure Entry where
  timestampNs : Int64 := 0
  request : AcfMessageInfo := {}
  requestPayload : Octets := []
  response : AcfMessageInfo := {}
  responsePayload : Octets := []
  error : StdErrorCode := {}
  deriving DecidableEq, Repr

inductive RecordErrc
  | ioError
  | decode (e : ErrorCode)
  deriving DecidableEq, Repr

/-! ## Writing -/

def write8 (value : Int64) : Octets := putLe 8 value.toUInt64.toNat

def write4 (value : UInt32) : Octets := putLe 4 value.toNat

def encodeMsg (info : AcfMessageInfo) (payload : Octets) : Octets :=
  if info.acfMsgType = acfMsgTypeGbb then encodeAcfGbb info 0 payload
  else encodeAcfAbb info payload

def writeMsg (info : AcfMessageInfo) (payload : Octets) : Octets :=
  let encoded := encodeMsg info payload
  write4 (UInt32.ofNat encoded.length) ++ encoded

def writeEntry (e : Entry) : Octets :=
  write8 e.timestampNs ++
    (writeMsg e.request e.requestPayload ++
      (writeMsg e.response e.responsePayload ++
        (write4 e.error.value.toUInt32 ++
          [if e.error.isError then 1 else 0])))

/-! ## Reading -/

def read8 : Reader RecordErrc Int64 :=
  (fun value => (UInt64.ofNat value).toInt64) <$>
    (getLe <$> Reader.octets .ioError 8)

def read4 : Reader RecordErrc UInt32 :=
  UInt32.ofNat <$> (getLe <$> Reader.octets .ioError 4)

def read1 : Reader RecordErrc UInt8 :=
  (fun octets => octetAt octets 0) <$> Reader.octets .ioError 1

def decodeMsg (encoded : Octets) :
    Except RecordErrc (AcfMessageInfo × Octets) :=
  if encoded ≠ [] ∧ peekAcfMsgType encoded = acfMsgTypeGbb then
    match decodeAcfGbb encoded with
    | .error e => .error (.decode e)
    | .ok (info, _, payload) => .ok (info, payload)
  else
    match decodeAcfAbb encoded with
    | .error e => .error (.decode e)
    | .ok (info, payload) => .ok (info, payload)

def readMsg : Reader RecordErrc (AcfMessageInfo × Octets) := do
  let len ← read4
  let encoded ← Reader.octets .ioError len.toNat
  StateT.lift (decodeMsg encoded)

def readEntry : Reader RecordErrc Entry := do
  let timestampNs ← read8
  let (request, requestPayload) ← readMsg
  let (response, responsePayload) ← readMsg
  let errValue ← read4
  let hasError ← read1
  return {
    timestampNs
    request
    requestPayload
    response
    responsePayload
    error := if hasError ≠ 0 then ⟨errValue.toInt32, .generic⟩ else {} }

/-! ## The record -/

structure Record where
  entries : List Entry := []

def file (entries : List Entry) : Octets := entries.flatMap writeEntry

/-- `written` says whether the file could be opened and written. -/
def Record.writeBinary (record : Record) (written : Bool) :
    Except RecordErrc Octets :=
  if written then .ok (file record.entries) else .error .ioError

/-- A file that cannot be opened is `none`. -/
def Record.readBinary (record : Record) :
    Option Octets → Record × Option RecordErrc
  | none => (record, some .ioError)
  | some octets =>
      match readEntry.all octets with
      | .error e => (record, some e)
      | .ok loaded => (⟨loaded⟩, none)

end CppRcp.Host.Recording
