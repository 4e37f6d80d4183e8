import CppRcp.Foundation.TextSearch
import CppRcp.Host.Shmem
import CppRcp.Streams.MappedTables
import Mathlib.Data.UInt

/-!
# The manifest of a topology

`config.hpp`: `parseJson` reads the server, the hardware pins and the endpoints
of a manifest.  It does not parse JSON: it searches the text for the names of
the fields and for the delimiters.  All of them are ASCII, so that a text is
taken character by character.  `load` makes a channel for each stream of a
manifest, and `apply_to_mock` writes its server and its pins to the registers
of a server.
-/

namespace CppRcp.Config

open CppRcp.Foundation CppRcp.Regmap CppRcp.Host.Shmem

structure EndpointManifestEntry where
  streamKey : UInt64 := 0
  byteBusId : UInt16 := 0
  priority : Text := []
  extra : Text := []
  deriving DecidableEq, Repr

structure ServerManifest where
  vendorId : UInt16 := 0
  deviceId : UInt16 := 0
  magic : UInt32 := 0
  svrImplementedOptions : UInt8 := 0
  deriving DecidableEq, Repr

structure HwPinManifestEntry where
  hwEpNr : UInt8 := 0
  hwEpPinNr : UInt8 := 0
  hwPinType : UInt8 := 0
  deriving DecidableEq, Repr

structure Manifest where
  endpoints : List EndpointManifestEntry := []
  server : ServerManifest := {}
  hwPinMap : List HwPinManifestEntry := []
  deriving DecidableEq, Repr

/-- What is thrown: a `ParseError`, or the `std::out_of_range` of a number that
does not fit in 64 bits. -/
inductive ParseFailure
  | parseError (what : String)
  | outOfRange
  deriving DecidableEq, Repr

/-! ## Values -/

def extractStrIn (start : Text) : Except ParseFailure Text :=
  match find ['"'] start with
  | none => .error (.parseError "missing string value")
  | some q1 =>
      match find ['"'] (q1.drop 1) with
      | none => .error (.parseError "unterminated string value")
      | some q2 => .ok (between (q1.drop 1) q2)

def extractUintIn (colon : Text) : Except ParseFailure UInt64 :=
  let begins := (colon.drop 1).dropWhile fun c => c = ' ' ∨ c = '\t'
  let digits := begins.takeWhile Char.isDigit
  let value := Nat.ofDigitChars 10 digits 0
  if digits = [] then .error (.parseError "missing numeric value")
  else if value < 2 ^ 64 then .ok (UInt64.ofNat value)
  else .error .outOfRange

structure NamedBit where
  name : Text
  bit : UInt8

def orNamedBits (start stop : Text) (out : UInt8) (names : List NamedBit) :
    UInt8 :=
  names.foldl (fun out named =>
    match find (quoted named.name) start with
    | some pos => if stop.length < pos.length then out ||| named.bit else out
    | none => out) out

def findArraySpan (keyPos : Text) : Option (Text × Text) :=
  match find ['['] keyPos with
  | none => none
  | some lb =>
      match find [']'] lb with
      | none => none
      | some rb => some (lb.drop 1, rb)

def optionBitNames : List NamedBit :=
  [⟨"time_sync".toList, 0x08⟩, ⟨"enhanced_cancel".toList, 0x10⟩,
    ⟨"trigger".toList, 0x02⟩, ⟨"chained".toList, 0x04⟩,
    ⟨"compound_bundles".toList, 0x01⟩]

def pinPropNames : List NamedBit :=
  [⟨"pull_down".toList, 0x01⟩, ⟨"pull_up".toList, 0x02⟩,
    ⟨"open_drain".toList, 0x04⟩, ⟨"open_source".toList, 0x08⟩,
    ⟨"push_pull".toList, 0x0C⟩, ⟨"low_drive".toList, 0x10⟩,
    ⟨"medium_drive".toList, 0x20⟩, ⟨"high_drive".toList, 0x30⟩,
    ⟨"schmitt_trigger".toList, 0x80⟩]

def namedBitsField (text key : Text) (out : UInt8) (names : List NamedBit) :
    UInt8 :=
  match find (quoted key) text with
  | none => out
  | some k =>
      match findArraySpan k with
      | none => out
      | some (start, stop) => orNamedBits start stop out names

/-! ## The server -/

def serverNumber (json key : Text) : Except ParseFailure (Option UInt64) :=
  match find (quoted key) json with
  | none => .ok none
  | some k =>
      match find [':'] k with
      | none => .ok none
      | some colon => some <$> extractUintIn colon

def parseServerFields (json : Text) (out : ServerManifest) :
    Except ParseFailure ServerManifest := do
  let vendorId ← serverNumber json "vendor_id".toList
  let deviceId ← serverNumber json "device_id".toList
  let magic ← serverNumber json "magic".toList
  return {
    vendorId := vendorId.elim out.vendorId UInt64.toUInt16
    deviceId := deviceId.elim out.deviceId UInt64.toUInt16
    magic := magic.elim out.magic UInt64.toUInt32
    svrImplementedOptions :=
      namedBitsField json "svr_implemented_options".toList
        out.svrImplementedOptions optionBitNames }

/-! ## The entries -/

def isSpace (c : Char) : Bool :=
  c ∈ [' ', '\t', '\n', '\x0b', '\x0c', '\x0d']

def digitValue (c : Char) : Nat :=
  if c.isDigit then c.toNat - '0'.toNat
  else if c.isLower then c.toNat - 'a'.toNat + 10
  else if c.isUpper then c.toNat - 'A'.toNat + 10
  else 36

def digitsValue (base : Nat) (digits : Text) : Nat :=
  digits.foldl (fun value c => base * value + digitValue c) 0

def signPrefix (text : Text) : Bool × Text :=
  match text with
  | '-' :: rest => (true, rest)
  | '+' :: rest => (false, rest)
  | _ => (false, text)

def basePrefix (text : Text) : Nat × Text :=
  match text with
  | '0' :: x :: d :: rest =>
      if (x = 'x' ∨ x = 'X') ∧ digitValue d < 16 then (16, d :: rest)
      else (8, text)
  | '0' :: _ => (8, text)
  | _ => (10, text)

/-- `std::stoull` in base 0: the number and the text that is left; `none` is
`std::invalid_argument` or `std::out_of_range`. -/
def stoull (text : Text) : Option (UInt64 × Text) :=
  let (negative, unsigned) := signPrefix (text.dropWhile isSpace)
  let (base, begins) := basePrefix unsigned
  let digits := begins.takeWhile (digitValue · < base)
  let value := digitsValue base digits
  if digits = [] ∨ 2 ^ 64 ≤ value then none
  else
    some (if negative then -UInt64.ofNat value else UInt64.ofNat value,
      begins.dropWhile (digitValue · < base))

def parseStreamKey (text : Text) : Except ParseFailure UInt64 :=
  match stoull text with
  | some (key, []) => .ok key
  | _ => .error (.parseError ("invalid stream_key: " ++ String.ofList text))

def optionalString (obj key : Text) : Except ParseFailure Text :=
  match find (quoted key) obj with
  | none => .ok []
  | some k => extractStrIn (k.drop (key.length + 2))

def requiredNumber (obj key : Text) (missing malformed : String) :
    Except ParseFailure UInt64 :=
  match find (quoted key) obj with
  | none => .error (.parseError missing)
  | some k =>
      match find [':'] k with
      | none => .error (.parseError malformed)
      | some colon => extractUintIn colon

def streamKeyField (obj : Text) : Except ParseFailure UInt64 :=
  match find (quoted "stream_key".toList) obj with
  | none => .error (.parseError "endpoint entry missing stream_key")
  | some sk => extractStrIn (sk.drop 12) >>= parseStreamKey

def parseEndpointEntry (obj : Text) :
    Except ParseFailure EndpointManifestEntry := do
  let streamKey ← streamKeyField obj
  let busVal ← requiredNumber obj "byte_bus_id".toList
    "endpoint entry missing byte_bus_id" "malformed byte_bus_id"
  if 0xFF < busVal then
    .error (.parseError ("byte_bus_id out of range: " ++ toString busVal))
  else
    let priority ← optionalString obj "priority".toList
    let extra ← optionalString obj "extra".toList
    return { streamKey, byteBusId := busVal.toUInt16, priority, extra }

def parseHwPinEntry (obj : Text) :
    Except ParseFailure HwPinManifestEntry := do
  let hwEpNr ← requiredNumber obj "hw_ep_nr".toList
    "hw_pin_map entry missing hw_ep_nr" "malformed hw_ep_nr"
  let hwEpPinNr ← requiredNumber obj "hw_ep_pin_nr".toList
    "hw_pin_map entry missing hw_ep_pin_nr" "malformed hw_ep_pin_nr"
  return {
    hwEpNr := hwEpNr.toUInt8
    hwEpPinNr := hwEpPinNr.toUInt8
    hwPinType := namedBitsField obj "hw_pin_type".toList 0 pinPropNames }

/-! ## The document -/

/-- An object is an entry when it has one of the names of its kind, and is
skipped otherwise. -/
def parseObject (m : Manifest) (obj : Text) : Except ParseFailure Manifest :=
  if (find (quoted "hw_ep_nr".toList) obj).isSome then do
    let entry ← parseHwPinEntry obj
    return { m with hwPinMap := m.hwPinMap ++ [entry] }
  else if (find (quoted "stream_key".toList) obj).isSome ∨
      (find (quoted "byte_bus_id".toList) obj).isSome then do
    let entry ← parseEndpointEntry obj
    return { m with endpoints := m.endpoints ++ [entry] }
  else .ok m

/-- The loop over the objects: each goes from a brace to the first one that
closes. -/
def parseObjects (m : Manifest) (text : Text) :
    Except ParseFailure Manifest :=
  match _hOpen : find ['{'] text with
  | none => .ok m
  | some pos =>
      match _hClose : find ['}'] pos with
      | none => .ok m
      | some close => do
          let m ← parseObject m (between pos (close.drop 1))
          parseObjects m (close.drop 1)
termination_by text.length
decreasing_by
  obtain ⟨-, after, rfl, -, -⟩ := find_char_some _hClose
  have hPos := length_of_find _hOpen
  have hAfter := length_of_find _hClose
  simp only [List.length_cons] at hAfter
  simp only [List.drop_one, List.tail_cons]
  omega

def parseJson (json : Text) : Except ParseFailure Manifest := do
  let server ← parseServerFields json {}
  parseObjects { server } json

/-! ## Loading a manifest -/

/-- The registers that a manifest has something for, and the others. -/
structure ServerRegisters (ρ : Type) where
  vendorId : UInt16 := 0
  deviceId : UInt16 := 0
  magic : UInt32 := 0x52435030
  svrImplementedOptions : UInt8 := 0
  hwPinMapCapacity : UInt16 := 0
  hwPinMap : List HwPinMapEntry := []
  others : ρ
  deriving DecidableEq, Repr

inductive ApplyError
  | valueTooLarge
  deriving DecidableEq, Repr

variable {ρ : Type}

def applyServer (server : ServerManifest) (regs : ServerRegisters ρ) :
    ServerRegisters ρ :=
  { regs with
    vendorId := server.vendorId
    deviceId := server.deviceId
    magic := if server.magic ≠ 0 then server.magic else regs.magic
    svrImplementedOptions :=
      regs.svrImplementedOptions ||| server.svrImplementedOptions }

def applyToMock (manifest : Manifest) (regs : ServerRegisters ρ) :
    ServerRegisters ρ × Option ApplyError :=
  let regs := applyServer manifest.server regs
  if manifest.hwPinMap = [] then (regs, none)
  else if tableMaxEntries < manifest.hwPinMap.length then
    (regs, some .valueTooLarge)
  else
    ({ regs with
        hwPinMapCapacity := UInt16.ofNat manifest.hwPinMap.length
        hwPinMap := manifest.hwPinMap.map fun e =>
          { hwEpNr := e.hwEpNr
            hwEpPinNr := e.hwEpPinNr
            hwPinType := e.hwPinType } },
      none)

/-- The loop over the endpoints; `bootstrapped` has the streams that it has
made a channel for. -/
def loadEndpoints :
    List EndpointManifestEntry → List UInt64 → Registry →
      Registry × Option RegistryError
  | [], _, reg => (reg, none)
  | entry :: entries, bootstrapped, reg =>
      if entry.streamKey ∈ bootstrapped then
        loadEndpoints entries bootstrapped reg
      else
        let added := reg.addChannel (newChannel entry.streamKey)
        match added.2 with
        | some error => (added.1, some error)
        | none =>
            loadEndpoints entries (bootstrapped ++ [entry.streamKey]) added.1

/-- `load` once the manifest has been parsed. -/
def loadManifest (manifest : Manifest) (reg : Registry) :
    Registry × Option RegistryError :=
  loadEndpoints manifest.endpoints [] reg

def load (json : Text) (reg : Registry) :
    Except ParseFailure (Registry × Option RegistryError) :=
  (parseJson json).map fun manifest => loadManifest manifest reg

def loadToMock (json : Text) (regs : ServerRegisters ρ) :
    Except ParseFailure (ServerRegisters ρ × Option ApplyError) :=
  (parseJson json).map fun manifest => applyToMock manifest regs

end CppRcp.Config
