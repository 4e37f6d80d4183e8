import CppRcp.Cli.Json
import CppRcp.Mock.Dispatch
import Mathlib.Data.List.DropRight

/-!
# The message sink of the command line

`send --format json` reads messages line by line and gives them to a server of
its own.  A line that is no message, or that cannot be delivered, is reported
and passed over.
-/

namespace CppRcp.Cli

open CppRcp.Foundation CppRcp.Acf CppRcp.E2e
open CppRcp.Foundation.JsonGrammar (ascii asciiText)

/-! ## Messages -/

/-- The fields of `relay::Message` that the reader fills in. -/
structure Message where
  id : Octets := []
  payload : Octets := []
  /-- Nothing stands for a number that is out of the range of the cast. -/
  seq : Option UInt64 := some 0
  metas : KeyMap Octets := []

def castU64 (num : ℚ) : Option UInt64 :=
  let whole := if 0 ≤ num then ⌊num⌋ else ⌈num⌉
  if 0 ≤ whole ∧ whole < 2 ^ 64 then some (UInt64.ofNat whole.toNat) else none

def takeId (obj : KeyMap JVal) (msg : Message) : Message :=
  match obj.find (asciiText "id") with
  | some (.str str) => { msg with id := str }
  | _ => msg

def takePayload (obj : KeyMap JVal) (msg : Message) : Message :=
  match obj.find (asciiText "payload") with
  | some (.str str) => { msg with payload := (b64Decode str).2 }
  | _ => msg

def takeSeq (obj : KeyMap JVal) (msg : Message) : Message :=
  match obj.find (asciiText "seq") with
  | some (.num num) => { msg with seq := castU64 num }
  | _ => msg

def takeMeta (obj : KeyMap JVal) (msg : Message) : Message :=
  match obj.find (asciiText "meta") with
  | some (.obj entries) =>
      { msg with
        metas := entries.foldl
          (fun metas entry => match entry.2 with
            | .str str => metas.set entry.1 str
            | _ => metas)
          msg.metas }
  | _ => msg

def messageFromJson (line : Octets) (msg : Message) : Bool × Message :=
  match jsonParseValue line with
  | some (.obj obj, _) =>
      (true, takeMeta obj (takeSeq obj (takePayload obj (takeId obj msg))))
  | _ => (false, msg)

/-! ## Requests -/

/-- `std::from_chars` for an `unsigned`, where it takes the whole text. -/
def fromChars (text : Octets) : Option Nat :=
  if text ≠ [] ∧ text.all JsonGrammar.isDigit ∧ digitsValue text < 2 ^ 32 then
    some (digitsValue text)
  else none

def endpointIdToRelayId (byteBusId : UInt16) : Octets :=
  asciiText (toString byteBusId.toNat)

def relayIdToEndpointId (id : Octets) : Option UInt16 :=
  match fromChars id with
  | some busId => if 0xFF < busId then none else some (UInt16.ofNat busId)
  | none => none

def opFromMeta (metas : KeyMap Octets) : Bool :=
  metas.find (asciiText "rcp.op") = some (asciiText "write")

def numberFromMeta (key : String) (most : Nat) (metas : KeyMap Octets) : Nat :=
  match (metas.find (asciiText key)).bind fromChars with
  | some v => if most < v then 0 else v
  | none => 0

def evtOpFromMeta (metas : KeyMap Octets) : UInt8 :=
  UInt8.ofNat (numberFromMeta "rcp.evt_op" 7 metas)

def readSizeFromMeta (metas : KeyMap Octets) : UInt16 :=
  UInt16.ofNat (numberFromMeta "rcp.read_size" 0x0FFF metas)

def messageToRequest (msg : Message) : Option (AcfMessageInfo × Octets) :=
  (relayIdToEndpointId msg.id).map fun byteBusId =>
    ({ byteBusId := byteBusId
       op := opFromMeta msg.metas
       evtOp := evtOpFromMeta msg.metas
       readSizeOrSegmentNum := readSizeFromMeta msg.metas },
      msg.payload)

/-! ## Lines -/

/-- The lines that `std::getline` reads one after another. -/
def getLines : Octets → List Octets
  | [] => []
  | c :: rest =>
      if c = ascii '\n' then [] :: getLines rest
      else
        match getLines rest with
        | [] => [[c]]
        | line :: lines => (c :: line) :: lines

/-- The line without the white space around it, if there is anything else. -/
def trim (line : Octets) : Option Octets :=
  match line.dropWhile isWs with
  | [] => none
  | trimmed => some (trimmed.rdropWhile isWs)

/-! ## The stream -/

/-- Where the loop over the lines stands.  The calls of the server are kept in
the order in which they are made. -/
structure Sink where
  server : Mock.Server := {}
  sent : Nat := 0
  err : Octets := []
  dispatched : List (AcfMessageInfo × Octets) := []

def Sink.report (s : Sink) (text : Octets) : Sink :=
  { s with err := s.err ++ text }

/-- The call of `dispatch_endpoint` and what is made of its error code. -/
def Sink.deliver (s : Sink) (req : AcfMessageInfo) (payload : Octets) :
    Sink :=
  match s.server.dispatch 0 req payload with
  | (server, reply) =>
      let s := { s with
        server := server, dispatched := s.dispatched ++ [(req, payload)] }
      if reply.ec.isSome then
        s.report (asciiText "send: " ++ endpointIdToRelayId req.byteBusId ++
          asciiText ": send failed\n")
      else { s with sent := s.sent + 1 }

def sendLine (s : Sink) (line : Octets) : Sink :=
  match trim line with
  | none => s
  | some trimmed =>
      match messageFromJson trimmed {} with
      | (false, _) => s.report (asciiText "send: skipping malformed message\n")
      | (true, msg) =>
          match messageToRequest msg with
          | none =>
              s.report
                (asciiText "send: skipping message with unparseable id '" ++
                  msg.id ++ asciiText "'\n")
          | some (req, payload) => s.deliver req payload

/-- `advance_to_rcp_configured`: no check stands in the way of the server. -/
def openSink : Sink := { server := { lifecycle := .rcpConfigured } }

def sendLines (lines : List Octets) : Sink := lines.foldl sendLine openSink

def sendStream (input : Octets) : Sink × Octets :=
  let s := sendLines (getLines input)
  (s, asciiText "published " ++ asciiText (toString s.sent) ++
    asciiText " message(s)\n")

end CppRcp.Cli
