import CppRcp.Foundation.JsonGrammar
import CppRcp.Foundation.Octets
import Mathlib.Data.Int.Log
import Mathlib.Data.Rat.Floor

/-!
# The readers of the command line

The JSON reader goes over a text by recursive descent.  What is left of the
text stands for the index into it.  The accumulator of the base64 decoder is a
signed `int` that is shifted left by six bits for each letter and keeps
everything it can hold.
-/

namespace CppRcp.Cli

open CppRcp.Foundation
open CppRcp.Foundation.JsonGrammar (ascii asciiText)

/-! ## Values -/

abbrev KeyMap (α : Type) := List (Octets × α)

def KeyMap.set {α : Type} (key : Octets) (value : α) :
    KeyMap α → KeyMap α
  | [] => [(key, value)]
  | entry :: entries =>
      if entry.1 = key then (key, value) :: entries
      else entry :: KeyMap.set key value entries

def KeyMap.find {α : Type} (key : Octets) (m : KeyMap α) : Option α :=
  m.lookup key

inductive JVal
  | null
  | bool (b : Bool)
  | num (num : ℚ)
  | str (str : Octets)
  | arr (arr : List JVal)
  | obj (obj : List (Octets × JVal))

/-! ## Numbers -/

/-- The sign that `strtod` accepts, and what is behind it. -/
def takeSign : Octets → Bool × Octets
  | [] => (false, [])
  | c :: rest =>
      if c = ascii '-' then (true, rest)
      else if c = ascii '+' then (false, rest)
      else (false, c :: rest)

def digitsValue (digits : Octets) : Nat :=
  digits.foldl (fun value digit => value * 10 + (digit - ascii '0').toNat) 0

def takeExponent : Octets → Int
  | [] => 0
  | e :: rest =>
      if e = ascii 'e' ∨ e = ascii 'E' then
        let (negative, rest) := takeSign rest
        let value : Int := digitsValue (rest.takeWhile JsonGrammar.isDigit)
        if negative then -value else value
      else 0

def strtod (token : Octets) : Option ℚ :=
  let (negative, rest) := takeSign token
  let (whole, rest) := rest.span JsonGrammar.isDigit
  let (fraction, rest) := match rest with
    | [] => ([], [])
    | point :: rest =>
        if point = ascii '.' then rest.span JsonGrammar.isDigit
        else ([], point :: rest)
  if whole = [] ∧ fraction = [] then none
  else
    let exponent := takeExponent rest - fraction.length
    let value := (digitsValue (whole ++ fraction) : ℚ) * 10 ^ exponent
    some (if negative then -value else value)

def roundEven (x : ℚ) : Int :=
  if x - ⌊x⌋ < 1 / 2 then ⌊x⌋
  else if 1 / 2 < x - ⌊x⌋ then ⌊x⌋ + 1
  else if ⌊x⌋ % 2 = 0 then ⌊x⌋
  else ⌊x⌋ + 1

/-- The `double` next to a number, where it is in the range of a `double`. -/
def toDouble (x : ℚ) : Option ℚ :=
  if x = 0 then some 0
  else
    let unit : ℚ := 2 ^ max (Int.log 2 |x| - 52) (-1074)
    let r := roundEven (x / unit) * unit
    if 2 ^ 1024 ≤ |r| ∨ |r| < 2 ^ (-1022 : Int) ∧ r ≠ x then none
    else some r

/-- `none` stands for either of the exceptions of `std::stod`. -/
def stod (token : Octets) : Option ℚ := (strtod token).bind toDouble

/-! ## Strings -/

def isWs (c : UInt8) : Bool :=
  c == ascii ' ' || c == ascii '\t' || c == ascii '\n' || c == ascii '\r'

def jsonSkipWs (s : Octets) : Octets := s.dropWhile isWs

def unescape (e : UInt8) : Option UInt8 :=
  if e = ascii '"' then some (ascii '"')
  else if e = ascii '\\' then some (ascii '\\')
  else if e = ascii '/' then some (ascii '/')
  else if e = ascii 'b' then some 8
  else if e = ascii 'f' then some 12
  else if e = ascii 'n' then some 10
  else if e = ascii 'r' then some 13
  else if e = ascii 't' then some 9
  else none

def pushHex (cp : Nat) (h : UInt8) : Option Nat :=
  if ascii '0' ≤ h ∧ h ≤ ascii '9' then
    some (cp <<< 4 ||| (h - ascii '0').toNat)
  else if ascii 'a' ≤ h ∧ h ≤ ascii 'f' then
    some (cp <<< 4 ||| ((h - ascii 'a').toNat + 10))
  else if ascii 'A' ≤ h ∧ h ≤ ascii 'F' then
    some (cp <<< 4 ||| ((h - ascii 'A').toNat + 10))
  else none

def pushCode (cp : Nat) : Octets :=
  if cp < 0x80 then [UInt8.ofNat cp]
  else if cp < 0x800 then
    [UInt8.ofNat (0xC0 ||| cp >>> 6), UInt8.ofNat (0x80 ||| cp &&& 0x3F)]
  else
    [UInt8.ofNat (0xE0 ||| cp >>> 12),
      UInt8.ofNat (0x80 ||| cp >>> 6 &&& 0x3F),
      UInt8.ofNat (0x80 ||| cp &&& 0x3F)]

def parseChars (out : Octets) : Octets → Option (Octets × Octets)
  | [] => none
  | c :: s =>
      if c = ascii '"' then some (out, s)
      else if c = ascii '\\' then
        match s with
        | [] => none
        | e :: s =>
            match unescape e with
            | some octet => parseChars (out ++ [octet]) s
            | none =>
                if e = ascii 'u' then
                  match s with
                  | h1 :: h2 :: h3 :: h4 :: s =>
                      match [h1, h2, h3, h4].foldlM pushHex 0 with
                      | some cp => parseChars (out ++ pushCode cp) s
                      | none => none
                  | _ => none
                else none
      else parseChars (out ++ [c]) s

def jsonParseString : Octets → Option (Octets × Octets)
  | [] => none
  | c :: s => if c = ascii '"' then parseChars [] s else none

/-! ## The descent -/

def isNumberScan (c : UInt8) : Bool :=
  ascii '0' ≤ c && c ≤ ascii '9' || c == ascii '.' || c == ascii 'e' ||
    c == ascii 'E' || c == ascii '+' || c == ascii '-'

def parseNumber (s : Octets) : Option (JVal × Octets) :=
  let (token, rest) := match s with
    | [] => ([], [])
    | c :: s =>
        if c = ascii '-' then
          (c :: s.takeWhile isNumberScan, s.dropWhile isNumberScan)
        else
          ((c :: s).takeWhile isNumberScan, (c :: s).dropWhile isNumberScan)
  if token = [] then none
  else (stod token).map fun value => (.num value, rest)

mutual

/-- The fuel bounds the calls and turns of loops that are open at a time; twice
the length of the text is enough. -/
def parseValue : Nat → Octets → Option (JVal × Octets)
  | 0, _ => none
  | fuel + 1, s =>
      match jsonSkipWs s with
      | [] => none
      | c :: rest =>
          if c = ascii '"' then
            (jsonParseString (c :: rest)).map fun p => (.str p.1, p.2)
          else if c = ascii '{' then
            let s := jsonSkipWs rest
            if s.head? = some (ascii '}') then some (.obj [], s.tail)
            else parseMembers fuel [] s
          else if c = ascii '[' then
            let s := jsonSkipWs rest
            if s.head? = some (ascii ']') then some (.arr [], s.tail)
            else parseItems fuel [] s
          else if c = ascii 't' ∨ c = ascii 'f' then
            let s := c :: rest
            if s.take 4 = asciiText "true" then some (.bool true, s.drop 4)
            else if s.take 5 = asciiText "false" then
              some (.bool false, s.drop 5)
            else none
          else if c = ascii 'n' then
            let s := c :: rest
            if s.take 4 = asciiText "null" then some (.null, s.drop 4)
            else none
          else parseNumber (c :: rest)

def parseMembers : Nat → KeyMap JVal → Octets → Option (JVal × Octets)
  | 0, _, _ => none
  | fuel + 1, obj, s =>
      match jsonParseString (jsonSkipWs s) with
      | none => none
      | some (key, s) =>
          match jsonSkipWs s with
          | [] => none
          | colon :: s =>
              if colon ≠ ascii ':' then none
              else
                match parseValue fuel s with
                | none => none
                | some (v, s) =>
                    let obj := obj.set key v
                    match jsonSkipWs s with
                    | [] => none
                    | c :: s =>
                        if c = ascii ',' then parseMembers fuel obj s
                        else if c = ascii '}' then some (.obj obj, s)
                        else none

def parseItems : Nat → List JVal → Octets → Option (JVal × Octets)
  | 0, _, _ => none
  | fuel + 1, arr, s =>
      match parseValue fuel s with
      | none => none
      | some (v, s) =>
          let arr := arr ++ [v]
          match jsonSkipWs s with
          | [] => none
          | c :: s =>
              if c = ascii ',' then parseItems fuel arr s
              else if c = ascii ']' then some (.arr arr, s)
              else none

end

def jsonParseValue (s : Octets) : Option (JVal × Octets) :=
  parseValue (2 * s.length) s

/-! ## The base64 decoder -/

def b64Val (c : UInt8) : Int :=
  if 65 ≤ c ∧ c ≤ 90 then (c - 65).toNat
  else if 97 ≤ c ∧ c ≤ 122 then (c - 97).toNat + 26
  else if 48 ≤ c ∧ c ≤ 57 then (c - 48).toNat + 52
  else if c = 43 then 62
  else if c = 47 then 63
  else -1

def b64Skipped (c : UInt8) : Bool :=
  c == 61 || c == 10 || c == 13 || c == 32 || c == 9

structure B64State where
  buf : BitVec 32 := 0
  bits : Nat := 0
  out : Octets := []

/-- What `(buf << 6) | v` is before it is cut to the width of an `int`. -/
def B64State.shifted (s : B64State) (v : Int) : Int :=
  s.buf.toInt * 64 + v

def B64State.push (s : B64State) (v : Int) : B64State :=
  let buf := (s.buf <<< 6) ||| BitVec.ofInt 32 v
  let bits := s.bits + 6
  if 8 ≤ bits then
    let octet := (buf.sshiftRight (bits - 8)) &&& 0xFF
    { buf := buf, bits := bits - 8, out := s.out ++ [UInt8.ofNat octet.toNat] }
  else { s with buf := buf, bits := bits }

def b64Loop (s : B64State) : Octets → Bool × B64State
  | [] => (true, s)
  | c :: rest =>
      if b64Skipped c then b64Loop s rest
      else if b64Val c < 0 then (false, s)
      else b64Loop (s.push (b64Val c)) rest

def b64Decode (text : Octets) : Bool × Octets :=
  let (ok, s) := b64Loop {} text
  (ok, s.out)

def accumulated (s : B64State) : Octets → List Int
  | [] => []
  | c :: rest =>
      if b64Skipped c then accumulated s rest
      else if b64Val c < 0 then []
      else s.shifted (b64Val c) :: accumulated (s.push (b64Val c)) rest

end CppRcp.Cli
