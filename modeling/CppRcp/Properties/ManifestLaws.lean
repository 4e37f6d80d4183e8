import CppRcp.Properties.ManifestNumbers

/-!
# When a manifest has the numbers that are written

Each part of the parser comes to the readings of its own text.  A number of
64 bits or more is refused with the exception of a library, and one that does
not fit its field is cut to the field's width.
-/

namespace CppRcp.Config

open CppRcp.Foundation

/-! ## The readings of a text -/

def numberReading (numeral : Option Numeral) (width : Nat) : Reading :=
  match numeral with
  | none => .malformed
  | some numeral => .number numeral width

def serverReadings (text key : Text) (width : Nat) : List Reading :=
  match (find (quoted key) text).bind (find [':']) with
  | none => []
  | some colon => [numberReading (numeralAt colon) width]

def keyIn (obj : Text) : Option Text := do
  let place ← find (quoted "stream_key".toList) obj
  (extractStrIn (place.drop 12)).toOption

def keyReading (obj : Text) : Reading :=
  match keyIn obj with
  | none => .malformed
  | some text =>
      match parseStreamKey text with
      | .error _ => .malformed
      | .ok _ => .key text

def busReadings (obj : Text) : List Reading :=
  let numeral := numberIn obj "byte_bus_id".toList
  let outOfRange := numeral.any fun numeral => 0xFF < numeral.digits
  numberReading numeral 8 :: if outOfRange then [.malformed] else []

def stringReadings (obj key : Text) : List Reading :=
  match optionalString obj key with
  | .error _ => [.malformed]
  | .ok _ => []

def endpointReadings (obj : Text) : List Reading :=
  [keyReading obj] ++ (busReadings obj ++
    (stringReadings obj "priority".toList ++
      stringReadings obj "extra".toList))

def pinReadings (obj : Text) : List Reading :=
  [numberReading (numberIn obj "hw_ep_nr".toList) 8] ++
    [numberReading (numberIn obj "hw_ep_pin_nr".toList) 8]

def isPin (obj : Text) : Bool := (find (quoted "hw_ep_nr".toList) obj).isSome

def isEndpoint (obj : Text) : Bool :=
  !isPin obj && ((find (quoted "stream_key".toList) obj).isSome ||
    (find (quoted "byte_bus_id".toList) obj).isSome)

def objectReadings (obj : Text) : List Reading :=
  if isPin obj then pinReadings obj
  else if isEndpoint obj then endpointReadings obj
  else []

def objects (text : Text) : List Text :=
  match _hOpen : find ['{'] text with
  | none => []
  | some pos =>
      match _hClose : find ['}'] pos with
      | none => []
      | some close => between pos (close.drop 1) :: objects (close.drop 1)
termination_by text.length
decreasing_by
  obtain ⟨-, after, rfl, -, -⟩ := find_char_some _hClose
  have hPos := length_of_find _hOpen
  have hAfter := length_of_find _hClose
  simp only [List.length_cons] at hAfter
  simp only [List.drop_one, List.tail_cons]
  omega

def readings (text : Text) : List Reading :=
  (serverReadings text "vendor_id".toList 16 ++
    (serverReadings text "device_id".toList 16 ++
      serverReadings text "magic".toList 32)) ++
    (objects text).flatMap objectReadings

/-! ## The numbers of the fields -/

def writtenIn (text key : Text) : ℚ :=
  ((numberIn text key).map Numeral.written).getD 0

structure ServerNumbers (text : Text) (s : ServerManifest) : Prop where
  vendorId : (s.vendorId.toNat : ℚ) = writtenIn text "vendor_id".toList
  deviceId : (s.deviceId.toNat : ℚ) = writtenIn text "device_id".toList
  magic : (s.magic.toNat : ℚ) = writtenIn text "magic".toList

structure PinNumbers (obj : Text) (p : HwPinManifestEntry) : Prop where
  hwEpNr : (p.hwEpNr.toNat : ℚ) = writtenIn obj "hw_ep_nr".toList
  hwEpPinNr : (p.hwEpPinNr.toNat : ℚ) = writtenIn obj "hw_ep_pin_nr".toList

structure EndpointNumbers (obj : Text) (e : EndpointManifestEntry) :
    Prop where
  streamKey : (keyIn obj).map keyNumber = some (e.streamKey.toNat : Int)
  byteBusId : (e.byteBusId.toNat : ℚ) = writtenIn obj "byte_bus_id".toList

structure ManifestNumbers (text : Text) (m : Manifest) : Prop where
  server : ServerNumbers text m.server
  pins : List.Forall₂ PinNumbers ((objects text).filter isPin) m.hwPinMap
  endpoints : List.Forall₂ EndpointNumbers ((objects text).filter isEndpoint)
    m.endpoints

/-- Nothing but a `ParseError` is thrown, and a manifest that is returned has
the numbers that are written. -/
def NumberLaws (text : Text) : Prop :=
  match parseJson text with
  | .error failure => ∃ what, failure = .parseError what
  | .ok m => ManifestNumbers text m

/-- The first reading that is refused is malformed, and where none is refused
all fit their fields. -/
def ReadsExactly (text : Text) : Prop :=
  match (readings text).find? Reading.refused with
  | none => ∀ reading ∈ readings text, reading.Fits
  | some .malformed => True
  | some _ => False

/-! ## Numbers that are read -/

private theorem numeralAt_written {colon : Text} {numeral : Numeral}
    (h : numeralAt colon = some numeral) :
    ∃ (fraction : ℚ) (exponent : Int), (0 ≤ fraction ∧ fraction < 1) ∧
      numeral.written = (numeral.digits + fraction) * 10 ^ exponent := by
  unfold numeralAt at h
  simp only at h
  split at h
  · cases h
  · cases h
    exact ⟨_, _, fractionOf_bounds _, rfl⟩

private theorem field_eq_iff {colon : Text} {numeral : Numeral}
    (h : numeralAt colon = some numeral) (width : Nat) :
    ((numeral.digits % 2 ^ width : Nat) : ℚ) = numeral.written ↔
      (Reading.number numeral width).Fits := by
  obtain ⟨fraction, exponent, hFraction, hWritten⟩ := numeralAt_written h
  rw [Reading.Fits, hWritten]
  exact mod_eq_written_iff hFraction exponent

private theorem reads_extractUintIn (colon : Text) (width : Nat) :
    Reads (extractUintIn colon) [numberReading (numeralAt colon) width]
      fun value => ∃ numeral, numeralAt colon = some numeral ∧
        value.toNat = numeral.digits := by
  unfold extractUintIn numeralAt
  simp only
  split
  · exact reads_malformed _ _
  · split
    · next hLt =>
        simp only [Reads, numberReading, List.find?_singleton,
          Reading.refused, Nat.not_le.mpr hLt, decide_false]
        exact ⟨_, rfl, _, rfl, UInt64.toNat_ofNat_of_lt' hLt⟩
    · next hLarge =>
        simp only [Reads, numberReading, List.find?_singleton,
          Reading.refused, Nat.not_lt.mp hLarge, decide_true, if_true]

private theorem reads_serverNumber (text key : Text) (width : Nat) :
    Reads (serverNumber text key) (serverReadings text key width)
      fun value => ((value.map UInt64.toNat).getD 0 % 2 ^ width : Nat) =
          writtenIn text key ↔
        ∀ reading ∈ serverReadings text key width, reading.Fits := by
  unfold serverNumber serverReadings writtenIn numberIn
  cases find (quoted key) text with
  | none => exact reads_ok (by simp)
  | some k =>
      simp only [Option.bind_some, Option.bind_eq_bind]
      cases find [':'] k with
      | none => exact reads_ok (by simp)
      | some colon =>
          refine (reads_extractUintIn colon width).map _ ?_
          rintro value ⟨numeral, hNumeral, hValue⟩
          simp only [Option.bind_some, hNumeral, Option.map_some,
            Option.getD_some, hValue, numberReading, List.forall_mem_singleton]
          exact field_eq_iff hNumeral width

private theorem reads_requiredNumber (obj key : Text) (width : Nat)
    (missing malformed : String) :
    Reads (requiredNumber obj key missing malformed)
      [numberReading (numberIn obj key) width] fun value =>
        ∃ numeral, numberIn obj key = some numeral ∧
          value.toNat = numeral.digits ∧
          (((value.toNat % 2 ^ width : Nat) : ℚ) = writtenIn obj key ↔
            (Reading.number numeral width).Fits) := by
  unfold requiredNumber writtenIn numberIn
  cases find (quoted key) obj with
  | none => exact reads_malformed _ _
  | some k =>
      simp only [Option.bind_some, Option.bind_eq_bind]
      cases find [':'] k with
      | none => exact reads_malformed _ _
      | some colon =>
          refine (reads_extractUintIn colon width).mono ?_
          rintro value ⟨numeral, hNumeral, hValue⟩
          refine ⟨numeral, hNumeral, hValue, ?_⟩
          simp only [Option.bind_some, hNumeral, Option.map_some,
            Option.getD_some, hValue]
          exact field_eq_iff hNumeral width

/-! ## Entries -/

private theorem extractStrIn_error {text : Text} {failure : ParseFailure}
    (h : extractStrIn text = .error failure) :
    ∃ what, failure = .parseError what := by
  unfold extractStrIn at h
  split at h
  · cases h
    exact ⟨_, rfl⟩
  · split at h
    · cases h
      exact ⟨_, rfl⟩
    · cases h

private theorem reads_optionalString (obj key : Text) :
    Reads (optionalString obj key) (stringReadings obj key)
      fun _ => ∀ reading ∈ stringReadings obj key, reading.Fits := by
  unfold stringReadings
  cases hString : optionalString obj key with
  | ok text => exact reads_ok (by simp)
  | error failure =>
      unfold optionalString at hString
      split at hString
      · cases hString
      · obtain ⟨what, rfl⟩ := extractStrIn_error hString
        exact reads_malformed what _

private theorem reads_streamKeyField (obj : Text) :
    Reads (streamKeyField obj) [keyReading obj] fun key =>
      (keyIn obj).map keyNumber = some (key.toNat : Int) ↔
        ∀ reading ∈ [keyReading obj], reading.Fits := by
  unfold streamKeyField keyReading keyIn
  cases find (quoted "stream_key".toList) obj with
  | none => exact reads_malformed _ _
  | some place =>
      simp only [Option.bind_some, Option.bind_eq_bind]
      cases hString : extractStrIn (place.drop 12) with
      | error failure =>
          obtain ⟨what, rfl⟩ := extractStrIn_error hString
          exact reads_malformed what _
      | ok text =>
          change Reads (parseStreamKey text) [match parseStreamKey text with
            | .error _ => .malformed
            | .ok _ => .key text] _
          cases hKey : parseStreamKey text with
          | error failure =>
              unfold parseStreamKey at hKey
              split at hKey
              · cases hKey
              · cases hKey
                exact reads_malformed _ _
          | ok key =>
              refine ⟨key, rfl, ?_⟩
              simp only [Except.toOption, hKey, Option.map_some,
                Option.some.injEq, List.forall_mem_singleton]
              exact eq_comm.trans (key_eq_iff hKey)

private theorem reads_bus {α : Type} {obj : Text} {rest : List Reading}
    {Q : α → Prop} {f : UInt64 → Except ParseFailure α}
    (missing malformed : String) (what : UInt64 → String)
    (h : ∀ busVal : UInt64,
      ((busVal.toUInt16.toNat : ℚ) = writtenIn obj "byte_bus_id".toList ↔
        ∀ reading ∈ busReadings obj, reading.Fits) →
          Reads (f busVal) rest Q) :
    Reads (requiredNumber obj "byte_bus_id".toList missing malformed >>=
        fun busVal =>
          if 0xFF < busVal then .error (.parseError (what busVal))
          else f busVal)
      (busReadings obj ++ rest) Q := by
  rw [busReadings, List.cons_append]
  refine (reads_requiredNumber obj _ 8 missing malformed).bind
    fun busVal hBus => ?_
  obtain ⟨numeral, hNumeral, hValue, hFits⟩ := hBus
  have hRange : 0xFF < busVal ↔ 0xFF < numeral.digits := by
    rw [UInt64.lt_iff_toNat_lt, hValue]
    rfl
  simp only [hNumeral, Option.any_some]
  by_cases hOut : 0xFF < busVal
  · rw [if_pos hOut, if_pos (by simpa using hRange.mp hOut)]
    exact reads_malformed _ _
  · have hIn := mt hRange.mpr hOut
    rw [if_neg hOut, if_neg (by simpa using hIn)]
    refine h busVal ?_
    have hWhole : busVal.toUInt16.toNat = busVal.toNat % 2 ^ 8 := by
      rw [UInt64.toNat_toUInt16, hValue]
      omega
    rw [hWhole, hFits, busReadings]
    simp only [hNumeral, Option.any_some, decide_eq_true_eq, if_neg hIn,
      List.forall_mem_singleton]
    rfl

private theorem reads_endpoint (obj : Text) :
    Reads (parseEndpointEntry obj) (endpointReadings obj) fun e =>
      EndpointNumbers obj e ↔
        ∀ reading ∈ endpointReadings obj, reading.Fits := by
  unfold parseEndpointEntry endpointReadings
  refine (reads_streamKeyField obj).bind fun streamKey hKey => ?_
  refine reads_bus _ _ _ fun busVal hBus => ?_
  refine (reads_optionalString obj _).bind fun priority hPriority => ?_
  refine (reads_optionalString obj _).map _ fun extra hExtra => ?_
  simp only [List.forall_mem_append]
  rw [← hKey, ← hBus]
  constructor
  · exact fun h => ⟨h.streamKey, h.byteBusId, hPriority, hExtra⟩
  · exact fun h => ⟨h.1, h.2.1⟩

private theorem reads_pin (obj : Text) :
    Reads (parseHwPinEntry obj) (pinReadings obj) fun p =>
      PinNumbers obj p ↔ ∀ reading ∈ pinReadings obj, reading.Fits := by
  unfold parseHwPinEntry pinReadings
  refine (reads_requiredNumber obj _ 8 _ _).bind fun nr hNr => ?_
  refine (reads_requiredNumber obj _ 8 _ _).map _ fun pinNr hPinNr => ?_
  obtain ⟨numeral, hNumeral, -, hFits⟩ := hNr
  obtain ⟨pinNumeral, hPinNumeral, -, hPinFits⟩ := hPinNr
  rw [List.forall_mem_append, List.forall_mem_singleton,
    List.forall_mem_singleton, hNumeral, hPinNumeral]
  change _ ↔ (Reading.number numeral 8).Fits ∧
    (Reading.number pinNumeral 8).Fits
  rw [← hFits, ← hPinFits]
  exact ⟨fun h => ⟨h.hwEpNr, h.hwEpPinNr⟩, fun h => ⟨h.1, h.2⟩⟩

/-! ## The document -/

section

variable {m : Manifest} {obj : Text}

private theorem parseObject_of_isPin (h : isPin obj = true) :
    parseObject m obj = (fun p => { m with hwPinMap := m.hwPinMap ++ [p] }) <$>
      parseHwPinEntry obj := by
  unfold isPin at h
  unfold parseObject
  rw [if_pos h]
  rfl

private theorem parseObject_of_isEndpoint (h : isEndpoint obj = true) :
    parseObject m obj =
      (fun e => { m with endpoints := m.endpoints ++ [e] }) <$>
        parseEndpointEntry obj := by
  simp only [isEndpoint, isPin, Bool.and_eq_true, Bool.not_eq_true',
    Bool.or_eq_true] at h
  unfold parseObject
  rw [if_neg (ne_true_of_eq_false h.1), if_pos h.2]
  rfl

private theorem parseObject_of_neither (hPin : isPin obj = false)
    (hEndpoint : isEndpoint obj = false) : parseObject m obj = .ok m := by
  simp only [isEndpoint, hPin, Bool.not_false, Bool.true_and,
    Bool.or_eq_false_iff] at hEndpoint
  unfold isPin at hPin
  unfold parseObject
  rw [if_neg (ne_true_of_eq_false hPin),
    if_neg (not_or.mpr ⟨ne_true_of_eq_false hEndpoint.1,
      ne_true_of_eq_false hEndpoint.2⟩)]

end

private theorem objects_eq (text : Text) :
    objects text =
      match find ['{'] text with
      | none => []
      | some pos =>
          match find ['}'] pos with
          | none => []
          | some close =>
              between pos (close.drop 1) :: objects (close.drop 1) := by
  rw [objects]
  split
  · next hOpen => rw [hOpen]
  · next pos hOpen =>
      rw [hOpen]
      simp only []
      split
      · next hClose => rw [hClose]
      · next close hClose => rw [hClose]

private theorem parseObjects_eq_foldlM (m : Manifest) (text : Text) :
    parseObjects m text = (objects text).foldlM parseObject m := by
  induction text using objects.induct generalizing m with
  | case1 text hOpen =>
      rw [parseObjects_eq, objects_eq, hOpen]
      rfl
  | case2 text pos hOpen hClose =>
      rw [parseObjects_eq, objects_eq, hOpen]
      simp only [hClose]
      rfl
  | case3 text pos hOpen close hClose ih =>
      rw [parseObjects_eq, objects_eq, hOpen]
      simp only [hClose, ih]
      rfl

def Adds (objs : List Text) (m m' : Manifest)
    (pins : List HwPinManifestEntry)
    (endpoints : List EndpointManifestEntry) : Prop :=
  m' = { m with
      hwPinMap := m.hwPinMap ++ pins
      endpoints := m.endpoints ++ endpoints } ∧
    (List.Forall₂ PinNumbers (objs.filter isPin) pins ∧
        List.Forall₂ EndpointNumbers (objs.filter isEndpoint) endpoints ↔
      ∀ reading ∈ objs.flatMap objectReadings, reading.Fits)

private theorem isEndpoint_of_isPin {obj : Text} (h : isPin obj = true) :
    isEndpoint obj = false := by
  simp [isEndpoint, h]

private theorem reads_objects (objs : List Text) (m : Manifest) :
    Reads (objs.foldlM parseObject m) (objs.flatMap objectReadings)
      fun m' => ∃ pins endpoints, Adds objs m m' pins endpoints := by
  induction objs generalizing m with
  | nil => exact reads_ok ⟨[], [], by simp, by simp⟩
  | cons obj objs ih =>
      rw [List.foldlM_cons, List.flatMap_cons]
      cases hPin : isPin obj with
      | true =>
          have hReadings : objectReadings obj = pinReadings obj := by
            rw [objectReadings, if_pos hPin]
          have hFirst : Reads (parseObject m obj) (pinReadings obj)
              fun middle => ∃ p, middle =
                  { m with hwPinMap := m.hwPinMap ++ [p] } ∧
                (PinNumbers obj p ↔
                  ∀ reading ∈ pinReadings obj, reading.Fits) := by
            rw [parseObject_of_isPin hPin]
            exact (reads_pin obj).map _ fun p hp => ⟨p, rfl, hp⟩
          rw [hReadings]
          refine hFirst.bind fun middle ⟨p, hMiddle, hp⟩ => ?_
          refine (ih middle).mono fun m' => ?_
          rintro ⟨pins, endpoints, hSame, hFits⟩
          refine ⟨p :: pins, endpoints, by simp [hSame, hMiddle], ?_⟩
          rw [List.filter_cons_of_pos hPin, List.filter_cons_of_neg
            (ne_true_of_eq_false (isEndpoint_of_isPin hPin)),
            List.forall₂_cons, List.flatMap_cons, hReadings,
            List.forall_mem_append, ← hp, ← hFits, and_assoc]
      | false =>
          cases hEndpoint : isEndpoint obj with
          | true =>
              have hReadings : objectReadings obj = endpointReadings obj := by
                rw [objectReadings, if_neg (ne_true_of_eq_false hPin),
                  if_pos hEndpoint]
              have hFirst : Reads (parseObject m obj) (endpointReadings obj)
                  fun middle => ∃ e, middle =
                      { m with endpoints := m.endpoints ++ [e] } ∧
                    (EndpointNumbers obj e ↔
                      ∀ reading ∈ endpointReadings obj, reading.Fits) := by
                rw [parseObject_of_isEndpoint hEndpoint]
                exact (reads_endpoint obj).map _ fun e he => ⟨e, rfl, he⟩
              rw [hReadings]
              refine hFirst.bind fun middle ⟨e, hMiddle, he⟩ => ?_
              refine (ih middle).mono fun m' => ?_
              rintro ⟨pins, endpoints, hSame, hFits⟩
              refine ⟨pins, e :: endpoints, by simp [hSame, hMiddle], ?_⟩
              rw [List.filter_cons_of_neg (ne_true_of_eq_false hPin),
                List.filter_cons_of_pos hEndpoint, List.forall₂_cons,
                List.flatMap_cons, hReadings, List.forall_mem_append, ← he,
                ← hFits, and_left_comm]
          | false =>
              have hReadings : objectReadings obj = [] := by
                rw [objectReadings, if_neg (ne_true_of_eq_false hPin),
                  if_neg (ne_true_of_eq_false hEndpoint)]
              rw [parseObject_of_neither hPin hEndpoint, hReadings]
              refine (ih m).mono fun m' => ?_
              rintro ⟨pins, endpoints, hSame, hFits⟩
              refine ⟨pins, endpoints, hSame, ?_⟩
              rw [List.filter_cons_of_neg (ne_true_of_eq_false hPin),
                List.filter_cons_of_neg (ne_true_of_eq_false hEndpoint),
                List.flatMap_cons, hReadings]
              exact hFits

private theorem reads_server (text : Text) :
    Reads (parseServerFields text {})
      (serverReadings text "vendor_id".toList 16 ++
        (serverReadings text "device_id".toList 16 ++
          serverReadings text "magic".toList 32))
      fun server => ServerNumbers text server ↔
        ∀ reading ∈ serverReadings text "vendor_id".toList 16 ++
          (serverReadings text "device_id".toList 16 ++
            serverReadings text "magic".toList 32), reading.Fits := by
  have hShort (value : Option UInt64) :
      (value.elim 0 UInt64.toUInt16).toNat =
        (value.map UInt64.toNat).getD 0 % 2 ^ 16 := by
    cases value with
    | none => rfl
    | some value => exact UInt64.toNat_toUInt16 value
  have hLong (value : Option UInt64) :
      (value.elim 0 UInt64.toUInt32).toNat =
        (value.map UInt64.toNat).getD 0 % 2 ^ 32 := by
    cases value with
    | none => rfl
    | some value => exact UInt64.toNat_toUInt32 value
  unfold parseServerFields
  refine (reads_serverNumber text _ 16).bind fun vendorId hVendor => ?_
  refine (reads_serverNumber text _ 16).bind fun deviceId hDevice => ?_
  refine (reads_serverNumber text _ 32).map _ fun magic hMagic => ?_
  rw [List.forall_mem_append, List.forall_mem_append, ← hVendor, ← hDevice,
    ← hMagic, ← hShort, ← hShort, ← hLong]
  exact ⟨fun h => ⟨h.vendorId, h.deviceId, h.magic⟩,
    fun h => ⟨h.1, h.2.1, h.2.2⟩⟩

private theorem reads_parseJson (text : Text) :
    Reads (parseJson text) (readings text) fun m =>
      ManifestNumbers text m ↔
        ∀ reading ∈ readings text, reading.Fits := by
  unfold parseJson readings
  refine (reads_server text).bind fun server hServer => ?_
  rw [parseObjects_eq_foldlM]
  refine (reads_objects (objects text) { server }).mono fun m => ?_
  rintro ⟨pins, endpoints, rfl, hFits⟩
  rw [List.forall_mem_append, ← hServer, ← hFits]
  exact ⟨fun h => ⟨h.server, h.pins, h.endpoints⟩,
    fun h => ⟨h.1, h.2.1, h.2.2⟩⟩

/-- The texts that the laws hold of. -/
theorem numberLaws_iff (text : Text) :
    NumberLaws text ↔ ReadsExactly text := by
  have hReads := reads_parseJson text
  unfold Reads at hReads
  split at hReads
  · next hNone =>
      obtain ⟨m, hParsed, hFits⟩ := hReads
      unfold NumberLaws ReadsExactly
      rw [hParsed, hNone]
      exact hFits
  · next hFirst =>
      obtain ⟨what, hParsed⟩ := hReads
      unfold NumberLaws ReadsExactly
      rw [hParsed, hFirst]
      exact iff_of_true ⟨what, rfl⟩ trivial
  · next reading hOther hFirst =>
      unfold NumberLaws ReadsExactly
      rw [hReads, hFirst]
      refine iff_of_false ?_ ?_
      · rintro ⟨what, hWhat⟩
        cases hWhat
      · cases reading with
        | malformed => exact absurd rfl hOther
        | number => exact id
        | key => exact id

def largeVendor : Text :=
  '\x7b' :: ("\"vendor_id\": 65536".toList ++ ['\x7d'])

def largeMagic : Text :=
  '\x7b' :: ("\"magic\": 18446744073709551616".toList ++ ['\x7d'])

theorem largeVendor_not_numberLaws :
    ¬ NumberLaws largeVendor ∧ ¬ NumberLaws largeMagic := by
  constructor
  · have hServer : parseServerFields largeVendor {} = .ok {} := by
      decide
    have hObject : parseObject {} largeVendor = .ok {} := by decide
    have hObjects : parseObjects {} largeVendor = .ok {} := by
      refine (parseObjects_chunk (by decide) {} []).trans ?_
      rw [show '\x7b' :: _ = largeVendor from rfl, hObject]
      exact parseObjects_of_notMem (by simp) {}
    have hParsed : parseJson largeVendor = .ok {} := by
      rw [parseJson, hServer]
      exact hObjects
    intro h
    rw [NumberLaws, hParsed] at h
    exact absurd h.server.vendorId (by decide +kernel)
  · have hServer : parseServerFields largeMagic {} = .error .outOfRange := by
      decide
    intro h
    rw [NumberLaws, parseJson, hServer] at h
    obtain ⟨what, hWhat⟩ := h
    cases hWhat

end CppRcp.Config
