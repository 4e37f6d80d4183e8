import CppRcp.Bringup.Config
import CppRcp.Foundation.JsonText
import Mathlib.Data.List.TakeWhile

/-!
# Reading the values of a manifest

What the searches give on a value that is written as JSON, whatever text
follows it.
-/

namespace CppRcp.Config

open CppRcp.Foundation CppRcp.Foundation.Json

/-! ## Strings and numbers -/

private theorem extractStrIn_quoted {a s : Text} (ha : '"' ∉ a) (hs : '"' ∉ s)
    (text : Text) : extractStrIn (a ++ (quoted s ++ text)) = .ok s := by
  have hOpen := find_char ha (s ++ '"' :: text)
  have hClose := find_char hs text
  rw [quoted_append]
  unfold extractStrIn
  simp only [hOpen, List.drop_one, List.tail_cons, hClose, between_append]

theorem extractStrIn_ok {start s : Text} (h : extractStrIn start = .ok s) :
    ∃ a text, start = a ++ (quoted s ++ text) := by
  unfold extractStrIn at h
  split at h
  · cases h
  · next q1 hOpen =>
      obtain ⟨a, after, rfl, rfl, -⟩ := find_char_some hOpen
      split at h
      · cases h
      · next q2 hClose =>
          obtain ⟨b, text, rfl, hAfter, -⟩ := find_char_some hClose
          rw [List.drop_one, List.tail_cons] at hAfter h
          subst hAfter
          rw [between_append] at h
          cases h
          exact ⟨a, text, by rw [quoted_append]⟩

private theorem extractUintIn_number {c : Char} (hc : c.isDigit = false)
    {n : Nat} (hn : n < 2 ^ 64) (text : Text) :
    extractUintIn (':' :: ' ' :: (number n ++ c :: text)) =
      .ok (UInt64.ofNat n) := by
  have hSkip : (' ' :: (number n ++ c :: text)).dropWhile
      (fun d => decide (d = ' ' ∨ d = '\t')) = number n ++ c :: text := by
    obtain ⟨d, digits, hDigits⟩ := List.exists_cons_of_ne_nil (number_ne_nil n)
    have hDigit : d.isDigit = true := by
      apply isDigit_number (n := n)
      simp [hDigits]
    have hNot : ¬ (d = ' ' ∨ d = '\t') := by
      rintro (rfl | rfl) <;> exact absurd hDigit (by decide)
    simp [hDigits, hNot]
  have hDigits : (number n ++ c :: text).takeWhile Char.isDigit =
      number n := by
    rw [List.takeWhile_append_of_pos fun d => isDigit_number]
    simp [hc]
  have hValue : Nat.ofDigitChars 10 (number n) 0 = n :=
    Nat.ofDigitChars_ten_toDigits
  unfold extractUintIn
  simp only [List.drop_one, List.tail_cons, hSkip, hDigits, hValue,
    if_neg (number_ne_nil n), if_pos hn]

theorem extractUintIn_error {c : Char} (hBlank : c ≠ ' ' ∧ c ≠ '\t')
    (hc : c.isDigit = false) (text : Text) :
    ∃ e, extractUintIn (':' :: ' ' :: c :: text) = .error e := by
  refine ⟨.parseError "missing numeric value", ?_⟩
  simp [extractUintIn, hBlank, hc]

/-! ## Stream keys -/

theorem digitValue_eq {c : Char} (h : c.isDigit = true) :
    digitValue c = c.toNat - '0'.toNat ∧ digitValue c < 10 := by
  have hValue : digitValue c = c.toNat - '0'.toNat := by
    simp [digitValue, h]
  have hLe : c.toNat ≤ 57 := by
    simp only [Char.isDigit, Bool.and_eq_true, decide_eq_true_eq] at h
    exact h.2
  have hZero : '0'.toNat = 48 := rfl
  omega

private theorem digitsValue_number (n : Nat) : digitsValue 10 (number n) = n :=
    by
  have hSame : ∀ digits : Text, (∀ c ∈ digits, c.isDigit = true) →
      ∀ value, digits.foldl (fun value c => 10 * value + digitValue c) value =
        Nat.ofDigitChars 10 digits value := by
    intro digits h
    induction digits with
    | nil => simp
    | cons c digits ih =>
        rw [List.forall_mem_cons] at h
        intro value
        rw [List.foldl_cons, ih h.2, Nat.ofDigitChars_cons,
          (digitValue_eq h.1).1]
  rw [digitsValue, hSame (number n) fun c => isDigit_number]
  exact Nat.ofDigitChars_ten_toDigits

private theorem signPrefix_of_isDigit {c : Char} (h : c.isDigit = true)
    (text : Text) : signPrefix (c :: text) = (false, c :: text) := by
  have hMinus : c ≠ '-' := by
    rintro rfl
    exact absurd h (by decide)
  have hPlus : c ≠ '+' := by
    rintro rfl
    exact absurd h (by decide)
  simp [signPrefix, hMinus, hPlus]

private theorem basePrefix_of_ne {c : Char} (h : c ≠ '0') (text : Text) :
    basePrefix (c :: text) = (10, c :: text) := by
  simp [basePrefix, h]

private theorem stoull_number {n : Nat} (hn : n < 2 ^ 64) :
    stoull (number n) = some (UInt64.ofNat n, []) := by
  rcases Nat.eq_zero_or_pos n with rfl | hPos
  · decide
  · obtain ⟨c, digits, hNumber, hNonzero⟩ := number_head hPos
    have hDigits : ∀ d ∈ c :: digits, d.isDigit = true := fun d hd =>
      isDigit_number (n := n) (hNumber ▸ hd)
    have hFirst := hDigits c List.mem_cons_self
    have hSpace : isSpace c = false := by
      by_contra hSpace
      rw [Bool.not_eq_false] at hSpace
      simp only [isSpace, decide_eq_true_eq, List.mem_cons,
        List.not_mem_nil, or_false] at hSpace
      rcases hSpace with rfl | rfl | rfl | rfl | rfl | rfl <;> cases hFirst
    have hValid : ∀ d ∈ c :: digits, decide (digitValue d < 10) = true :=
      fun d hd => decide_eq_true (digitValue_eq (hDigits d hd)).2
    have hValue := digitsValue_number n
    rw [hNumber] at hValue ⊢
    have hRange : ¬ (c :: digits = [] ∨ 2 ^ 64 ≤ n) := by
      rw [not_or]
      exact ⟨by simp, Nat.not_le.mpr hn⟩
    unfold stoull
    rw [List.dropWhile_cons_of_neg (by simp [hSpace])]
    simp only [signPrefix_of_isDigit hFirst, basePrefix_of_ne hNonzero,
      List.takeWhile_eq_self_iff.mpr hValid,
      List.dropWhile_eq_nil_iff.mpr hValid, hValue, if_neg hRange]
    rfl

private theorem parseStreamKey_number (key : UInt64) :
    parseStreamKey (number key.toNat) = .ok key := by
  unfold parseStreamKey
  rw [stoull_number key.toNat_lt, UInt64.ofNat_toNat]

/-! ## Named bits -/

def bitsOf (names : List NamedBit) (listed : List Text) : UInt8 :=
  names.foldl (fun out named =>
    if named.name ∈ listed then out ||| named.bit else out) 0

def namesOf (names : List NamedBit) (bits : UInt8) : List Text :=
  (names.filter fun named => bits &&& named.bit = named.bit).map NamedBit.name

def Stands (k start stop : Text) : Prop :=
  ∃ pos, find (quoted k) start = some pos ∧ stop.length < pos.length

theorem orNamedBits_eq {names : List NamedBit} {listed : List Text}
    {start stop : Text}
    (h : ∀ named ∈ names, Stands named.name start stop ↔ named.name ∈ listed) :
    orNamedBits start stop 0 names = bitsOf names listed := by
  refine List.foldl_ext _ _ 0 fun out named hNamed => ?_
  have hStands := h named hNamed
  unfold Stands at hStands
  split
  · next pos hPos => simp [← hStands, hPos]
  · next hNone => simp [← hStands, hNone]

theorem not_stands {k a text stop : Text} (h : Passes (quoted k) a)
    (hStop : text.length ≤ stop.length) : ¬ Stands k (a ++ text) stop := by
  rintro ⟨pos, hPos, hBefore⟩
  rw [h] at hPos
  have hPlace := length_of_find hPos
  omega

theorem map_string {listed : List Text} (h : ∀ s ∈ listed, IsName s) :
    listed.map string = listed.map quoted :=
  List.map_congr_left fun s hs => string_of_isName (h s hs)

theorem lacks_names {k : Text} {listed : List Text} (hk : IsName k)
    (hListed : ∀ s ∈ listed, IsName s) (hNotMem : k ∉ listed) :
    ∀ v ∈ listed.map string, Lacks k v := by
  rw [map_string hListed, List.forall_mem_map]
  intro s hs
  exact lacks_quoted hk ((hListed s hs).notMem (by decide)) fun hSame =>
    hNotMem (hSame ▸ hs)

theorem stands_names_iff {k : Text} {listed : List Text} (hk : IsName k)
    (hListed : ∀ s ∈ listed, IsName s) (text : Text) :
    Stands k (items ']' (listed.map string) ++ text) (']' :: text) ↔
      k ∈ listed := by
  constructor
  · intro hStands
    by_contra hNotMem
    exact not_stands (passes_items (by decide) (lacks_names hk hListed hNotMem))
      (by simp) hStands
  · intro hMem
    obtain ⟨before, after, rfl, hFirst⟩ := List.eq_append_cons_of_mem hMem
    have hBefore := lacks_names hk
      (fun s hs => hListed s (List.mem_append_left _ hs)) hFirst
    refine ⟨quoted k ++ (tail ']' (after.map string) ++ text), ?_, ?_⟩
    · rw [List.map_append, List.map_cons, find_items (by decide) hBefore,
        string_of_isName hk]
      exact find_quoted_self k _
    · have hLength := lt_length_tail ']' (after.map string) text
      simp only [quoted, List.length_append, List.length_cons] at hLength ⊢
      omega

theorem findArraySpan_open {a text stop : Text} (ha : '[' ∉ a)
    (h : find [']'] ('[' :: text) = some stop) :
    findArraySpan (a ++ '[' :: text) = some (text, stop) := by
  unfold findArraySpan
  rw [find_char ha]
  simp only [h, List.drop_one, List.tail_cons]

theorem findArraySpan_array {a : Text} {vs : List Text} (ha : '[' ∉ a)
    (hvs : ∀ v ∈ vs, ']' ∉ v) (text : Text) :
    findArraySpan (a ++ (array vs ++ text)) =
      some (items ']' vs ++ text, ']' :: text) := by
  have hOver : ']' ∉ ['['] := by decide
  refine findArraySpan_open ha ?_
  rw [← find_close (by decide) (by decide) hvs text]
  exact find_over hOver (items ']' vs ++ text)

theorem isName_of_mem_namesOf {names : List NamedBit} {bits : UInt8}
    (h : ∀ named ∈ names, IsName named.name) :
    ∀ s ∈ namesOf names bits, IsName s := by
  simp only [namesOf, List.forall_mem_map, List.mem_filter]
  exact fun named hNamed => h named hNamed.1

theorem namedBitsField_array {names : List NamedBit} {listed : List Text}
    {key text json : Text} (hKey : IsName key)
    (hNames : ∀ named ∈ names, IsName named.name)
    (hListed : ∀ s ∈ listed, IsName s)
    (hFind : find (quoted key) json =
      some (quoted key ++ ':' :: ' ' :: (array (listed.map string) ++ text))) :
    namedBitsField json key 0 names = bitsOf names listed := by
  have hBefore : '[' ∉ quoted key ++ [':', ' '] := by
    simp [quoted, hKey.notMem (c := '[') (by decide)]
  have hClose : ∀ v ∈ listed.map string, ']' ∉ v := by
    rw [map_string hListed, List.forall_mem_map]
    intro s hs
    simp [quoted, (hListed s hs).notMem (c := ']') (by decide)]
  have hSpan := findArraySpan_array hBefore hClose text
  rw [List.append_assoc, List.cons_append, List.cons_append,
    List.nil_append] at hSpan
  unfold namedBitsField
  simp only [hFind, hSpan]
  exact orNamedBits_eq fun named hNamed =>
    stands_names_iff (hNames named hNamed) hListed text

/-! ## Fields -/

section

variable {k v json obj rest : Text}

theorem find_field (before : List Text) (k v : Text) (after : List Text)
    (h : ∀ m ∈ before, Lacks k m) (text : Text) :
    find (quoted k) (object (before ++ member k v :: after) ++ text) =
      some (quoted k ++ ':' :: ' ' :: (v ++ (tail '}' after ++ text))) :=
  (find_object h _ after text).trans (find_member k v _)

private theorem find_field_nil (before : List Text) (k v : Text)
    (after : List Text) (h : ∀ m ∈ before, Lacks k m) :
    find (quoted k) (object (before ++ member k v :: after)) =
      some (quoted k ++ ':' :: ' ' :: (v ++ (tail '}' after ++ []))) := by
  have hFind := find_field before k v after h []
  rwa [List.append_nil] at hFind

private theorem find_colon (hk : IsName k) (text : Text) :
    find [':'] (quoted k ++ ':' :: text) = some (':' :: text) :=
  find_char (by simp [quoted, hk.notMem (c := ':') (by decide)]) text

private theorem extractUintIn_tail {n : Nat} (hn : n < 2 ^ 64)
    (after : List Text) (text : Text) :
    extractUintIn (':' :: ' ' :: (number n ++ (tail '}' after ++ text))) =
      .ok (UInt64.ofNat n) := by
  obtain ⟨c, rest, hTail, hc⟩ := tail_append '}' after text
  rw [hTail]
  refine extractUintIn_number ?_ hn rest
  rcases hc with rfl | rfl <;> decide

theorem serverNumber_eq {n : Nat} {after : List Text} (hk : IsName k)
    (hn : n < 2 ^ 64)
    (hFind : find (quoted k) json = some (quoted k ++ ':' :: ' ' ::
      (number n ++ (tail '}' after ++ rest)))) :
    serverNumber json k = .ok (some (UInt64.ofNat n)) := by
  unfold serverNumber
  simp only [hFind, find_colon hk, extractUintIn_tail hn after rest]
  rfl

private theorem requiredNumber_eq {n : Nat} {after : List Text} (hk : IsName k)
    (hn : n < 2 ^ 64)
    (hFind : find (quoted k) obj = some (quoted k ++ ':' :: ' ' ::
      (number n ++ (tail '}' after ++ rest)))) (missing malformed : String) :
    requiredNumber obj k missing malformed = .ok (UInt64.ofNat n) := by
  unfold requiredNumber
  simp only [hFind, find_colon hk, extractUintIn_tail hn after rest]

private theorem drop_quoted (k text : Text) :
    (quoted k ++ text).drop (k.length + 2) = text :=
  List.drop_left' (by simp [quoted])

private theorem extractStrIn_field (k : Text) {s : Text} (hs : '"' ∉ s)
    (rest : Text) :
    extractStrIn ((quoted k ++ ':' :: ' ' :: (quoted s ++ rest)).drop
      (k.length + 2)) = .ok s := by
  have hBlank : '"' ∉ [':', ' '] := by decide
  rw [drop_quoted]
  exact extractStrIn_quoted hBlank hs rest

private theorem optionalString_eq {s : Text} (hs : '"' ∉ s)
    (hFind : find (quoted k) obj =
      some (quoted k ++ ':' :: ' ' :: (quoted s ++ rest))) :
    optionalString obj k = .ok s := by
  unfold optionalString
  simp only [hFind]
  exact extractStrIn_field k hs rest

end

/-! ## Hardware pins -/

def HwPinManifestEntry.toJson (p : HwPinManifestEntry) : Text :=
  object
    [member "hw_ep_nr".toList (number p.hwEpNr.toNat),
      member "hw_ep_pin_nr".toList (number p.hwEpPinNr.toNat),
      member "hw_pin_type".toList
        (array ((namesOf pinPropNames p.hwPinType).map string))]

def Named (names : List NamedBit) (bits : UInt8) : Prop :=
  bitsOf names (namesOf names bits) = bits

instance (names : List NamedBit) (bits : UInt8) :
    Decidable (Named names bits) :=
  inferInstanceAs (Decidable (_ = _))

theorem isName_pinPropNames : ∀ named ∈ pinPropNames, IsName named.name := by
  decide

theorem isName_optionBitNames :
    ∀ named ∈ optionBitNames, IsName named.name := by
  decide

theorem lacks_numberField {k key : Text} (hk : IsName k) (hKey : IsName key)
    (hNe : key ≠ k) (n : Nat) : Lacks k (member key (number n)) :=
  (lacks_number k n).member hk (hKey.notMem (by decide)) hNe

private theorem parseHwPinEntry_toJson (p : HwPinManifestEntry) :
    parseHwPinEntry p.toJson = .ok { p with
      hwPinType := bitsOf pinPropNames (namesOf pinPropNames p.hwPinType) } := by
  let nr := member "hw_ep_nr".toList (number p.hwEpNr.toNat)
  let pinNr := member "hw_ep_pin_nr".toList (number p.hwEpPinNr.toNat)
  let type := array ((namesOf pinPropNames p.hwPinType).map string)
  have hNr : find (quoted "hw_ep_nr".toList) p.toJson = some _ :=
    find_field_nil [] _ (number p.hwEpNr.toNat)
      [pinNr, member "hw_pin_type".toList type] (by simp)
  have hPinNr : find (quoted "hw_ep_pin_nr".toList) p.toJson = some _ :=
    find_field_nil [nr] _ (number p.hwEpPinNr.toNat)
      [member "hw_pin_type".toList type] (by
        rw [List.forall_mem_singleton]
        exact lacks_numberField (by decide) (by decide) (by decide) _)
  have hType : find (quoted "hw_pin_type".toList) p.toJson = some _ :=
    find_field_nil [nr, pinNr] _ type [] (by
      rw [List.forall_mem_cons, List.forall_mem_singleton]
      exact ⟨lacks_numberField (by decide) (by decide) (by decide) _,
        lacks_numberField (by decide) (by decide) (by decide) _⟩)
  have hWidth (n : UInt8) : n.toNat < 2 ^ 64 :=
    n.toNat_lt.trans (by decide)
  unfold parseHwPinEntry
  rw [requiredNumber_eq (by decide) (hWidth _) hNr,
    requiredNumber_eq (by decide) (hWidth _) hPinNr,
    namedBitsField_array (by decide) isName_pinPropNames
      (isName_of_mem_namesOf isName_pinPropNames) hType]
  simp [Bind.bind, Except.bind, Pure.pure, Except.pure]

theorem parseObject_hwPin (m : Manifest) (p : HwPinManifestEntry) :
    parseObject m p.toJson = .ok { m with
      hwPinMap := m.hwPinMap ++ [{ p with
        hwPinType :=
          bitsOf pinPropNames (namesOf pinPropNames p.hwPinType) }] } := by
  have hNr : find (quoted "hw_ep_nr".toList) p.toJson = some _ :=
    find_field_nil [] _ (number p.hwEpNr.toNat) _ (by simp)
  unfold parseObject
  rw [hNr, Option.isSome_some, if_pos rfl, parseHwPinEntry_toJson]
  rfl

/-! ## Endpoints -/

def EndpointManifestEntry.toJson (e : EndpointManifestEntry) : Text :=
  object
    [member "stream_key".toList (string (number e.streamKey.toNat)),
      member "byte_bus_id".toList (number e.byteBusId.toNat),
      member "priority".toList (string e.priority),
      member "extra".toList (string e.extra)]

def EndpointManifestEntry.strings (e : EndpointManifestEntry) : List Text :=
  [e.priority, e.extra]

private theorem lacks_stringField {k key s : Text} (hk : IsName k)
    (hKey : IsName key) (hNe : key ≠ k) (hs : '"' ∉ s)
    (hString : escaped s ≠ k) : Lacks k (member key (string s)) :=
  (lacks_quoted hk (notMem_escaped (.inl rfl) hs) hString).member hk
    (hKey.notMem (by decide)) hNe

theorem lacks_keyFields {k : Text} (hk : IsName k)
    (hStream : "stream_key".toList ≠ k) (hBus : "byte_bus_id".toList ≠ k)
    (e : EndpointManifestEntry) :
    ∀ m ∈ [member "stream_key".toList (string (number e.streamKey.toNat)),
      member "byte_bus_id".toList (number e.byteBusId.toNat)], Lacks k m := by
  rw [List.forall_mem_cons, List.forall_mem_singleton]
  constructor
  · refine lacks_stringField hk (by decide) hStream
      (notMem_number (by decide) _) ?_
    rw [escaped_number]
    exact number_ne hk _
  · exact lacks_numberField hk (by decide) hBus _

section

variable {e : EndpointManifestEntry}

/-- The string that is read as the extra data: a priority that has the name of
the field stands before it. -/
def EndpointManifestEntry.extraRead (e : EndpointManifestEntry) : Text :=
  if escaped e.priority = "extra".toList then "extra".toList
  else escaped e.extra

private theorem lacks_member_strings {k : Text} (hk : IsName k)
    (hPriorityNe : "priority".toList ≠ k) (hPriority : '"' ∉ e.priority)
    (h : escaped e.priority ≠ k) (hStream : "stream_key".toList ≠ k)
    (hBus : "byte_bus_id".toList ≠ k) :
    ∀ m ∈ [member "stream_key".toList (string (number e.streamKey.toNat)),
      member "byte_bus_id".toList (number e.byteBusId.toNat),
      member "priority".toList (string e.priority)], Lacks k m := by
  have hFields := lacks_keyFields hk hStream hBus e
  rw [List.forall_mem_cons, List.forall_mem_singleton] at hFields
  rw [List.forall_mem_cons, List.forall_mem_cons, List.forall_mem_singleton]
  exact ⟨hFields.1, hFields.2,
    lacks_stringField hk (by decide) hPriorityNe hPriority h⟩

private theorem find_at_priority {k : Text} (hk : IsName k)
    (hPriorityNe : "priority".toList ≠ k) (hStream : "stream_key".toList ≠ k)
    (hBus : "byte_bus_id".toList ≠ k) (h : escaped e.priority = k) :
    find (quoted k) e.toJson = some (quoted k ++ ',' :: ' ' ::
      (quoted "extra".toList ++ ':' :: ' ' :: (string e.extra ++ ['}']))) := by
  have hString : string e.priority = quoted k := congrArg quoted h
  have hObject := find_object (lacks_keyFields hk hStream hBus e)
    (member "priority".toList (string e.priority))
    [member "extra".toList (string e.extra)] []
  rw [find_in_member hk (by decide) hPriorityNe, List.append_nil] at hObject
  refine hObject.trans ?_
  rw [hString, find_quoted_self]
  simp [tail, member]

private theorem find_at_extra {k : Text} (hk : IsName k)
    (hPriorityNe : "priority".toList ≠ k) (hStream : "stream_key".toList ≠ k)
    (hBus : "byte_bus_id".toList ≠ k) (hExtraNe : "extra".toList ≠ k)
    (hPriority : '"' ∉ e.priority) (hNot : escaped e.priority ≠ k)
    (h : escaped e.extra = k) :
    find (quoted k) e.toJson = some (quoted k ++ ['}']) := by
  have hString : string e.extra = quoted k := congrArg quoted h
  have hObject := find_object (lacks_member_strings hk hPriorityNe hPriority
    hNot hStream hBus) (member "extra".toList (string e.extra)) [] []
  rw [find_in_member hk (by decide) hExtraNe, List.append_nil] at hObject
  refine hObject.trans ?_
  rw [hString, find_quoted_self, tail, List.append_nil]

private theorem optionalString_extra (hPriority : '"' ∉ e.priority)
    (hExtra : '"' ∉ e.extra) :
    optionalString e.toJson "extra".toList = .ok e.extraRead := by
  have hKey : IsName "extra".toList := by decide
  unfold EndpointManifestEntry.extraRead
  split
  · next hName =>
      -- The search stops at the priority; the next string is the name itself.
      have hFind := find_at_priority hKey (by decide) (by decide) (by decide)
        hName
      have hComma : '"' ∉ [',', ' '] := by decide
      unfold optionalString
      simp only [hFind]
      exact extractStrIn_quoted hComma (hKey.notMem (by decide)) _
  · next hName =>
      exact optionalString_eq (notMem_escaped (.inl rfl) hExtra)
        (find_field_nil _ _ _ [] (lacks_member_strings hKey (by decide)
          hPriority hName (by decide) (by decide)))

theorem parseEndpointEntry_toJson (hPriority : '"' ∉ e.priority)
    (hExtra : '"' ∉ e.extra) :
    parseEndpointEntry e.toJson =
      if 0xFF < e.byteBusId then
        .error (.parseError ("byte_bus_id out of range: " ++
          toString (UInt64.ofNat e.byteBusId.toNat)))
      else
        .ok { e with
          priority := escaped e.priority
          extra := e.extraRead } := by
  have hStream : find (quoted "stream_key".toList) e.toJson = some _ :=
    find_field_nil [] _ (string (number e.streamKey.toNat)) _ (by simp)
  have hBus : find (quoted "byte_bus_id".toList) e.toJson = some _ :=
    find_field_nil [_] _ (number e.byteBusId.toNat) _ (by
      rw [List.forall_mem_singleton]
      refine lacks_stringField (by decide) (by decide) (by decide)
        (notMem_number (by decide) e.streamKey.toNat) ?_
      rw [escaped_number]
      exact number_ne (by decide) _)
  have hField : find (quoted "priority".toList) e.toJson = some _ :=
    find_field_nil _ _ (string e.priority) _
      (lacks_keyFields (by decide) (by decide) (by decide) e)
  have hKey : streamKeyField e.toJson = .ok e.streamKey := by
    have hText (rest : Text) : extractStrIn ((quoted "stream_key".toList ++
        ':' :: ' ' :: (quoted (number e.streamKey.toNat) ++ rest)).drop 12) =
          .ok (number e.streamKey.toNat) :=
      extractStrIn_field "stream_key".toList (notMem_number (by decide) _) rest
    rw [string, escaped_number] at hStream
    unfold streamKeyField
    simp only [hStream, hText]
    exact parseStreamKey_number e.streamKey
  have hWidth : e.byteBusId.toNat < 2 ^ 64 :=
    e.byteBusId.toNat_lt.trans (by decide)
  have hFits : 0xFF < UInt64.ofNat e.byteBusId.toNat ↔ 0xFF < e.byteBusId := by
    rw [UInt64.lt_iff_toNat_lt, UInt64.toNat_ofNat_of_lt' hWidth,
      UInt16.lt_iff_toNat_lt]
    rfl
  have hNumber : (UInt64.ofNat e.byteBusId.toNat).toUInt16 = e.byteBusId := by
    simp
  unfold parseEndpointEntry
  rw [hKey, requiredNumber_eq (by decide) hWidth hBus,
    optionalString_eq (notMem_escaped (.inl rfl) hPriority) hField,
    optionalString_extra hPriority hExtra]
  change (if _ then _ else _) = _
  by_cases hOut : 0xFF < e.byteBusId
  · rw [if_pos (hFits.mpr hOut), if_pos hOut]
  · rw [if_neg (mt hFits.mp hOut), if_neg hOut, hNumber]
    simp [Bind.bind, Except.bind, Pure.pure, Except.pure]

def EndpointManifestEntry.readBack (e : EndpointManifestEntry) :
    EndpointManifestEntry :=
  { e with priority := escaped e.priority, extra := e.extraRead }

theorem passes_toJson {k : Text} (hk : IsName k)
    (hKeys : ∀ key ∈ ["stream_key".toList, "byte_bus_id".toList,
      "priority".toList, "extra".toList], key ≠ k)
    (hPriority : '"' ∉ e.priority) (hExtra : '"' ∉ e.extra)
    (h : ∀ s ∈ e.strings, escaped s ≠ k) : Passes (quoted k) e.toJson := by
  simp only [List.forall_mem_cons] at hKeys
  obtain ⟨hStream, hBus, hPriorityNe, hExtraNe, -⟩ := hKeys
  rw [EndpointManifestEntry.strings, List.forall_mem_cons,
    List.forall_mem_singleton] at h
  have hFields := lacks_member_strings hk hPriorityNe hPriority h.1 hStream
    hBus
  have hLast := lacks_stringField hk (by decide) hExtraNe hExtra h.2
  exact passes_object (List.forall_mem_append.mpr
    ⟨hFields, List.forall_mem_singleton.mpr hLast⟩)

theorem parseObject_endpoint (m : Manifest) (hPriority : '"' ∉ e.priority)
    (hExtra : '"' ∉ e.extra)
    (h : ∀ s ∈ e.strings, escaped s ≠ "hw_ep_nr".toList) :
    parseObject m e.toJson = (parseEndpointEntry e.toJson).map fun entry =>
      { m with endpoints := m.endpoints ++ [entry] } := by
  have hStream : find (quoted "stream_key".toList) e.toJson = some _ :=
    find_field_nil [] _ (string (number e.streamKey.toNat)) _ (by simp)
  have hNone : find (quoted "hw_ep_nr".toList) e.toJson = none :=
    (passes_toJson (by decide) (by decide) hPriority hExtra h).find_eq_none
  unfold parseObject
  rw [hNone, hStream]
  change parseEndpointEntry e.toJson >>= _ = _
  cases parseEndpointEntry e.toJson <;> rfl

theorem parseObject_misrouted (m : Manifest) (hPriority : '"' ∉ e.priority)
    (h : ∃ s ∈ e.strings, escaped s = "hw_ep_nr".toList) :
    ∃ f, parseObject m e.toJson = .error f := by
  have hName : IsName "hw_ep_nr".toList := by decide
  have hRefused : ∃ place f, find (quoted "hw_ep_nr".toList) e.toJson =
      some place ∧ requiredNumber e.toJson "hw_ep_nr".toList
        "hw_pin_map entry missing hw_ep_nr" "malformed hw_ep_nr" =
          .error f := by
    unfold requiredNumber
    by_cases hFirst : escaped e.priority = "hw_ep_nr".toList
    · -- The next colon is the one of the extra data, which is no number.
      have hFind := find_at_priority hName (by decide) (by decide)
        (by decide) hFirst
      have hColon : ':' ∉ quoted "hw_ep_nr".toList ++
          ',' :: ' ' :: quoted "extra".toList := by decide
      have hValue := find_char hColon (' ' :: (string e.extra ++ ['}']))
      obtain ⟨f, hError⟩ := extractUintIn_error (c := '"') (by decide)
        (by decide) (escaped e.extra ++ ['"'] ++ ['}'])
      refine ⟨_, f, hFind, ?_⟩
      simp only [List.append_assoc, List.cons_append] at hValue
      simp only [hFind, hValue]
      exact hError
    · -- No colon is left in the object.
      have hLast : escaped e.extra = "hw_ep_nr".toList := by
        obtain ⟨s, hs, hSame⟩ := h
        rcases List.mem_pair.mp hs with rfl | rfl
        · exact absurd hSame hFirst
        · exact hSame
      have hFind := find_at_extra hName (by decide) (by decide) (by decide)
        (by decide) hPriority hFirst hLast
      have hColon : find [':'] (quoted "hw_ep_nr".toList ++ ['}']) = none := by
        decide
      refine ⟨_, .parseError "malformed hw_ep_nr", hFind, ?_⟩
      simp only [hFind, hColon]
  obtain ⟨place, f, hPlace, hError⟩ := hRefused
  refine ⟨f, ?_⟩
  unfold parseObject parseHwPinEntry
  rw [hPlace, Option.isSome_some, if_pos rfl, hError]
  rfl

end

end CppRcp.Config
