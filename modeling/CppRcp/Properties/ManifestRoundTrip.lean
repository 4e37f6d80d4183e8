import CppRcp.Properties.ManifestStrings

/-!
# Reading back a manifest

A manifest is read back from its text, with its sections in any order, unless
a string of an endpoint holds a character or a name that one of the searches
stops at.
-/

namespace CppRcp.Config

open CppRcp.Foundation CppRcp.Foundation.Json

def Manifest.strings (m : Manifest) : List Text :=
  m.endpoints.flatMap EndpointManifestEntry.strings

/-! ## The sections that a search goes through -/

section

variable {m : Manifest} {k : Text}

structure ServerName (k : Text) : Prop where
  name : IsName k
  sections : ∀ key ∈ ["server".toList, "hw_pin_map".toList,
    "endpoints".toList], key ≠ k
  hwPins : ∀ key ∈ ["hw_ep_nr".toList, "hw_ep_pin_nr".toList,
    "hw_pin_type".toList], key ≠ k
  properties : ∀ named ∈ pinPropNames, named.name ≠ k
  endpoints : ∀ key ∈ ["stream_key".toList, "byte_bus_id".toList,
    "priority".toList, "extra".toList], key ≠ k

private theorem lacks_hwPinMap (hk : ServerName k) :
    Lacks k (m.section .hwPinMap) := by
  refine Lacks.member hk.name (by decide) (hk.sections _ (by simp)) ?_
  refine .of_passes (passes_array ?_)
  rw [Manifest.objects, List.forall_mem_map]
  exact fun p _ => .of_passes (passes_hwPin hk.name hk.hwPins hk.properties p)

private theorem lacks_endpoints (hk : ServerName k)
    (hQuotes : ∀ e ∈ m.endpoints, e.QuoteFree)
    (h : ∀ s ∈ m.strings, escaped s ≠ k) : Lacks k (m.section .endpoints) := by
  refine Lacks.member hk.name (by decide) (hk.sections _ (by simp)) ?_
  refine .of_passes (passes_array ?_)
  rw [Manifest.objects, List.forall_mem_map]
  intro e he
  exact .of_passes (passes_toJson hk.name hk.endpoints (hQuotes e he).both.1
    (hQuotes e he).both.2 fun s hs => h s (List.mem_flatMap.mpr ⟨e, he, hs⟩))

private theorem find_serverField (before : List Text) (v : Text)
    (after : List Text) {pre post : List Section} (hk : ServerName k)
    (hServer : m.server.toJson = object (before ++ member k v :: after))
    (hBefore : ∀ field ∈ before, Lacks k field)
    (hPre : ∀ s ∈ pre, Lacks k (m.section s)) :
    find (quoted k) (m.toJson (pre ++ .server :: post)) =
      some (quoted k ++ ':' :: ' ' :: (v ++
        (tail '}' after ++ tail '}' (post.map m.section)))) := by
  have hSections : ∀ v ∈ pre.map m.section, Lacks k v := by
    rwa [List.forall_mem_map]
  have hFind := find_object hSections (m.section .server)
    (post.map m.section) []
  rw [List.append_nil, List.append_nil] at hFind
  rw [Manifest.toJson, List.map_append, List.map_cons, hFind,
    Manifest.section, find_in_member hk.name (by decide)
      (hk.sections _ (by simp)), hServer]
  exact find_field before k v after hBefore _

end

/-! ## The fields of the server -/

def numberNames : List Text :=
  ["vendor_id".toList, "device_id".toList, "magic".toList]

def optionsName : Text := "svr_implemented_options".toList

private theorem serverName_number : ∀ k ∈ numberNames, ServerName k := by
  have hEach : ∀ k ∈ numberNames, IsName k ∧
      (∀ key ∈ ["server".toList, "hw_pin_map".toList,
        "endpoints".toList], key ≠ k) ∧
      (∀ key ∈ ["hw_ep_nr".toList, "hw_ep_pin_nr".toList,
        "hw_pin_type".toList], key ≠ k) ∧
      (∀ named ∈ pinPropNames, named.name ≠ k) ∧
      ∀ key ∈ ["stream_key".toList, "byte_bus_id".toList,
        "priority".toList, "extra".toList], key ≠ k := by
    decide
  intro k hk
  obtain ⟨hName, hSections, hPins, hProperties, hFields⟩ := hEach k hk
  exact ⟨hName, hSections, hPins, hProperties, hFields⟩

private theorem serverName_options : ServerName optionsName :=
  ⟨by decide, by decide, by decide, by decide, by decide⟩

section

variable {m : Manifest} {pre post : List Section}

private theorem parseServerFields_toJson
    (hPre : ∀ k ∈ numberNames, ∀ s ∈ pre, Lacks k (m.section s)) :
    parseServerFields (m.toJson (pre ++ .server :: post)) {} =
      .ok { m.server with
        svrImplementedOptions := namedBitsField
          (m.toJson (pre ++ .server :: post)) optionsName 0
            optionBitNames } := by
  have hName := serverName_number
  simp only [numberNames, List.forall_mem_cons] at hName hPre
  obtain ⟨hVendorName, hDeviceName, hMagicName, -⟩ := hName
  obtain ⟨hVendorPre, hDevicePre, hMagicPre, -⟩ := hPre
  let vendorId := member "vendor_id".toList (number m.server.vendorId.toNat)
  let deviceId := member "device_id".toList (number m.server.deviceId.toNat)
  let magic := member "magic".toList (number m.server.magic.toNat)
  let options := member optionsName (array
    ((namesOf optionBitNames m.server.svrImplementedOptions).map string))
  have hVendor : find (quoted "vendor_id".toList)
      (m.toJson (pre ++ .server :: post)) = some _ :=
    find_serverField [] (number m.server.vendorId.toNat)
      [deviceId, magic, options] hVendorName rfl (by simp) hVendorPre
  have hDevice : find (quoted "device_id".toList)
      (m.toJson (pre ++ .server :: post)) = some _ :=
    find_serverField [vendorId] (number m.server.deviceId.toNat)
      [magic, options] hDeviceName rfl (by
        rw [List.forall_mem_singleton]
        exact lacks_numberField (by decide) (by decide) (by decide) _) hDevicePre
  have hMagic : find (quoted "magic".toList)
      (m.toJson (pre ++ .server :: post)) = some _ :=
    find_serverField [vendorId, deviceId] (number m.server.magic.toNat)
      [options] hMagicName rfl (by
        rw [List.forall_mem_cons, List.forall_mem_singleton]
        exact ⟨lacks_numberField (by decide) (by decide) (by decide) _,
          lacks_numberField (by decide) (by decide) (by decide) _⟩) hMagicPre
  have hWidth16 (n : UInt16) : n.toNat < 2 ^ 64 :=
    n.toNat_lt.trans (by decide)
  have hWidth32 (n : UInt32) : n.toNat < 2 ^ 64 :=
    n.toNat_lt.trans (by decide)
  unfold parseServerFields
  rw [serverNumber_eq hVendorName.name (hWidth16 _) hVendor,
    serverNumber_eq hDeviceName.name (hWidth16 _) hDevice,
    serverNumber_eq hMagicName.name (hWidth32 _) hMagic]
  have hNarrow16 (n : UInt16) : (UInt64.ofNat n.toNat).toUInt16 = n := by simp
  have hNarrow32 (n : UInt32) : (UInt64.ofNat n.toNat).toUInt32 = n := by simp
  change Except.ok (ServerManifest.mk
    (UInt64.ofNat m.server.vendorId.toNat).toUInt16
    (UInt64.ofNat m.server.deviceId.toNat).toUInt16
    (UInt64.ofNat m.server.magic.toNat).toUInt32 _) = _
  rw [hNarrow16, hNarrow16, hNarrow32]
  rfl

private theorem options_toJson
    (hPre : ∀ s ∈ pre, Lacks optionsName (m.section s)) :
    namedBitsField (m.toJson (pre ++ .server :: post)) optionsName 0
        optionBitNames =
      bitsOf optionBitNames
        (namesOf optionBitNames m.server.svrImplementedOptions) := by
  let vendorId := member "vendor_id".toList (number m.server.vendorId.toNat)
  let deviceId := member "device_id".toList (number m.server.deviceId.toNat)
  let magic := member "magic".toList (number m.server.magic.toNat)
  have hFind : find (quoted optionsName)
      (m.toJson (pre ++ .server :: post)) = some _ :=
    find_serverField [vendorId, deviceId, magic] (array
      ((namesOf optionBitNames m.server.svrImplementedOptions).map string)) []
      serverName_options rfl (by
        rw [List.forall_mem_cons, List.forall_mem_cons,
          List.forall_mem_singleton]
        exact ⟨lacks_numberField (by decide) (by decide) (by decide) _,
          lacks_numberField (by decide) (by decide) (by decide) _,
          lacks_numberField (by decide) (by decide) (by decide) _⟩) hPre
  exact namedBitsField_array (by decide) isName_optionBitNames
    (isName_of_mem_namesOf isName_optionBitNames) hFind

/-! ## Searches that stop at a string of an endpoint -/

def serverKeys : List Text :=
  optionsName :: numberNames ++ optionBitNames.map NamedBit.name

private theorem foreign_serverKeys : ∀ k ∈ serverKeys, Foreign k := by
  have hEach : ∀ k ∈ serverKeys, IsName k ∧
      ∀ key ∈ ["stream_key".toList, "byte_bus_id".toList,
        "priority".toList, "extra".toList], key ≠ k := by
    decide
  exact fun k hk => ⟨(hEach k hk).1, (hEach k hk).2⟩

private theorem notNumber_tail_sections {order : List Section}
    (h : order ≠ []) :
    NotNumber (tail '}' (order.map m.section)) := by
  cases order with
  | nil => exact absurd rfl h
  | cons s order =>
      have hName (key value : Text) (hKey : IsName key) {c : Char}
          (hBlank : c ≠ ' ' ∧ c ≠ '\t') (hc : c.isDigit = false) :
          NotNumber (tail '}' (member key (c :: value) ::
            order.map m.section)) := by
        have hOver : ':' ∉ ',' :: ' ' :: quoted key := by
          simp [quoted, hKey.notMem (c := ':') (by decide)]
        have hColon := (notNumber_colon hBlank hc
          (value ++ tail '}' (order.map m.section))).over hOver
        simpa [tail, member] using hColon
      cases s with
      | server => exact hName _ _ (by decide) (by decide) (by decide)
      | hwPinMap => exact hName _ _ (by decide) (by decide) (by decide)
      | endpoints => exact hName _ _ (by decide) (by decide) (by decide)

private theorem find_string {k : Text} (hKeys : k ∈ serverKeys)
    (hNe : "endpoints".toList ≠ k) (hPost : post ≠ [])
    (hPre : ∀ s ∈ pre, Lacks k (m.section s))
    (hQuotes : ∀ e ∈ m.endpoints, e.QuoteFree)
    (hPlain : ∀ s ∈ m.strings, escaped s = s) (hMem : k ∈ m.strings) :
    ∃ c after, find (quoted k) (m.toJson (pre ++ .endpoints :: post)) =
        some (quoted k ++ c :: after) ∧ NotNumber (c :: after) ∧
      Holds serverKeys (behind k m.strings) (c :: after)
        (tail '}' (post.map m.section)) := by
  have hk := (foreign_serverKeys k hKeys).name
  have hSections : ∀ v ∈ pre.map m.section, Lacks k v := by
    rwa [List.forall_mem_map]
  have hFind := find_object hSections (m.section .endpoints)
    (post.map m.section) []
  rw [List.append_nil, List.append_nil] at hFind
  have hHolds := holds_items foreign_serverKeys hQuotes (fun e he s hs =>
    hPlain s (List.mem_flatMap.mpr ⟨e, he, hs⟩))
    (notNumber_tail_sections (m := m) hPost)
  obtain ⟨c, after, hPlace, hRest⟩ := hHolds.find_mem hk hKeys hMem
  refine ⟨c, after, ?_, hRest⟩
  have hBracket : '"' ∉ ['['] := by decide
  rw [Manifest.toJson, List.map_append, List.map_cons, hFind,
    Manifest.section, find_in_member hk (by decide) hNe, ← hPlace]
  exact passes_quoted_of_notMem hBracket _

private theorem serverNumber_string {k : Text} (hk : k ∈ numberNames)
    (hPost : post ≠ []) (hPre : ∀ s ∈ pre, Lacks k (m.section s))
    (hQuotes : ∀ e ∈ m.endpoints, e.QuoteFree)
    (hPlain : ∀ s ∈ m.strings, escaped s = s) (hMem : k ∈ m.strings) :
    ∃ f, serverNumber (m.toJson (pre ++ .endpoints :: post)) k =
      .error f := by
  have hName := serverName_number k hk
  have hKeys : k ∈ serverKeys := by simp [serverKeys, hk]
  obtain ⟨c, after, hFind, ⟨place, f, hPlace, hError⟩, -⟩ :=
    find_string hKeys (hName.sections _ (by simp)) hPost hPre hQuotes hPlain hMem
  have hColon : ':' ∉ quoted k :=
    notMem_quoted (by decide) (hName.name.notMem (by decide))
  refine ⟨f, ?_⟩
  unfold serverNumber
  simp only [hFind, find_over hColon, hPlace, hError]
  rfl

def takenForOptions (strings : List Text) : List Text :=
  bracketed (behind optionsName strings)

private theorem namedBitsField_place {json after : Text} {c : Char}
    (hFind : find (quoted optionsName) json =
      some (quoted optionsName ++ c :: after)) :
    namedBitsField json optionsName 0 optionBitNames =
      match findArraySpan (c :: after) with
      | none => 0
      | some (start, stop) => orNamedBits start stop 0 optionBitNames := by
  have hOver : '[' ∉ quoted optionsName := by decide
  unfold namedBitsField
  cases hSpan : findArraySpan (c :: after) with
  | none => simp only [hFind, findArraySpan_over hOver, hSpan]
  | some span => simp only [hFind, findArraySpan_over hOver, hSpan]

private theorem findArraySpan_hwPinMap (post : List Section) :
    ∃ start stop, findArraySpan
        (tail '}' (m.section .hwPinMap :: post.map m.section)) =
          some (start, stop) ∧
      orNamedBits start stop 0 optionBitNames = bitsOf optionBitNames [] := by
  let rest := tail '}' (post.map m.section)
  obtain ⟨body, hBody⟩ := exists_items_eq ']' (m.objects .hwPinMap)
  obtain ⟨stop, hStop, hLength⟩ := find_char_before ']' ('[' :: body) rest
  have hOver : '[' ∉ ',' :: ' ' :: member "hw_pin_map".toList [] := by decide
  have hSpan := findArraySpan_open hOver hStop
  have hText : tail '}' (m.section .hwPinMap :: post.map m.section) =
      ',' :: ' ' :: member "hw_pin_map".toList [] ++
        '[' :: (body ++ ']' :: rest) := by
    simp [tail, Manifest.section, member, array, hBody, rest]
  refine ⟨_, _, hText ▸ hSpan, orNamedBits_eq fun named hNamed => ?_⟩
  have hForeign : ∀ named ∈ optionBitNames, IsName named.name ∧
      (∀ key ∈ ["hw_ep_nr".toList, "hw_ep_pin_nr".toList,
        "hw_pin_type".toList], key ≠ named.name) ∧
      ∀ other ∈ pinPropNames, other.name ≠ named.name := by
    decide
  obtain ⟨hName, hKeys, hProperties⟩ := hForeign named hNamed
  have hPins : Passes (quoted named.name) (items ']' (m.objects .hwPinMap)) := by
    refine passes_items (by decide) ?_
    rw [Manifest.objects, List.forall_mem_map]
    exact fun p _ => .of_passes (passes_hwPin hName hKeys hProperties p)
  have hNot := not_stands hPins (Nat.le_of_lt hLength)
  rw [hBody, List.append_assoc] at hNot
  simpa using hNot

def ServerManifest.lead (s : ServerManifest) : Text :=
  '{' :: (member "vendor_id".toList (number s.vendorId.toNat) ++
    ',' :: ' ' :: (member "device_id".toList (number s.deviceId.toNat) ++
      ',' :: ' ' :: (member "magic".toList (number s.magic.toNat) ++
        ',' :: ' ' :: member "svr_implemented_options".toList [])))

private theorem toJson_server (s : ServerManifest) :
    s.toJson = s.lead ++ (array ((namesOf optionBitNames
      s.svrImplementedOptions).map string) ++ ['}']) := by
  rw [ServerManifest.toJson, ServerManifest.lead]
  simp only [object, items, tail, member, List.cons_append,
    List.append_assoc, List.nil_append]

private theorem notMem_serverLead (s : ServerManifest) : '[' ∉ s.lead := by
  have hField (key : Text) (hKey : '[' ∉ key) (n : Nat) :
      '[' ∉ member key (number n) :=
    notMem_member (by decide) hKey (notMem_number (by decide) n)
  have hOptions : '[' ∉ member "svr_implemented_options".toList [] := by
    decide
  simp only [ServerManifest.lead, List.mem_cons, List.mem_append, not_or]
  exact ⟨by decide, hField _ (by decide) _, by decide, by decide,
    hField _ (by decide) _, by decide, by decide, hField _ (by decide) _,
    by decide, by decide, hOptions⟩

private theorem findArraySpan_server (post : List Section) :
    ∃ start stop, findArraySpan
        (tail '}' (m.section .server :: post.map m.section)) =
          some (start, stop) ∧
      orNamedBits start stop 0 optionBitNames = bitsOf optionBitNames
        (namesOf optionBitNames m.server.svrImplementedOptions) := by
  let listed := namesOf optionBitNames m.server.svrImplementedOptions
  have hListed : ∀ s ∈ listed, IsName s :=
    isName_of_mem_namesOf isName_optionBitNames
  have hOver : '[' ∉ ',' :: ' ' :: member "server".toList m.server.lead := by
    have hLead := notMem_member (c := '[') (by decide)
      (by decide : '[' ∉ "server".toList) (notMem_serverLead m.server)
    rw [List.mem_cons, List.mem_cons, not_or, not_or]
    exact ⟨by decide, by decide, hLead⟩
  have hClose : ∀ v ∈ listed.map string, ']' ∉ v := by
    rw [map_string hListed, List.forall_mem_map]
    exact fun s hs => notMem_quoted (by decide)
      ((hListed s hs).notMem (by decide))
  let rest := '}' :: tail '}' (post.map m.section)
  have hSpan := findArraySpan_array hOver hClose rest
  have hText : tail '}' (m.section .server :: post.map m.section) =
      ',' :: ' ' :: member "server".toList m.server.lead ++
        (array (listed.map string) ++ rest) := by
    rw [tail, Manifest.section, toJson_server]
    simp [member, listed, rest]
  exact ⟨_, _, hText ▸ hSpan, orNamedBits_eq fun named hNamed =>
    stands_names_iff (isName_optionBitNames named hNamed) hListed rest⟩

private theorem options_string (hPost : post ≠ [])
    (hPre : ∀ s ∈ pre, Lacks optionsName (m.section s))
    (hQuotes : ∀ e ∈ m.endpoints, e.QuoteFree)
    (hPlain : ∀ s ∈ m.strings, escaped s = s)
    (hMem : optionsName ∈ m.strings) :
    namedBitsField (m.toJson (pre ++ .endpoints :: post)) optionsName 0
        optionBitNames =
      if ∃ s ∈ behind optionsName m.strings, '[' ∈ s then
        bitsOf optionBitNames (takenForOptions m.strings)
      else
        match findArraySpan (tail '}' (post.map m.section)) with
        | none => 0
        | some (start, stop) => orNamedBits start stop 0 optionBitNames := by
  obtain ⟨c, after, hFind, -, hHolds⟩ := find_string (by decide)
    (by decide) hPost hPre hQuotes hPlain hMem
  rw [namedBitsField_place hFind]
  by_cases hOpen : ∃ s ∈ behind optionsName m.strings, '[' ∈ s
  · obtain ⟨start, stop, hSpan, hStands⟩ := hHolds.span_inside hOpen
    rw [if_pos hOpen, hSpan]
    refine orNamedBits_eq fun named hNamed => ?_
    refine hStands named.name ?_ (isName_optionBitNames named hNamed)
    exact List.mem_cons_of_mem _ (List.mem_append_right _
      (List.mem_map_of_mem hNamed))
  · rw [if_neg hOpen, hHolds.span_behind (by simpa using hOpen)]

private theorem takenForOptions_nil {strings : List Text}
    (h : ¬ ∃ s ∈ behind optionsName strings, '[' ∈ s) :
    takenForOptions strings = [] := by
  have hAll : (behind optionsName strings).dropWhile
      (fun s => decide ('[' ∉ s)) = [] :=
    List.dropWhile_eq_nil_iff.mpr (by simpa using h)
  rw [takenForOptions, bracketed, hAll]

end

/-! ## The law -/

def Plain (s : Text) : Prop := Unescaped s ∧ '}' ∉ s

instance (s : Text) : Decidable (Plain s) :=
  inferInstanceAs (Decidable (_ ∧ _))

/-- A manifest whose text has every part of it where the searches look. -/
structure Manifest.Carried (m : Manifest) : Prop where
  options : Named optionBitNames m.server.svrImplementedOptions
  pins : ∀ p ∈ m.hwPinMap, Named pinPropNames p.hwPinType
  buses : ∀ e ∈ m.endpoints, e.byteBusId ≤ 0xFF
  plain : ∀ s ∈ m.strings, Plain s
  names : ∀ s ∈ m.strings, s ∉ "hw_ep_nr".toList :: numberNames
  extra : ∀ e ∈ m.endpoints, e.priority = "extra".toList →
    e.extra = "extra".toList
  taken : optionsName ∈ m.strings →
    bitsOf optionBitNames (takenForOptions m.strings) =
      m.server.svrImplementedOptions

/-- The manifest is read back from its text in every order of the sections. -/
def Manifest.RoundTrips (m : Manifest) : Prop :=
  ∀ order : List Section, order.Perm [.server, .hwPinMap, .endpoints] →
    parseJson (m.toJson order) = .ok m

section

variable {m : Manifest}

def Manifest.add (m start : Manifest) : Section → Manifest
  | .server => start
  | .hwPinMap => { start with hwPinMap := start.hwPinMap ++ m.hwPinMap }
  | .endpoints => { start with endpoints := start.endpoints ++ m.endpoints }

private theorem mem_strings {e : EndpointManifestEntry} (he : e ∈ m.endpoints)
    {s : Text} (hs : s ∈ e.strings) : s ∈ m.strings :=
  List.mem_flatMap.mpr ⟨e, he, hs⟩

theorem readBack_eq_iff (e : EndpointManifestEntry) :
    e.readBack = e ↔ (∀ s ∈ e.strings, escaped s = s) ∧
      (e.priority = "extra".toList → e.extra = "extra".toList) := by
  have hEscaped : escaped "extra".toList = "extra".toList := by decide
  have hFields : e.readBack = e ↔
      escaped e.priority = e.priority ∧ e.extraRead = e.extra := by
    constructor
    · intro h
      exact ⟨congrArg EndpointManifestEntry.priority h,
        congrArg EndpointManifestEntry.extra h⟩
    · rintro ⟨hPriority, hExtra⟩
      rw [EndpointManifestEntry.readBack, hPriority, hExtra]
  rw [hFields, EndpointManifestEntry.strings, List.forall_mem_cons,
    List.forall_mem_singleton, and_assoc]
  refine and_congr_right fun hPriority => ?_
  rw [EndpointManifestEntry.extraRead, hPriority]
  by_cases hName : e.priority = "extra".toList
  · rw [if_pos hName]
    constructor
    · intro hExtra
      exact ⟨hExtra ▸ hEscaped, fun _ => hExtra.symm⟩
    · intro h
      exact (h.2 hName).symm
  · rw [if_neg hName]
    exact ⟨fun h => ⟨h, fun hSame => absurd hSame hName⟩, fun h => h.1⟩

private theorem foldlM_section (h : m.Carried)
    (hQuotes : ∀ e ∈ m.endpoints, e.QuoteFree) (s : Section)
    (start : Manifest) :
    (m.objects s).foldlM parseObject start = .ok (m.add start s) := by
  cases s with
  | server =>
      rw [Manifest.objects, List.foldlM_cons, parseObject_server]
      rfl
  | hwPinMap =>
      have hSame : m.hwPinMap.map HwPinManifestEntry.readBack = m.hwPinMap := by
        refine (List.map_congr_left fun p hp => ?_).trans (List.map_id _)
        rw [HwPinManifestEntry.readBack, h.pins p hp]
        rfl
      rw [Manifest.objects, foldlM_hwPins, hSame]
      rfl
  | endpoints =>
      have hSame : m.endpoints.map EndpointManifestEntry.readBack =
          m.endpoints := by
        refine (List.map_congr_left fun e he => ?_).trans (List.map_id _)
        refine (readBack_eq_iff e).mpr ⟨fun s hs => ?_, h.extra e he⟩
        exact (escaped_eq_iff s).mpr (h.plain s (mem_strings he hs)).1
      refine (foldlM_endpoints hQuotes start _).mpr ⟨?_, ?_⟩
      · refine fun e he => ⟨fun s hs => ?_, h.buses e he⟩
        rw [(escaped_eq_iff s).mpr (h.plain s (mem_strings he hs)).1]
        exact fun hName => h.names s (mem_strings he hs) (by simp [hName])
      · rw [hSame]
        rfl

private theorem foldlM_sections (h : m.Carried)
    (hQuotes : ∀ e ∈ m.endpoints, e.QuoteFree) (order : List Section)
    (start : Manifest) :
    (order.flatMap m.objects).foldlM parseObject start =
      .ok (order.foldl m.add start) := by
  induction order generalizing start with
  | nil => rfl
  | cons s order ih =>
      rw [List.flatMap_cons, List.foldlM_append, foldlM_section h hQuotes]
      exact ih _

private theorem add_right_comm (m start : Manifest) (a b : Section) :
    m.add (m.add start a) b = m.add (m.add start b) a := by
  cases a <;> cases b <;> rfl

private theorem foldl_add {order : List Section}
    (hOrder : order.Perm [.server, .hwPinMap, .endpoints]) :
    order.foldl m.add { server := m.server } = m := by
  rw [hOrder.foldl_eq' fun a _ b _ start => add_right_comm m start a b]
  simp [Manifest.add]

private theorem braceFree_of_carried (h : m.Carried) : BraceFree m :=
  fun _ he s hs => (h.plain s (mem_strings he hs)).2

private theorem options_before_pins {pre post : List Section}
    (hPre : ∀ s ∈ pre, Lacks optionsName (m.section s))
    (hQuotes : ∀ e ∈ m.endpoints, e.QuoteFree)
    (hPlain : ∀ s ∈ m.strings, escaped s = s)
    (hMem : optionsName ∈ m.strings) :
    namedBitsField (m.toJson (pre ++ .endpoints :: .hwPinMap :: post))
        optionsName 0 optionBitNames =
      bitsOf optionBitNames (takenForOptions m.strings) := by
  rw [options_string (by simp) hPre hQuotes hPlain hMem]
  split
  · rfl
  · next hNone =>
      obtain ⟨start, stop, hSpan, hBits⟩ := findArraySpan_hwPinMap (m := m) post
      rw [List.map_cons, hSpan, takenForOptions_nil hNone]
      exact hBits

private theorem options_before_server (h : m.Carried) {pre post : List Section}
    (hPre : ∀ s ∈ pre, Lacks optionsName (m.section s))
    (hQuotes : ∀ e ∈ m.endpoints, e.QuoteFree)
    (hMem : optionsName ∈ m.strings) :
    namedBitsField (m.toJson (pre ++ .endpoints :: .server :: post))
        optionsName 0 optionBitNames = m.server.svrImplementedOptions := by
  rw [options_string (by simp) hPre hQuotes (fun s hs =>
    (escaped_eq_iff s).mpr (h.plain s hs).1) hMem]
  split
  · exact h.taken hMem
  · obtain ⟨start, stop, hSpan, hBits⟩ := findArraySpan_server (m := m) post
    rw [List.map_cons, hSpan]
    exact hBits.trans h.options

private theorem parseServerFields_of_carried (h : m.Carried)
    (hQuotes : ∀ e ∈ m.endpoints, e.QuoteFree) {order : List Section}
    (hOrder : order.Perm [.server, .hwPinMap, .endpoints]) :
    parseServerFields (m.toJson order) {} = .ok m.server := by
  have hPlain : ∀ s ∈ m.strings, escaped s = s := fun s hs =>
    (escaped_eq_iff s).mpr (h.plain s hs).1
  have hNodup : order.Nodup := hOrder.nodup_iff.mpr (by decide)
  obtain ⟨pre, post, rfl⟩ := List.append_of_mem
    (hOrder.mem_iff.mpr (by simp : Section.server ∈ _))
  have hServer : .server ∉ pre := fun hMem =>
    List.disjoint_of_nodup_append hNodup hMem (by simp)
  have hNumbers : ∀ k ∈ numberNames, ∀ s ∈ pre, Lacks k (m.section s) := by
    intro k hk s hs
    have hName := serverName_number k hk
    cases s with
    | server => exact absurd hs hServer
    | hwPinMap => exact lacks_hwPinMap hName
    | endpoints =>
        refine lacks_endpoints hName hQuotes fun s hs hSame => ?_
        rw [hPlain s hs] at hSame
        exact h.names s hs (by simp [hSame, hk])
  have hOptions : namedBitsField (m.toJson (pre ++ .server :: post))
      optionsName 0 optionBitNames = m.server.svrImplementedOptions := by
    by_cases hTaken : .endpoints ∈ pre ∧ optionsName ∈ m.strings
    · obtain ⟨hEndpoints, hMem⟩ := hTaken
      obtain ⟨first, mid, rfl⟩ := List.append_of_mem hEndpoints
      rw [List.append_assoc, List.cons_append] at hNodup ⊢
      have hFirst : ∀ s ∈ first, Lacks optionsName (m.section s) := by
        intro s hs
        have hNot := List.disjoint_of_nodup_append hNodup hs
        cases s with
        | server => simp at hNot
        | hwPinMap => exact lacks_hwPinMap serverName_options
        | endpoints => simp at hNot
      have hRest := hNodup.of_append_right
      cases mid with
      | nil => exact options_before_server h hFirst hQuotes hMem
      | cons s mid =>
          cases s with
          | server => simp at hRest
          | hwPinMap =>
              rw [List.cons_append,
                options_before_pins hFirst hQuotes hPlain hMem]
              exact h.taken hMem
          | endpoints => simp at hRest
    · refine (options_toJson fun s hs => ?_).trans h.options
      cases s with
      | server => exact absurd hs hServer
      | hwPinMap => exact lacks_hwPinMap serverName_options
      | endpoints =>
          refine lacks_endpoints serverName_options hQuotes fun s hMem hSame => ?_
          rw [hPlain s hMem] at hSame
          exact hTaken ⟨hs, hSame ▸ hMem⟩
  rw [parseServerFields_toJson hNumbers, hOptions]

private theorem roundTrips_of_carried (h : m.Carried)
    (hQuotes : ∀ e ∈ m.endpoints, e.QuoteFree) : m.RoundTrips := by
  intro order hOrder
  have hServer : .server ∈ order :=
    hOrder.mem_iff.mpr (by simp : Section.server ∈ _)
  rw [parseJson, parseServerFields_of_carried h hQuotes hOrder]
  refine (parseObjects_toJson (braceFree_of_carried h) hServer _).trans ?_
  rw [foldlM_sections h hQuotes, foldl_add hOrder]

private theorem readBack_of_parseObjects
    (hQuotes : ∀ e ∈ m.endpoints, e.QuoteFree)
    {server : ServerManifest} (h : parseObjects { server }
      (m.toJson [.server, .hwPinMap, .endpoints]) = .ok m) :
    server = m.server ∧ (∀ p ∈ m.hwPinMap, p.readBack = p) ∧
      (∀ e ∈ m.endpoints, e.Routed) ∧ ∀ e ∈ m.endpoints, e.readBack = e := by
  have hBraces : BraceFree m :=
    braceFree_parseObjects (by simp [BraceFree]) h
  rw [parseObjects_toJson hBraces (by simp)] at h
  simp only [List.flatMap_cons, List.flatMap_nil, List.append_nil,
    List.foldlM_append] at h
  obtain ⟨start, hStart, h⟩ := except_bind_eq_ok.mp h
  obtain ⟨pins, hPins, h⟩ := except_bind_eq_ok.mp h
  rw [Manifest.objects, List.foldlM_cons, parseObject_server] at hStart
  cases hStart
  rw [Manifest.objects, foldlM_hwPins] at hPins
  cases hPins
  obtain ⟨hRouted, hSame⟩ := (foldlM_endpoints hQuotes _ _).mp h
  have hServer := congrArg Manifest.server hSame
  have hPinMap := congrArg Manifest.hwPinMap hSame
  have hEndpoints := congrArg Manifest.endpoints hSame
  simp only [List.nil_append] at hServer hPinMap hEndpoints
  refine ⟨hServer.symm, ?_, hRouted, ?_⟩
  · exact List.map_inj_left.mp (hPinMap.symm.trans (List.map_id _).symm)
  · exact List.map_inj_left.mp (hEndpoints.symm.trans (List.map_id _).symm)

private theorem serverNumber_of_parseServerFields {json : Text}
    {out server : ServerManifest}
    (h : parseServerFields json out = .ok server) :
    (∀ k ∈ numberNames, ∃ value, serverNumber json k = .ok value) ∧
      server.svrImplementedOptions = namedBitsField json optionsName
        out.svrImplementedOptions optionBitNames := by
  obtain ⟨vendorId, hVendor, h⟩ := except_bind_eq_ok.mp h
  obtain ⟨deviceId, hDevice, h⟩ := except_bind_eq_ok.mp h
  obtain ⟨magic, hMagic, h⟩ := except_bind_eq_ok.mp h
  cases h
  refine ⟨?_, rfl⟩
  simp only [numberNames, List.forall_mem_cons]
  exact ⟨⟨_, hVendor⟩, ⟨_, hDevice⟩, ⟨_, hMagic⟩, by simp⟩

private theorem carried_of_roundTrips (h : m.RoundTrips)
    (hQuotes : ∀ e ∈ m.endpoints, e.QuoteFree) : m.Carried := by
  obtain ⟨server, hServer, hObjects⟩ := except_bind_eq_ok.mp
    (h [.server, .hwPinMap, .endpoints] (.refl _))
  obtain ⟨rfl, hPins, hRouted, hEntries⟩ :=
    readBack_of_parseObjects hQuotes hObjects
  have hBraces : BraceFree m :=
    braceFree_parseObjects (by simp [BraceFree]) hObjects
  have hStrings : ∀ e ∈ m.endpoints, (∀ s ∈ e.strings, escaped s = s) ∧
      (e.priority = "extra".toList → e.extra = "extra".toList) :=
    fun e he => (readBack_eq_iff e).mp (hEntries e he)
  have hPlain : ∀ s ∈ m.strings, escaped s = s := by
    intro s hs
    obtain ⟨e, he, hMem⟩ := List.mem_flatMap.mp hs
    exact (hStrings e he).1 s hMem
  -- With the endpoints first, the searches of the server go through them.
  obtain ⟨read, hRead, hLast⟩ := except_bind_eq_ok.mp
    (h [.endpoints, .hwPinMap, .server] (by decide))
  obtain ⟨hNumbers, hTaken⟩ := serverNumber_of_parseServerFields hRead
  have hSame : read = m.server := (server_parseObjects hLast).symm
  rw [hSame] at hTaken
  refine ⟨?_, ?_, fun e he => (hRouted e he).2, ?_, ?_,
    fun e he => (hStrings e he).2, ?_⟩
  · have hNone : ∀ k ∈ numberNames, ∀ s ∈ [], Lacks k (m.section s) := by simp
    have hOptions : parseServerFields (m.toJson ([] ++ .server ::
        [.hwPinMap, .endpoints])) {} = _ := parseServerFields_toJson hNone
    rw [options_toJson (by simp)] at hOptions
    have hServers := Except.ok.inj (hServer.symm.trans hOptions)
    exact (congrArg ServerManifest.svrImplementedOptions hServers).symm
  · exact fun p hp => congrArg HwPinManifestEntry.hwPinType (hPins p hp)
  · intro s hs
    obtain ⟨e, he, hMem⟩ := List.mem_flatMap.mp hs
    exact ⟨(escaped_eq_iff s).mp (hPlain s hs), hBraces e he s hMem⟩
  · intro s hs hName
    rcases List.mem_cons.mp hName with rfl | hNumber
    · obtain ⟨e, he, hMem⟩ := List.mem_flatMap.mp hs
      exact (hRouted e he).1 _ hMem (hPlain _ hs)
    · obtain ⟨value, hValue⟩ := hNumbers s hNumber
      have hNone : ∀ t ∈ [], Lacks s (m.section t) := by simp
      have hRefused : ∃ f, serverNumber (m.toJson ([] ++ .endpoints ::
          [.hwPinMap, .server])) s = .error f :=
        serverNumber_string hNumber (by simp) hNone hQuotes hPlain hs
      obtain ⟨f, hError⟩ := hRefused
      cases hValue.symm.trans hError
  · intro hMem
    have hNone : ∀ t ∈ [], Lacks optionsName (m.section t) := by simp
    exact (options_before_pins hNone hQuotes hPlain hMem).symm.trans hTaken.symm

/-- The manifests that are read back. -/
theorem roundTrips_iff (m : Manifest)
    (hQuotes : ∀ e ∈ m.endpoints, e.QuoteFree) : m.RoundTrips ↔ m.Carried :=
  ⟨fun h => carried_of_roundTrips h hQuotes,
    fun h => roundTrips_of_carried h hQuotes⟩

end

theorem roundTrips_iff_bracketed :
    Manifest.RoundTrips
      { server := { vendorId := 17, svrImplementedOptions := 0x09 }
        hwPinMap := [{ hwEpPinNr := 3, hwPinType := 0x0E }]
        endpoints :=
          [{ streamKey := 42, byteBusId := 255, priority := "[\x7b".toList
             extra := "stream_key".toList }] } := by
  refine (roundTrips_iff _ (by decide)).mpr ?_
  exact ⟨by decide, by decide, by decide, by decide, by decide, by decide,
    by decide⟩

def braceManifest : Manifest where
  endpoints :=
    [{ byteBusId := 1, priority := "Normal".toList, extra := "a\x7d".toList }]

theorem brace_not_roundTrips :
    (∀ e ∈ braceManifest.endpoints, e.QuoteFree) ∧
      ¬ braceManifest.RoundTrips := by
  have hQuotes : ∀ e ∈ braceManifest.endpoints, e.QuoteFree := by decide
  refine ⟨hQuotes, fun h => ?_⟩
  have hPlain := (carried_of_roundTrips h hQuotes).plain "a\x7d".toList (by decide)
  exact absurd hPlain (by decide)

end CppRcp.Config
