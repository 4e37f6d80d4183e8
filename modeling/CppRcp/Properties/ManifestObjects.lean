import CppRcp.Foundation.Readers
import CppRcp.Properties.ManifestReading

/-!
# The objects of a manifest

The loop of the parser takes the objects of a document one after another, in
whatever order its sections stand, as long as no string of an endpoint has a
brace that closes.  A string with such a brace is never read.
-/

namespace CppRcp.Config

open CppRcp.Foundation CppRcp.Foundation.Json

/-! ## One turn of the loop -/

theorem parseObjects_eq (m : Manifest) (text : Text) :
    parseObjects m text =
      match find ['{'] text with
      | none => .ok m
      | some pos =>
          match find ['}'] pos with
          | none => .ok m
          | some close =>
              parseObject m (between pos (close.drop 1)) >>= fun m =>
                parseObjects m (close.drop 1) := by
  rw [parseObjects]
  split
  · next hOpen => rw [hOpen]
  · next pos hOpen =>
      rw [hOpen]
      simp only []
      split
      · next hClose => rw [hClose]
      · next close hClose => rw [hClose]

theorem parseObjects_of_notMem {text : Text} (h : '{' ∉ text)
    (m : Manifest) : parseObjects m text = .ok m := by
  rw [parseObjects_eq, (passes_of_notMem h).find_eq_none]

private theorem parseObjects_gap {gap : Text} (h : '{' ∉ gap) (m : Manifest)
    (text : Text) : parseObjects m (gap ++ text) = parseObjects m text := by
  rw [parseObjects_eq, passes_of_notMem h, ← parseObjects_eq]

def IsObject (obj : Text) : Prop := ∃ body, obj = '{' :: (body ++ ['}']) ∧ '}' ∉ body

theorem parseObjects_chunk {body : Text} (h : '}' ∉ body) (m : Manifest)
    (rest : Text) :
    parseObjects m ('{' :: (body ++ '}' :: rest)) =
      parseObject m ('{' :: (body ++ ['}'])) >>= fun m =>
        parseObjects m rest := by
  have hOpen : find ['{'] ('{' :: (body ++ '}' :: rest)) = some _ :=
    find_of_prefix (List.prefix_append ['{'] _)
  have hBody : '}' ∉ '{' :: body := by simp [h]
  have hClose : find ['}'] ('{' :: (body ++ '}' :: rest)) = some _ :=
    find_char hBody rest
  have hChunk : between ('{' :: (body ++ '}' :: rest)) rest =
      '{' :: (body ++ ['}']) := by
    have hBetween := between_append ('{' :: (body ++ ['}'])) rest
    simpa using hBetween
  rw [parseObjects_eq, hOpen]
  simp only [hClose, List.drop_one, List.tail_cons, hChunk]

private theorem parseObjects_object {obj : Text} (h : IsObject obj)
    (m : Manifest) (rest : Text) :
    parseObjects m (obj ++ rest) =
      parseObject m obj >>= fun m => parseObjects m rest := by
  obtain ⟨body, rfl, hBody⟩ := h
  have hChunk := parseObjects_chunk hBody m rest
  simpa using hChunk

/-! ## The strings that are read -/

def BraceFree (m : Manifest) : Prop :=
  ∀ e ∈ m.endpoints, ∀ s ∈ e.strings, '}' ∉ s

private theorem optionalString_ok {obj key s : Text}
    (h : optionalString obj key = .ok s) :
    s = [] ∨ ∃ a text, obj = a ++ (quoted s ++ text) := by
  unfold optionalString at h
  split at h
  · cases h
    exact .inl rfl
  · next k hFind =>
      obtain ⟨a, text, hText⟩ := extractStrIn_ok h
      obtain ⟨b, hb⟩ := (List.drop_suffix (key.length + 2) k).trans
        (find_some hFind).2
      refine .inr ⟨b ++ a, text, ?_⟩
      rw [← hb, hText, List.append_assoc]

private theorem notMem_optionalString {body key s : Text} (hBody : '}' ∉ body)
    (h : optionalString (body ++ ['}']) key = .ok s) : '}' ∉ s := by
  rcases optionalString_ok h with rfl | ⟨a, text, hText⟩
  · simp
  · intro hMem
    have hSplit : a ++ (quoted s ++ text) =
        (a ++ '"' :: s) ++ '"' :: text := by simp [quoted]
    have hInner : body = (a ++ '"' :: s) ++ ('"' :: text).dropLast := by
      rw [← List.dropLast_append_of_ne_nil (List.cons_ne_nil _ _), ← hSplit,
        ← hText, List.dropLast_concat]
    rw [hInner] at hBody
    simp [hMem] at hBody

private theorem optionalString_of_parseEndpointEntry {obj : Text}
    {entry : EndpointManifestEntry}
    (h : parseEndpointEntry obj = .ok entry) :
    optionalString obj "priority".toList = .ok entry.priority ∧
      optionalString obj "extra".toList = .ok entry.extra := by
  unfold parseEndpointEntry at h
  obtain ⟨streamKey, -, h⟩ := except_bind_eq_ok.mp h
  obtain ⟨busVal, -, h⟩ := except_bind_eq_ok.mp h
  split at h
  · cases h
  · obtain ⟨priority, hPriority, h⟩ := except_bind_eq_ok.mp h
    obtain ⟨extra, hExtra, h⟩ := except_bind_eq_ok.mp h
    cases h
    exact ⟨hPriority, hExtra⟩

private theorem braceFree_parseObject {m m' : Manifest} {body : Text}
    (hBody : '}' ∉ body) (hm : BraceFree m)
    (h : parseObject m (body ++ ['}']) = .ok m') : BraceFree m' := by
  unfold parseObject at h
  split at h
  · obtain ⟨entry, -, h⟩ := except_bind_eq_ok.mp h
    cases h
    exact hm
  · split at h
    · obtain ⟨entry, hEntry, h⟩ := except_bind_eq_ok.mp h
      obtain ⟨hPriority, hExtra⟩ := optionalString_of_parseEndpointEntry hEntry
      cases h
      refine List.forall_mem_append.mpr ⟨hm, ?_⟩
      rw [List.forall_mem_singleton, EndpointManifestEntry.strings,
        List.forall_mem_cons, List.forall_mem_singleton]
      exact ⟨notMem_optionalString hBody hPriority,
        notMem_optionalString hBody hExtra⟩
    · cases h
      exact hm

private theorem server_parseObject {m m' : Manifest} {obj : Text}
    (h : parseObject m obj = .ok m') : m'.server = m.server := by
  unfold parseObject at h
  split at h
  · obtain ⟨entry, -, h⟩ := except_bind_eq_ok.mp h
    cases h
    rfl
  · split at h
    · obtain ⟨entry, -, h⟩ := except_bind_eq_ok.mp h
      cases h
      rfl
    · cases h
      rfl

private theorem invariant_parseObjects {P : Manifest → Prop}
    (hStep : ∀ m m' body, '}' ∉ body → P m →
      parseObject m (body ++ ['}']) = .ok m' → P m')
    {m m' : Manifest} {text : Text} (hm : P m)
    (h : parseObjects m text = .ok m') : P m' := by
  induction hLength : text.length using Nat.strong_induction_on
    generalizing m text with
  | _ n ih =>
      rw [parseObjects_eq] at h
      split at h
      · cases h
        exact hm
      · next pos hOpen =>
          split at h
          · cases h
            exact hm
          · next close hClose =>
              have hPos := length_of_find hOpen
              obtain ⟨body, rest, rfl, rfl, hBody⟩ := find_char_some hClose
              rw [List.drop_one, List.tail_cons] at h
              have hChunk : between (body ++ '}' :: rest) rest =
                  body ++ ['}'] := by
                have hBetween := between_append (body ++ ['}']) rest
                simpa using hBetween
              rw [hChunk] at h
              obtain ⟨next, hNext, h⟩ := except_bind_eq_ok.mp h
              refine ih rest.length ?_ (hStep m next body hBody hm hNext) h rfl
              simp only [List.length_append, List.length_cons] at hPos
              omega

theorem braceFree_parseObjects {m m' : Manifest} {text : Text}
    (hm : BraceFree m) (h : parseObjects m text = .ok m') : BraceFree m' :=
  invariant_parseObjects (fun _ _ _ hBody hm hNext =>
    braceFree_parseObject hBody hm hNext) hm h

theorem server_parseObjects {m m' : Manifest} {text : Text}
    (h : parseObjects m text = .ok m') : m'.server = m.server :=
  invariant_parseObjects (P := fun m' => m'.server = m.server)
    (fun _ _ _ _ hm hNext => (server_parseObject hNext).trans hm) rfl h

/-! ## The documented schema -/

def ServerManifest.toJson (s : ServerManifest) : Text :=
  object
    [member "vendor_id".toList (number s.vendorId.toNat),
      member "device_id".toList (number s.deviceId.toNat),
      member "magic".toList (number s.magic.toNat),
      member "svr_implemented_options".toList
        (array ((namesOf optionBitNames s.svrImplementedOptions).map string))]

inductive Section
  | server | hwPinMap | endpoints
  deriving DecidableEq, Repr

def Manifest.objects (m : Manifest) : Section → List Text
  | .server => [m.server.toJson]
  | .hwPinMap => m.hwPinMap.map HwPinManifestEntry.toJson
  | .endpoints => m.endpoints.map EndpointManifestEntry.toJson

def Manifest.section (m : Manifest) : Section → Text
  | .server => member "server".toList m.server.toJson
  | .hwPinMap => member "hw_pin_map".toList (array (m.objects .hwPinMap))
  | .endpoints => member "endpoints".toList (array (m.objects .endpoints))

def Manifest.toJson (m : Manifest) (order : List Section) : Text :=
  object (order.map m.section)

/-! ## The loop over a document -/

def entryNames : List Text :=
  ["hw_ep_nr".toList, "hw_ep_pin_nr".toList, "hw_pin_type".toList,
    "stream_key".toList, "byte_bus_id".toList, "priority".toList,
    "extra".toList]

/-- What may stand before the first object of a document. -/
structure Clean (a : Text) : Prop where
  notOpen : '{' ∉ a
  notClose : '}' ∉ a
  passes : ∀ k ∈ entryNames, Passes (quoted k) a

theorem Clean.append {a b : Text} (ha : Clean a) (hb : Clean b) :
    Clean (a ++ b) where
  notOpen := by simp [ha.notOpen, hb.notOpen]
  notClose := by simp [ha.notClose, hb.notClose]
  passes k hk := (ha.passes k hk).append (hb.passes k hk)

theorem Clean.of_notMem {a : Text} (hQuote : '"' ∉ a) (hOpen : '{' ∉ a)
    (hClose : '}' ∉ a) : Clean a :=
  ⟨hOpen, hClose, fun _ _ => passes_quoted_of_notMem hQuote⟩

private theorem isName_entryNames : ∀ k ∈ entryNames, IsName k := by decide

private theorem parseObject_append {a : Text}
    (h : ∀ k ∈ entryNames, Passes (quoted k) a) (m : Manifest) (obj : Text) :
    parseObject m (a ++ obj) = parseObject m obj := by
  have hFind : ∀ k ∈ entryNames,
      find (quoted k) (a ++ obj) = find (quoted k) obj := fun k hk =>
    h k hk obj
  simp only [entryNames, List.forall_mem_cons] at hFind
  obtain ⟨hNr, hPinNr, hType, hStream, hBus, hPriority, hExtra, -⟩ := hFind
  simp only [parseObject, parseHwPinEntry, parseEndpointEntry, streamKeyField,
    requiredNumber, optionalString, namedBitsField, hNr, hPinNr, hType,
    hStream, hBus, hPriority, hExtra]

def Begins (text : Text) : Prop :=
  ∃ gap obj rest, text = gap ++ (obj ++ rest) ∧ Clean gap ∧ IsObject obj

theorem Begins.append {a text : Text} (ha : Clean a) (h : Begins text) :
    Begins (a ++ text) := by
  obtain ⟨gap, obj, rest, rfl, hGap, hObj⟩ := h
  exact ⟨a ++ gap, obj, rest, by simp, ha.append hGap, hObj⟩

private theorem parseObjects_root {text : Text} (h : Begins text)
    (m : Manifest) :
    parseObjects m ('{' :: text) = parseObjects m text := by
  obtain ⟨gap, obj, rest, rfl, hGap, hObj⟩ := h
  rw [parseObjects_gap hGap.notOpen, parseObjects_object hObj]
  obtain ⟨body, rfl, hBody⟩ := hObj
  have hInner : '}' ∉ gap ++ '{' :: body := by simp [hGap.notClose, hBody]
  have hChunk := parseObjects_chunk hInner m rest
  have hBrace : '"' ∉ ['{'] := by decide
  have hHidden : parseObject m ('{' :: gap ++ '{' :: (body ++ ['}'])) = _ :=
    parseObject_append (fun k hk =>
      (passes_quoted_of_notMem hBrace).append (hGap.passes k hk)) m _
  rw [← hHidden]
  simpa using hChunk

/-! ## The sections -/

private theorem isObject_object {members : List Text} (h : ∀ v ∈ members, '}' ∉
    v) :
    IsObject (object members) := by
  obtain ⟨body, hBody, hAbsent⟩ := items_body (by decide) (by decide) h
  exact ⟨body, by rw [object, hBody], hAbsent⟩

private theorem notMem_array_names {names : List NamedBit} {bits : UInt8}
    (hNames : ∀ named ∈ names, IsName named.name) :
    '}' ∉ array ((namesOf names bits).map string) := by
  have hListed : ∀ s ∈ namesOf names bits, IsName s :=
    isName_of_mem_namesOf hNames
  refine notMem_array (by decide) ?_
  rw [map_string hListed, List.forall_mem_map]
  exact fun s hs => notMem_quoted (by decide)
    ((hListed s hs).notMem (by decide))

private theorem notMem_numberField (key : Text) (hKey : IsName key) (n : Nat) :
    '}' ∉ member key (number n) :=
  notMem_member (by decide) (hKey.notMem (by decide))
    (notMem_number (by decide) n)

private theorem isObject_server (s : ServerManifest) : IsObject s.toJson := by
  refine isObject_object ?_
  simp only [List.forall_mem_cons]
  exact ⟨notMem_numberField _ (by decide) _,
    notMem_numberField _ (by decide) _, notMem_numberField _ (by decide) _,
    notMem_member (by decide) (by decide)
      (notMem_array_names isName_optionBitNames), by simp⟩

private theorem isObject_hwPin (p : HwPinManifestEntry) : IsObject p.toJson :=
    by
  refine isObject_object ?_
  simp only [List.forall_mem_cons]
  exact ⟨notMem_numberField _ (by decide) _,
    notMem_numberField _ (by decide) _,
    notMem_member (by decide) (by decide)
      (notMem_array_names isName_pinPropNames), by simp⟩

private theorem isObject_endpoint {e : EndpointManifestEntry}
    (h : ∀ s ∈ e.strings, '}' ∉ s) : IsObject e.toJson := by
  have hField (key s : Text) (hKey : IsName key) (hs : '}' ∉ s) :
      '}' ∉ member key (string s) :=
    notMem_member (by decide) (hKey.notMem (by decide))
      (notMem_quoted (by decide) (notMem_escaped (.inr rfl) hs))
  rw [EndpointManifestEntry.strings, List.forall_mem_cons,
    List.forall_mem_singleton] at h
  refine isObject_object ?_
  simp only [List.forall_mem_cons]
  exact ⟨hField _ _ (by decide) (notMem_number (by decide) _),
    notMem_numberField _ (by decide) _, hField _ _ (by decide) h.1,
    hField _ _ (by decide) h.2, by simp⟩

private theorem isObject_of_mem {m : Manifest} (hm : BraceFree m) {s : Section}
    {obj : Text} (h : obj ∈ m.objects s) : IsObject obj := by
  cases s with
  | server =>
      rw [List.mem_singleton.mp h]
      exact isObject_server m.server
  | hwPinMap =>
      obtain ⟨p, -, rfl⟩ := List.mem_map.mp h
      exact isObject_hwPin p
  | endpoints =>
      obtain ⟨e, he, rfl⟩ := List.mem_map.mp h
      exact isObject_endpoint (hm e he)

def Takes (text : Text) (objs : List Text) : Prop :=
  ∀ m rest, parseObjects m (text ++ rest) =
    objs.foldlM parseObject m >>= fun m => parseObjects m rest

theorem Takes.gap {gap : Text} (h : '{' ∉ gap) : Takes gap [] := by
  intro m rest
  rw [parseObjects_gap h]
  rfl

theorem Takes.object {obj : Text} (h : IsObject obj) : Takes obj [obj] := by
  intro m rest
  rw [parseObjects_object h, List.foldlM_cons]
  simp only [List.foldlM_nil, bind_pure]

theorem Takes.append {a b : Text} {as bs : List Text} (ha : Takes a as)
    (hb : Takes b bs) : Takes (a ++ b) (as ++ bs) := by
  intro m rest
  rw [List.append_assoc, ha, List.foldlM_append, bind_assoc]
  exact congrArg _ (funext fun m => hb m rest)

theorem Takes.all {text : Text} {objs : List Text} (h : Takes text objs)
    (m : Manifest) : parseObjects m text = objs.foldlM parseObject m := by
  have hEnd := h m []
  have hNil (m : Manifest) : parseObjects m [] = pure m :=
    parseObjects_of_notMem (by simp) m
  simpa only [List.append_nil, hNil, bind_pure] using hEnd

theorem Takes.tail {α : Type} {close : Char} (hClose : close ≠ '{')
    {g : α → Text} {f : α → List Text} {as : List α}
    (h : ∀ a ∈ as, Takes (g a) (f a)) :
    Takes (tail close (as.map g)) (as.flatMap f) := by
  induction as with
  | nil => exact .gap (by simpa [Json.tail] using hClose.symm)
  | cons a as ih =>
      rw [List.forall_mem_cons] at h
      have hComma : Takes [',', ' '] [] := .gap (by decide)
      exact hComma.append (h.1.append (ih h.2))

theorem Takes.items {α : Type} {close : Char} (hClose : close ≠ '{')
    {g : α → Text} {f : α → List Text} {as : List α}
    (h : ∀ a ∈ as, Takes (g a) (f a)) :
    Takes (items close (as.map g)) (as.flatMap f) := by
  cases as with
  | nil => exact .gap (by simpa [Json.items] using hClose.symm)
  | cons a as =>
      rw [List.forall_mem_cons] at h
      exact h.1.append (.tail hClose h.2)

theorem Takes.array {objs : List Text} (h : ∀ obj ∈ objs, IsObject obj) :
    Takes (array objs) objs := by
  have hItems : Takes (Json.items ']' (objs.map id))
      (objs.flatMap fun obj => [obj]) :=
    .items (by decide) fun obj hObj => .object (h obj hObj)
  rw [List.map_id, List.flatMap_singleton'] at hItems
  have hBracket : Takes ['['] [] := .gap (by decide)
  exact hBracket.append hItems

theorem Takes.member {key v : Text} {objs : List Text} (hKey : IsName key)
    (h : Takes v objs) : Takes (member key v) objs := by
  have hName : Takes (quoted key ++ [':', ' ']) [] := .gap (by
    simp [quoted, hKey.notMem (c := '{') (by decide)])
  have hBoth := hName.append h
  simpa [Json.member] using hBoth

private theorem takes_section {m : Manifest} (hm : BraceFree m) (s : Section) :
    Takes (m.section s) (m.objects s) := by
  cases s with
  | server => exact (Takes.object (isObject_server m.server)).member (by decide)
  | hwPinMap =>
      exact (Takes.array fun obj => isObject_of_mem hm).member (by decide)
  | endpoints =>
      exact (Takes.array fun obj => isObject_of_mem hm).member (by decide)

/-! ## Before the first object -/

theorem Clean.member {key v : Text} (hKey : IsName key)
    (hNames : key ∉ entryNames) (h : Clean v) : Clean (member key v) where
  notOpen := notMem_member (by decide) (hKey.notMem (by decide)) h.notOpen
  notClose := notMem_member (by decide) (hKey.notMem (by decide)) h.notClose
  passes k hk text := by
    rw [find_in_member (isName_entryNames k hk) (hKey.notMem (by decide))
      fun hSame => hNames (hSame ▸ hk), h.passes k hk]

theorem Begins.member {key v : Text} (hKey : IsName key)
    (hNames : key ∉ entryNames) {rest : Text} (h : Begins (v ++ rest)) :
    Begins (member key v ++ rest) := by
  have hColon : Clean [':', ' '] :=
    .of_notMem (by decide) (by decide) (by decide)
  have hName := (Clean.member hKey hNames (.of_notMem (a := []) (by simp)
    (by simp) (by simp)))
  have hBoth := h.append hName
  simpa [Json.member] using hBoth

private theorem array_begins {objs : List Text} (h : ∀ obj ∈ objs, IsObject obj)
    (rest : Text) : Begins (array objs ++ rest) ∨ Clean (array objs) := by
  cases objs with
  | nil => exact .inr (.of_notMem (by decide) (by decide) (by decide))
  | cons obj objs =>
      have hBracket : Clean ['['] :=
        .of_notMem (by decide) (by decide) (by decide)
      exact .inl ⟨['['], obj, tail ']' objs ++ rest, by simp [array, items],
        hBracket, h obj List.mem_cons_self⟩

private theorem section_begins {m : Manifest} (hm : BraceFree m) (s : Section)
    (rest : Text) : Begins (m.section s ++ rest) ∨
      s ≠ .server ∧ Clean (m.section s) := by
  cases s with
  | server =>
      refine .inl (Begins.member (by decide) (by decide) ?_)
      exact ⟨[], m.server.toJson, rest, rfl,
        .of_notMem (by simp) (by simp) (by simp), isObject_server m.server⟩
  | hwPinMap =>
      rcases array_begins (fun obj => isObject_of_mem hm) rest with
        hBegins | hClean
      · exact .inl (hBegins.member (by decide) (by decide))
      · exact .inr ⟨nofun, hClean.member (by decide) (by decide)⟩
  | endpoints =>
      rcases array_begins (fun obj => isObject_of_mem hm) rest with
        hBegins | hClean
      · exact .inl (hBegins.member (by decide) (by decide))
      · exact .inr ⟨nofun, hClean.member (by decide) (by decide)⟩

private theorem tail_begins {m : Manifest} (hm : BraceFree m)
    {order : List Section}
    (h : .server ∈ order) : Begins (tail '}' (order.map m.section)) := by
  induction order with
  | nil => cases h
  | cons s order ih =>
      have hComma : Clean [',', ' '] :=
        .of_notMem (by decide) (by decide) (by decide)
      refine Begins.append hComma ?_
      rcases section_begins hm s (tail '}' (order.map m.section)) with
        hBegins | ⟨hNe, hClean⟩
      · exact hBegins
      · exact (ih ((List.mem_cons.mp h).resolve_left hNe.symm)).append hClean

private theorem items_begins {m : Manifest} (hm : BraceFree m)
    {order : List Section}
    (h : .server ∈ order) : Begins (items '}' (order.map m.section)) := by
  cases order with
  | nil => cases h
  | cons s order =>
      rcases section_begins hm s (tail '}' (order.map m.section)) with
        hBegins | ⟨hNe, hClean⟩
      · exact hBegins
      · exact (tail_begins hm
          ((List.mem_cons.mp h).resolve_left hNe.symm)).append hClean

theorem parseObjects_toJson {m : Manifest} (hm : BraceFree m)
    {order : List Section} (h : .server ∈ order) (start : Manifest) :
    parseObjects start (m.toJson order) =
      (order.flatMap m.objects).foldlM parseObject start := by
  have hItems : Takes (items '}' (order.map m.section))
      (order.flatMap m.objects) :=
    .items (by decide) fun s _ => takes_section hm s
  exact (parseObjects_root (items_begins hm h) start).trans (hItems.all start)

/-! ## What the objects are read as -/

private theorem lacks_arrayField {k key : Text} (hk : IsName k)
    (hKey : IsName key) (hNe : key ≠ k) {names : List NamedBit}
    (hNames : ∀ named ∈ names, IsName named.name ∧ named.name ≠ k)
    (bits : UInt8) :
    Lacks k (member key (array ((namesOf names bits).map string))) := by
  have hListed : ∀ s ∈ namesOf names bits, IsName s :=
    isName_of_mem_namesOf fun named hNamed => (hNames named hNamed).1
  have hNotMem : k ∉ namesOf names bits := by
    intro hMem
    obtain ⟨named, hNamed, rfl⟩ := List.mem_map.mp hMem
    exact (hNames named (List.mem_filter.mp hNamed).1).2 rfl
  exact (Lacks.of_passes (passes_array
    (lacks_names hk hListed hNotMem))).member hk (hKey.notMem (by decide)) hNe

private theorem passes_server {k : Text} (hk : IsName k)
    (hKeys : ∀ key ∈ ["vendor_id".toList, "device_id".toList,
      "magic".toList, "svr_implemented_options".toList], key ≠ k)
    (hNames : ∀ named ∈ optionBitNames, named.name ≠ k)
    (s : ServerManifest) : Passes (quoted k) s.toJson := by
  simp only [List.forall_mem_cons] at hKeys
  obtain ⟨hVendor, hDevice, hMagic, hOptions, -⟩ := hKeys
  refine passes_object ?_
  simp only [List.forall_mem_cons]
  exact ⟨lacks_numberField hk (by decide) hVendor _,
    lacks_numberField hk (by decide) hDevice _,
    lacks_numberField hk (by decide) hMagic _,
    lacks_arrayField hk (by decide) hOptions (fun named hNamed =>
      ⟨isName_optionBitNames named hNamed, hNames named hNamed⟩) _, by simp⟩

theorem passes_hwPin {k : Text} (hk : IsName k)
    (hKeys : ∀ key ∈ ["hw_ep_nr".toList, "hw_ep_pin_nr".toList,
      "hw_pin_type".toList], key ≠ k)
    (hNames : ∀ named ∈ pinPropNames, named.name ≠ k)
    (p : HwPinManifestEntry) : Passes (quoted k) p.toJson := by
  simp only [List.forall_mem_cons] at hKeys
  obtain ⟨hNr, hPinNr, hType, -⟩ := hKeys
  refine passes_object ?_
  simp only [List.forall_mem_cons]
  exact ⟨lacks_numberField hk (by decide) hNr _,
    lacks_numberField hk (by decide) hPinNr _,
    lacks_arrayField hk (by decide) hType (fun named hNamed =>
      ⟨isName_pinPropNames named hNamed, hNames named hNamed⟩) _, by simp⟩

theorem parseObject_server (m : Manifest) (s : ServerManifest) :
    parseObject m s.toJson = .ok m := by
  have hNr : find (quoted "hw_ep_nr".toList) s.toJson = none :=
    (passes_server (by decide) (by decide) (by decide) s).find_eq_none
  have hStream : find (quoted "stream_key".toList) s.toJson = none :=
    (passes_server (by decide) (by decide) (by decide) s).find_eq_none
  have hBus : find (quoted "byte_bus_id".toList) s.toJson = none :=
    (passes_server (by decide) (by decide) (by decide) s).find_eq_none
  unfold parseObject
  rw [hNr, hStream, hBus]
  rfl

def HwPinManifestEntry.readBack (p : HwPinManifestEntry) :
    HwPinManifestEntry :=
  { p with hwPinType := bitsOf pinPropNames (namesOf pinPropNames p.hwPinType) }

theorem foldlM_hwPins (pins : List HwPinManifestEntry) (m : Manifest) :
    (pins.map HwPinManifestEntry.toJson).foldlM parseObject m =
      .ok { m with
        hwPinMap := m.hwPinMap ++ pins.map HwPinManifestEntry.readBack } := by
  induction pins generalizing m with
  | nil => simp [Pure.pure, Except.pure]
  | cons p pins ih =>
      rw [List.map_cons, List.foldlM_cons, parseObject_hwPin]
      refine (ih _).trans ?_
      simp [HwPinManifestEntry.readBack]

/-- No string of the endpoint is the name that marks a pin, and the bus is in
the range of the schema. -/
def EndpointManifestEntry.Routed (e : EndpointManifestEntry) : Prop :=
  (∀ s ∈ e.strings, escaped s ≠ "hw_ep_nr".toList) ∧ e.byteBusId ≤ 0xFF

def EndpointManifestEntry.QuoteFree (e : EndpointManifestEntry) : Prop :=
  ∀ s ∈ e.strings, '"' ∉ s

instance (e : EndpointManifestEntry) : Decidable e.QuoteFree :=
  inferInstanceAs (Decidable (∀ s ∈ e.strings, _))

theorem EndpointManifestEntry.QuoteFree.both {e : EndpointManifestEntry}
    (h : e.QuoteFree) : '"' ∉ e.priority ∧ '"' ∉ e.extra := by
  rw [QuoteFree, strings, List.forall_mem_cons, List.forall_mem_singleton] at h
  exact h

private theorem parseObject_unrouted {e : EndpointManifestEntry} (m : Manifest)
    (hPriority : '"' ∉ e.priority) (hExtra : '"' ∉ e.extra)
    (h : ¬ e.Routed) : ∃ f, parseObject m e.toJson = .error f := by
  by_cases hNames : ∀ s ∈ e.strings, escaped s ≠ "hw_ep_nr".toList
  · have hOut : 0xFF < e.byteBusId := UInt16.not_le.mp fun hFits =>
      h ⟨hNames, hFits⟩
    rw [parseObject_endpoint m hPriority hExtra hNames,
      parseEndpointEntry_toJson hPriority hExtra, if_pos hOut]
    exact ⟨_, rfl⟩
  · exact parseObject_misrouted m hPriority (by simpa using hNames)

theorem foldlM_endpoints {entries : List EndpointManifestEntry}
    (hQuotes : ∀ e ∈ entries, e.QuoteFree) (m m' : Manifest) :
    (entries.map EndpointManifestEntry.toJson).foldlM parseObject m =
        .ok m' ↔
      (∀ e ∈ entries, e.Routed) ∧ m' = { m with
        endpoints :=
          m.endpoints ++ entries.map EndpointManifestEntry.readBack } := by
  induction entries generalizing m with
  | nil => simp [Pure.pure, Except.pure, eq_comm]
  | cons e entries ih =>
      rw [List.forall_mem_cons] at hQuotes
      obtain ⟨hPriority, hExtra⟩ := hQuotes.1.both
      rw [List.map_cons, List.foldlM_cons, List.forall_mem_cons]
      by_cases hRouted : e.Routed
      · rw [parseObject_endpoint m hPriority hExtra hRouted.1,
          parseEndpointEntry_toJson hPriority hExtra,
          if_neg (UInt16.not_lt.mpr hRouted.2)]
        refine (ih hQuotes.2 _).trans ?_
        simp [hRouted, EndpointManifestEntry.readBack]
      · obtain ⟨f, hError⟩ := parseObject_unrouted m hPriority hExtra hRouted
        rw [hError]
        simp [hRouted, Bind.bind, Except.bind]

end CppRcp.Config
