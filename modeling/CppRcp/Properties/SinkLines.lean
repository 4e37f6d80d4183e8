import CppRcp.Cli.Sink
import CppRcp.Foundation.Base64
import CppRcp.Properties.JsonReading

/-!
# Lines that the message sink passes over

The reader of a line takes every object that its grammar has, whatever follows
it, whatever its numbers and strings are made of, and whatever its payload
decodes to.
-/

namespace CppRcp.Cli

open CppRcp.Foundation CppRcp.Foundation.JsonGrammar CppRcp.Acf

/-! ## Well-formed lines -/

def PayloadValid (t : Tree) : Prop :=
  ∀ obj str, readTree t = .obj obj →
    KeyMap.find (asciiText "payload") obj = some (.str str) →
      Base64.isValid str = true

def WellFormedLine (line : Octets) : Prop :=
  ∃ space t space', Spaces space ∧ Spaces space' ∧
    line = space ++ (t.render ++ space') ∧ t.IsObject ∧ t.WellFormed ∧
      PayloadValid t

def LineLaw (line : Octets) : Prop :=
  ∀ msg, (messageFromJson line msg).1 = true → WellFormedLine line

def PassesOver (s : Sink) (line : Octets) : Prop :=
  (sendLine s line).server = s.server ∧ (sendLine s line).sent = s.sent ∧
    (sendLine s line).dispatched = s.dispatched

/-- A line that is not well formed is passed over wherever it stands. -/
def SinkLaw (input : Octets) : Prop :=
  ∀ before line after, getLines input = before ++ line :: after →
    ¬ WellFormedLine line → PassesOver (sendLines before) line

structure Faithful (t : Tree) (rest : Octets) : Prop where
  rest : Spaces rest
  strings : ∀ chars ∈ t.strings, NoControl chars
  numbers : ∀ token ∈ t.numbers, isNumber token = true
  payload : PayloadValid t

/-- The line does not begin with an object that the reader takes and that is,
with the rest of the line, not faithful. -/
def Clean (line : Octets) : Prop :=
  ∀ space t rest, Starts space t line rest → t.IsObject → Faithful t rest

/-- The line begins with an object that names an endpoint. -/
def Addressed (line : Octets) : Prop :=
  ∃ space t rest obj id, Starts space t line rest ∧ readTree t = .obj obj ∧
    KeyMap.find (asciiText "id") obj = some (.str id) ∧
      (relayIdToEndpointId id).isSome

/-! ## Accepted lines -/

private theorem isObject_iff (t : Tree) :
    t.IsObject ↔ ∃ obj, readTree t = .obj obj := by
  cases t with
  | emptyObj _ | obj _ => exact iff_of_true trivial ⟨_, rfl⟩
  | _ => exact iff_of_false id (by rintro ⟨obj, h⟩; cases h)

private theorem messageFromJson_iff (line : Octets) (msg : Message) :
    (messageFromJson line msg).1 = true ↔
      ∃ space t rest, Starts space t line rest ∧ t.IsObject := by
  unfold messageFromJson
  constructor
  · intro h
    split at h
    · next obj rest hParse =>
        obtain ⟨space, t, hStarts, hv⟩ := jsonParseValue_eq_some_iff.mp hParse
        exact ⟨space, t, rest, hStarts, (isObject_iff t).mpr ⟨obj, hv.symm⟩⟩
    · cases h
  · rintro ⟨space, t, rest, hStarts, hObject⟩
    obtain ⟨obj, hObj⟩ := (isObject_iff t).mp hObject
    rw [jsonParseValue_eq_some_iff.mpr ⟨space, t, hStarts, hObj.symm⟩]

private theorem Starts.ends_of_isObject {t : Tree} (h : t.IsObject)
    {rest : Octets} :
    t.kind = .num → Ends isNumberChar rest := by
  intro hNum
  cases t with
  | emptyObj _ | obj _ => cases hNum
  | _ => cases h

theorem Starts.unique {space space' rest rest' line : Octets} {t t' : Tree}
    (h : Starts space t line rest) (hSpace' : Spaces space')
    (ht' : t'.Shaped) (hObject' : t'.IsObject)
    (hLine : line = space' ++ (t'.render ++ rest')) : t = t' ∧ rest = rest' :=
  Tree.unique_behind h.spaces hSpace' h.shaped ht' h.ends
    (Starts.ends_of_isObject hObject') (h.text.symm.trans hLine)

private theorem lineLaw_iff_clean (line : Octets) : LineLaw line ↔ Clean line :=
    by
  constructor
  · intro hLaw space t rest hStarts hObject
    obtain ⟨space', t', rest', hSpace', hRest', hLine, hObject', hFormed,
      hPayload⟩ := hLaw {}
        ((messageFromJson_iff line {}).mpr ⟨space, t, rest, hStarts, hObject⟩)
    obtain ⟨rfl, rfl⟩ := hStarts.unique hSpace' hFormed.shaped hObject' hLine
    exact ⟨hRest', hFormed.strings, hFormed.numbers, hPayload⟩
  · intro hClean msg hAccepted
    obtain ⟨space, t, rest, hStarts, hObject⟩ :=
      (messageFromJson_iff line msg).mp hAccepted
    obtain ⟨hRest, hStrings, hNumbers, hPayload⟩ :=
      hClean space t rest hStarts hObject
    exact ⟨space, t, rest, hStarts.spaces, hRest, hStarts.text, hObject,
      ⟨hStarts.shaped, hStrings, hNumbers⟩, hPayload⟩

/-! ## White space around a line -/

private theorem trim_eq_some {line trimmed : Octets}
    (h : trim line = some trimmed) :
    ∃ space space', Spaces space ∧ Spaces space' ∧
      line = space ++ (trimmed ++ space') := by
  obtain ⟨space, hSpace, hLine⟩ := exists_spaces line
  unfold trim at h
  rw [← jsonSkipWs] at h
  split at h
  · cases h
  · obtain rfl := Option.some.inj h
    refine ⟨space, (jsonSkipWs line).rtakeWhile isWs, hSpace, ?_, ?_⟩
    · intro c hc
      exact List.mem_rtakeWhile_imp hc
    · rw [List.rdropWhile_append_rtakeWhile]
      exact hLine

private theorem Starts.around {outer outer' space trimmed rest : Octets}
    {t : Tree} (h : Starts space t trimmed rest) (hObject : t.IsObject)
    (hOuter : Spaces outer) :
    Starts (outer ++ space) t (outer ++ (trimmed ++ outer'))
      (rest ++ outer') := by
  refine ⟨List.forall_mem_append.mpr ⟨hOuter, h.spaces⟩, h.shaped,
    h.converts, Starts.ends_of_isObject hObject, ?_⟩
  rw [h.text]
  simp

private theorem WellFormedLine.of_trimmed {line trimmed : Octets}
    (hTrim : trim line = some trimmed) (h : WellFormedLine trimmed) :
    WellFormedLine line := by
  obtain ⟨outer, outer', hOuter, hOuter', rfl⟩ := trim_eq_some hTrim
  obtain ⟨space, t, space', hSpace, hSpace', rfl, hRest⟩ := h
  refine ⟨outer ++ space, t, space' ++ outer',
    List.forall_mem_append.mpr ⟨hOuter, hSpace⟩,
    List.forall_mem_append.mpr ⟨hSpace', hOuter'⟩, ?_, hRest⟩
  simp

private theorem clean_of_wellFormedLine {line trimmed : Octets}
    (hTrim : trim line = some trimmed) (h : WellFormedLine line) :
    Clean trimmed := by
  obtain ⟨outer, outer', hOuter, hOuter', rfl⟩ := trim_eq_some hTrim
  obtain ⟨space', t', rest', hSpace', hRest', hLine, hObject', hFormed,
    hPayload⟩ := h
  intro space t rest hStarts hObject
  obtain ⟨rfl, hRest⟩ := (hStarts.around hObject hOuter).unique hSpace'
    hFormed.shaped hObject' hLine
  rw [← hRest] at hRest'
  exact ⟨(List.forall_mem_append.mp hRest').1, hFormed.strings,
    hFormed.numbers, hPayload⟩

/-! ## Requests of accepted lines -/

@[simp] theorem id_takePayload (obj : KeyMap JVal) (msg : Message) :
    (takePayload obj msg).id = msg.id := by
  unfold takePayload
  split <;> rfl

@[simp] theorem id_takeSeq (obj : KeyMap JVal) (msg : Message) :
    (takeSeq obj msg).id = msg.id := by
  unfold takeSeq
  split <;> rfl

@[simp] theorem id_takeMeta (obj : KeyMap JVal) (msg : Message) :
    (takeMeta obj msg).id = msg.id := by
  unfold takeMeta
  split <;> rfl

private theorem isSome_takeId_iff (obj : KeyMap JVal) :
    (relayIdToEndpointId (takeId obj {}).id).isSome ↔
      ∃ id, obj.find (asciiText "id") = some (.str id) ∧
        (relayIdToEndpointId id).isSome := by
  unfold takeId
  split
  · next id hFind =>
      constructor
      · intro h
        exact ⟨id, hFind, h⟩
      · rintro ⟨id', hFind', h⟩
        rw [hFind] at hFind'
        cases hFind'
        exact h
  · next hFind =>
      refine iff_of_false (by decide) ?_
      rintro ⟨id, hId, -⟩
      exact hFind id hId

def requestOf (trimmed : Octets) : Option (AcfMessageInfo × Octets) :=
  match messageFromJson trimmed {} with
  | (false, _) => none
  | (true, msg) => messageToRequest msg

private theorem isSome_requestOf_iff (trimmed : Octets) :
    (requestOf trimmed).isSome ↔ Addressed trimmed := by
  have hSome : ∀ obj, (messageToRequest (takeMeta obj (takeSeq obj
      (takePayload obj (takeId obj {}))))).isSome ↔
        ∃ id, obj.find (asciiText "id") = some (.str id) ∧
          (relayIdToEndpointId id).isSome := by
    intro obj
    rw [← isSome_takeId_iff, messageToRequest, Option.isSome_map,
      id_takeMeta, id_takeSeq, id_takePayload]
  unfold requestOf messageFromJson
  constructor
  · intro h
    cases hParse : jsonParseValue trimmed with
    | none => simp [hParse] at h
    | some result =>
        obtain ⟨v, rest⟩ := result
        obtain ⟨space, t, hStarts, rfl⟩ := jsonParseValue_eq_some_iff.mp hParse
        rw [hParse] at h
        cases hv : readTree t with
        | obj obj =>
            simp only [hv] at h
            obtain ⟨id, hFind, hId⟩ := (hSome obj).mp h
            exact ⟨space, t, rest, obj, id, hStarts, hv, hFind, hId⟩
        | _ => simp [hv] at h
  · rintro ⟨space, t, rest, obj, id, hStarts, hv, hFind, hId⟩
    rw [jsonParseValue_eq_some_iff.mpr ⟨space, t, hStarts, hv.symm⟩]
    exact (hSome obj).mpr ⟨id, hFind, hId⟩

/-! ## The sink -/

private theorem dispatched_deliver (s : Sink) (req : AcfMessageInfo)
    (payload : Octets) :
    (s.deliver req payload).dispatched = s.dispatched ++ [(req, payload)] := by
  unfold Sink.deliver
  dsimp only
  split <;> rfl

private theorem passesOver_iff (s : Sink) (line : Octets) :
    PassesOver s line ↔
      ∀ trimmed, trim line = some trimmed → requestOf trimmed = none := by
  unfold PassesOver sendLine
  cases trim line with
  | none =>
      dsimp only
      exact iff_of_true ⟨rfl, rfl, rfl⟩ nofun
  | some trimmed =>
      have hOnly : (∀ text, some trimmed = some text → requestOf text = none) ↔
          requestOf trimmed = none :=
        ⟨fun h => h trimmed rfl, fun h text hEq => Option.some.inj hEq ▸ h⟩
      rw [hOnly, requestOf]
      dsimp only
      generalize messageFromJson trimmed {} = result
      obtain ⟨accepted, msg⟩ := result
      cases accepted with
      | false =>
          dsimp only
          exact iff_of_true ⟨rfl, rfl, rfl⟩ rfl
      | true =>
          dsimp only
          cases messageToRequest msg with
          | none =>
              dsimp only
              exact iff_of_true ⟨rfl, rfl, rfl⟩ rfl
          | some request =>
              refine iff_of_false (fun h => ?_) nofun
              have hDispatched := h.2.2
              rw [dispatched_deliver] at hDispatched
              simp at hDispatched

private theorem sinkLaw_iff (input : Octets) :
    SinkLaw input ↔
      ∀ line ∈ getLines input, ∀ trimmed, trim line = some trimmed →
        Clean trimmed ∨ ¬ Addressed trimmed := by
  constructor
  · intro hLaw line hLine trimmed hTrim
    by_contra hNot
    obtain ⟨hUnclean, hAddressed⟩ := not_or.mp hNot
    obtain ⟨before, after, hInput⟩ := List.append_of_mem hLine
    have hPasses := hLaw before line after hInput fun hFormed =>
      hUnclean (clean_of_wellFormedLine hTrim hFormed)
    have hNone := (passesOver_iff _ line).mp hPasses trimmed hTrim
    have hSome := (isSome_requestOf_iff trimmed).mpr (not_not.mp hAddressed)
    rw [hNone] at hSome
    cases hSome
  · intro hLines before line after hInput hLine
    refine (passesOver_iff _ line).mpr fun trimmed hTrim => ?_
    have hMem : line ∈ getLines input := by
      rw [hInput]
      simp
    rw [Option.eq_none_iff_forall_ne_some]
    intro request hRequest
    have hAddressed := (isSome_requestOf_iff trimmed).mp (by rw [hRequest]; rfl)
    rcases hLines line hMem trimmed hTrim with hClean | hNot
    · obtain ⟨space, t, rest, obj, id, hStarts, hv, -⟩ := hAddressed
      have hAccepted := (messageFromJson_iff trimmed {}).mpr
        ⟨space, t, rest, hStarts, (isObject_iff t).mpr ⟨obj, hv⟩⟩
      exact hLine (WellFormedLine.of_trimmed hTrim
        ((lineLaw_iff_clean trimmed).mpr hClean {} hAccepted))
    · exact hNot hAddressed

/-- What the reader takes is well formed where it finds nothing to overlook,
and the sink passes over what is not well formed where, besides, it names no
endpoint. -/
theorem sink_laws_iff (line input : Octets) :
    (LineLaw line ↔ Clean line) ∧
      (SinkLaw input ↔
        ∀ line ∈ getLines input, ∀ trimmed, trim line = some trimmed →
          Clean trimmed ∨ ¬ Addressed trimmed) :=
  ⟨lineLaw_iff_clean line, sinkLaw_iff input⟩

private theorem clean_of_refused {line : Octets}
    (h : (messageFromJson line {}).1 = false) : Clean line := by
  intro space t rest hStarts hObject
  rw [(messageFromJson_iff line {}).mpr ⟨space, t, rest, hStarts, hObject⟩]
    at h
  cases h

def payloadLine : Octets := asciiText "\x7b\"payload\":\"AQ==\"\x7d"

private theorem payloadLine_wellFormed : WellFormedLine payloadLine := by
  let payload : List Written := [.raw 65, .raw 81, .raw 61, .raw 61]
  let key : List Written := (asciiText "payload").map .raw
  have hStrings : ∀ chars ∈ [key, payload], NoControl chars := by
    unfold NoControl
    decide +kernel
  refine ⟨[], .obj (.last ⟨[], key, []⟩ [] (.str payload) []), [],
    by decide, by decide, by decide, trivial, ⟨by decide, hStrings, ?_⟩, ?_⟩
  · intro token hToken
    cases hToken
  · intro obj str hObj hFind
    obtain rfl := JVal.obj.inj hObj
    obtain rfl : octetsOf payload = str := JVal.str.inj (Option.some.inj hFind)
    decide

theorem sink_laws_iff_applied :
    LineLaw payloadLine ∧
      SinkLaw (payloadLine ++ asciiText "\nnot json\n") := by
  have hClean : Clean payloadLine :=
    clean_of_wellFormedLine (by decide) payloadLine_wellFormed
  have hOther : Clean (asciiText "not json") :=
    clean_of_refused (by decide +kernel)
  have hTrimmed : ∀ line ∈ [payloadLine, asciiText "not json"],
      trim line = some line := by decide
  refine ⟨(sink_laws_iff payloadLine []).1.mpr hClean,
    (sink_laws_iff [] _).2.mpr fun line hLine trimmed hTrim => .inl ?_⟩
  have hLines : getLines (payloadLine ++ asciiText "\nnot json\n") =
      [payloadLine, asciiText "not json"] := by decide
  rw [hLines] at hLine
  obtain rfl := Option.some.inj ((hTrimmed line hLine).symm.trans hTrim)
  rcases List.mem_cons.mp hLine with rfl | hLine
  · exact hClean
  · obtain rfl := List.mem_singleton.mp hLine
    exact hOther

def trailingLine : Octets := asciiText "\x7b\"id\":\"1\"\x7dx"

private theorem trailingLine_not_wellFormed : ¬ WellFormedLine trailingLine :=
    by
  rintro ⟨space, t, space', hSpace, hSpace', hLine, hObject, hFormed, -⟩
  have hStarts : Starts []
      (.obj (.last ⟨[], [.raw (ascii 'i'), .raw (ascii 'd')], []⟩ []
        (.str [.raw (ascii '1')]) [])) trailingLine [ascii 'x'] :=
    ⟨by decide, by decide, by simp [Converts, Tree.numbers, Members.numbers],
      nofun, by decide⟩
  obtain ⟨-, rfl⟩ := hStarts.unique hSpace hFormed.shaped hObject hLine
  exact absurd hSpace' (by decide)

theorem trailingLine_not_laws :
    ¬ LineLaw trailingLine ∧ ¬ SinkLaw (trailingLine ++ [ascii '\n']) := by
  constructor
  · intro hLaw
    exact trailingLine_not_wellFormed (hLaw {} (by decide +kernel))
  · intro hLaw
    have hPasses := hLaw [] trailingLine [] (by decide)
      trailingLine_not_wellFormed
    have hSent : (sendLine openSink trailingLine).sent = 1 := by
      decide +kernel
    exact absurd (hSent.symm.trans hPasses.2.1) (by decide)

end CppRcp.Cli
