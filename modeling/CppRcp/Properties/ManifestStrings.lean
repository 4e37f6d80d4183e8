import CppRcp.Properties.ManifestObjects

/-!
# The strings of a manifest

A search that goes through the endpoints stops at the first string that is the
name, and brackets in the strings behind it are taken for an array: the names
of options among the strings between them count.
-/

namespace CppRcp.Config

open CppRcp.Foundation CppRcp.Foundation.Json

def NotNumber (text : Text) : Prop :=
  ∃ place f, find [':'] text = some place ∧ extractUintIn place = .error f

theorem NotNumber.over {a text : Text} (ha : ':' ∉ a) (h : NotNumber text) :
    NotNumber (a ++ text) := by
  obtain ⟨place, f, hPlace, hError⟩ := h
  exact ⟨place, f, (find_over ha text).trans hPlace, hError⟩

theorem notNumber_colon {c : Char} (hBlank : c ≠ ' ' ∧ c ≠ '\t')
    (hc : c.isDigit = false) (text : Text) :
    NotNumber (':' :: ' ' :: c :: text) := by
  obtain ⟨f, hError⟩ := extractUintIn_error hBlank hc text
  exact ⟨_, f, find_of_prefix (List.prefix_append [':'] _), hError⟩

private theorem stands_congr {k a b stop : Text}
    (h : find (quoted k) a = find (quoted k) b) :
    Stands k a stop ↔ Stands k b stop := by
  rw [Stands, h]
  rfl

private theorem not_stands_behind {k text stop : Text}
    (h : text.length ≤ stop.length) : ¬ Stands k text stop :=
  not_stands passes_nil h

theorem findArraySpan_over {a : Text} (h : '[' ∉ a) (text : Text) :
    findArraySpan (a ++ text) = findArraySpan text := by
  rw [findArraySpan, find_over h]
  rfl

structure Gap (ks : List Text) (gap : Text) : Prop where
  notOpen : '[' ∉ gap
  notClose : ']' ∉ gap
  passes : ∀ k ∈ ks, Passes (quoted k) gap

theorem Gap.append {ks : List Text} {a b : Text} (ha : Gap ks a)
    (hb : Gap ks b) : Gap ks (a ++ b) where
  notOpen := by simp [ha.notOpen, hb.notOpen]
  notClose := by simp [ha.notClose, hb.notClose]
  passes k hk := (ha.passes k hk).append (hb.passes k hk)

theorem Gap.of_notMem {ks : List Text} {a : Text} (hQuote : '"' ∉ a)
    (hOpen : '[' ∉ a) (hClose : ']' ∉ a) : Gap ks a :=
  ⟨hOpen, hClose, fun _ _ => passes_quoted_of_notMem hQuote⟩

/-- The text has the strings one after another, up to the bracket that closes
before `rest`. -/
inductive Holds (ks : List Text) : List Text → Text → Text → Prop
  | nil {gap rest : Text} (hGap : Gap ks gap) :
      Holds ks [] (gap ++ ']' :: rest) rest
  | cons {gap s text rest : Text} {c : Char} {strings : List Text}
      (hGap : Gap ks gap) (hs : '"' ∉ s) (hc : Closes c)
      (hNumber : NotNumber (c :: text))
      (hRest : Holds ks strings (c :: text) rest) :
      Holds ks (s :: strings) (gap ++ (quoted s ++ c :: text)) rest

def behind (k : Text) (strings : List Text) : List Text :=
  (strings.dropWhile fun s => s ≠ k).tail

def bracketed (strings : List Text) : List Text :=
  match strings.dropWhile fun s => '[' ∉ s with
  | [] => []
  | s :: strings =>
      if ']' ∈ s.dropWhile fun c => c ≠ '[' then []
      else strings.takeWhile fun s => ']' ∉ s

namespace Holds

variable {ks strings : List Text} {k text rest : Text}

theorem gap {gap : Text} (hGap : Gap ks gap) (h : Holds ks strings text rest) :
    Holds ks strings (gap ++ text) rest := by
  cases h with
  | nil hInner =>
      rw [← List.append_assoc]
      exact .nil (hGap.append hInner)
  | cons hInner hs hc hNumber hRest =>
      rw [← List.append_assoc]
      exact .cons (hGap.append hInner) hs hc hNumber hRest

theorem find_mem (hk : IsName k) (hKeys : k ∈ ks)
    (h : Holds ks strings text rest) (hMem : k ∈ strings) :
    ∃ c after, find (quoted k) text = some (quoted k ++ c :: after) ∧
      NotNumber (c :: after) ∧ Holds ks (behind k strings) (c :: after) rest := by
  induction h with
  | nil => cases hMem
  | @cons gap s text rest c strings hGap hs hc hNumber hRest ih =>
      rw [hGap.passes k hKeys]
      by_cases hSame : s = k
      · subst hSame
        refine ⟨c, text, find_quoted_self s _, hNumber, ?_⟩
        simpa [behind] using hRest
      · rw [find_quoted_string hk hs hSame hc]
        have hBehind : behind k (s :: strings) = behind k strings := by
          simp [behind, hSame]
        rw [hBehind]
        exact ih ((List.mem_cons.mp hMem).resolve_left (Ne.symm hSame))

private theorem stands (h : Holds ks strings text rest) :
    ∃ stop, find [']'] text = some stop ∧ ∀ k ∈ ks, IsName k →
      (Stands k text stop ↔ k ∈ strings.takeWhile fun s => ']' ∉ s) := by
  induction h with
  | @nil gap rest hGap =>
      refine ⟨']' :: rest, find_char hGap.notClose rest, fun k hKeys _ => ?_⟩
      simpa using not_stands (hGap.passes k hKeys) (le_refl (']' :: rest).length)
  | @cons gap s text rest c strings hGap hs hc hNumber hRest ih =>
      obtain ⟨stop, hStop, hStands⟩ := ih
      have hLength := length_of_find hStop
      by_cases hClose : ']' ∈ s
      · -- The bracket is in this string, and no name is behind it.
        obtain ⟨a, b, rfl, ha⟩ := List.eq_append_cons_of_mem hClose
        have hOver : ']' ∉ gap ++ '"' :: a := by simp [hGap.notClose, ha]
        refine ⟨']' :: (b ++ '"' :: c :: text), ?_, fun k hKeys hk => ?_⟩
        · rw [quoted_append, ← find_char hOver (b ++ '"' :: c :: text)]
          simp
        · have hNe : a ++ ']' :: b ≠ k := by
            rintro rfl
            exact hk.notMem (c := ']') (by decide) hClose
          have hFind := (hGap.passes k hKeys _).trans
            (find_quoted_string hk hs hNe hc text)
          have hShort : (c :: text).length ≤
              (']' :: (b ++ '"' :: c :: text)).length := by
            simp only [List.length_cons, List.length_append]
            omega
          rw [stands_congr hFind,
            List.takeWhile_cons_of_neg (by simp)]
          simp [not_stands_behind hShort]
      · have hOver : ']' ∉ gap ++ quoted s := by
          simp [hGap.notClose, quoted, hClose]
        refine ⟨stop, ?_, fun k hKeys hk => ?_⟩
        · rw [← List.append_assoc, find_over hOver, hStop]
        · rw [List.takeWhile_cons_of_pos (by simp [hClose]),
            List.mem_cons, ← hStands k hKeys hk]
          by_cases hSame : s = k
          · subst hSame
            have hFind := (hGap.passes s hKeys _).trans
              (find_quoted_self s (c :: text))
            have hHere : Stands s (gap ++ (quoted s ++ c :: text)) stop := by
              refine ⟨_, hFind, ?_⟩
              simp only [quoted, List.length_append, List.length_cons] at hLength ⊢
              omega
            simp [hHere]
          · have hFind := (hGap.passes k hKeys _).trans
              (find_quoted_string hk hs hSame hc text)
            rw [stands_congr hFind]
            simp [Ne.symm hSame]

theorem span_behind (h : Holds ks strings text rest)
    (hOpen : ∀ s ∈ strings, '[' ∉ s) : findArraySpan text = findArraySpan rest := by
  induction h with
  | @nil gap rest hGap =>
      have hOver : '[' ∉ gap ++ [']'] := by simp [hGap.notOpen]
      have hText := findArraySpan_over hOver rest
      simpa using hText
  | @cons gap s text rest c strings hGap hs hc hNumber hRest ih =>
      rw [List.forall_mem_cons] at hOpen
      have hOver : '[' ∉ gap ++ quoted s := by
        simp [hGap.notOpen, quoted, hOpen.1]
      rw [← List.append_assoc, findArraySpan_over hOver, ih hOpen.2]

theorem span_inside (h : Holds ks strings text rest)
    (hOpen : ∃ s ∈ strings, '[' ∈ s) :
    ∃ start stop, findArraySpan text = some (start, stop) ∧ ∀ k ∈ ks,
      IsName k → (Stands k start stop ↔ k ∈ bracketed strings) := by
  induction h with
  | nil => simp at hOpen
  | @cons gap s text rest c strings hGap hs hc hNumber hRest ih =>
      by_cases hHere : '[' ∈ s
      · obtain ⟨a, b, rfl, ha⟩ := List.eq_append_cons_of_mem hHere
        have hFirst : (a ++ '[' :: b).dropWhile (fun c => c ≠ '[') =
            '[' :: b := by
          rw [List.dropWhile_append_of_pos]
          · simp
          · intro d hd
            simpa using fun hSame : d = '[' => ha (hSame ▸ hd)
        have hOver : '[' ∉ gap ++ '"' :: a := by simp [hGap.notOpen, ha]
        have hText : gap ++ (quoted (a ++ '[' :: b) ++ c :: text) =
            (gap ++ '"' :: a) ++ '[' :: (b ++ '"' :: c :: text) := by
          simp [quoted]
        have hb : '"' ∉ b := fun hMem => hs (by simp [hMem])
        have hFind (k : Text) (hk : IsName k) :
            find (quoted k) (b ++ '"' :: c :: text) =
              find (quoted k) (c :: text) :=
          (passes_quoted_of_notMem hb _).trans (find_quoted_close hk hc text)
        have hBracketed : bracketed ((a ++ '[' :: b) :: strings) =
            if ']' ∈ '[' :: b then []
            else strings.takeWhile fun s => ']' ∉ s := by
          unfold bracketed
          rw [List.dropWhile_cons_of_neg (by simp)]
          simp only [hFirst]
        rw [hText, hBracketed]
        by_cases hClose : ']' ∈ '[' :: b
        · -- Both brackets are in the string.
          obtain ⟨b₁, b₂, hSplit, hb₁⟩ := List.eq_append_cons_of_mem hClose
          have hStop : find [']'] ('[' :: (b ++ '"' :: c :: text)) =
              some (']' :: (b₂ ++ '"' :: c :: text)) := by
            rw [← List.cons_append, hSplit, List.append_assoc,
              List.cons_append]
            exact find_char hb₁ _
          refine ⟨_, _, findArraySpan_open hOver hStop, fun k _ hk => ?_⟩
          have hShort : (c :: text).length ≤
              (']' :: (b₂ ++ '"' :: c :: text)).length := by
            simp only [List.length_cons, List.length_append]
            omega
          rw [if_pos hClose, stands_congr (hFind k hk)]
          simp [not_stands_behind hShort]
        · obtain ⟨stop, hStop, hStands⟩ := hRest.stands
          have hPass : ']' ∉ '[' :: (b ++ ['"']) := by
            rw [List.mem_cons, not_or] at hClose
            simp [hClose.2]
          have hBehind : find [']'] ('[' :: (b ++ '"' :: c :: text)) =
              some stop := by
            have hOverString := find_over hPass (c :: text)
            simpa [hStop] using hOverString
          refine ⟨_, _, findArraySpan_open hOver hBehind,
            fun k hKeys hk => ?_⟩
          rw [if_neg hClose, stands_congr (hFind k hk)]
          exact hStands k hKeys hk
      · have hOver : '[' ∉ gap ++ quoted s := by
          simp [hGap.notOpen, quoted, hHere]
        have hBracketed : bracketed (s :: strings) = bracketed strings := by
          simp [bracketed, hHere]
        rw [← List.append_assoc, findArraySpan_over hOver, hBracketed]
        refine ih ?_
        obtain ⟨found, hFound, hMem⟩ := hOpen
        rcases List.mem_cons.mp hFound with rfl | hLater
        · exact absurd hMem hHere
        · exact ⟨found, hLater, hMem⟩

end Holds

/-! ## The strings of the endpoints -/

structure Foreign (k : Text) : Prop where
  name : IsName k
  fields : ∀ key ∈ ["stream_key".toList, "byte_bus_id".toList,
    "priority".toList, "extra".toList], key ≠ k

private theorem passes_comma {k v : Text} (h : Lacks k v) :
    Passes (quoted k) (v ++ [',', ' ']) := by
  have hBlank : '"' ∉ [',', ' '] := by decide
  intro text
  rw [List.append_assoc]
  exact (h ',' (' ' :: text) (by decide)).trans
    (passes_quoted_of_notMem hBlank text)

private theorem passes_name {k key : Text} (hk : IsName k) (hKey : IsName key)
    (hNe : key ≠ k) : Passes (quoted k) (member key []) := fun text =>
  find_in_member hk (hKey.notMem (by decide)) hNe [] text

section

variable {ks strings : List Text} {e : EndpointManifestEntry}

def EndpointManifestEntry.lead (e : EndpointManifestEntry) : Text :=
  '{' :: (member "stream_key".toList (string (number e.streamKey.toNat)) ++
    ',' :: ' ' :: (member "byte_bus_id".toList (number e.byteBusId.toNat) ++
      ',' :: ' ' :: member "priority".toList []))

private theorem notMem_lead {c : Char} (hDigit : c.isDigit = false)
    (h : c ∉ member "stream_key".toList ['{', ','] ++
      member "byte_bus_id".toList [] ++ member "priority".toList [])
    (e : EndpointManifestEntry) : c ∉ e.lead := by
  have hNumber := notMem_number hDigit
  simp only [EndpointManifestEntry.lead, member, string, escaped_number,
    quoted, List.mem_append, List.mem_cons, List.not_mem_nil, not_or, hNumber,
    not_false_eq_true, true_and, or_false] at h ⊢
  tauto

private theorem gap_lead (hks : ∀ k ∈ ks, Foreign k)
    (e : EndpointManifestEntry) :
    Gap ks e.lead where
  notOpen := notMem_lead (by decide) (by decide) e
  notClose := notMem_lead (by decide) (by decide) e
  passes k hk := by
    obtain ⟨hName, hFields⟩ := hks k hk
    have hLacks := lacks_keyFields hName (hFields _ (by simp))
      (hFields _ (by simp)) e
    rw [List.forall_mem_cons, List.forall_mem_singleton] at hLacks
    have hBrace : '"' ∉ ['{'] := by decide
    have hPriority := passes_name hName (by decide : IsName "priority".toList)
      (hFields _ (by simp))
    have hAll := (passes_quoted_of_notMem hBrace).append
      ((passes_comma hLacks.1).append
        ((passes_comma hLacks.2).append hPriority))
    simpa [EndpointManifestEntry.lead] using hAll

def betweenStrings : Text := ',' :: ' ' :: member "extra".toList []

private theorem gap_betweenStrings (hks : ∀ k ∈ ks, Foreign k) :
    Gap ks betweenStrings where
  notOpen := by decide
  notClose := by decide
  passes k hk := by
    obtain ⟨hName, hFields⟩ := hks k hk
    have hComma : '"' ∉ [',', ' '] := by decide
    exact (passes_quoted_of_notMem hComma).append
      (passes_name hName (by decide) (hFields _ (by simp)))

private theorem notNumber_betweenStrings (s text : Text) :
    NotNumber (betweenStrings ++ (quoted s ++ text)) := by
  have hOver : ':' ∉ ',' :: ' ' :: quoted "extra".toList := by decide
  have hNumber := (notNumber_colon (c := '"') (by decide) (by decide)
    (s ++ '"' :: text)).over hOver
  simpa [betweenStrings, member, quoted] using hNumber

private theorem toJson_append (hPlain : ∀ s ∈ e.strings, escaped s = s)
    (text : Text) :
    e.toJson ++ text = e.lead ++ (quoted e.priority ++ (betweenStrings ++
      (quoted e.extra ++ '}' :: text))) := by
  rw [EndpointManifestEntry.strings, List.forall_mem_cons,
    List.forall_mem_singleton] at hPlain
  have hPriority : string e.priority = quoted e.priority :=
    congrArg quoted hPlain.1
  have hExtra : string e.extra = quoted e.extra := congrArg quoted hPlain.2
  simp [EndpointManifestEntry.toJson, EndpointManifestEntry.lead,
    betweenStrings, object, items, tail, member, hPriority, hExtra]

private theorem holds_toJson {text rest : Text} (hks : ∀ k ∈ ks, Foreign k)
    (hQuotes : e.QuoteFree) (hPlain : ∀ s ∈ e.strings, escaped s = s)
    (hNumber : NotNumber text) (h : Holds ks strings text rest) :
    Holds ks (e.strings ++ strings) (e.toJson ++ text) rest := by
  have hBrace : Gap ks ['}'] :=
    .of_notMem (by decide) (by decide) (by decide)
  have hLast : NotNumber (['}'] ++ text) := hNumber.over (by decide)
  have hExtra := Holds.cons (c := '}') (gap_betweenStrings hks)
    hQuotes.both.2 (by decide) hLast (h.gap hBrace)
  rw [toJson_append hPlain]
  exact .cons (c := ',') (gap_lead hks e) hQuotes.both.1 (by decide)
    (notNumber_betweenStrings e.extra ('}' :: text)) hExtra

private theorem notNumber_tail {rest : Text} (h : NotNumber rest)
    (entries : List EndpointManifestEntry) :
    NotNumber
      (tail ']' (entries.map EndpointManifestEntry.toJson) ++ rest) := by
  cases entries with
  | nil => exact h.over (a := [']']) (by decide)
  | cons e entries =>
      have hOver : ':' ∉ ',' :: ' ' :: '{' :: quoted "stream_key".toList := by
        decide
      have hNumber (text : Text) := (notNumber_colon (c := '"') (by decide)
        (by decide) text).over hOver
      simpa [tail, EndpointManifestEntry.toJson, object, items, member,
        string, quoted] using hNumber _

private theorem holds_tail {entries : List EndpointManifestEntry} {rest : Text}
    (hks : ∀ k ∈ ks, Foreign k) (hQuotes : ∀ e ∈ entries, e.QuoteFree)
    (hPlain : ∀ e ∈ entries, ∀ s ∈ e.strings, escaped s = s)
    (hNumber : NotNumber rest) :
    Holds ks (entries.flatMap EndpointManifestEntry.strings)
      (tail ']' (entries.map EndpointManifestEntry.toJson) ++ rest) rest := by
  induction entries with
  | nil =>
      have hEmpty : Gap ks [] := .of_notMem (by simp) (by simp) (by simp)
      exact .nil hEmpty
  | cons e entries ih =>
      rw [List.forall_mem_cons] at hQuotes hPlain
      have hComma : Gap ks [',', ' '] :=
        .of_notMem (by decide) (by decide) (by decide)
      have hEntry := (holds_toJson hks hQuotes.1 hPlain.1
        (notNumber_tail hNumber entries) (ih hQuotes.2 hPlain.2)).gap hComma
      simpa [tail] using hEntry

theorem holds_items {entries : List EndpointManifestEntry} {rest : Text}
    (hks : ∀ k ∈ ks, Foreign k) (hQuotes : ∀ e ∈ entries, e.QuoteFree)
    (hPlain : ∀ e ∈ entries, ∀ s ∈ e.strings, escaped s = s)
    (hNumber : NotNumber rest) :
    Holds ks (entries.flatMap EndpointManifestEntry.strings)
      (items ']' (entries.map EndpointManifestEntry.toJson) ++ rest) rest := by
  cases entries with
  | nil =>
      have hEmpty : Gap ks [] := .of_notMem (by simp) (by simp) (by simp)
      exact .nil hEmpty
  | cons e entries =>
      rw [List.forall_mem_cons] at hQuotes hPlain
      have hEntry := holds_toJson hks hQuotes.1 hPlain.1
        (notNumber_tail hNumber entries)
        (holds_tail hks hQuotes.2 hPlain.2 hNumber)
      simpa [items] using hEntry

end

end CppRcp.Config
