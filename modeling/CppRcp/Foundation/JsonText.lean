import CppRcp.Foundation.TextSearch

/-!
# JSON texts

Values are written with a blank behind each comma and each colon.  A search for
a name in quotes passes over every value that has no string equal to the name,
and so finds a member of an object behind members of other names.
-/

namespace CppRcp.Foundation.Json

/-! ## Writing -/

def escape (c : Char) : Text :=
  if c = '"' ∨ c = '\\' then ['\\', c]
  else if c.toNat < 32 then
    ['\\', 'u', '0', '0', Nat.digitChar (c.toNat / 16),
      Nat.digitChar (c.toNat % 16)]
  else [c]

def escaped (s : Text) : Text := s.flatMap escape

def string (s : Text) : Text := quoted (escaped s)

def number (n : Nat) : Text := Nat.toDigits 10 n

/-- What stands behind a value: the values that follow it, up to the delimiter
that closes. -/
def tail (close : Char) : List Text → Text
  | [] => [close]
  | v :: vs => ',' :: ' ' :: (v ++ tail close vs)

def items (close : Char) : List Text → Text
  | [] => [close]
  | v :: vs => v ++ tail close vs

def array (vs : List Text) : Text := '[' :: items ']' vs

def member (key value : Text) : Text := quoted key ++ ':' :: ' ' :: value

def object (members : List Text) : Text := '{' :: items '}' members

/-! ## Characters -/

def Unescaped (s : Text) : Prop :=
  ∀ c ∈ s, c ≠ '"' ∧ c ≠ '\\' ∧ ¬ c.toNat < 32

instance (s : Text) : Decidable (Unescaped s) :=
  List.decidableBAll _ s

private theorem one_le_length_escape (c : Char) : 1 ≤ (escape c).length := by
  unfold escape
  split_ifs <;> simp

private theorem length_le_escaped (s : Text) : s.length ≤ (escaped s).length :=
    by
  induction s with
  | nil => simp
  | cons c s ih =>
      have hLength := one_le_length_escape c
      simp only [escaped, List.flatMap_cons, List.length_append,
        List.length_cons] at ih ⊢
      omega

theorem escaped_eq_iff (s : Text) : escaped s = s ↔ Unescaped s := by
  induction s with
  | nil => simp [escaped, Unescaped]
  | cons c s ih =>
      have hLength := length_le_escaped s
      rw [Unescaped, List.forall_mem_cons, ← Unescaped, ← ih]
      change escape c ++ escaped s = c :: s ↔ _
      unfold escape
      split_ifs with hMark hControl
      · have hNe : ['\\', c] ++ escaped s ≠ c :: s := fun hSame => by
          have hLengths := congrArg List.length hSame
          simp only [List.length_append, List.length_cons] at hLengths
          omega
        simp only [hNe, false_iff]
        tauto
      · have hNe : ['\\', 'u', '0', '0', Nat.digitChar (c.toNat / 16),
            Nat.digitChar (c.toNat % 16)] ++ escaped s ≠ c :: s :=
          fun hSame => by
            have hLengths := congrArg List.length hSame
            simp only [List.length_append, List.length_cons] at hLengths
            omega
        simp only [hNe, false_iff]
        tauto
      · rw [List.singleton_append, List.cons.injEq]
        tauto

private theorem le_toNat_of_isLower {c : Char} (h : c.isLower = true) :
    97 ≤ c.toNat :=
  of_decide_eq_true ((Bool.and_eq_true_iff.mp h).1)

private theorem unescaped_of_isName {k : Text} (h : IsName k) : Unescaped k :=
    by
  intro c hc
  have hName := h.2 c hc
  refine ⟨?_, ?_, ?_⟩
  · rintro rfl
    exact absurd hName (by decide)
  · rintro rfl
    exact absurd hName (by decide)
  · rcases hName with hLower | rfl
    · have hLe := le_toNat_of_isLower hLower
      omega
    · decide

theorem string_of_isName {k : Text} (h : IsName k) : string k = quoted k :=
  congrArg quoted ((escaped_eq_iff k).mpr (unescaped_of_isName h))

private theorem digitChar_ne : ∀ n < 16, Nat.digitChar n ≠ '"' ∧
    Nat.digitChar n ≠ '}' := by
  decide

theorem notMem_escaped {s : Text} {d : Char} (hd : d = '"' ∨ d = '}')
    (h : d ∉ s) : d ∉ escaped s := by
  simp only [escaped, List.mem_flatMap, not_exists, not_and]
  intro c hc
  have hNe : d ≠ c := fun hSame => h (hSame ▸ hc)
  unfold escape
  split_ifs with hMark hControl
  · rcases hd with rfl | rfl <;> simp [hNe]
  · have hHigh := digitChar_ne (c.toNat / 16) (by omega)
    have hLow := digitChar_ne (c.toNat % 16) (by omega)
    rcases hd with rfl | rfl <;>
      simp [hHigh.1.symm, hHigh.2.symm, hLow.1.symm, hLow.2.symm]
  · simpa using hNe

theorem isDigit_number {c : Char} {n : Nat} (h : c ∈ number n) :
    c.isDigit = true :=
  Nat.isDigit_of_mem_toDigits (by decide) (by decide) h

theorem notMem_number {c : Char} (h : c.isDigit = false) (n : Nat) :
    c ∉ number n := by
  intro hMem
  rw [isDigit_number hMem] at h
  cases h

theorem number_ne_nil (n : Nat) : number n ≠ [] := Nat.toDigits_ne_nil

theorem number_head {n : Nat} (hn : 0 < n) :
    ∃ c digits, number n = c :: digits ∧ c ≠ '0' := by
  induction n using Nat.strong_induction_on with
  | _ n ih =>
      unfold number
      by_cases hSmall : n < 10
      · rw [Nat.toDigits_of_lt_base hSmall]
        refine ⟨n.digitChar, [], rfl, ?_⟩
        have hDigit : ∀ m < 10, 0 < m → m.digitChar ≠ '0' := by decide
        exact hDigit n hSmall hn
      · rw [Nat.toDigits_of_base_le (by decide) (by omega)]
        obtain ⟨c, digits, hDigits, hc⟩ := ih (n / 10) (by omega) (by omega)
        unfold number at hDigits
        rw [hDigits]
        exact ⟨c, digits ++ _, rfl, hc⟩

theorem number_ne {k : Text} (h : IsName k) (n : Nat) : number n ≠ k := by
  rintro rfl
  obtain ⟨c, digits, hDigits⟩ := List.exists_cons_of_ne_nil h.1
  have hMem : c ∈ number n := hDigits ▸ List.mem_cons_self
  have hDigit := isDigit_number hMem
  simp only [Char.isDigit, Bool.and_eq_true, decide_eq_true_eq] at hDigit
  have hLe : c.toNat ≤ 57 := hDigit.2
  rcases h.2 c hMem with hLower | rfl
  · have hGe := le_toNat_of_isLower hLower
    omega
  · exact absurd hLe (by decide)

theorem escaped_number (n : Nat) : escaped (number n) = number n := by
  refine (escaped_eq_iff _).mpr fun c hc => ?_
  have hDigit := isDigit_number hc
  simp only [Char.isDigit, Bool.and_eq_true, decide_eq_true_eq] at hDigit
  have hGe : 48 ≤ c.toNat := hDigit.1
  have hLe : c.toNat ≤ 57 := hDigit.2
  refine ⟨?_, ?_, by omega⟩
  · rintro rfl
    exact absurd hGe (by decide)
  · rintro rfl
    exact absurd hLe (by decide)

/-! ## Passing over values -/

section

variable {k v key text : Text} {vs : List Text} {c close : Char}

/-- No string of the value is the name `k`. -/
def Lacks (k v : Text) : Prop :=
  ∀ c text, Closes c →
    find (quoted k) (v ++ c :: text) = find (quoted k) (c :: text)

theorem Lacks.of_passes (h : Passes (quoted k) v) : Lacks k v :=
  fun c text _ => h (c :: text)

theorem lacks_number (k : Text) (n : Nat) : Lacks k (number n) :=
  .of_passes (passes_quoted_of_notMem (notMem_number (by decide) n))

theorem lacks_quoted {s : Text} (hk : IsName k) (hs : '"' ∉ s) (hNe : s ≠ k) :
    Lacks k (quoted s) :=
  fun _ text hc => find_quoted_string hk hs hNe hc text

theorem find_in_member (hk : IsName k) (hKey : '"' ∉ key) (hNe : key ≠ k)
    (v text : Text) :
    find (quoted k) (member key v ++ text) = find (quoted k) (v ++ text) := by
  have hColon : Closes ':' := by decide
  have hBlank : '"' ∉ [':', ' '] := by decide
  rw [member, List.append_assoc]
  exact (find_quoted_string hk hKey hNe hColon _).trans
    (passes_quoted_of_notMem hBlank (v ++ text))

theorem Lacks.member (hk : IsName k) (hKey : '"' ∉ key) (hNe : key ≠ k)
    (h : Lacks k v) : Lacks k (member key v) := by
  intro c text hc
  rw [find_in_member hk hKey hNe, h c text hc]

theorem tail_append (close : Char) (vs : List Text) (text : Text) :
    ∃ c rest, tail close vs ++ text = c :: rest ∧ (c = ',' ∨ c = close) := by
  cases vs with
  | nil => exact ⟨close, text, rfl, .inr rfl⟩
  | cons v vs => exact ⟨',', _, rfl, .inl rfl⟩

theorem lt_length_tail (close : Char) (vs : List Text) (text : Text) :
    text.length < (tail close vs ++ text).length := by
  have hTail : 0 < (tail close vs).length := by
    cases vs <;> simp [tail]
  rw [List.length_append]
  omega

private theorem Lacks.before_tail (h : Lacks k v) (hClose : Closes close)
    (vs : List Text) (text : Text) :
    find (quoted k) (v ++ (tail close vs ++ text)) =
      find (quoted k) (tail close vs ++ text) := by
  obtain ⟨c, rest, hTail, hc⟩ := tail_append close vs text
  rw [hTail]
  refine h c rest ?_
  rcases hc with rfl | rfl
  · decide
  · exact hClose

private theorem passes_tail (hClose : Closes close) (h : ∀ v ∈ vs, Lacks k v) :
    Passes (quoted k) (tail close vs) := by
  induction vs with
  | nil => exact fun text => find_quoted_closes hClose text
  | cons v vs ih =>
      rw [List.forall_mem_cons] at h
      intro text
      have hComma : '"' ∉ [',', ' '] := by decide
      rw [tail, List.cons_append, List.cons_append, List.append_assoc]
      calc find (quoted k) ([',', ' '] ++ (v ++ (tail close vs ++ text)))
          = find (quoted k) (v ++ (tail close vs ++ text)) :=
            passes_quoted_of_notMem hComma _
        _ = find (quoted k) (tail close vs ++ text) :=
            h.1.before_tail hClose vs text
        _ = find (quoted k) text := ih h.2 text

theorem passes_items (hClose : Closes close) (h : ∀ v ∈ vs, Lacks k v) :
    Passes (quoted k) (items close vs) := by
  cases vs with
  | nil => exact fun text => find_quoted_closes hClose text
  | cons v vs =>
      rw [List.forall_mem_cons] at h
      intro text
      rw [items, List.append_assoc, h.1.before_tail hClose vs text]
      exact passes_tail hClose h.2 text

theorem passes_array (h : ∀ v ∈ vs, Lacks k v) :
    Passes (quoted k) (array vs) :=
  (passes_quoted_of_notMem (s := ['[']) (by decide)).append
    (passes_items (by decide) h)

theorem passes_object (h : ∀ v ∈ vs, Lacks k v) :
    Passes (quoted k) (object vs) :=
  (passes_quoted_of_notMem (s := ['{']) (by decide)).append
    (passes_items (by decide) h)

/-! ## Finding a value -/

private theorem find_tail (hClose : Closes close) {before : List Text}
    (h : ∀ v ∈ before, Lacks k v) (v : Text) (after : List Text)
    (text : Text) :
    find (quoted k) (tail close (before ++ v :: after) ++ text) =
      find (quoted k) (v ++ (tail close after ++ text)) := by
  have hComma : '"' ∉ [',', ' '] := by decide
  induction before with
  | nil =>
      rw [List.nil_append, tail, List.cons_append, List.cons_append,
        List.append_assoc]
      exact passes_quoted_of_notMem hComma _
  | cons first before ih =>
      rw [List.forall_mem_cons] at h
      rw [List.cons_append, tail, List.cons_append, List.cons_append,
        List.append_assoc]
      exact (passes_quoted_of_notMem hComma _).trans
        ((h.1.before_tail hClose _ text).trans (ih h.2))

theorem find_items (hClose : Closes close) {before : List Text}
    (h : ∀ v ∈ before, Lacks k v) (v : Text) (after : List Text)
    (text : Text) :
    find (quoted k) (items close (before ++ v :: after) ++ text) =
      find (quoted k) (v ++ (tail close after ++ text)) := by
  cases before with
  | nil => rw [List.nil_append, items, List.append_assoc]
  | cons first before =>
      rw [List.forall_mem_cons] at h
      rw [List.cons_append, items, List.append_assoc,
        h.1.before_tail hClose, find_tail hClose h.2]

theorem find_object {before : List Text} (h : ∀ v ∈ before, Lacks k v)
    (v : Text) (after : List Text) (text : Text) :
    find (quoted k) (object (before ++ v :: after) ++ text) =
      find (quoted k) (v ++ (tail '}' after ++ text)) :=
  (passes_quoted_of_notMem (s := ['{']) (by decide) _).trans
    (find_items (by decide) h v after text)

private theorem exists_tail_eq (close : Char) (vs : List Text) :
    ∃ body, tail close vs = body ++ [close] := by
  induction vs with
  | nil => exact ⟨[], rfl⟩
  | cons v vs ih =>
      obtain ⟨body, hBody⟩ := ih
      exact ⟨',' :: ' ' :: (v ++ body), by simp [tail, hBody]⟩

theorem exists_items_eq (close : Char) (vs : List Text) :
    ∃ body, items close vs = body ++ [close] := by
  cases vs with
  | nil => exact ⟨[], rfl⟩
  | cons v vs =>
      obtain ⟨body, hBody⟩ := exists_tail_eq close vs
      exact ⟨v ++ body, by simp [items, hBody]⟩

private theorem tail_body (hComma : close ≠ ',') (hBlank : close ≠ ' ')
    (h : ∀ v ∈ vs, close ∉ v) :
    ∃ body, tail close vs = body ++ [close] ∧ close ∉ body := by
  induction vs with
  | nil => exact ⟨[], rfl, by simp⟩
  | cons v vs ih =>
      rw [List.forall_mem_cons] at h
      obtain ⟨body, hBody, hAbsent⟩ := ih h.2
      refine ⟨',' :: ' ' :: (v ++ body), by simp [tail, hBody], ?_⟩
      simp [hComma, hBlank, h.1, hAbsent]

theorem items_body (hComma : close ≠ ',') (hBlank : close ≠ ' ')
    (h : ∀ v ∈ vs, close ∉ v) :
    ∃ body, items close vs = body ++ [close] ∧ close ∉ body := by
  cases vs with
  | nil => exact ⟨[], rfl, by simp⟩
  | cons v vs =>
      rw [List.forall_mem_cons] at h
      obtain ⟨body, hBody, hAbsent⟩ := tail_body hComma hBlank h.2
      exact ⟨v ++ body, by simp [items, hBody], by simp [h.1, hAbsent]⟩

theorem find_close (hComma : close ≠ ',') (hBlank : close ≠ ' ')
    (h : ∀ v ∈ vs, close ∉ v) (text : Text) :
    find [close] (items close vs ++ text) = some (close :: text) := by
  obtain ⟨body, hBody, hAbsent⟩ := items_body hComma hBlank h
  rw [hBody, List.append_assoc]
  exact find_char hAbsent text

theorem notMem_quoted {s : Text} (hc : c ≠ '"') (h : c ∉ s) :
    c ∉ quoted s := by
  simp [quoted, hc, h]

theorem notMem_member (hc : c ∉ ['"', ':', ' ']) (hKey : c ∉ key)
    (h : c ∉ v) : c ∉ member key v := by
  simp only [List.mem_cons, List.not_mem_nil, or_false, not_or] at hc
  simp [member, notMem_quoted hc.1 hKey, hc.2, h]

private theorem notMem_items (hc : c ∉ [',', ' ']) (hClose : c ≠ close)
    (h : ∀ v ∈ vs, c ∉ v) : c ∉ items close vs := by
  simp only [List.mem_cons, List.not_mem_nil, or_false, not_or] at hc
  have hTail : ∀ vs : List Text, (∀ v ∈ vs, c ∉ v) → c ∉ tail close vs := by
    intro vs h
    induction vs with
    | nil => simpa [tail] using hClose
    | cons v vs ih =>
        rw [List.forall_mem_cons] at h
        simp [tail, hc, h.1, ih h.2]
  cases vs with
  | nil => simpa [items] using hClose
  | cons v vs =>
      rw [List.forall_mem_cons] at h
      simp [items, h.1, hTail vs h.2]

theorem notMem_array (hc : c ∉ [',', ' ', '[', ']']) (h : ∀ v ∈ vs, c ∉ v) :
    c ∉ array vs := by
  simp only [List.mem_cons, List.not_mem_nil, or_false, not_or] at hc
  obtain ⟨hComma, hBlank, hOpen, hClose⟩ := hc
  rw [array, List.mem_cons, not_or]
  exact ⟨hOpen, notMem_items (by simp [hComma, hBlank]) hClose h⟩

theorem find_member (k v text : Text) :
    find (quoted k) (member k v ++ text) =
      some (quoted k ++ ':' :: ' ' :: (v ++ text)) := by
  rw [member, List.append_assoc]
  exact find_quoted_self k _

end

end CppRcp.Foundation.Json
