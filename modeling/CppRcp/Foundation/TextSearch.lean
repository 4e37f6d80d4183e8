import Mathlib.Data.List.Infix

/-!
# Searching a text

A place in a text is the text from there on.  A search for a name in quotes
stops at the first string that is that name, and passes over every other one,
whatever it holds.
-/

namespace CppRcp.Foundation

abbrev Text := List Char

/-- The first place where `needle` stands. -/
def find (needle text : Text) : Option Text :=
  text.tails.find? fun place => decide (needle <+: place)

def between (start stop : Text) : Text :=
  start.take (start.length - stop.length)

theorem between_append (a b : Text) : between (a ++ b) b = a := by
  simp [between]

section

variable {needle a b place text : Text} {c : Char}

private theorem find_cons (needle : Text) (c : Char) (text : Text) :
    find needle (c :: text) =
      if needle <+: c :: text then some (c :: text) else find needle text := by
  unfold find
  rw [List.tails_cons, List.find?_cons]
  by_cases h : needle <+: c :: text <;> simp [h]

theorem find_of_prefix (h : needle <+: text) : find needle text = some text := by
  cases text with
  | nil => simp [find, List.prefix_nil.mp h]
  | cons c text => rw [find_cons, if_pos h]

theorem find_some (h : find needle text = some place) :
    needle <+: place ∧ place <:+ text := by
  have hPlace := List.find?_some h
  have hMem := List.mem_of_find?_eq_some h
  exact ⟨of_decide_eq_true hPlace, (List.mem_tails place text).mp hMem⟩

theorem length_of_find (h : find needle text = some place) :
    place.length ≤ text.length :=
  (find_some h).2.length_le

/-! ## Passing over -/

/-- The search goes on behind `a`, whatever follows it. -/
def Passes (needle a : Text) : Prop :=
  ∀ text, find needle (a ++ text) = find needle text

theorem passes_nil : Passes needle [] := fun _ => rfl

theorem Passes.append (ha : Passes needle a) (hb : Passes needle b) :
    Passes needle (a ++ b) := by
  intro text
  rw [List.append_assoc, ha, hb]

theorem Passes.find_eq_none (h : Passes (c :: needle) a) :
    find (c :: needle) a = none := by
  have hNone := h []
  rw [List.append_nil] at hNone
  simpa [find] using hNone

theorem passes_of_notMem (h : c ∉ a) : Passes (c :: needle) a := by
  induction a with
  | nil => exact passes_nil
  | cons d a ih =>
      intro text
      rw [List.mem_cons, not_or] at h
      obtain ⟨hHead, hTail⟩ := h
      have hNot : ¬ c :: needle <+: d :: (a ++ text) :=
        fun hPrefix => hHead (List.cons_prefix_cons.mp hPrefix).1
      rw [List.cons_append, find_cons, if_neg hNot, ih hTail]

theorem find_over (h : c ∉ a) (text : Text) :
    find [c] (a ++ text) = find [c] text :=
  passes_of_notMem h text

theorem find_char (h : c ∉ a) (text : Text) :
    find [c] (a ++ c :: text) = some (c :: text) := by
  rw [find_over h]
  exact find_of_prefix (List.prefix_append [c] text)

theorem find_char_before (c : Char) (a text : Text) :
    ∃ place, find [c] (a ++ c :: text) = some place ∧
      text.length < place.length := by
  by_cases h : c ∈ a
  · obtain ⟨b, after, rfl, hb⟩ := List.eq_append_cons_of_mem h
    refine ⟨c :: (after ++ c :: text), ?_, ?_⟩
    · rw [List.append_assoc, List.cons_append]
      exact find_char hb _
    · simp only [List.length_cons, List.length_append]
      omega
  · exact ⟨c :: text, find_char h text, by simp⟩

theorem find_char_some (h : find [c] text = some place) :
    ∃ a after, place = c :: after ∧ text = a ++ c :: after ∧ c ∉ a := by
  induction text with
  | nil => simp [find] at h
  | cons d text ih =>
      rw [find_cons] at h
      split at h
      · next hPrefix =>
          cases h
          obtain ⟨rfl, -⟩ := List.cons_prefix_cons.mp hPrefix
          exact ⟨[], text, rfl, rfl, by simp⟩
      · next hNot =>
          obtain ⟨a, after, rfl, rfl, hAbsent⟩ := ih h
          refine ⟨d :: a, after, rfl, rfl, ?_⟩
          rw [List.mem_cons, not_or]
          refine ⟨?_, hAbsent⟩
          rintro rfl
          exact hNot (List.prefix_append [c] _)

end

/-! ## Strings in quotes -/

def quoted (s : Text) : Text := '"' :: (s ++ ['"'])

def NameChar (c : Char) : Prop := c.isLower = true ∨ c = '_'

instance (c : Char) : Decidable (NameChar c) :=
  inferInstanceAs (Decidable (_ ∨ _))

def IsName (k : Text) : Prop := k ≠ [] ∧ ∀ c ∈ k, NameChar c

instance (k : Text) : Decidable (IsName k) :=
  have : Decidable (∀ c ∈ k, NameChar c) := List.decidableBAll _ k
  inferInstanceAs (Decidable (_ ∧ _))

def Closes (c : Char) : Prop := c ∈ [',', ':', ']', '}']

instance (c : Char) : Decidable (Closes c) :=
  inferInstanceAs (Decidable (_ ∈ _))

theorem IsName.notMem {k : Text} {c : Char} (h : IsName k) (hc : ¬ NameChar c) :
    c ∉ k :=
  fun hMem => hc (h.2 c hMem)

private theorem Closes.not_nameChar {c : Char} (h : Closes c) : ¬ NameChar c :=
    by
  unfold Closes at h
  simp only [List.mem_cons, List.not_mem_nil, or_false] at h
  rcases h with rfl | rfl | rfl | rfl <;> decide

private theorem Closes.ne_quote {c : Char} (h : Closes c) : '"' ≠ c := by
  rintro rfl
  exact absurd h (by decide)

section

variable {k s text : Text} {c : Char}

theorem quoted_append (s text : Text) :
    quoted s ++ text = '"' :: (s ++ '"' :: text) := by
  simp [quoted]

private theorem quoted_prefix_iff (hk : '"' ∉ k) (hs : '"' ∉ s) :
    quoted k <+: quoted s ++ text ↔ s = k := by
  constructor
  · rw [quoted_append, quoted, List.cons_prefix_cons]
    rintro ⟨-, rest, hRest⟩
    rw [List.append_assoc, List.singleton_append] at hRest
    induction k generalizing s with
    | nil =>
        cases s with
        | nil => rfl
        | cons d s => simp_all
    | cons e k ih =>
        cases s with
        | nil => simp_all
        | cons d s => simp_all
  · rintro rfl
    exact List.prefix_append _ _

theorem find_quoted_self (k text : Text) :
    find (quoted k) (quoted k ++ text) = some (quoted k ++ text) :=
  find_of_prefix (List.prefix_append _ _)

theorem find_quoted_close (hk : IsName k) (hc : Closes c) (text : Text) :
    find (quoted k) ('"' :: c :: text) = find (quoted k) (c :: text) := by
  obtain ⟨d, k, rfl⟩ := List.exists_cons_of_ne_nil hk.1
  rw [find_cons, if_neg]
  intro hPrefix
  have hInner := (List.cons_prefix_cons.mp hPrefix).2
  obtain ⟨rfl, -⟩ := List.cons_prefix_cons.mp hInner
  exact hc.not_nameChar (hk.2 d List.mem_cons_self)

theorem find_quoted_string (hk : IsName k) (hs : '"' ∉ s) (hNe : s ≠ k)
    (hc : Closes c) (text : Text) :
    find (quoted k) (quoted s ++ c :: text) = find (quoted k) (c :: text) := by
  have hNot : ¬ quoted k <+: quoted s ++ c :: text := fun hPrefix =>
    hNe ((quoted_prefix_iff (hk.notMem (by decide)) hs).mp hPrefix)
  rw [quoted_append] at hNot ⊢
  rw [find_cons, if_neg hNot]
  exact (passes_of_notMem hs _).trans (find_quoted_close hk hc text)

theorem passes_quoted_of_notMem (h : '"' ∉ s) : Passes (quoted k) s :=
  passes_of_notMem h

theorem find_quoted_closes (hc : Closes c) (text : Text) :
    find (quoted k) (c :: text) = find (quoted k) text :=
  passes_quoted_of_notMem (s := [c]) (by simpa using hc.ne_quote) text

end

end CppRcp.Foundation
