import CppRcp.Foundation.Octets
import Mathlib.Data.FinEnum

/-!
# Texts of JSON values

A tree has everything that a text of a JSON value consists of, down to the
white space and to the way in which a character of a string is written.  The
grammar is that of RFC 8259 over octets, where the octets above the ASCII
range stand for themselves.  A text belongs to one tree only.
-/

namespace CppRcp.Foundation.JsonGrammar

open CppRcp.Foundation

def ascii (c : Char) : UInt8 := UInt8.ofNat c.toNat

def asciiText (text : String) : Octets := text.toList.map ascii

/-! ## Octets of the grammar -/

def isSpace (c : UInt8) : Bool :=
  c == ascii ' ' || c == ascii '\t' || c == ascii '\n' || c == ascii '\r'

def isDigit (c : UInt8) : Bool := ascii '0' ≤ c && c ≤ ascii '9'

def isNumberChar (c : UInt8) : Bool :=
  isDigit c || c == ascii '.' || c == ascii 'e' || c == ascii 'E' ||
    c == ascii '+' || c == ascii '-'

def quote : UInt8 := ascii '"'

def backslash : UInt8 := ascii '\\'

def shortEscape (letter : UInt8) : Option UInt8 :=
  [(quote, quote), (backslash, backslash), (ascii '/', ascii '/'),
    (ascii 'b', 8), (ascii 'f', 12), (ascii 'n', 10), (ascii 'r', 13),
    (ascii 't', 9)].lookup letter

def hexDigit (c : UInt8) : Option Nat :=
  if isDigit c then some (c - ascii '0').toNat
  else if ascii 'a' ≤ c && c ≤ ascii 'f' then some ((c - ascii 'a').toNat + 10)
  else if ascii 'A' ≤ c && c ≤ ascii 'F' then some ((c - ascii 'A').toNat + 10)
  else none

def codeOctets (code : Nat) : Octets :=
  if code.isValidChar then String.utf8EncodeChar (Char.ofNat code)
  else
    [UInt8.ofNat (0xE0 + code / 4096), UInt8.ofNat (0x80 + code / 64 % 64),
      UInt8.ofNat (0x80 + code % 64)]

/-! ## Trees -/

/-- One character of a string as it is written. -/
inductive Written
  | raw (octet : UInt8)
  | short (letter : UInt8)
  | unicode (a b c d : UInt8)
  deriving DecidableEq

namespace Written

def render : Written → Octets
  | raw octet => [octet]
  | short letter => [backslash, letter]
  | unicode a b c d => [backslash, ascii 'u', a, b, c, d]

def Shaped : Written → Prop
  | raw octet => octet ≠ quote ∧ octet ≠ backslash
  | short letter => (shortEscape letter).isSome
  | unicode a b c d =>
      ∀ digit ∈ [a, b, c, d], (hexDigit digit).isSome

instance : DecidablePred Shaped
  | raw octet =>
      inferInstanceAs (Decidable (octet ≠ quote ∧ octet ≠ backslash))
  | short letter =>
      inferInstanceAs (Decidable ((shortEscape letter).isSome = true))
  | unicode a b c d => List.decidableBAll _ [a, b, c, d]

def code (a b c d : UInt8) : Nat :=
  [a, b, c, d].foldl (fun code digit => code * 16 + (hexDigit digit).getD 0) 0

def octets : Written → Octets
  | raw octet => [octet]
  | short letter => (shortEscape letter).toList
  | unicode a b c d => codeOctets (code a b c d)

end Written

def quotedChars (chars : List Written) : Octets :=
  quote :: (chars.flatMap Written.render ++ [quote])

structure Label where
  before : Octets
  key : List Written
  after : Octets

def Label.render (label : Label) : Octets :=
  label.before ++ (quotedChars label.key ++ (label.after ++ [ascii ':']))

mutual

inductive Tree
  | null
  | bool (b : Bool)
  | num (token : Octets)
  | str (chars : List Written)
  | emptyArr (space : Octets)
  | emptyObj (space : Octets)
  | arr (items : Items)
  | obj (members : Members)

inductive Items
  | last (before : Octets) (item : Tree) (after : Octets)
  | more (before : Octets) (item : Tree) (after : Octets) (items : Items)

inductive Members
  | last (label : Label) (before : Octets) (item : Tree) (after : Octets)
  | more (label : Label) (before : Octets) (item : Tree) (after : Octets)
      (members : Members)

end

mutual

def Tree.render : Tree → Octets
  | .null => asciiText "null"
  | .bool true => asciiText "true"
  | .bool false => asciiText "false"
  | .num token => token
  | .str chars => quotedChars chars
  | .emptyArr space => ascii '[' :: (space ++ [ascii ']'])
  | .emptyObj space => ascii '{' :: (space ++ [ascii '}'])
  | .arr items => ascii '[' :: items.render
  | .obj members => ascii '{' :: members.render

/-- The items up to the bracket that closes the array. -/
def Items.render : Items → Octets
  | .last before item after =>
      before ++ (item.render ++ (after ++ [ascii ']']))
  | .more before item after items =>
      before ++ (item.render ++ (after ++ ascii ',' :: items.render))

def Members.render : Members → Octets
  | .last label before item after =>
      label.render ++ (before ++ (item.render ++ (after ++ [ascii '}'])))
  | .more label before item after members =>
      label.render ++
        (before ++ (item.render ++ (after ++ ascii ',' :: members.render)))

end

def Spaces (space : Octets) : Prop := ∀ c ∈ space, isSpace c = true

instance (space : Octets) : Decidable (Spaces space) :=
  List.decidableBAll _ space

def IsString (chars : List Written) : Prop := ∀ w ∈ chars, w.Shaped

instance (chars : List Written) : Decidable (IsString chars) :=
  List.decidableBAll _ chars

def Label.Shaped (label : Label) : Prop :=
  Spaces label.before ∧ IsString label.key ∧ Spaces label.after

instance (label : Label) : Decidable label.Shaped :=
  inferInstanceAs (Decidable (_ ∧ _ ∧ _))

mutual

/-- White space, escapes and numbers consist of what they can consist of. -/
def Tree.Shaped : Tree → Prop
  | .null | .bool _ => True
  | .num token => token ≠ [] ∧ ∀ c ∈ token, isNumberChar c = true
  | .str chars => IsString chars
  | .emptyArr space | .emptyObj space => Spaces space
  | .arr items => items.Shaped
  | .obj members => members.Shaped

def Items.Shaped : Items → Prop
  | .last before item after => Spaces before ∧ item.Shaped ∧ Spaces after
  | .more before item after items =>
      (Spaces before ∧ item.Shaped ∧ Spaces after) ∧ items.Shaped

def Members.Shaped : Members → Prop
  | .last label before item after =>
      label.Shaped ∧ Spaces before ∧ item.Shaped ∧ Spaces after
  | .more label before item after members =>
      (label.Shaped ∧ Spaces before ∧ item.Shaped ∧ Spaces after) ∧
        members.Shaped

end

mutual

def Tree.decideShaped : (t : Tree) → Decidable t.Shaped
  | .null | .bool _ => isTrue trivial
  | .num token =>
      have : Decidable (∀ c ∈ token, isNumberChar c = true) :=
        List.decidableBAll _ token
      inferInstanceAs (Decidable (token ≠ [] ∧ _))
  | .str chars => inferInstanceAs (Decidable (IsString chars))
  | .emptyArr space | .emptyObj space =>
      inferInstanceAs (Decidable (Spaces space))
  | .arr items => items.decideShaped
  | .obj members => members.decideShaped

def Items.decideShaped : (items : Items) → Decidable items.Shaped
  | .last before item after =>
      have := item.decideShaped
      inferInstanceAs (Decidable (Spaces before ∧ item.Shaped ∧ Spaces after))
  | .more before item after items =>
      have := item.decideShaped
      have := items.decideShaped
      inferInstanceAs (Decidable
        ((Spaces before ∧ item.Shaped ∧ Spaces after) ∧ items.Shaped))

def Members.decideShaped : (members : Members) → Decidable members.Shaped
  | .last label before item after =>
      have := item.decideShaped
      inferInstanceAs (Decidable
        (label.Shaped ∧ Spaces before ∧ item.Shaped ∧ Spaces after))
  | .more label before item after members =>
      have := item.decideShaped
      have := members.decideShaped
      inferInstanceAs (Decidable
        ((label.Shaped ∧ Spaces before ∧ item.Shaped ∧ Spaces after) ∧
          members.Shaped))

end

instance : DecidablePred Tree.Shaped := Tree.decideShaped

/-! ## Well-formed texts -/

mutual

def Tree.strings : Tree → List (List Written)
  | .null | .bool _ | .num _ | .emptyArr _ | .emptyObj _ => []
  | .str chars => [chars]
  | .arr items => items.strings
  | .obj members => members.strings

def Items.strings : Items → List (List Written)
  | .last _ item _ => item.strings
  | .more _ item _ items => item.strings ++ items.strings

def Members.strings : Members → List (List Written)
  | .last label _ item _ => label.key :: item.strings
  | .more label _ item _ members =>
      label.key :: (item.strings ++ members.strings)

end

mutual

def Tree.numbers : Tree → List Octets
  | .null | .bool _ | .str _ | .emptyArr _ | .emptyObj _ => []
  | .num token => [token]
  | .arr items => items.numbers
  | .obj members => members.numbers

def Items.numbers : Items → List Octets
  | .last _ item _ => item.numbers
  | .more _ item _ items => item.numbers ++ items.numbers

def Members.numbers : Members → List Octets
  | .last _ _ item _ => item.numbers
  | .more _ _ item _ members => item.numbers ++ members.numbers

end

def NoControl (chars : List Written) : Prop :=
  ∀ octet, Written.raw octet ∈ chars → 0x20 ≤ octet

def isExponent : Octets → Bool
  | [] => true
  | e :: rest =>
      let digits := match rest with
        | sign :: digits =>
            if sign = ascii '+' ∨ sign = ascii '-' then digits
            else sign :: digits
        | [] => []
      (e == ascii 'e' || e == ascii 'E') && !digits.isEmpty &&
        digits.all isDigit

def isFraction : Octets → Bool
  | [] => true
  | point :: rest =>
      if point = ascii '.' then
        match rest.span isDigit with
        | ([], _) => false
        | (_, rest) => isExponent rest
      else isExponent (point :: rest)

def isUnsigned (token : Octets) : Bool :=
  match token.span isDigit with
  | ([], _) => false
  | ([_], rest) => isFraction rest
  | (first :: _, rest) => first != ascii '0' && isFraction rest

def isNumber : Octets → Bool
  | [] => false
  | first :: rest =>
      if first = ascii '-' then isUnsigned rest
      else isUnsigned (first :: rest)

def Tree.IsObject : Tree → Prop
  | .emptyObj _ | .obj _ => True
  | _ => False

structure Tree.WellFormed (t : Tree) : Prop where
  shaped : t.Shaped
  strings : ∀ chars ∈ t.strings, NoControl chars
  numbers : ∀ token ∈ t.numbers, isNumber token = true

/-! ## Runs -/

def Ends (p : UInt8 → Bool) (text : Octets) : Prop :=
  ∀ c ∈ text.head?, p c = false

@[simp] theorem ends_cons {p : UInt8 → Bool} {c : UInt8} {text : Octets} :
    Ends p (c :: text) ↔ p c = false := by
  simp [Ends]

private theorem run_append_inj {p : UInt8 → Bool} {run run' text text' : Octets}
    (hRun : ∀ c ∈ run, p c = true) (hRun' : ∀ c ∈ run', p c = true)
    (hEnds : Ends p text) (hEnds' : Ends p text')
    (h : run ++ text = run' ++ text') : run = run' ∧ text = text' := by
  induction run generalizing run' with
  | nil =>
      cases run' with
      | nil => exact ⟨rfl, h⟩
      | cons c run' =>
          rw [List.nil_append, List.cons_append] at h
          rw [h, ends_cons] at hEnds
          rw [hRun' c (by simp)] at hEnds
          cases hEnds
  | cons c run ih =>
      cases run' with
      | nil =>
          rw [List.nil_append, List.cons_append] at h
          rw [← h, ends_cons] at hEnds'
          rw [hRun c (by simp)] at hEnds'
          cases hEnds'
      | cons c' run' =>
          rw [List.cons_append, List.cons_append, List.cons.injEq] at h
          obtain ⟨hRest, hText⟩ := ih (fun d hd => hRun d (by simp [hd]))
            (fun d hd => hRun' d (by simp [hd])) h.2
          exact ⟨by rw [h.1, hRest], hText⟩

theorem ends_spaces {p : UInt8 → Bool} {space text : Octets}
    (hSpace : Spaces space) (hNot : ∀ c, isSpace c = true → p c = false)
    (hEnds : Ends p text) : Ends p (space ++ text) := by
  cases space with
  | nil => exact hEnds
  | cons c space => exact ends_cons.mpr (hNot c (hSpace c (by simp)))

/-! ## One tree for a text -/

theorem isNumberChar_of_isSpace : ∀ c, isSpace c = true →
    isNumberChar c = false := by
  intro c hSpace
  simp only [isSpace, Bool.or_eq_true, beq_iff_eq, or_assoc] at hSpace
  obtain rfl | rfl | rfl | rfl := hSpace <;> rfl

theorem not_shortEscape_u : shortEscape (ascii 'u') = none := by decide

theorem Written.unique {w w' : Written} {text text' : Octets}
    (hw : w.Shaped) (hw' : w'.Shaped)
    (h : w.render ++ text = w'.render ++ text') : w = w' ∧ text = text' := by
  cases w with
  | raw octet =>
      cases w' with
      | raw octet' => simpa [render] using h
      | short _ | unicode _ _ _ _ =>
          simp only [render, List.cons_append, List.cons.injEq] at h
          exact absurd h.1 hw.2
  | short letter =>
      cases w' with
      | raw octet' =>
          simp only [render, List.cons_append, List.cons.injEq] at h
          exact absurd h.1.symm hw'.2
      | short letter' => simpa [render] using h
      | unicode a b c d =>
          simp only [render, List.cons_append, List.cons.injEq] at h
          rw [Shaped, h.2.1, not_shortEscape_u] at hw
          cases hw
  | unicode a b c d =>
      cases w' with
      | raw octet' =>
          simp only [render, List.cons_append, List.cons.injEq] at h
          exact absurd h.1.symm hw'.2
      | short letter =>
          simp only [render, List.cons_append, List.cons.injEq] at h
          rw [Shaped, ← h.2.1, not_shortEscape_u] at hw'
          cases hw'
      | unicode a' b' c' d' => simpa [render, and_assoc] using h

private theorem Written.render_ne_quote {w : Written} {text text' : Octets}
    (hw : w.Shaped) : w.render ++ text ≠ quote :: text' := by
  intro h
  cases w with
  | raw octet =>
      simp only [render, List.cons_append, List.cons.injEq] at h
      exact absurd h.1 hw.1
  | short _ | unicode _ _ _ _ =>
      simp only [render, List.cons_append, List.cons.injEq] at h
      exact absurd h.1 (by decide)

private theorem chars_unique {chars chars' : List Written} {text text' : Octets}
    (hChars : IsString chars) (hChars' : IsString chars')
    (h : chars.flatMap Written.render ++ quote :: text =
      chars'.flatMap Written.render ++ quote :: text') :
    chars = chars' ∧ text = text' := by
  induction chars generalizing chars' with
  | nil =>
      cases chars' with
      | nil => simpa using h
      | cons w chars' =>
          rw [List.flatMap_cons, List.append_assoc] at h
          exact absurd h.symm (Written.render_ne_quote (hChars' w (by simp)))
  | cons w chars ih =>
      cases chars' with
      | nil =>
          rw [List.flatMap_cons, List.append_assoc] at h
          exact absurd h (Written.render_ne_quote (hChars w (by simp)))
      | cons w' chars' =>
          rw [List.flatMap_cons, List.flatMap_cons, List.append_assoc,
            List.append_assoc] at h
          obtain ⟨rfl, hRest⟩ := Written.unique (hChars w (by simp))
            (hChars' w' (by simp)) h
          obtain ⟨rfl, hText⟩ := ih (fun v hv => hChars v (by simp [hv]))
            (fun v hv => hChars' v (by simp [hv])) hRest
          exact ⟨rfl, hText⟩

private theorem quotedChars_unique {chars chars' : List Written}
    {text text' : Octets} (hChars : IsString chars) (hChars' : IsString chars')
    (h : quotedChars chars ++ text = quotedChars chars' ++ text') :
    chars = chars' ∧ text = text' := by
  simp only [quotedChars, List.cons_append, List.append_assoc, List.nil_append,
    List.cons.injEq, true_and] at h
  exact chars_unique hChars hChars' h

theorem Label.unique {label label' : Label} {text text' : Octets}
    (hLabel : label.Shaped) (hLabel' : label'.Shaped)
    (h : label.render ++ text = label'.render ++ text') :
    label = label' ∧ text = text' := by
  obtain ⟨before, key, after⟩ := label
  obtain ⟨before', key', after'⟩ := label'
  obtain ⟨hBefore, hKey, hAfter⟩ := hLabel
  obtain ⟨hBefore', hKey', hAfter'⟩ := hLabel'
  have hQuote : isSpace quote = false := by decide
  have hColon : isSpace (ascii ':') = false := by decide
  simp only [render, List.append_assoc] at h
  obtain ⟨rfl, hQuoted⟩ := run_append_inj hBefore hBefore'
    (ends_cons.mpr hQuote) (ends_cons.mpr hQuote) h
  obtain ⟨rfl, hColons⟩ := quotedChars_unique hKey hKey' hQuoted
  obtain ⟨rfl, hText⟩ := run_append_inj hAfter hAfter'
    (ends_cons.mpr hColon) (ends_cons.mpr hColon) hColons
  exact ⟨rfl, (List.cons.inj hText).2⟩

inductive Kind
  | null | yes | no | num | str | arr | obj
  deriving DecidableEq

def kindOf (c : UInt8) : Option Kind :=
  if c = ascii 'n' then some .null
  else if c = ascii 't' then some .yes
  else if c = ascii 'f' then some .no
  else if c = quote then some .str
  else if c = ascii '[' then some .arr
  else if c = ascii '{' then some .obj
  else if isNumberChar c then some .num
  else none

def Tree.kind : Tree → Kind
  | .null => .null
  | .bool true => .yes
  | .bool false => .no
  | .num _ => .num
  | .str _ => .str
  | .emptyArr _ | .arr _ => .arr
  | .emptyObj _ | .obj _ => .obj

private theorem kindOf_of_isNumberChar : ∀ c, isNumberChar c = true →
    kindOf c = some .num := by
  intro c hNumber
  have hNot {letter : UInt8} (h : isNumberChar letter = false) :
      c ≠ letter := by
    rintro rfl
    simp [h] at hNumber
  rw [kindOf, if_neg (hNot rfl), if_neg (hNot rfl), if_neg (hNot rfl),
    if_neg (hNot rfl), if_neg (hNot rfl), if_neg (hNot rfl), if_pos hNumber]

private theorem not_isSpace_of_kindOf : ∀ c, (kindOf c).isSome →
    isSpace c = false := by
  intro c hKind
  rw [← Bool.not_eq_true]
  intro hSpace
  simp only [isSpace, Bool.or_eq_true, beq_iff_eq, or_assoc] at hSpace
  obtain rfl | rfl | rfl | rfl := hSpace <;> cases hKind

theorem Tree.render_head {t : Tree} (h : t.Shaped) :
    ∃ c rest, t.render = c :: rest ∧ kindOf c = some t.kind := by
  cases t with
  | null => exact ⟨_, _, rfl, rfl⟩
  | bool b =>
      cases b with
      | true => exact ⟨_, _, rfl, rfl⟩
      | false => exact ⟨_, _, rfl, rfl⟩
  | num token =>
      obtain ⟨hNonempty, hChars⟩ := h
      obtain ⟨c, rest, rfl⟩ := List.exists_cons_of_ne_nil hNonempty
      exact ⟨c, rest, rfl, kindOf_of_isNumberChar c (hChars c (by simp))⟩
  | str chars => exact ⟨_, _, rfl, rfl⟩
  | emptyArr space => exact ⟨_, _, rfl, rfl⟩
  | emptyObj space => exact ⟨_, _, rfl, rfl⟩
  | arr items => exact ⟨_, _, rfl, rfl⟩
  | obj members => exact ⟨_, _, rfl, rfl⟩

theorem ends_isSpace_render {t : Tree} (h : t.Shaped) (rest : Octets) :
    Ends isSpace (t.render ++ rest) := by
  obtain ⟨c, tail, hRender, hKind⟩ := Tree.render_head h
  rw [hRender, List.cons_append, ends_cons]
  exact not_isSpace_of_kindOf c (by rw [hKind]; rfl)

private theorem Tree.kind_eq {t t' : Tree} {text text' : Octets} (ht : t.Shaped)
    (ht' : t'.Shaped) (h : t.render ++ text = t'.render ++ text') :
    t.kind = t'.kind := by
  obtain ⟨c, rest, hRender, hKind⟩ := Tree.render_head ht
  obtain ⟨c', rest', hRender', hKind'⟩ := Tree.render_head ht'
  rw [hRender, hRender', List.cons_append, List.cons_append,
    List.cons.injEq] at h
  rw [h.1, hKind'] at hKind
  exact (Option.some.inj hKind).symm

/-- No other tree has the text.  Only the end of a number is told by what it is
followed by. -/
def Tree.Determined (t : Tree) : Prop :=
  ∀ t' text text', t.Shaped → t'.Shaped →
    (t.kind = .num → Ends isNumberChar text) →
      (t'.kind = .num → Ends isNumberChar text') →
        t.render ++ text = t'.render ++ text' → t = t' ∧ text = text'

/-- An octet that neither a value, nor a number's end, nor white space takes
for its own. -/
def IsMark (c : UInt8) : Prop :=
  isSpace c = false ∧ isNumberChar c = false

private theorem field_unique {t t' : Tree}
    {before before' after after' : Octets}
    {mark mark' : UInt8} {text text' : Octets} (hUnique : t.Determined)
    (ht : Spaces before ∧ t.Shaped ∧ Spaces after)
    (ht' : Spaces before' ∧ t'.Shaped ∧ Spaces after')
    (hMark : IsMark mark) (hMark' : IsMark mark')
    (h : before ++ (t.render ++ (after ++ mark :: text)) =
      before' ++ (t'.render ++ (after' ++ mark' :: text'))) :
    (before = before' ∧ t = t' ∧ after = after') ∧
      mark = mark' ∧ text = text' := by
  obtain ⟨hBefore, hItem, hAfter⟩ := ht
  obtain ⟨hBefore', hItem', hAfter'⟩ := ht'
  obtain ⟨rfl, hItems⟩ := run_append_inj hBefore hBefore'
    (ends_isSpace_render hItem _) (ends_isSpace_render hItem' _) h
  obtain ⟨rfl, hAfters⟩ := hUnique t' _ _ hItem hItem'
    (fun _ =>
      ends_spaces hAfter isNumberChar_of_isSpace (ends_cons.mpr hMark.2))
    (fun _ =>
      ends_spaces hAfter' isNumberChar_of_isSpace (ends_cons.mpr hMark'.2))
    hItems
  obtain ⟨rfl, hMarks⟩ := run_append_inj hAfter hAfter'
    (ends_cons.mpr hMark.1) (ends_cons.mpr hMark'.1) hAfters
  obtain ⟨rfl, rfl⟩ := List.cons.inj hMarks
  exact ⟨⟨rfl, rfl, rfl⟩, rfl, rfl⟩

theorem isMark_comma : IsMark (ascii ',') := by
  constructor <;> decide

theorem isMark_bracket : IsMark (ascii ']') := by
  constructor <;> decide

theorem isMark_brace : IsMark (ascii '}') := by
  constructor <;> decide

private theorem spaces_ne_mark {space text text' : Octets} {c mark : UInt8}
    {rest : Octets} (hSpace : Spaces space) (hBefore : Spaces rest)
    (hMark : IsMark mark) (hHead : isSpace c = false) (hNe : c ≠ mark) :
    rest ++ c :: text ≠ space ++ mark :: text' := by
  intro h
  obtain ⟨-, hRest⟩ := run_append_inj hBefore hSpace (ends_cons.mpr hHead)
    (ends_cons.mpr hMark.1) h
  exact hNe (List.cons.inj hRest).1

theorem Items.render_ne_close {items : Items} {space text text' : Octets}
    (hItems : items.Shaped) (hSpace : Spaces space) :
    items.render ++ text ≠ space ++ ascii ']' :: text' := by
  have hNone : kindOf (ascii ']') = none := by decide
  cases items with
  | last before item after =>
      obtain ⟨c, rest, hRender, hKind⟩ := Tree.render_head hItems.2.1
      rw [Items.render, hRender, List.append_assoc, List.cons_append,
        List.cons_append]
      refine spaces_ne_mark hSpace hItems.1 isMark_bracket
        (not_isSpace_of_kindOf c (by rw [hKind]; rfl)) ?_
      rintro rfl
      rw [hNone] at hKind
      cases hKind
  | more before item after items =>
      obtain ⟨c, rest, hRender, hKind⟩ := Tree.render_head hItems.1.2.1
      rw [Items.render, hRender, List.append_assoc, List.cons_append,
        List.cons_append]
      refine spaces_ne_mark hSpace hItems.1.1 isMark_bracket
        (not_isSpace_of_kindOf c (by rw [hKind]; rfl)) ?_
      rintro rfl
      rw [hNone] at hKind
      cases hKind

theorem Members.render_ne_close {members : Members}
    {space text text' : Octets} (hMembers : members.Shaped)
    (hSpace : Spaces space) :
    members.render ++ text ≠ space ++ ascii '}' :: text' := by
  have hQuote : isSpace quote = false := by decide
  cases members with
  | last label before item after =>
      rw [Members.render, Label.render, quotedChars]
      simp only [List.append_assoc, List.cons_append]
      exact spaces_ne_mark hSpace hMembers.1.1 isMark_brace hQuote
        (by decide)
  | more label before item after members =>
      rw [Members.render, Label.render, quotedChars]
      simp only [List.append_assoc, List.cons_append]
      exact spaces_ne_mark hSpace hMembers.1.1.1 isMark_brace hQuote
        (by decide)

mutual

theorem Tree.unique (t : Tree) : t.Determined := by
  intro t' text text' ht ht' hEnds hEnds' h
  have hKind := Tree.kind_eq ht ht' h
  cases t with
  | null =>
      cases t' with
      | null => exact ⟨rfl, List.append_cancel_left h⟩
      | bool b => cases b <;> cases hKind
      | _ => cases hKind
  | bool b =>
      cases t' with
      | bool b' =>
          have hEq : b = b' := by
            cases b <;> cases b' <;> first | rfl | cases hKind
          subst hEq
          exact ⟨rfl, List.append_cancel_left h⟩
      | _ => cases b <;> cases hKind
  | num token =>
      cases t' with
      | num token' =>
          obtain ⟨rfl, hText⟩ :=
            run_append_inj ht.2 ht'.2 (hEnds rfl) (hEnds' rfl) h
          exact ⟨rfl, hText⟩
      | bool b => cases b <;> cases hKind
      | _ => cases hKind
  | str chars =>
      cases t' with
      | str chars' =>
          obtain ⟨rfl, hText⟩ := quotedChars_unique ht ht' h
          exact ⟨rfl, hText⟩
      | bool b => cases b <;> cases hKind
      | _ => cases hKind
  | emptyArr space =>
      have hBracket : isSpace (ascii ']') = false := by decide
      cases t' with
      | emptyArr space' =>
          simp only [Tree.render, List.cons_append, List.append_assoc,
            List.cons.injEq, true_and] at h
          obtain ⟨rfl, hText⟩ := run_append_inj ht ht'
            (ends_cons.mpr hBracket) (ends_cons.mpr hBracket) h
          exact ⟨rfl, (List.cons.inj hText).2⟩
      | arr items =>
          simp only [Tree.render, List.cons_append, List.append_assoc,
            List.cons.injEq, true_and] at h
          exact absurd h.symm (Items.render_ne_close ht' ht)
      | bool b => cases b <;> cases hKind
      | _ => cases hKind
  | emptyObj space =>
      have hBrace : isSpace (ascii '}') = false := by decide
      cases t' with
      | emptyObj space' =>
          simp only [Tree.render, List.cons_append, List.append_assoc,
            List.cons.injEq, true_and] at h
          obtain ⟨rfl, hText⟩ := run_append_inj ht ht'
            (ends_cons.mpr hBrace) (ends_cons.mpr hBrace) h
          exact ⟨rfl, (List.cons.inj hText).2⟩
      | obj members =>
          simp only [Tree.render, List.cons_append, List.append_assoc,
            List.cons.injEq, true_and] at h
          exact absurd h.symm (Members.render_ne_close ht' ht)
      | bool b => cases b <;> cases hKind
      | _ => cases hKind
  | arr items =>
      cases t' with
      | emptyArr space =>
          simp only [Tree.render, List.cons_append, List.append_assoc,
            List.cons.injEq, true_and] at h
          exact absurd h (Items.render_ne_close ht ht')
      | arr items' =>
          simp only [Tree.render, List.cons_append, List.cons.injEq,
            true_and] at h
          obtain ⟨rfl, hText⟩ := Items.unique items items' text text' ht ht' h
          exact ⟨rfl, hText⟩
      | bool b => cases b <;> cases hKind
      | _ => cases hKind
  | obj members =>
      cases t' with
      | emptyObj space =>
          simp only [Tree.render, List.cons_append, List.append_assoc,
            List.cons.injEq, true_and] at h
          exact absurd h (Members.render_ne_close ht ht')
      | obj members' =>
          simp only [Tree.render, List.cons_append, List.cons.injEq,
            true_and] at h
          obtain ⟨rfl, hText⟩ :=
            Members.unique members members' text text' ht ht' h
          exact ⟨rfl, hText⟩
      | bool b => cases b <;> cases hKind
      | _ => cases hKind

theorem Items.unique (items items' : Items) (text text' : Octets)
    (hItems : items.Shaped) (hItems' : items'.Shaped)
    (h : items.render ++ text = items'.render ++ text') :
    items = items' ∧ text = text' := by
  cases items with
  | last before item after =>
      cases items' with
      | last before' item' after' =>
          simp only [Items.render, List.append_assoc, List.cons_append,
            List.nil_append] at h
          obtain ⟨⟨rfl, rfl, rfl⟩, -, hText⟩ := field_unique
            (Tree.unique item) hItems hItems' isMark_bracket isMark_bracket h
          exact ⟨rfl, hText⟩
      | more before' item' after' items' =>
          simp only [Items.render, List.append_assoc, List.cons_append,
            List.nil_append] at h
          obtain ⟨-, hMark, -⟩ := field_unique (Tree.unique item) hItems
            hItems'.1 isMark_bracket isMark_comma h
          exact absurd hMark (by decide)
  | more before item after items =>
      cases items' with
      | last before' item' after' =>
          simp only [Items.render, List.append_assoc, List.cons_append,
            List.nil_append] at h
          obtain ⟨-, hMark, -⟩ := field_unique (Tree.unique item) hItems.1
            hItems' isMark_comma isMark_bracket h
          exact absurd hMark (by decide)
      | more before' item' after' items' =>
          simp only [Items.render, List.append_assoc, List.cons_append]
            at h
          obtain ⟨⟨rfl, rfl, rfl⟩, -, hRest⟩ := field_unique
            (Tree.unique item) hItems.1 hItems'.1 isMark_comma isMark_comma h
          obtain ⟨rfl, hText⟩ := Items.unique items items' text text'
            hItems.2 hItems'.2 hRest
          exact ⟨rfl, hText⟩

theorem Members.unique (members members' : Members) (text text' : Octets)
    (hMembers : members.Shaped) (hMembers' : members'.Shaped)
    (h : members.render ++ text = members'.render ++ text') :
    members = members' ∧ text = text' := by
  cases members with
  | last label before item after =>
      cases members' with
      | last label' before' item' after' =>
          simp only [Members.render, List.append_assoc, List.cons_append,
            List.nil_append] at h
          obtain ⟨rfl, hItem⟩ := Label.unique hMembers.1 hMembers'.1 h
          obtain ⟨⟨rfl, rfl, rfl⟩, -, hText⟩ := field_unique
            (Tree.unique item) hMembers.2 hMembers'.2 isMark_brace
            isMark_brace hItem
          exact ⟨rfl, hText⟩
      | more label' before' item' after' members' =>
          simp only [Members.render, List.append_assoc, List.cons_append,
            List.nil_append] at h
          obtain ⟨rfl, hItem⟩ := Label.unique hMembers.1 hMembers'.1.1 h
          obtain ⟨-, hMark, -⟩ := field_unique (Tree.unique item) hMembers.2
            hMembers'.1.2 isMark_brace isMark_comma hItem
          exact absurd hMark (by decide)
  | more label before item after members =>
      cases members' with
      | last label' before' item' after' =>
          simp only [Members.render, List.append_assoc, List.cons_append,
            List.nil_append] at h
          obtain ⟨rfl, hItem⟩ := Label.unique hMembers.1.1 hMembers'.1 h
          obtain ⟨-, hMark, -⟩ := field_unique (Tree.unique item)
            hMembers.1.2 hMembers'.2 isMark_comma isMark_brace hItem
          exact absurd hMark (by decide)
      | more label' before' item' after' members' =>
          simp only [Members.render, List.append_assoc, List.cons_append]
            at h
          obtain ⟨rfl, hItem⟩ := Label.unique hMembers.1.1 hMembers'.1.1 h
          obtain ⟨⟨rfl, rfl, rfl⟩, -, hRest⟩ := field_unique
            (Tree.unique item) hMembers.1.2 hMembers'.1.2 isMark_comma
            isMark_comma hItem
          obtain ⟨rfl, hText⟩ := Members.unique members members' text text'
            hMembers.2 hMembers'.2 hRest
          exact ⟨rfl, hText⟩

end

theorem Tree.unique_behind {t t' : Tree} {space space' text text' : Octets}
    (hSpace : Spaces space) (hSpace' : Spaces space') (ht : t.Shaped)
    (ht' : t'.Shaped) (hEnds : t.kind = .num → Ends isNumberChar text)
    (hEnds' : t'.kind = .num → Ends isNumberChar text')
    (h : space ++ (t.render ++ text) = space' ++ (t'.render ++ text')) :
    t = t' ∧ text = text' := by
  obtain ⟨-, hText⟩ := run_append_inj hSpace hSpace'
    (ends_isSpace_render ht _) (ends_isSpace_render ht' _) h
  exact Tree.unique t t' text text' ht ht' hEnds hEnds' hText

end CppRcp.Foundation.JsonGrammar
