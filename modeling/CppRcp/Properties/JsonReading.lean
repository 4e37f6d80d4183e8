import CppRcp.Cli.Json
import Mathlib.Data.List.TakeWhile

/-!
# What the JSON reader makes of a text

The reader takes a text as a tree of the JSON grammar whose numbers it can
convert, and stops just behind the tree.  It refuses every text that does not
begin with such a tree.
-/

namespace CppRcp.Cli

open CppRcp.Foundation CppRcp.Foundation.JsonGrammar

/-! ## Octets -/

private theorem isWs_eq : isWs = isSpace := rfl

private theorem isNumberScan_eq : isNumberScan = isNumberChar := rfl

set_option maxRecDepth 10000 in
private theorem unescape_eq : ∀ e, unescape e = shortEscape e := by
  decide

private theorem lor_of_lt {a b k : Nat} (hb : b < 2 ^ k) :
    2 ^ k * a ||| b = 2 ^ k * a + b :=
  (Nat.two_pow_add_eq_or_of_lt hb a).symm

set_option maxRecDepth 10000 in
private theorem pushHex_eq (cp : Nat) (h : UInt8) :
    pushHex cp h = (hexDigit h).map (cp * 16 + ·) := by
  have hShift : ∀ d < 16, cp <<< 4 ||| d = cp * 16 + d := by
    intro d hd
    rw [← Nat.shiftLeft_add_eq_or_of_lt (show d < 2 ^ 4 by omega),
      Nat.shiftLeft_eq]
  have hDigits : ∀ h,
      (isDigit h = true → (h - ascii '0').toNat < 16) ∧
        ((ascii 'a' ≤ h && h ≤ ascii 'f') = true →
          (h - ascii 'a').toNat + 10 < 16) ∧
        ((ascii 'A' ≤ h && h ≤ ascii 'F') = true →
          (h - ascii 'A').toNat + 10 < 16) := by
    decide
  obtain ⟨hDecimal, hLower, hUpper⟩ := hDigits h
  unfold pushHex hexDigit
  simp only [isDigit, Bool.and_eq_true, decide_eq_true_eq] at *
  split
  · next hd =>
      rw [hShift _ (hDecimal hd)]
      rfl
  · split
    · next ha =>
        rw [hShift _ (hLower ha)]
        rfl
    · split
      · next hA =>
          rw [hShift _ (hUpper hA)]
          rfl
      · rfl

private theorem pushCode_eq {cp : Nat} (h : cp < 65536) :
    pushCode cp = codeOctets cp := by
  have hMask : ∀ n : Nat, 0x80 ||| n &&& 0x3F = 0x80 + n % 64 := by
    intro n
    have hMod : n &&& 0x3F = n % 64 := Nat.and_two_pow_sub_one_eq_mod n 6
    rw [hMod]
    exact @lor_of_lt 2 (n % 64) 6 (Nat.mod_lt n (by decide))
  have hThree : 2048 ≤ cp → 0xE0 ||| cp >>> 12 = 0xE0 + cp / 4096 := by
    intro _
    rw [Nat.shiftRight_eq_div_pow]
    exact @lor_of_lt 7 (cp / 2 ^ 12) 5 (by omega)
  have hTwo : cp < 2048 → 0xC0 ||| cp / 64 = 0xC0 + cp / 64 := by
    intro _
    exact @lor_of_lt 3 (cp / 64) 6 (by omega)
  have hShift : cp >>> 6 = cp / 64 := Nat.shiftRight_eq_div_pow cp 6
  have hOctet : ∀ {m n : Nat}, m = n → UInt8.ofNat m = UInt8.ofNat n :=
    fun hEq => congrArg UInt8.ofNat hEq
  unfold codeOctets pushCode
  rw [hMask, hMask, hShift]
  by_cases hValid : cp.isValidChar
  · have hNat : (Char.ofNat cp).val.toNat = cp := by
      unfold Char.ofNat
      rw [dif_pos hValid]
      rfl
    rw [if_pos hValid, String.utf8EncodeChar, hNat]
    by_cases hOne : cp < 0x80
    · rw [if_pos hOne, if_pos (show cp ≤ 0x7F by omega)]
    · rw [if_neg hOne, if_neg (show ¬ cp ≤ 0x7F by omega)]
      by_cases hUnder : cp < 0x800
      · rw [if_pos hUnder, if_pos (show cp ≤ 0x7FF by omega), hTwo hUnder,
          hOctet (show 0xC0 + cp / 64 = cp / 64 % 0x20 + 0xC0 by omega),
          hOctet (show 0x80 + cp % 64 = cp % 0x40 + 0x80 by omega)]
      · rw [if_neg hUnder, if_neg (show ¬ cp ≤ 0x7FF by omega),
          if_pos (show cp ≤ 0xFFFF by omega), hThree (by omega),
          hOctet (show 0xE0 + cp / 4096 = cp / 4096 % 0x10 + 0xE0 by omega),
          hOctet (show 0x80 + cp / 64 % 64 = cp / 64 % 0x40 + 0x80 by omega),
          hOctet (show 0x80 + cp % 64 = cp % 0x40 + 0x80 by omega)]
  · have hLarge : 0xD800 ≤ cp := by
      by_contra hSmall
      exact hValid (.inl (by omega))
    rw [if_neg hValid, if_neg (show ¬ cp < 0x80 by omega),
      if_neg (show ¬ cp < 0x800 by omega), hThree (by omega)]

/-! ## Strings -/

def octetsOf (chars : List Written) : Octets := chars.flatMap Written.octets

private theorem foldlM_pushHex {digits : Octets}
    (h : ∀ digit ∈ digits, (hexDigit digit).isSome) (cp : Nat) :
    digits.foldlM pushHex cp =
      some (digits.foldl
        (fun code digit => code * 16 + (hexDigit digit).getD 0) cp) := by
  induction digits generalizing cp with
  | nil => rfl
  | cons digit digits ih =>
      obtain ⟨value, hValue⟩ := Option.isSome_iff_exists.mp (h digit (by simp))
      rw [List.foldlM_cons, pushHex_eq, hValue]
      change digits.foldlM pushHex (cp * 16 + value) = _
      rw [ih (fun d hd => h d (by simp [hd])), List.foldl_cons, hValue]
      rfl

private theorem isSome_of_foldlM_pushHex {digits : Octets} {cp code : Nat}
    (h : digits.foldlM pushHex cp = some code) :
    ∀ digit ∈ digits, (hexDigit digit).isSome := by
  induction digits generalizing cp with
  | nil => simp
  | cons digit digits ih =>
      rw [List.foldlM_cons, pushHex_eq] at h
      cases hDigit : hexDigit digit with
      | none =>
          rw [hDigit] at h
          cases h
      | some value =>
          rw [hDigit] at h
          rw [List.forall_mem_cons, hDigit]
          exact ⟨rfl, ih h⟩

set_option maxRecDepth 10000 in
private theorem hexDigit_lt : ∀ digit, (hexDigit digit).getD 0 < 16 := by
  decide

private theorem code_lt (a b c d : UInt8) : Written.code a b c d < 65536 := by
  have ha := hexDigit_lt a
  have hb := hexDigit_lt b
  have hc := hexDigit_lt c
  have hd := hexDigit_lt d
  simp only [Written.code, List.foldl_cons, List.foldl_nil]
  omega

private theorem parseChars_quote (out s : Octets) :
    parseChars out (quote :: s) = some (out, s) := by
  rw [parseChars.eq_def]
  exact if_pos rfl

private theorem parseChars_backslash (out : Octets) (e : UInt8) (s : Octets) :
    parseChars out (backslash :: e :: s) =
      match shortEscape e with
      | some octet => parseChars (out ++ [octet]) s
      | none =>
          if e = ascii 'u' then
            match s with
            | h1 :: h2 :: h3 :: h4 :: s =>
                match [h1, h2, h3, h4].foldlM pushHex 0 with
                | some cp => parseChars (out ++ pushCode cp) s
                | none => none
            | _ => none
          else none := by
  rw [parseChars.eq_def, ← unescape_eq]
  exact (if_neg (by decide)).trans (if_pos rfl)

private theorem parseChars_written {w : Written} (hw : w.Shaped)
    (out s : Octets) :
    parseChars out (w.render ++ s) = parseChars (out ++ w.octets) s := by
  cases w with
  | raw octet =>
      rw [Written.render, List.singleton_append, parseChars.eq_def,
        Written.octets]
      exact (if_neg hw.1).trans (if_neg hw.2)
  | short letter =>
      obtain ⟨octet, hOctet⟩ := Option.isSome_iff_exists.mp hw
      rw [Written.render, List.cons_append, List.singleton_append,
        parseChars_backslash]
      simp only [hOctet, Written.octets, Option.toList_some]
  | unicode a b c d =>
      have hCode := foldlM_pushHex hw 0
      rw [Written.render]
      simp only [List.cons_append, List.nil_append]
      rw [parseChars_backslash]
      simp only [not_shortEscape_u, if_true, hCode]
      rw [← Written.code, pushCode_eq (code_lt a b c d), Written.octets]

private theorem parseChars_chars {chars : List Written} (h : IsString chars)
    (out rest : Octets) :
    parseChars out (chars.flatMap Written.render ++ quote :: rest) =
      some (out ++ octetsOf chars, rest) := by
  induction chars generalizing out with
  | nil =>
      rw [List.flatMap_nil, List.nil_append, parseChars_quote]
      simp [octetsOf]
  | cons w chars ih =>
      rw [List.flatMap_cons, List.append_assoc,
        parseChars_written (h w (by simp)),
        ih (fun v hv => h v (by simp [hv]))]
      simp [octetsOf]

private theorem jsonParseString_quotedChars {chars : List Written}
    (h : IsString chars) (rest : Octets) :
    jsonParseString (quotedChars chars ++ rest) = some (octetsOf chars, rest) := by
  have hChars := parseChars_chars h [] rest
  rw [quotedChars, List.cons_append, List.append_assoc, List.singleton_append,
    jsonParseString]
  exact (if_pos rfl).trans hChars

private theorem chars_of_parseChars {out s octets rest : Octets}
    (h : parseChars out s = some (octets, rest)) :
    ∃ chars, IsString chars ∧
      s = chars.flatMap Written.render ++ quote :: rest ∧
        octets = out ++ octetsOf chars := by
  have hCons : ∀ {w : Written} {out s : Octets}, w.Shaped →
      (∃ chars, IsString chars ∧
        s = chars.flatMap Written.render ++ quote :: rest ∧
          octets = out ++ w.octets ++ octetsOf chars) →
      ∃ chars, IsString chars ∧
        w.render ++ s = chars.flatMap Written.render ++ quote :: rest ∧
          octets = out ++ octetsOf chars := by
    rintro w out s hw ⟨chars, hChars, rfl, rfl⟩
    refine ⟨w :: chars, List.forall_mem_cons.mpr ⟨hw, hChars⟩, ?_, ?_⟩
    · rw [List.flatMap_cons, List.append_assoc]
    · simp [octetsOf]
  fun_induction parseChars out s with
  | case1 out => cases h
  | case2 out s =>
      obtain ⟨rfl, rfl⟩ := Prod.mk.inj (Option.some.inj h)
      exact ⟨[], by simp [IsString], rfl, by simp [octetsOf]⟩
  | case3 out => cases h
  | case4 out e s octet hEscape hNe ih =>
      have hw : (Written.short e).Shaped := by
        rw [Written.Shaped, ← unescape_eq, hEscape]
        rfl
      refine hCons hw ?_
      rw [Written.octets, ← unescape_eq, hEscape]
      exact ih h
  | case5 out a b c d s cp hCode hNe hNone ih =>
      have hw : (Written.unicode a b c d).Shaped :=
        isSome_of_foldlM_pushHex hCode
      refine hCons hw ?_
      have hEq := foldlM_pushHex hw 0
      rw [hCode] at hEq
      obtain rfl : cp = Written.code a b c d := Option.some.inj hEq
      rw [Written.octets, ← pushCode_eq (code_lt a b c d)]
      exact ih h
  | case6 => cases h
  | case7 => cases h
  | case8 => cases h
  | case9 out c s hQuote hBackslash ih =>
      have hw : (Written.raw c).Shaped := ⟨hQuote, hBackslash⟩
      exact hCons hw (ih h)

private theorem quotedChars_of_jsonParseString {s octets rest : Octets}
    (h : jsonParseString s = some (octets, rest)) :
    ∃ chars, IsString chars ∧ s = quotedChars chars ++ rest ∧
      octets = octetsOf chars := by
  cases s with
  | nil => cases h
  | cons c s =>
      rw [jsonParseString] at h
      split at h
      · next hQuote =>
          obtain ⟨chars, hChars, rfl, hOctets⟩ := chars_of_parseChars h
          refine ⟨chars, hChars, ?_, hOctets⟩
          rw [hQuote, quotedChars, List.cons_append, List.append_assoc]
          rfl
      · cases h

/-! ## White space and numbers -/

private theorem jsonSkipWs_spaces {space s : Octets} (hSpace : Spaces space)
    (hEnds : Ends isSpace s) : jsonSkipWs (space ++ s) = s := by
  rw [jsonSkipWs, isWs_eq, List.dropWhile_append_of_pos hSpace]
  cases s with
  | nil => rfl
  | cons c s =>
      rw [ends_cons] at hEnds
      exact List.dropWhile_cons_of_neg (by simp [hEnds])

theorem exists_spaces (s : Octets) :
    ∃ space, Spaces space ∧ s = space ++ jsonSkipWs s :=
  ⟨s.takeWhile isSpace, fun _ hc => List.mem_takeWhile_imp hc,
    List.takeWhile_append_dropWhile.symm⟩

private theorem ends_jsonSkipWs (s : Octets) : Ends isSpace (jsonSkipWs s) := by
  intro c hc
  have hHead := List.head?_dropWhile_not isWs s
  rw [← jsonSkipWs, Option.mem_def.mp hc] at hHead
  exact hHead

private theorem jsonSkipWs_jsonSkipWs (s : Octets) :
    jsonSkipWs (jsonSkipWs s) = jsonSkipWs s :=
  jsonSkipWs_spaces (fun _ hc => absurd hc List.not_mem_nil)
    (ends_jsonSkipWs s)

private theorem parseNumber_eq (s : Octets) :
    parseNumber s =
      if s.takeWhile isNumberChar = [] then none
      else (stod (s.takeWhile isNumberChar)).map fun value =>
        (.num value, s.dropWhile isNumberChar) := by
  have hMinus : isNumberChar (ascii '-') = true := by decide
  unfold parseNumber
  cases s with
  | nil => rfl
  | cons c s =>
      by_cases hc : c = ascii '-'
      · simp [hc, isNumberScan_eq, hMinus]
      · simp only [hc, if_false, isNumberScan_eq]

/-! ## Values -/

mutual

def readTree : Tree → JVal
  | .null => .null
  | .bool b => .bool b
  | .num token => .num ((stod token).getD 0)
  | .str chars => .str (octetsOf chars)
  | .emptyArr _ => .arr []
  | .emptyObj _ => .obj []
  | .arr items => .arr (readItems items)
  | .obj members => .obj (readMembers [] members)

def readItems : Items → List JVal
  | .last _ item _ => [readTree item]
  | .more _ item _ items => readTree item :: readItems items

def readMembers (obj : KeyMap JVal) : Members → KeyMap JVal
  | .last label _ item _ => obj.set (octetsOf label.key) (readTree item)
  | .more label _ item _ members =>
      readMembers (obj.set (octetsOf label.key) (readTree item)) members

end

def Converts (tokens : List Octets) : Prop :=
  ∀ token ∈ tokens, (stod token).isSome

/-! ## Every tree is read -/

set_option maxRecDepth 10000 in
private theorem starts_number : ∀ c, isNumberChar c = true →
    isSpace c = false ∧ c ≠ ascii '"' ∧ c ≠ ascii '{' ∧ c ≠ ascii '[' ∧
      ¬ (c = ascii 't' ∨ c = ascii 'f') ∧ c ≠ ascii 'n' := by
  decide

section Productions

variable {space rest : Octets} (fuel : Nat) (hSpace : Spaces space)
include hSpace

private theorem parseValue_quotedChars {chars : List Written}
    (h : IsString chars) :
    parseValue (fuel + 1) (space ++ (quotedChars chars ++ rest)) =
      some (.str (octetsOf chars), rest) := by
  have hQuote : isSpace quote = false := by decide
  have hString := jsonParseString_quotedChars h rest
  rw [quotedChars, List.cons_append] at hString ⊢
  rw [parseValue, jsonSkipWs_spaces hSpace (ends_cons.mpr hQuote)]
  dsimp only
  rw [if_pos (by rfl), hString]
  rfl

private theorem parseValue_number {token : Octets} (hToken : token ≠ [])
    (hChars : ∀ c ∈ token, isNumberChar c = true)
    (hEnds : Ends isNumberChar rest) (hStod : (stod token).isSome) :
    parseValue (fuel + 1) (space ++ (token ++ rest)) =
      some (.num ((stod token).getD 0), rest) := by
  obtain ⟨value, hValue⟩ := Option.isSome_iff_exists.mp hStod
  have hRest : rest.takeWhile isNumberChar = [] ∧
      rest.dropWhile isNumberChar = rest := by
    cases rest with
    | nil => exact ⟨rfl, rfl⟩
    | cons c rest => simp [ends_cons.mp hEnds]
  have hNumber : parseNumber (token ++ rest) =
      some (.num ((stod token).getD 0), rest) := by
    rw [parseNumber_eq, List.takeWhile_append_of_pos hChars, hRest.1,
      List.append_nil, if_neg hToken, hValue,
      List.dropWhile_append_of_pos hChars, hRest.2]
    rfl
  obtain ⟨c, tail, rfl⟩ := List.exists_cons_of_ne_nil hToken
  obtain ⟨hWs, hQuote, hBrace, hBracket, hWord, hNull⟩ :=
    starts_number c (hChars c (by simp))
  rw [List.cons_append] at hNumber ⊢
  rw [parseValue, jsonSkipWs_spaces hSpace (ends_cons.mpr hWs)]
  dsimp only
  rw [if_neg hQuote, if_neg hBrace, if_neg hBracket, if_neg hWord,
    if_neg hNull, hNumber]

private theorem parseValue_brace :
    parseValue (fuel + 1) (space ++ ascii '{' :: rest) =
      if (jsonSkipWs rest).head? = some (ascii '}') then
        some (.obj [], (jsonSkipWs rest).tail)
      else parseMembers fuel [] (jsonSkipWs rest) := by
  have hBrace : isSpace (ascii '{') = false := by decide
  rw [parseValue, jsonSkipWs_spaces hSpace (ends_cons.mpr hBrace)]
  exact (if_neg (by decide)).trans (if_pos rfl)

private theorem parseValue_bracket :
    parseValue (fuel + 1) (space ++ ascii '[' :: rest) =
      if (jsonSkipWs rest).head? = some (ascii ']') then
        some (.arr [], (jsonSkipWs rest).tail)
      else parseItems fuel [] (jsonSkipWs rest) := by
  have hBracket : isSpace (ascii '[') = false := by decide
  rw [parseValue, jsonSkipWs_spaces hSpace (ends_cons.mpr hBracket)]
  exact (if_neg (by decide)).trans
    ((if_neg (by decide)).trans (if_pos rfl))

private theorem parseValue_bool (b : Bool) :
    parseValue (fuel + 1) (space ++ ((Tree.bool b).render ++ rest)) =
      some (.bool b, rest) := by
  rw [parseValue, jsonSkipWs_spaces hSpace
    (ends_isSpace_render (t := .bool b) trivial rest)]
  cases b with
  | true => rfl
  | false => rfl

private theorem parseValue_null :
    parseValue (fuel + 1) (space ++ (Tree.null.render ++ rest)) =
      some (.null, rest) := by
  rw [parseValue, jsonSkipWs_spaces hSpace
    (ends_isSpace_render (t := .null) trivial rest)]
  rfl

end Productions

private theorem parseItems_jsonSkipWs (fuel : Nat) (arr : List JVal)
    (s : Octets) :
    parseItems fuel arr (jsonSkipWs s) = parseItems fuel arr s := by
  have hValue : ∀ fuel, parseValue fuel (jsonSkipWs s) = parseValue fuel s := by
    intro fuel
    cases fuel with
    | zero => rfl
    | succ fuel => rw [parseValue, parseValue, jsonSkipWs_jsonSkipWs]
  cases fuel with
  | zero => rfl
  | succ fuel => rw [parseItems, parseItems, hValue]

private theorem parseMembers_jsonSkipWs (fuel : Nat) (obj : KeyMap JVal)
    (s : Octets) :
    parseMembers fuel obj (jsonSkipWs s) = parseMembers fuel obj s := by
  cases fuel with
  | zero => rfl
  | succ fuel => rw [parseMembers, parseMembers, jsonSkipWs_jsonSkipWs]

private theorem parseItems_step {fuel : Nat} {s after rest : Octets} {v : JVal}
    {mark : UInt8} (arr : List JVal) (hAfter : Spaces after)
    (hMark : isSpace mark = false)
    (h : parseValue fuel s = some (v, after ++ mark :: rest)) :
    parseItems (fuel + 1) arr s =
      if mark = ascii ',' then parseItems fuel (arr ++ [v]) rest
      else if mark = ascii ']' then some (.arr (arr ++ [v]), rest)
      else none := by
  rw [parseItems, h]
  dsimp only
  rw [jsonSkipWs_spaces hAfter (ends_cons.mpr hMark)]

private theorem parseMembers_step {fuel : Nat} {s after rest : Octets}
    {v : JVal} {mark : UInt8} {label : Label} (obj : KeyMap JVal)
    (hLabel : label.Shaped) (hAfter : Spaces after)
    (hMark : isSpace mark = false)
    (h : parseValue fuel s = some (v, after ++ mark :: rest)) :
    parseMembers (fuel + 1) obj (label.render ++ s) =
      if mark = ascii ',' then
        parseMembers fuel (obj.set (octetsOf label.key) v) rest
      else if mark = ascii '}' then
        some (.obj (obj.set (octetsOf label.key) v), rest)
      else none := by
  have hQuote : isSpace quote = false := by decide
  have hColon : isSpace (ascii ':') = false := by decide
  obtain ⟨hBefore, hKey, hBehind⟩ := hLabel
  have hStart : ∀ text, jsonSkipWs (label.before ++ (quotedChars label.key ++ text)) =
      quotedChars label.key ++ text :=
    fun text => jsonSkipWs_spaces hBefore (ends_cons.mpr hQuote)
  rw [Label.render, List.append_assoc, List.append_assoc, List.append_assoc,
    List.singleton_append, parseMembers, hStart, jsonParseString_quotedChars hKey]
  dsimp only
  rw [jsonSkipWs_spaces hBehind (ends_cons.mpr hColon)]
  dsimp only
  rw [if_neg (not_not.mpr rfl), h]
  dsimp only
  rw [jsonSkipWs_spaces hAfter (ends_cons.mpr hMark)]

private theorem head_ne_of_ne {s : Octets} {mark : UInt8}
    (h : ∀ space text, Spaces space → s ≠ space ++ mark :: text) :
    (jsonSkipWs s).head? ≠ some mark := by
  intro hHead
  obtain ⟨space, hSpace, hEq⟩ := exists_spaces s
  obtain ⟨text, hText⟩ := List.head?_eq_some_iff.mp hHead
  rw [hText] at hEq
  exact h space text hSpace hEq

private theorem ends_field {after rest : Octets} {mark : UInt8}
    (hAfter : Spaces after) (hMark : IsMark mark) :
    Ends isNumberChar (after ++ mark :: rest) :=
  ends_spaces hAfter isNumberChar_of_isSpace (ends_cons.mpr hMark.2)

private theorem render_pos {t : Tree} (h : t.Shaped) : 0 < t.render.length := by
  obtain ⟨c, tail, hRender, -⟩ := Tree.render_head h
  rw [hRender]
  exact Nat.succ_pos _

mutual

private theorem parseValue_tree (t : Tree) {fuel : Nat} {space rest : Octets}
    (ht : t.Shaped) (hNumbers : Converts t.numbers) (hSpace : Spaces space)
    (hEnds : t.kind = .num → Ends isNumberChar rest)
    (hFuel : 2 * t.render.length ≤ fuel) :
    parseValue fuel (space ++ (t.render ++ rest)) =
      some (readTree t, rest) := by
  have hPos := render_pos ht
  obtain ⟨fuel, rfl⟩ : ∃ n, fuel = n + 1 := ⟨fuel - 1, by omega⟩
  cases t with
  | null => exact parseValue_null fuel hSpace
  | bool b => exact parseValue_bool fuel hSpace b
  | num token =>
      exact parseValue_number fuel hSpace ht.1 ht.2 (hEnds rfl)
        (hNumbers token (by simp [Tree.numbers]))
  | str chars => exact parseValue_quotedChars fuel hSpace ht
  | emptyArr inner =>
      have hBracket : isSpace (ascii ']') = false := by decide
      rw [Tree.render, List.cons_append, List.append_assoc,
        List.singleton_append, parseValue_bracket fuel hSpace,
        jsonSkipWs_spaces ht (ends_cons.mpr hBracket)]
      rfl
  | emptyObj inner =>
      have hBrace : isSpace (ascii '}') = false := by decide
      rw [Tree.render, List.cons_append, List.append_assoc,
        List.singleton_append, parseValue_brace fuel hSpace,
        jsonSkipWs_spaces ht (ends_cons.mpr hBrace)]
      rfl
  | arr items =>
      rw [Tree.render, List.length_cons] at hFuel
      rw [Tree.render, List.cons_append, parseValue_bracket fuel hSpace,
        if_neg (head_ne_of_ne fun _ _ h => Items.render_ne_close ht h),
        parseItems_jsonSkipWs,
        parseItems_items items ht hNumbers (by omega)]
      rfl
  | obj members =>
      rw [Tree.render, List.length_cons] at hFuel
      rw [Tree.render, List.cons_append, parseValue_brace fuel hSpace,
        if_neg (head_ne_of_ne fun _ _ h => Members.render_ne_close ht h),
        parseMembers_jsonSkipWs,
        parseMembers_members members ht hNumbers (by omega)]
      rfl

private theorem parseItems_items (items : Items) {fuel : Nat} {arr : List JVal}
    {rest : Octets} (hItems : items.Shaped)
    (hNumbers : Converts items.numbers)
    (hFuel : 2 * items.render.length ≤ fuel) :
    parseItems fuel arr (items.render ++ rest) =
      some (.arr (arr ++ readItems items), rest) := by
  cases items with
  | last before item after =>
      obtain ⟨hBefore, hItem, hAfter⟩ := hItems
      simp only [Items.render, List.length_append, List.length_singleton]
        at hFuel
      obtain ⟨fuel, rfl⟩ : ∃ n, fuel = n + 1 := ⟨fuel - 1, by omega⟩
      have hValue : parseValue fuel
            (before ++ (item.render ++ (after ++ ascii ']' :: rest))) =
          some (readTree item, after ++ ascii ']' :: rest) :=
        parseValue_tree item hItem hNumbers hBefore
          (fun _ => ends_field hAfter isMark_bracket) (by omega)
      simp only [Items.render, List.append_assoc, List.singleton_append]
      rw [parseItems_step arr hAfter isMark_bracket.1 hValue,
        if_neg (by decide), if_pos rfl, readItems]
  | more before item after items =>
      obtain ⟨⟨hBefore, hItem, hAfter⟩, hRest⟩ := hItems
      simp only [Items.render, List.length_append, List.length_cons] at hFuel
      obtain ⟨fuel, rfl⟩ : ∃ n, fuel = n + 1 := ⟨fuel - 1, by omega⟩
      obtain ⟨hNumber, hNumbers⟩ := List.forall_mem_append.mp hNumbers
      have hValue : parseValue fuel (before ++ (item.render ++
            (after ++ ascii ',' :: (items.render ++ rest)))) =
          some (readTree item, after ++ ascii ',' :: (items.render ++ rest)) :=
        parseValue_tree item hItem hNumber hBefore
          (fun _ => ends_field hAfter isMark_comma) (by omega)
      simp only [Items.render, List.append_assoc, List.cons_append]
      rw [parseItems_step arr hAfter isMark_comma.1 hValue, if_pos rfl,
        parseItems_items items hRest hNumbers (by omega), readItems,
        List.append_assoc, List.singleton_append]

private theorem parseMembers_members (members : Members) {fuel : Nat}
    {obj : KeyMap JVal} {rest : Octets} (hMembers : members.Shaped)
    (hNumbers : Converts members.numbers)
    (hFuel : 2 * members.render.length ≤ fuel) :
    parseMembers fuel obj (members.render ++ rest) =
      some (.obj (readMembers obj members), rest) := by
  cases members with
  | last label before item after =>
      obtain ⟨hLabel, hBefore, hItem, hAfter⟩ := hMembers
      simp only [Members.render, List.length_append, List.length_singleton]
        at hFuel
      obtain ⟨fuel, rfl⟩ : ∃ n, fuel = n + 1 := ⟨fuel - 1, by omega⟩
      have hValue : parseValue fuel
            (before ++ (item.render ++ (after ++ ascii '}' :: rest))) =
          some (readTree item, after ++ ascii '}' :: rest) :=
        parseValue_tree item hItem hNumbers hBefore
          (fun _ => ends_field hAfter isMark_brace) (by omega)
      simp only [Members.render, List.append_assoc, List.singleton_append]
      rw [parseMembers_step obj hLabel hAfter isMark_brace.1 hValue,
        if_neg (by decide), if_pos rfl, readMembers]
  | more label before item after members =>
      obtain ⟨⟨hLabel, hBefore, hItem, hAfter⟩, hRest⟩ := hMembers
      simp only [Members.render, List.length_append, List.length_cons]
        at hFuel
      obtain ⟨fuel, rfl⟩ : ∃ n, fuel = n + 1 := ⟨fuel - 1, by omega⟩
      obtain ⟨hNumber, hNumbers⟩ := List.forall_mem_append.mp hNumbers
      have hValue : parseValue fuel (before ++ (item.render ++
            (after ++ ascii ',' :: (members.render ++ rest)))) =
          some (readTree item, after ++ ascii ',' :: (members.render ++ rest)) :=
        parseValue_tree item hItem hNumber hBefore
          (fun _ => ends_field hAfter isMark_comma) (by omega)
      simp only [Members.render, List.append_assoc, List.cons_append]
      rw [parseMembers_step obj hLabel hAfter isMark_comma.1 hValue,
        if_pos rfl, parseMembers_members members hRest hNumbers (by omega),
        readMembers]

end

/-! ## Nothing else is read -/

structure Starts (space : Octets) (t : Tree) (s rest : Octets) : Prop where
  spaces : Spaces space
  shaped : t.Shaped
  converts : Converts t.numbers
  ends : t.kind = .num → Ends isNumberChar rest
  text : s = space ++ (t.render ++ rest)

private theorem exists_mark {s rest : Octets} {mark : UInt8}
    (h : jsonSkipWs s = mark :: rest) :
    ∃ after, Spaces after ∧ s = after ++ mark :: rest := by
  obtain ⟨after, hAfter, hEq⟩ := exists_spaces s
  rw [h] at hEq
  exact ⟨after, hAfter, hEq⟩

private theorem parseNumber_inv {s rest : Octets} {v : JVal}
    (h : parseNumber s = some (v, rest)) :
    ∃ token, Starts [] (.num token) s rest ∧ v = readTree (.num token) := by
  rw [parseNumber_eq] at h
  split at h
  · cases h
  · next hToken =>
      obtain ⟨value, hValue, hEq⟩ := Option.map_eq_some_iff.mp h
      obtain ⟨rfl, rfl⟩ := Prod.mk.inj hEq
      refine ⟨s.takeWhile isNumberChar,
        ⟨by simp [Spaces], ⟨hToken, fun c hc => List.mem_takeWhile_imp hc⟩,
          ?_, ?_, List.takeWhile_append_dropWhile.symm⟩, ?_⟩
      · intro token hToken
        obtain rfl := List.mem_singleton.mp hToken
        exact Option.isSome_of_eq_some hValue
      · intro _ c hc
        have hHead := List.head?_dropWhile_not isNumberChar s
        rw [Option.mem_def.mp hc] at hHead
        exact hHead
      · rw [readTree, hValue]
        rfl

private theorem parseItems_inv {fuel : Nat} {arr : List JVal} {s rest : Octets}
    {r : JVal} (h : parseItems (fuel + 1) arr s = some (r, rest)) :
    ∃ v after mark s', parseValue fuel s = some (v, after ++ mark :: s') ∧
      Spaces after ∧
        (mark = ascii ',' ∧
            parseItems fuel (arr ++ [v]) s' = some (r, rest) ∨
          mark = ascii ']' ∧ r = .arr (arr ++ [v]) ∧ s' = rest) := by
  rw [parseItems] at h
  split at h
  · cases h
  · next v s' hValue =>
      dsimp only at h
      split at h
      · cases h
      · next mark s'' hMark =>
          obtain ⟨after, hAfter, rfl⟩ := exists_mark hMark
          refine ⟨v, after, mark, s'', hValue, hAfter, ?_⟩
          split at h
          · next hComma => exact .inl ⟨hComma, h⟩
          · split at h
            · next hBracket =>
                obtain ⟨rfl, rfl⟩ := Prod.mk.inj (Option.some.inj h)
                exact .inr ⟨hBracket, rfl, rfl⟩
            · cases h

private theorem parseMembers_inv {fuel : Nat} {obj : KeyMap JVal}
    {s rest : Octets}
    {r : JVal} (h : parseMembers (fuel + 1) obj s = some (r, rest)) :
    ∃ (label : Label) (s' : Octets) (v : JVal) (after : Octets)
        (mark : UInt8) (s'' : Octets), label.Shaped ∧ s = label.render ++ s' ∧
      parseValue fuel s' = some (v, after ++ mark :: s'') ∧ Spaces after ∧
        (mark = ascii ',' ∧
            parseMembers fuel (obj.set (octetsOf label.key) v) s'' =
              some (r, rest) ∨
          mark = ascii '}' ∧ r = .obj (obj.set (octetsOf label.key) v) ∧
            s'' = rest) := by
  rw [parseMembers] at h
  split at h
  · cases h
  · next octets s₁ hString =>
      obtain ⟨key, hKey, hQuoted, rfl⟩ := quotedChars_of_jsonParseString hString
      obtain ⟨before, hBefore, hText⟩ := exists_spaces s
      split at h
      · cases h
      · next colon s₂ hColon =>
          obtain ⟨behind, hBehind, rfl⟩ := exists_mark hColon
          split at h
          · cases h
          · next hIs =>
              obtain rfl := not_not.mp hIs
              split at h
              · cases h
              · next v s₃ hValue =>
                  dsimp only at h
                  split at h
                  · cases h
                  · next mark s₄ hMark =>
                      obtain ⟨after, hAfter, rfl⟩ := exists_mark hMark
                      refine ⟨⟨before, key, behind⟩, s₂, v, after, mark, s₄,
                        ⟨hBefore, hKey, hBehind⟩, ?_, hValue, hAfter, ?_⟩
                      · rw [hText, hQuoted, Label.render]
                        simp
                      · split at h
                        · next hComma => exact .inl ⟨hComma, h⟩
                        · split at h
                          · next hBrace =>
                              obtain ⟨rfl, rfl⟩ :=
                                Prod.mk.inj (Option.some.inj h)
                              exact .inr ⟨hBrace, rfl, rfl⟩
                          · cases h

private theorem tree_of_word {word : String} {s : Octets} {n : Nat} {t : Tree}
    (hWord : s.take n = asciiText word) (hRender : t.render = asciiText word) :
    s = t.render ++ s.drop n := by
  rw [hRender, ← hWord, List.take_append_drop]

/-- What the loops and the descent read with the fuel, when they read. -/
structure Sound (fuel : Nat) : Prop where
  value : ∀ s v rest, parseValue fuel s = some (v, rest) →
    ∃ space t, Starts space t s rest ∧ v = readTree t
  items : ∀ arr s v rest, parseItems fuel arr s = some (v, rest) →
    ∃ items, (items.Shaped ∧ Converts items.numbers) ∧
      s = items.render ++ rest ∧ v = .arr (arr ++ readItems items)
  members : ∀ obj s v rest, parseMembers fuel obj s = some (v, rest) →
    ∃ members, (members.Shaped ∧ Converts members.numbers) ∧
      s = members.render ++ rest ∧ v = .obj (readMembers obj members)

private theorem Sound.braces {fuel : Nat} (hSound : Sound fuel)
    {text rest : Octets} {v : JVal}
    (h : (if (jsonSkipWs text).head? = some (ascii '}') then
        some (.obj [], (jsonSkipWs text).tail)
      else parseMembers fuel [] (jsonSkipWs text)) = some (v, rest)) :
    ∃ t, Starts [] t (ascii '{' :: text) rest ∧ v = readTree t := by
  split at h
  · next hHead =>
      obtain ⟨tail, hTail⟩ := List.head?_eq_some_iff.mp hHead
      obtain ⟨inner, hInner, rfl⟩ := exists_mark hTail
      rw [hTail] at h
      obtain ⟨rfl, rfl⟩ := Prod.mk.inj (Option.some.inj h)
      refine ⟨.emptyObj inner, ⟨by simp [Spaces], hInner,
        by simp [Converts, Tree.numbers], nofun, ?_⟩, rfl⟩
      simp [Tree.render]
  · rw [parseMembers_jsonSkipWs] at h
    obtain ⟨members, ⟨hShaped, hConverts⟩, rfl, rfl⟩ :=
      hSound.members [] text v rest h
    exact ⟨.obj members, ⟨by simp [Spaces], hShaped, hConverts, nofun, rfl⟩,
      rfl⟩

private theorem Sound.brackets {fuel : Nat} (hSound : Sound fuel)
    {text rest : Octets} {v : JVal}
    (h : (if (jsonSkipWs text).head? = some (ascii ']') then
        some (.arr [], (jsonSkipWs text).tail)
      else parseItems fuel [] (jsonSkipWs text)) = some (v, rest)) :
    ∃ t, Starts [] t (ascii '[' :: text) rest ∧ v = readTree t := by
  split at h
  · next hHead =>
      obtain ⟨tail, hTail⟩ := List.head?_eq_some_iff.mp hHead
      obtain ⟨inner, hInner, rfl⟩ := exists_mark hTail
      rw [hTail] at h
      obtain ⟨rfl, rfl⟩ := Prod.mk.inj (Option.some.inj h)
      refine ⟨.emptyArr inner, ⟨by simp [Spaces], hInner,
        by simp [Converts, Tree.numbers], nofun, ?_⟩, rfl⟩
      simp [Tree.render]
  · rw [parseItems_jsonSkipWs] at h
    obtain ⟨items, ⟨hShaped, hConverts⟩, rfl, rfl⟩ :=
      hSound.items [] text v rest h
    exact ⟨.arr items, ⟨by simp [Spaces], hShaped, hConverts, nofun, rfl⟩,
      rfl⟩

private theorem Sound.value_succ {fuel : Nat} (hSound : Sound fuel)
    {s rest : Octets} {v : JVal}
    (h : parseValue (fuel + 1) s = some (v, rest)) :
    ∃ space t, Starts space t s rest ∧ v = readTree t := by
  obtain ⟨space, hSpace, hText⟩ := exists_spaces s
  -- Only the octets behind the white space count from here on.
  suffices hHere : ∃ t, Starts [] t (jsonSkipWs s) rest ∧ v = readTree t by
    obtain ⟨t, ⟨-, hShaped, hConverts, hEnds, hStart⟩, hv⟩ := hHere
    refine ⟨space, t, ⟨hSpace, hShaped, hConverts, hEnds, ?_⟩, hv⟩
    rw [← List.nil_append (t.render ++ rest), ← hStart, ← hText]
  have hNil : Spaces [] := by simp [Spaces]
  rw [parseValue] at h
  generalize jsonSkipWs s = text at h
  cases text with
  | nil => cases h
  | cons c text =>
      dsimp only at h
      split at h
      · obtain ⟨⟨octets, tail⟩, hString, hEq⟩ := Option.map_eq_some_iff.mp h
        obtain ⟨rfl, rfl⟩ := Prod.mk.inj hEq
        obtain ⟨chars, hChars, hQuoted, rfl⟩ :=
          quotedChars_of_jsonParseString hString
        exact ⟨.str chars, ⟨hNil, hChars, by simp [Converts, Tree.numbers],
          nofun, hQuoted⟩, rfl⟩
      · split at h
        · next hBrace =>
            rw [hBrace]
            exact hSound.braces h
        · split at h
          · next hBracket =>
              rw [hBracket]
              exact hSound.brackets h
          · split at h
            · split at h
              · next hTrue =>
                  obtain ⟨rfl, rfl⟩ := Prod.mk.inj (Option.some.inj h)
                  exact ⟨.bool true, ⟨hNil, trivial,
                    by simp [Converts, Tree.numbers], nofun,
                    tree_of_word hTrue rfl⟩, rfl⟩
              · split at h
                · next hFalse =>
                    obtain ⟨rfl, rfl⟩ := Prod.mk.inj (Option.some.inj h)
                    exact ⟨.bool false, ⟨hNil, trivial,
                      by simp [Converts, Tree.numbers], nofun,
                      tree_of_word hFalse rfl⟩, rfl⟩
                · cases h
            · split at h
              · split at h
                · next hNull =>
                    obtain ⟨rfl, rfl⟩ := Prod.mk.inj (Option.some.inj h)
                    exact ⟨.null, ⟨hNil, trivial,
                      by simp [Converts, Tree.numbers], nofun,
                      tree_of_word hNull rfl⟩, rfl⟩
                · cases h
              · obtain ⟨token, hStarts, hv⟩ := parseNumber_inv h
                exact ⟨.num token, hStarts, hv⟩

private theorem Sound.items_succ {fuel : Nat} (hSound : Sound fuel)
    {arr : List JVal} {s rest : Octets} {r : JVal}
    (h : parseItems (fuel + 1) arr s = some (r, rest)) :
    ∃ items, (items.Shaped ∧ Converts items.numbers) ∧
      s = items.render ++ rest ∧ r = .arr (arr ++ readItems items) := by
  obtain ⟨v, after, mark, s', hValue, hAfter, hMark⟩ := parseItems_inv h
  obtain ⟨before, item, ⟨hBefore, hItem, hNumbers, -, rfl⟩, rfl⟩ :=
    hSound.value _ _ _ hValue
  rcases hMark with ⟨rfl, hItems⟩ | ⟨rfl, rfl, rfl⟩
  · obtain ⟨items, ⟨hShaped, hConverts⟩, rfl, rfl⟩ :=
      hSound.items _ _ _ _ hItems
    refine ⟨.more before item after items,
      ⟨⟨⟨hBefore, hItem, hAfter⟩, hShaped⟩,
        List.forall_mem_append.mpr ⟨hNumbers, hConverts⟩⟩, ?_, ?_⟩
    · simp [Items.render]
    · simp [readItems]
  · refine ⟨.last before item after,
      ⟨⟨hBefore, hItem, hAfter⟩, hNumbers⟩, ?_, rfl⟩
    simp [Items.render]

private theorem Sound.members_succ {fuel : Nat} (hSound : Sound fuel)
    {obj : KeyMap JVal} {s rest : Octets} {r : JVal}
    (h : parseMembers (fuel + 1) obj s = some (r, rest)) :
    ∃ members, (members.Shaped ∧ Converts members.numbers) ∧
      s = members.render ++ rest ∧ r = .obj (readMembers obj members) := by
  obtain ⟨label, s', v, after, mark, s'', hLabel, rfl, hValue, hAfter,
    hMark⟩ := parseMembers_inv h
  obtain ⟨before, item, ⟨hBefore, hItem, hNumbers, -, rfl⟩, rfl⟩ :=
    hSound.value _ _ _ hValue
  rcases hMark with ⟨rfl, hMembers⟩ | ⟨rfl, rfl, rfl⟩
  · obtain ⟨members, ⟨hShaped, hConverts⟩, rfl, rfl⟩ :=
      hSound.members _ _ _ _ hMembers
    refine ⟨.more label before item after members,
      ⟨⟨⟨hLabel, hBefore, hItem, hAfter⟩, hShaped⟩,
        List.forall_mem_append.mpr ⟨hNumbers, hConverts⟩⟩, ?_, rfl⟩
    simp [Members.render]
  · refine ⟨.last label before item after,
      ⟨⟨hLabel, hBefore, hItem, hAfter⟩, hNumbers⟩, ?_, rfl⟩
    simp [Members.render]

theorem sound (fuel : Nat) : Sound fuel := by
  induction fuel with
  | zero => exact ⟨nofun, nofun, nofun⟩
  | succ fuel ih =>
      exact ⟨fun _ _ _ h => ih.value_succ h, fun _ _ _ _ h => ih.items_succ h,
        fun _ _ _ _ h => ih.members_succ h⟩

/-! ## The reader and the grammar -/

theorem Starts.parse {space s rest : Octets} {t : Tree} {fuel : Nat}
    (h : Starts space t s rest) (hFuel : 2 * s.length ≤ fuel) :
    parseValue fuel s = some (readTree t, rest) := by
  obtain ⟨hSpace, hShaped, hConverts, hEnds, rfl⟩ := h
  rw [List.length_append, List.length_append] at hFuel
  exact parseValue_tree t hShaped hConverts hSpace hEnds (by omega)

theorem jsonParseValue_eq_some_iff {s rest : Octets} {v : JVal} :
    jsonParseValue s = some (v, rest) ↔
      ∃ space t, Starts space t s rest ∧ v = readTree t := by
  constructor
  · exact (sound _).value s v rest
  · rintro ⟨space, t, hStarts, rfl⟩
    exact hStarts.parse le_rfl

end CppRcp.Cli
