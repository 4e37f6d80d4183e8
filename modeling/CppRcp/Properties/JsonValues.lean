import CppRcp.Properties.JsonReading

/-!
# Values that the JSON reader gives back

The value of a text has the members of each object in the order in which they
are written.  The reader returns it where no key is written twice.
-/

namespace CppRcp.Cli

open CppRcp.Foundation CppRcp.Foundation.JsonGrammar

/-! ## Values of texts -/

mutual

/-- The value that a text without numbers is written for. -/
def valueOf : Tree → JVal
  | .null | .num _ => .null
  | .bool b => .bool b
  | .str chars => .str (octetsOf chars)
  | .emptyArr _ => .arr []
  | .emptyObj _ => .obj []
  | .arr items => .arr (itemValues items)
  | .obj members => .obj (memberValues members)

def itemValues : Items → List JVal
  | .last _ item _ => [valueOf item]
  | .more _ item _ items => valueOf item :: itemValues items

def memberValues : Members → List (Octets × JVal)
  | .last label _ item _ => [(octetsOf label.key, valueOf item)]
  | .more label _ item _ members =>
      (octetsOf label.key, valueOf item) :: memberValues members

end

mutual

/-- No object has two members of one name. -/
def DistinctKeys : Tree → Prop
  | .null | .num _ | .bool _ | .str _ | .emptyArr _ | .emptyObj _ => True
  | .arr items => ItemsDistinct items
  | .obj members =>
      ((memberValues members).map Prod.fst).Nodup ∧ MembersDistinct members

def ItemsDistinct : Items → Prop
  | .last _ item _ => DistinctKeys item
  | .more _ item _ items => DistinctKeys item ∧ ItemsDistinct items

def MembersDistinct : Members → Prop
  | .last _ _ item _ => DistinctKeys item
  | .more _ _ item _ members => DistinctKeys item ∧ MembersDistinct members

end

/-! ## Maps without a repeated key -/

private theorem KeyMap.set_of_notMem {α : Type} {key : Octets} {value : α}
    {m : KeyMap α} (h : key ∉ m.map Prod.fst) :
    m.set key value = m ++ [(key, value)] := by
  induction m with
  | nil => rfl
  | cons entry m ih =>
      rw [List.map_cons, List.mem_cons, not_or] at h
      rw [KeyMap.set, if_neg (Ne.symm h.1), ih h.2, List.cons_append]

private theorem notMem_of_nodup {α : Type} {key : Octets} {value : α}
    {m entries : KeyMap α}
    (h : ((m ++ (key, value) :: entries).map Prod.fst).Nodup) :
    key ∉ m.map Prod.fst := by
  rw [List.map_append, List.map_cons, List.nodup_append'] at h
  intro hMem
  exact h.2.2 hMem List.mem_cons_self

/-! ## What the reader returns -/

mutual

private theorem readTree_eq (t : Tree) (hNumbers : t.numbers = [])
    (hKeys : DistinctKeys t) : readTree t = valueOf t := by
  cases t with
  | null | bool _ | str _ | emptyArr _ | emptyObj _ => rfl
  | num token => cases hNumbers
  | arr items =>
      rw [readTree, valueOf, readItems_eq items hNumbers hKeys]
  | obj members =>
      rw [readTree, valueOf,
        readMembers_eq members hNumbers hKeys.2 (by simpa using hKeys.1),
        List.nil_append]

private theorem readItems_eq (items : Items) (hNumbers : items.numbers = [])
    (hKeys : ItemsDistinct items) : readItems items = itemValues items := by
  cases items with
  | last before item after =>
      rw [readItems, itemValues, readTree_eq item hNumbers hKeys]
  | more before item after items =>
      obtain ⟨hNumber, hNumbers⟩ := List.append_eq_nil_iff.mp hNumbers
      rw [readItems, itemValues, readTree_eq item hNumber hKeys.1,
        readItems_eq items hNumbers hKeys.2]

private theorem readMembers_eq (members : Members) {obj : KeyMap JVal}
    (hNumbers : members.numbers = []) (hKeys : MembersDistinct members)
    (hNodup : ((obj ++ memberValues members).map Prod.fst).Nodup) :
    readMembers obj members = obj ++ memberValues members := by
  cases members with
  | last label before item after =>
      rw [memberValues] at hNodup
      rw [readMembers, memberValues, readTree_eq item hNumbers hKeys,
        KeyMap.set_of_notMem (notMem_of_nodup hNodup)]
  | more label before item after members =>
      obtain ⟨hNumber, hNumbers⟩ := List.append_eq_nil_iff.mp hNumbers
      rw [memberValues] at hNodup
      rw [readMembers, memberValues, readTree_eq item hNumber hKeys.1,
        KeyMap.set_of_notMem (notMem_of_nodup hNodup),
        readMembers_eq members hNumbers hKeys.2 (by simpa using hNodup),
        List.append_assoc, List.singleton_append]

end

/-- White space before a text and whatever follows it do not change what the
reader makes of the text itself. -/
theorem jsonParseValue_text (t : Tree) (space rest : Octets)
    (hSpace : Spaces space) (hShaped : t.Shaped) (hNumbers : t.numbers = [])
    (hKeys : DistinctKeys t) :
    jsonParseValue (space ++ (t.render ++ rest)) =
      some (valueOf t, rest) := by
  rw [← readTree_eq t hNumbers hKeys]
  refine Starts.parse ⟨hSpace, hShaped, ?_, ?_, rfl⟩ le_rfl
  · intro token hToken
    rw [hNumbers] at hToken
    cases hToken
  · intro hNum
    cases t with
    | num token => cases hNumbers
    | bool b => cases b <;> cases hNum
    | _ => cases hNum

def sampleText : Tree :=
  .obj (.more ⟨[32], [.raw 107], []⟩ []
    (.str [.unicode 50 48 97 99, .raw 0xE2, .raw 0x82, .raw 0xAC,
      .short 110]) [10]
    (.last ⟨[], [.short 34], [9]⟩ [13]
      (.arr (.more [] .null [32] (.last [] (.emptyObj [32]) []))) []))

private theorem distinctKeys_sampleText : DistinctKeys sampleText :=
  ⟨by decide, trivial, trivial, trivial⟩

private theorem valueOf_sampleText : valueOf sampleText =
    .obj [([107], .str [0xE2, 0x82, 0xAC, 0xE2, 0x82, 0xAC, 10]),
      ([34], .arr [.null, .obj []])] := rfl

theorem jsonParseValue_text_applied :
    jsonParseValue ([32] ++ (sampleText.render ++ [93, 44])) =
      some (.obj [([107], .str [0xE2, 0x82, 0xAC, 0xE2, 0x82, 0xAC, 10]),
        ([34], .arr [.null, .obj []])], [93, 44]) := by
  rw [← valueOf_sampleText]
  exact jsonParseValue_text sampleText [32] [93, 44] (by decide) (by decide)
    rfl distinctKeys_sampleText

end CppRcp.Cli
