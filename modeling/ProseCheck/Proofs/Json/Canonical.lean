import Mathlib.Data.List.Nodup
import Mathlib.Data.List.Perm.Basic
import ProseCheck.Proofs.Json.Written

/-!
# Canonical texts

Values without doubles have the same canonical text exactly if they are equal up to the order of
members.  A canonical text also ends by itself: of two texts that start with canonical ones, and in
which no number goes on behind them, the values can be told apart and so can what follows.
-/

namespace ProseCheck
namespace Json

open Reader Writer

/-- Values built of null, truth values, integers and strings, in lists and in objects that hold
every name once. -/
inductive IsPayload : Json → Prop
  | null : IsPayload .null
  | bool (value : Bool) : IsPayload (.bool value)
  | int (value : Int) : IsPayload (.int value)
  | str (value : String) : IsPayload (.str value)
  | arr {items : List Json} (each : ∀ item ∈ items, IsPayload item) : IsPayload (.arr items)
  | obj {members : Members} (distinct : (members.map Prod.fst).Nodup)
      (each : ∀ member ∈ members, IsPayload member.2) : IsPayload (.obj members)

/-- Equality up to the order of the members of objects, at every depth: members are paired in some
order, and each pair has one name and values that are again equal up to it. -/
inductive Reordered : Json → Json → Prop
  | null : Reordered .null .null
  | bool (value : Bool) : Reordered (.bool value) (.bool value)
  | int (value : Int) : Reordered (.int value) (.int value)
  | str (value : String) : Reordered (.str value) (.str value)
  | arr {left right : List Json} (each : List.Forall₂ Reordered left right) :
      Reordered (.arr left) (.arr right)
  | obj {left ordered right : Members} (order : left.Perm ordered)
      (each : List.Forall₂ (Prod.RProd Eq Reordered) ordered right) :
      Reordered (.obj left) (.obj right)

theorem exists_mem_of_forall₂ {ordered right : Members} {name : String} {value : Json}
    (each : List.Forall₂ (Prod.RProd Eq Reordered) ordered right) (mem : (name, value) ∈ right) :
    ∃ other, (name, other) ∈ ordered ∧ Reordered other value := by
  induction each with
  | nil => contradiction
  | cons related _ induction =>
      rcases List.mem_cons.1 mem with rfl | mem
      · obtain ⟨rfl, reordered⟩ := related
        exact ⟨_, List.mem_cons_self, reordered⟩
      · obtain ⟨other, other_mem, reordered⟩ := induction mem
        exact ⟨other, .tail _ other_mem, reordered⟩

/-- Every member on the right has one on the left, of the same name. -/
theorem Reordered.exists_mem {left right : Members} {name : String} {value : Json}
    (reordered : Reordered (.obj left) (.obj right)) (mem : (name, value) ∈ right) :
    ∃ other, (name, other) ∈ left ∧ Reordered other value := by
  cases reordered with
  | obj order each =>
      obtain ⟨other, other_mem, reordered⟩ := exists_mem_of_forall₂ each mem
      exact ⟨other, order.mem_iff.2 other_mem, reordered⟩

/-! ## Strings and integers -/

theorem string_append_inj {keeps : Char → Bool} (spares : ∀ char, keeps char → 0x20 ≤ char.toNat)
    {left right rest more : Text}
    (same : Writer.string keeps left ++ rest = Writer.string keeps right ++ more) :
    left = right ∧ rest = more := by
  have bodies_eq : left.flatMap (Writer.char keeps) ++ '"' :: rest =
      right.flatMap (Writer.char keeps) ++ '"' :: more := by
    simpa [Writer.string] using same
  -- Both are read back with fuel that is enough for either.
  have left_read : string? (left.length + right.length + 1)
      (left.flatMap (Writer.char keeps) ++ '"' :: rest) = some (left.map Char.toNat, rest) :=
    string?_string spares (by omega)
  have right_read : string? (left.length + right.length + 1)
      (right.flatMap (Writer.char keeps) ++ '"' :: more) = some (right.map Char.toNat, more) :=
    string?_string spares (by omega)
  rw [bodies_eq, right_read] at left_read
  obtain ⟨codes_eq, more_eq⟩ := Prod.mk.inj (Option.some.inj left_read)
  have right_eq : right = left := by simpa using congrArg shown codes_eq
  exact ⟨right_eq.symm, more_eq.symm⟩

theorem digits_append_inj {left right : Nat} {rest more : Text} (rest_ends : EndsNumber rest)
    (more_ends : EndsNumber more)
    (same : Numeral.digits left ++ rest = Numeral.digits right ++ more) :
    left = right ∧ rest = more := by
  have cut {number : Nat} {rest : Text} (ends : EndsNumber rest) :
      Reader.digits (Numeral.digits number ++ rest) = (Numeral.digits number, rest) :=
    digits_append (fun _ => isDigit_of_mem_digits) fun char head => (ends char head).1
  have halves := congrArg Reader.digits same
  rw [cut rest_ends, cut more_ends] at halves
  obtain ⟨digits_eq, rest_eq⟩ := Prod.mk.inj halves
  have value_eq := congrArg digitsValue digits_eq
  rw [digitsValue_digits, digitsValue_digits] at value_eq
  exact ⟨value_eq, rest_eq⟩

/-- No integer without sign is written like one with it. -/
theorem digits_append_ne_minus (number : Nat) (rest more : Text) :
    Numeral.digits number ++ rest ≠ '-' :: more := by
  obtain ⟨first, others, digits_eq, isDigit, -⟩ := digits_eq_cons number
  rw [digits_eq]
  rintro same
  obtain rfl : first = '-' := (List.cons.inj same).1
  contradiction

theorem write_append_inj {left right : Int} {rest more : Text} (rest_ends : EndsNumber rest)
    (more_ends : EndsNumber more)
    (same : Numeral.write left ++ rest = Numeral.write right ++ more) :
    left = right ∧ rest = more := by
  cases left with
  | ofNat left =>
      cases right with
      | ofNat right =>
          obtain ⟨rfl, rest_eq⟩ := digits_append_inj rest_ends more_ends same
          exact ⟨rfl, rest_eq⟩
      | negSucc right => exact absurd same (digits_append_ne_minus left rest _)
  | negSucc left =>
      cases right with
      | ofNat right => exact absurd same.symm (digits_append_ne_minus right more _)
      | negSucc right =>
          obtain ⟨magnitude_eq, rest_eq⟩ :=
            digits_append_inj rest_ends more_ends (List.cons.inj same).2
          obtain rfl : left = right := Nat.succ.inj magnitude_eq
          exact ⟨rfl, rest_eq⟩

/-! ## Texts between separators -/

section Separated

variable {Item : Type} {write : Item → Text} {relation : Item → Item → Prop} {close : Char}
  {left right : List Item} {rest more : Text}

/-- Two items that can start one text only if they are related, and then end at one place, unless a
number goes on behind them. -/
def Separable (write : Item → Text) (relation : Item → Item → Prop) (left right : Item) : Prop :=
  ∀ rest more, EndsNumber rest → EndsNumber more → write left ++ rest = write right ++ more →
    relation left right ∧ rest = more

/-- A bracket or brace at the end of a list or an object. -/
def Closes (close : Char) : Prop := close = ']' ∨ close = '}'

theorem endsNumber_of_closes (closes : Closes close) (rest : Text) :
    EndsNumber (close :: rest) := by
  intro char head
  obtain rfl : close = char := Option.some.inj head
  rcases closes with rfl | rfl <;> decide

theorem endsNumber_behind (closes : Closes close) (items : List Item) (rest : Text) :
    EndsNumber (items.flatMap (fun item => ',' :: write item) ++ close :: rest) := by
  cases items with
  | nil => exact endsNumber_of_closes closes rest
  | cons item items =>
      intro char head
      obtain rfl : ',' = char := Option.some.inj head
      decide

/-- Items that follow separators are related one by one where their texts are equal. -/
theorem forall₂_of_behind (closes : Closes close)
    (separable : ∀ one ∈ left, ∀ other ∈ right, Separable write relation one other)
    (same : left.flatMap (fun item => ',' :: write item) ++ close :: rest =
      right.flatMap (fun item => ',' :: write item) ++ close :: more) :
    List.Forall₂ relation left right ∧ rest = more := by
  have no_separator : close ≠ ',' := by rcases closes with rfl | rfl <;> decide
  induction left generalizing right with
  | nil =>
      cases right with
      | nil => exact ⟨.nil, (List.cons.inj same).2⟩
      | cons other right => exact absurd (List.cons.inj same).1 no_separator
  | cons one left induction =>
      cases right with
      | nil => exact absurd (List.cons.inj same).1.symm no_separator
      | cons other right =>
          have texts_eq : write one ++ (left.flatMap (fun item => ',' :: write item) ++
                close :: rest) =
              write other ++ (right.flatMap (fun item => ',' :: write item) ++ close :: more) := by
            simpa using same
          obtain ⟨related, behind_eq⟩ := separable one List.mem_cons_self other List.mem_cons_self
            _ _ (endsNumber_behind closes left rest) (endsNumber_behind closes right more) texts_eq
          obtain ⟨others, rest_eq⟩ := induction (fun one one_mem other other_mem =>
            separable one (.tail _ one_mem) other (.tail _ other_mem)) behind_eq
          exact ⟨.cons related others, rest_eq⟩

theorem join_map_cons (item : Item) (items : List Item) :
    join [','] ((item :: items).map write) =
      write item ++ items.flatMap fun item => ',' :: write item := by
  induction items generalizing item with
  | nil => simp [join]
  | cons next items induction => simpa [join] using induction next

/-- Items between brackets are related one by one where their texts are equal. -/
theorem forall₂_of_join (closes : Closes close)
    (opens : ∀ item ∈ left ++ right, ∃ first others, write item = first :: others ∧ first ≠ close)
    (separable : ∀ one ∈ left, ∀ other ∈ right, Separable write relation one other)
    (same : join [','] (left.map write) ++ close :: rest =
      join [','] (right.map write) ++ close :: more) :
    List.Forall₂ relation left right ∧ rest = more := by
  have not_closed {item : Item} {items : List Item} {rest more : Text}
      (mem : item ∈ left ++ right) :
      join [','] ((item :: items).map write) ++ rest ≠ close :: more := by
    intro same
    obtain ⟨first, others, write_eq, differs⟩ := opens item mem
    rw [join_map_cons, write_eq] at same
    exact differs (List.cons.inj same).1
  cases left with
  | nil =>
      cases right with
      | nil => exact ⟨.nil, (List.cons.inj same).2⟩
      | cons other right => exact absurd same.symm (not_closed List.mem_cons_self)
  | cons one left =>
      cases right with
      | nil => exact absurd same (not_closed List.mem_cons_self)
      | cons other right =>
          refine forall₂_of_behind closes separable ?_
          rw [join_map_cons, join_map_cons] at same
          simpa using same

end Separated

/-! ## Members in order -/

/-- Whether a member may stand before another. -/
def byName {Value : Type} (left right : String × Value) : Bool := decide (left.1 ≤ right.1)

/-- Members of distinct names are put in one order only. -/
theorem mergeSort_eq_of_perm {Value : Type} {left right : List (String × Value)}
    (distinct : (left.map Prod.fst).Nodup) (order : left.Perm right) :
    left.mergeSort byName = right.mergeSort byName := by
  have ordered (members : List (String × Value)) :
      (members.mergeSort byName).Pairwise fun one other => byName one other = true :=
    List.pairwise_mergeSort (fun one middle other before after => by
        simp only [byName, decide_eq_true_eq] at before after ⊢
        exact String.le_trans before after)
      (fun one other => by simpa [byName] using String.le_total one.1 other.1) members
  refine List.Perm.eq_of_pairwise (fun one other one_mem other_mem before after => ?_)
    (ordered left) (ordered right)
    ((left.mergeSort_perm byName).trans (order.trans (right.mergeSort_perm byName).symm))
  simp only [byName, decide_eq_true_eq] at before after
  exact List.inj_on_of_nodup_map distinct (List.mem_mergeSort.1 one_mem)
    (order.mem_iff.2 (List.mem_mergeSort.1 other_mem)) (String.le_antisymm before after)

/-- A member with its value in canonical form. -/
def withText (member : String × Json) : String × Text := (member.1, Writer.canonical member.2)

/-- Canonical text of such a member. -/
def memberText (member : String × Text) : Text :=
  Writer.string isPrintableAscii member.1.toList ++ ':' :: member.2

theorem mergeSort_withText (members : Members) :
    (members.map withText).mergeSort byName = (members.mergeSort byName).map withText :=
  (List.map_mergeSort (f := withText) fun _ _ _ _ => rfl).symm

theorem canonicalItems_eq_map (items : List Json) :
    canonicalItems items = items.map Writer.canonical := by
  induction items with
  | nil => rfl
  | cons item items induction => rw [canonicalItems, induction, List.map_cons]

theorem canonicalMembers_eq_map (members : Members) :
    canonicalMembers members = members.map withText := by
  induction members with
  | nil => rfl
  | cons member members induction =>
      rw [canonicalMembers, induction, List.map_cons]
      rfl

theorem canonical_arr (items : List Json) : Writer.canonical (.arr items) =
    '[' :: (join [','] (items.map Writer.canonical) ++ [']']) := by
  rw [Writer.canonical, canonicalItems_eq_map]

theorem canonical_obj (members : Members) : Writer.canonical (.obj members) =
    '{' :: (join [','] (((members.map withText).mergeSort byName).map memberText) ++ ['}']) := by
  rw [Writer.canonical, canonicalMembers_eq_map]
  rfl

/-! ## Values and their texts -/

/-- Forms of values, which their canonical texts show by what they start with. -/
inductive Form where
  | null
  | truth
  | number
  | string
  | list
  | object

/-- Form of a value. -/
def form : Json → Form
  | .null => .null
  | .bool _ => .truth
  | .int _ | .float _ => .number
  | .str _ | .halved _ | .foreign _ => .string
  | .arr _ => .list
  | .obj _ => .object
  | .keyed _ value => form value

/-- Form of the values whose canonical texts start with a character. -/
def formOf? (first : Char) : Option Form :=
  if first = '-' ∨ first.isDigit then some .number
  else
    match first with
    | 'n' => some .null
    | 't' | 'f' => some .truth
    | '"' => some .string
    | '[' => some .list
    | '{' => some .object
    | _ => none

theorem canonical_eq_cons {value : Json} (payload : IsPayload value) :
    ∃ first others, Writer.canonical value = first :: others ∧ formOf? first = some value.form := by
  cases payload with
  | null => exact ⟨'n', _, rfl, rfl⟩
  | bool value => cases value <;> exact ⟨_, _, rfl, rfl⟩
  | int value =>
      obtain ⟨first, others, write_eq, starts⟩ := write_eq_cons value
      exact ⟨first, others, by rw [Writer.canonical, write_eq], if_pos starts⟩
  | str value => exact ⟨'"', _, by rw [Writer.canonical, Writer.string], rfl⟩
  | arr _ => exact ⟨'[', _, canonical_arr _, rfl⟩
  | obj _ _ => exact ⟨'{', _, canonical_obj _, rfl⟩

theorem form_eq_of_append {left right : Json} {rest more : Text} (left_payload : IsPayload left)
    (right_payload : IsPayload right)
    (same : Writer.canonical left ++ rest = Writer.canonical right ++ more) :
    left.form = right.form := by
  obtain ⟨first, others, left_eq, left_form⟩ := canonical_eq_cons left_payload
  obtain ⟨other, behind, right_eq, right_form⟩ := canonical_eq_cons right_payload
  rw [left_eq, right_eq] at same
  obtain rfl : first = other := (List.cons.inj same).1
  exact Option.some.inj (left_form.symm.trans right_form)

/-- Lists are told apart where their items are. -/
theorem separable_arr {left right : List Json} (left_each : ∀ item ∈ left, IsPayload item)
    (right_each : ∀ item ∈ right, IsPayload item)
    (items : ∀ one ∈ left, ∀ other ∈ right, Separable Writer.canonical Reordered one other) :
    Separable Writer.canonical Reordered (.arr left) (.arr right) := by
  intro rest more _ _ same
  have inner_eq : join [','] (left.map Writer.canonical) ++ ']' :: rest =
      join [','] (right.map Writer.canonical) ++ ']' :: more := by
    simpa [canonical_arr] using same
  have opens : ∀ item ∈ left ++ right,
      ∃ first others, Writer.canonical item = first :: others ∧ first ≠ ']' := by
    intro item mem
    obtain ⟨first, others, text_eq, form_eq⟩ :=
      canonical_eq_cons ((List.mem_append.1 mem).elim (left_each item) (right_each item))
    refine ⟨first, others, text_eq, ?_⟩
    rintro rfl
    contradiction
  obtain ⟨related, rest_eq⟩ := forall₂_of_join (.inl rfl) opens items inner_eq
  exact ⟨.arr related, rest_eq⟩

theorem separable_member {one other : String × Json}
    (values : Separable Writer.canonical Reordered one.2 other.2) :
    Separable (memberText ∘ withText) (Prod.RProd Eq Reordered) one other := by
  intro rest more rest_ends more_ends same
  have texts_eq : Writer.string isPrintableAscii one.1.toList ++
        ':' :: (Writer.canonical one.2 ++ rest) =
      Writer.string isPrintableAscii other.1.toList ++
        ':' :: (Writer.canonical other.2 ++ more) := by
    simpa [memberText, withText] using same
  obtain ⟨names_eq, behind_eq⟩ := string_append_inj le_of_isPrintableAscii texts_eq
  obtain ⟨reordered, rest_eq⟩ :=
    values rest more rest_ends more_ends (List.cons.inj behind_eq).2
  exact ⟨.intro (String.toList_injective names_eq) reordered, rest_eq⟩

/-- Objects are told apart where the values of their members are. -/
theorem separable_obj {left right : Members}
    (values : ∀ one ∈ left, ∀ other ∈ right, Separable Writer.canonical Reordered one.2 other.2) :
    Separable Writer.canonical Reordered (.obj left) (.obj right) := by
  intro rest more _ _ same
  have inner_eq : join [','] ((left.mergeSort byName).map (memberText ∘ withText)) ++ '}' :: rest =
      join [','] ((right.mergeSort byName).map (memberText ∘ withText)) ++ '}' :: more := by
    simpa [canonical_obj, mergeSort_withText] using same
  have members : ∀ one ∈ left.mergeSort byName, ∀ other ∈ right.mergeSort byName,
      Separable (memberText ∘ withText) (Prod.RProd Eq Reordered) one other :=
    fun one one_mem other other_mem => separable_member
      (values one (List.mem_mergeSort.1 one_mem) other (List.mem_mergeSort.1 other_mem))
  obtain ⟨related, rest_eq⟩ :=
    forall₂_of_join (.inr rfl) (fun _ _ => ⟨'"', _, rfl, by decide⟩) members inner_eq
  -- What is related is in order on both sides; the right goes back to the order that it has.
  obtain ⟨ordered, order, each⟩ := List.forall₂_comp_perm_eq_perm_comp_forall₂.le _ _
    ⟨_, related, right.mergeSort_perm byName⟩
  exact ⟨.obj ((left.mergeSort_perm byName).symm.trans order) each, rest_eq⟩

/-- Canonical texts tell values apart up to the order of members, and end by themselves. -/
theorem separable_canonical {left right : Json} (left_payload : IsPayload left)
    (right_payload : IsPayload right) : Separable Writer.canonical Reordered left right := by
  -- The form of the value on the left leaves one case for the value on the right.
  induction left_payload generalizing right with
  | null =>
      intro rest more _ _ same
      match right_payload, form_eq_of_append .null right_payload same with
      | .null, _ => exact ⟨.null, List.append_cancel_left same⟩
  | bool value =>
      intro rest more _ _ same
      match right_payload, form_eq_of_append (.bool value) right_payload same with
      | .bool other, _ =>
          obtain rfl : value = other := by cases value <;> cases other <;> first | rfl | cases same
          exact ⟨.bool value, List.append_cancel_left same⟩
  | int value =>
      intro rest more rest_ends more_ends same
      match right_payload, form_eq_of_append (.int value) right_payload same with
      | .int other, _ =>
          rw [Writer.canonical, Writer.canonical] at same
          obtain ⟨rfl, rest_eq⟩ := write_append_inj rest_ends more_ends same
          exact ⟨.int value, rest_eq⟩
  | str value =>
      intro rest more _ _ same
      match right_payload, form_eq_of_append (.str value) right_payload same with
      | .str other, _ =>
          rw [Writer.canonical, Writer.canonical] at same
          obtain ⟨chars_eq, rest_eq⟩ := string_append_inj le_of_isPrintableAscii same
          obtain rfl : value = other := String.toList_injective chars_eq
          exact ⟨.str value, rest_eq⟩
  | arr each induction =>
      intro rest more rest_ends more_ends same
      match right_payload, form_eq_of_append (.arr each) right_payload same with
      | .arr others, _ =>
          exact separable_arr each others (fun one one_mem other other_mem =>
            induction one one_mem (others other other_mem)) rest more rest_ends more_ends same
  | obj distinct each induction =>
      intro rest more rest_ends more_ends same
      match right_payload, form_eq_of_append (.obj distinct each) right_payload same with
      | .obj _ others, _ =>
          exact separable_obj (fun one one_mem other other_mem =>
            induction one one_mem (others other other_mem)) rest more rest_ends more_ends same

theorem map_eq_of_forall₂ {Item Written : Type} {write : Item → Written}
    {relation : Item → Item → Prop} {left right : List Item}
    (each : List.Forall₂ relation left right)
    (same : ∀ one ∈ left, ∀ other, relation one other → write one = write other) :
    left.map write = right.map write := by
  induction each with
  | nil => rfl
  | cons related _ induction =>
      rw [List.map_cons, List.map_cons, same _ List.mem_cons_self _ related,
        induction fun one mem => same one (.tail _ mem)]

theorem canonical_eq_of_reordered {left right : Json} (payload : IsPayload left)
    (reordered : Reordered left right) : Writer.canonical left = Writer.canonical right := by
  induction payload generalizing right with
  | null | bool _ | int _ | str _ =>
      cases reordered
      rfl
  | arr each induction =>
      cases reordered with
      | arr related =>
          have texts_eq := map_eq_of_forall₂ related fun one mem _ => induction one mem
          rw [canonical_arr, canonical_arr, texts_eq]
  | @obj left distinct each induction =>
      cases reordered with
      | @obj _ ordered right order related =>
          have texts_eq : ordered.map withText = right.map withText :=
            map_eq_of_forall₂ related fun one mem other => by
              rintro ⟨rfl, reordered⟩
              rw [withText, withText, induction _ (order.mem_iff.2 mem) reordered]
          have texts_distinct : ((left.map withText).map Prod.fst).Nodup := by
            rwa [List.map_map]
          rw [canonical_obj, canonical_obj, ← texts_eq,
            mergeSort_eq_of_perm texts_distinct (order.map withText)]

/-- Two values have one canonical text exactly if they are equal up to the order of members. -/
theorem canonical_eq_iff {left right : Json} (left_payload : IsPayload left)
    (right_payload : IsPayload right) :
    left.canonical = right.canonical ↔ Reordered left right := by
  constructor
  · intro same
    exact (separable_canonical left_payload right_payload [] [] endsNumber_nil endsNumber_nil
      (congrArg (· ++ []) same)).1
  · exact canonical_eq_of_reordered left_payload

example : (Json.obj [("b", .str "😀"), ("a", .arr [.null, .int (-1)])]).canonical =
    "\x7b\"a\":[null,-1],\"b\":\"\\ud83d\\ude00\"\x7d".toList := by cbv

end Json
end ProseCheck
