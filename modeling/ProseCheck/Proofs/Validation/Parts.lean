import Mathlib.Data.List.Forall2
import ProseCheck.Validation.Basic
import ProseCheck.Validation.Scalar

/-!
# Values read from parts

A value that is read side by side from parts is valid exactly if every part is, and then it is
made of what the parts are.
-/

namespace ProseCheck
namespace Validated

variable {Source Argument Value : Type}

@[simp]
theorem map_eq_valid_iff {change : Source → Value} {validated : Validated Source} {value : Value} :
    change <$> validated = .valid value ↔
      ∃ source, validated = .valid source ∧ change source = value := by
  cases validated with
  | valid source =>
      show Validated.valid (change source) = .valid value ↔ _
      simp
  | invalid faults =>
      show (Validated.invalid faults : Validated Value) = .valid value ↔ _
      simp

@[simp]
theorem seq_eq_valid_iff {function : Validated (Argument → Value)} {argument : Validated Argument}
    {value : Value} :
    function <*> argument = .valid value ↔
      ∃ change part, function = .valid change ∧ argument = .valid part ∧ change part = value := by
  show apply function argument = .valid value ↔ _
  cases function with
  | valid change => cases argument <;> simp [apply]
  | invalid faults => cases argument <;> simp [apply]

@[simp]
theorem below_eq_valid_iff {step : Step} {validated : Validated Value} {value : Value} :
    validated.below step = .valid value ↔ validated = .valid value := by
  cases validated <;> simp [below]

@[simp]
theorem also_eq_valid_iff {faults : List Fault} {validated : Validated Value} {value : Value} :
    validated.also faults = .valid value ↔ validated = .valid value ∧ faults = [] := by
  cases validated <;> cases faults <;> simp [also]

@[simp]
theorem string_eq_valid_iff {value : Json} {written : String} :
    string value = .valid written ↔ value.shown? = some written := by
  cases value <;> simp [string, refuse, Json.shown?]

/-- Items are read in order if each is read. -/
theorem each_eq_valid_iff {read : Json → Validated Value} {index : Nat} {items : List Json}
    {values : List Value} :
    each read index items = .valid values ↔
      List.Forall₂ (fun item value => read item = .valid value) items values := by
  induction items generalizing index values with
  | nil => cases values <;> simp [each]
  | cons item rest induction =>
      rw [each, seq_eq_valid_iff, List.forall₂_cons_left_iff]
      constructor
      · rintro ⟨change, others, first, rest_eq, rfl⟩
        obtain ⟨value, value_eq, rfl⟩ := map_eq_valid_iff.1 first
        exact ⟨value, others, below_eq_valid_iff.1 value_eq, induction.1 rest_eq, rfl⟩
      · rintro ⟨value, others, value_eq, rest_eq, rfl⟩
        exact ⟨List.cons value, others,
          map_eq_valid_iff.2 ⟨value, below_eq_valid_iff.2 value_eq, rfl⟩,
          induction.2 rest_eq, rfl⟩

@[simp]
theorem each_string_eq_valid_iff {items : List Json} {index : Nat} {texts : List String} :
    each string index items = .valid texts ↔ items.map Json.shown? = texts.map some := by
  simp only [each_eq_valid_iff, string_eq_valid_iff]
  rw [← List.forall₂_eq_eq_eq, List.forall₂_map_left_iff, List.forall₂_map_right_iff]

theorem list_eq_valid_iff {read : Json → Validated Value} {json : Json} {values : List Value} :
    list read json = .valid values ↔
      ∃ items, json = .arr items ∧
        List.Forall₂ (fun item value => read item = .valid value) items values := by
  cases json <;> simp [list, refuse, each_eq_valid_iff]

/-- The value at a place is read from the item at that place. -/
theorem getElem?_of_list {read : Json → Validated Value} {items : List Json} {values : List Value}
    (read_eq : list read (.arr items) = .valid values) (place : Nat) :
    Option.Rel (fun item value => read item = .valid value) items[place]? values[place]? := by
  have each := each_eq_valid_iff.1 read_eq
  clear read_eq
  induction each generalizing place with
  | nil => exact .none
  | cons first _ induction =>
      cases place with
      | zero => exact .some first
      | succ place => exact induction place

theorem record_eq_valid_iff {read : Json.Members → Validated Value} {json : Json} {value : Value} :
    record read json = .valid value ↔
      ∃ members, json = .obj members ∧ read members = .valid value := by
  cases json <;> simp [record, refuse]

theorem required_eq_valid_iff {read : Json → Validated Value} {members : Json.Members}
    {name : String} {value : Value} :
    required members name read = .valid value ↔
      ∃ json, members.get? name = some json ∧ read json = .valid value := by
  cases found : members.get? name <;> simp [required, found]

theorem optional_eq_valid_iff {read : Json → Validated Value} {members : Json.Members}
    {name : String} {default value : Value} :
    optional members name default read = .valid value ↔
      (∃ json, members.get? name = some json ∧ read json = .valid value) ∨
        members.get? name = none ∧ default = value := by
  cases found : members.get? name <;> simp [optional, found]

theorem requiring_eq_valid_iff {condition : Value → Bool} {refusal : Refusal}
    {validated : Validated Value} {value : Value} :
    validated.requiring condition refusal = .valid value ↔
      validated = .valid value ∧ condition value = true := by
  cases validated with
  | invalid faults => simp [requiring]
  | valid found =>
      by_cases holds : condition found = true
      · simp only [requiring, if_pos holds, valid.injEq, iff_self_and]
        rintro rfl
        exact holds
      · simp only [requiring, if_neg holds, refuse, valid.injEq, reduceCtorEq, false_iff, not_and]
        rintro rfl
        exact holds

theorem positive_eq_valid_iff {json : Json} {size : Nat} :
    positive json = .valid size ↔
      ∃ number, integer json = .valid number ∧ 1 ≤ number ∧ number.toNat = size := by
  rw [positive, integerFrom]
  show Int.toNat <$> _ = Validated.valid size ↔ _
  simp only [map_eq_valid_iff, requiring_eq_valid_iff, decide_eq_true_eq, and_assoc]

theorem unsignedNumber_eq_valid_iff {json : Json} {value : Float} :
    unsignedNumber json = .valid value ↔ number json = .valid value ∧ 0 ≤ value := by
  simp only [unsignedNumber, requiring_eq_valid_iff, decide_eq_true_eq]

end Validated
end ProseCheck

/-!
## Values that are written and read back

Much JSON reads as one value: members may be missing, and an integer may be a text.  What such a
value is written as reads as the same value again, so writing picks one JSON value of all that read
alike.  For a list, a table or a value that may be missing this follows from its parts.
-/

namespace ProseCheck
namespace Validated

variable {Value : Type} {read : Json → Validated Value} {write : Value → Json}
  {members : Json.Members} {name : String} {value default : Value}

/-- What was read is the same when it is written and read again. -/
def IsNormalForm (read : Json → Validated Value) (write : Value → Json) : Prop :=
  ∀ json value, read json = .valid value → read (write value) = .valid value

/-- Every value that is written is read back. -/
def IsFaithful (read : Json → Validated Value) (write : Value → Json) : Prop :=
  ∀ value, read (write value) = .valid value

theorem IsFaithful.isNormalForm (faithful : IsFaithful read write) : IsNormalForm read write :=
  fun _ value _ => faithful value

/-! ### Records -/

section Members

variable {key : String} {json : Json} {rest : Json.Members}

@[simp]
theorem required_cons_self :
    required ((name, json) :: rest) name read = (read json).below (.field name) := by
  simp [required, Json.Members.get?]

@[simp]
theorem required_cons_of_ne (differs : name ≠ key) :
    required ((key, json) :: rest) name read = required rest name read := by
  simp [required, Json.Members.get?, List.lookup_cons, beq_eq_false_iff_ne.2 differs]

@[simp]
theorem optional_nil : optional [] name default read = .valid default := rfl

@[simp]
theorem optional_cons_self :
    optional ((name, json) :: rest) name default read = (read json).below (.field name) := by
  simp [optional, Json.Members.get?]

@[simp]
theorem optional_cons_of_ne (differs : name ≠ key) :
    optional ((key, json) :: rest) name default read = optional rest name default read := by
  simp [optional, Json.Members.get?, List.lookup_cons, beq_eq_false_iff_ne.2 differs]

end Members

theorem IsNormalForm.of_required (normal : IsNormalForm read write)
    (read_eq : required members name read = .valid value) : read (write value) = .valid value := by
  obtain ⟨json, -, value_eq⟩ := required_eq_valid_iff.1 read_eq
  exact normal json value value_eq

theorem IsNormalForm.of_optional (normal : IsNormalForm read write)
    (sound : read (write default) = .valid default)
    (read_eq : optional members name default read = .valid value) :
    read (write value) = .valid value := by
  rcases optional_eq_valid_iff.1 read_eq with ⟨json, -, value_eq⟩ | ⟨-, rfl⟩
  · exact normal json value value_eq
  · exact sound

/-! ### Lists, tables and values that may be missing -/

theorem list_map_eq_valid {values : List Value}
    (each : ∀ value ∈ values, read (write value) = .valid value) :
    list read (.arr (values.map write)) = .valid values := by
  refine list_eq_valid_iff.2 ⟨_, rfl, ?_⟩
  rw [List.forall₂_map_left_iff, List.forall₂_same]
  exact each

theorem exists_of_mem_list {json : Json} {values : List Value}
    (read_eq : list read json = .valid values) :
    ∀ value ∈ values, ∃ item, read item = .valid value := by
  obtain ⟨items, -, each⟩ := list_eq_valid_iff.1 read_eq
  clear read_eq
  induction each with
  | nil => simp
  | cons first _ induction => exact List.forall_mem_cons.2 ⟨⟨_, first⟩, induction⟩

theorem IsFaithful.list (faithful : IsFaithful read write) :
    IsFaithful (list read) fun values => .arr (values.map write) :=
  fun _ => list_map_eq_valid fun value _ => faithful value

theorem IsNormalForm.list (normal : IsNormalForm read write) :
    IsNormalForm (list read) fun values => .arr (values.map write) := by
  intro json values read_eq
  apply list_map_eq_valid
  intro value mem
  obtain ⟨item, value_eq⟩ := exists_of_mem_list read_eq value mem
  exact normal item value value_eq

theorem nullable_of_ne_null {json : Json} (solid : json ≠ .null) :
    nullable read json = some <$> read json := by
  cases json with
  | null => contradiction
  | _ => rfl

theorem nullable_option_eq_valid {value : Option Value} (solid : ∀ value, write value ≠ .null)
    (inner : ∀ part ∈ value, read (write part) = .valid part) :
    nullable read (Json.option write value) = .valid value := by
  cases value with
  | none => rfl
  | some value =>
      rw [Json.option, nullable_of_ne_null (solid value), map_eq_valid_iff]
      exact ⟨value, inner value rfl, rfl⟩

theorem exists_of_mem_nullable {json : Json} {value : Option Value}
    (read_eq : nullable read json = .valid value) :
    ∀ part ∈ value, read json = .valid part := by
  rintro part ⟨⟩
  cases json with
  | null => cases read_eq
  | _ =>
      obtain ⟨_, part_eq, ⟨⟩⟩ := map_eq_valid_iff.1 read_eq
      exact part_eq

theorem IsFaithful.nullable (faithful : IsFaithful read write)
    (solid : ∀ value, write value ≠ .null) : IsFaithful (nullable read) (Json.option write) :=
  fun _ => nullable_option_eq_valid solid fun part _ => faithful part

theorem IsNormalForm.nullable (normal : IsNormalForm read write)
    (solid : ∀ value, write value ≠ .null) : IsNormalForm (nullable read) (Json.option write) :=
  fun json _ read_eq => nullable_option_eq_valid solid fun part mem =>
    normal json part (exists_of_mem_nullable read_eq part mem)

theorem IsFaithful.table (faithful : IsFaithful read write)
    (plain : ∀ value key inner, write value ≠ .keyed key inner) :
    IsFaithful (table read) fun entries =>
      .obj (entries.map fun (name, value) => (name, write value)) := by
  intro values
  rw [Validated.table]
  induction values with
  | nil => rfl
  | cons entry rest induction =>
      obtain ⟨name, value⟩ := entry
      rw [List.map_cons, entries, induction]
      have name_eq : entryName (name, write value) = .valid name := by
        rw [entryName]
        · exact fun codes inner => plain value (.halved codes) inner
        · exact plain value
      have value_eq : entryValue read (write value) = read (write value) := by
        rw [entryValue]
        exact plain value
      rw [name_eq, value_eq, faithful value]
      rfl

/-! ### Scalars -/

theorem isFaithful_string : IsFaithful string .str := fun _ => rfl

theorem isFaithful_text : IsFaithful text .text := by
  intro value
  simp [text, string, map, Json.text]

theorem isFaithful_integer : IsFaithful integer .int := fun _ => rfl

theorem isFaithful_number : IsFaithful number .float := fun _ => rfl

theorem isFaithful_pair :
    IsFaithful pair fun range => .arr [.int range.1, .int range.2] := fun _ => rfl

theorem isNormalForm_positive : IsNormalForm positive .nat := by
  intro json size read_eq
  obtain ⟨number, -, large, rfl⟩ := positive_eq_valid_iff.1 read_eq
  exact positive_eq_valid_iff.2 ⟨number.toNat, rfl, by omega, Int.toNat_natCast _⟩

theorem unsignedNumber_float_eq_valid {value : Float} (unsigned : 0 ≤ value) :
    unsignedNumber (.float value) = .valid value :=
  unsignedNumber_eq_valid_iff.2 ⟨rfl, unsigned⟩

theorem isNormalForm_unsignedNumber : IsNormalForm unsignedNumber .float := fun _ _ read_eq =>
  unsignedNumber_float_eq_valid (unsignedNumber_eq_valid_iff.1 read_eq).2

end Validated
end ProseCheck

/-!
## Readings that are alike

Two readings are alike if both find the same faults or both end with values in a relation.  What
is read side by side from parts is alike if the parts are, so a part that differs does not hide
the faults of the others.
-/

namespace ProseCheck
namespace Validated

variable {Source Other Argument Part Value Result : Type}

/-- Both readings find the same faults, or values in a relation. -/
inductive Alike (relation : Value → Result → Prop) : Validated Value → Validated Result → Prop
  | valid {value : Value} {result : Result} (related : relation value result) :
      Alike relation (.valid value) (.valid result)
  | invalid (faults : List Fault) : Alike relation (.invalid faults) (.invalid faults)

namespace Alike

variable {sources : Source → Other → Prop} {parts : Argument → Part → Prop}
  {relation : Value → Result → Prop}

theorem refl {relation : Value → Value → Prop} (reflexive : ∀ value, relation value value)
    (validated : Validated Value) : Alike relation validated validated := by
  cases validated with
  | valid value => exact .valid (reflexive value)
  | invalid faults => exact .invalid faults

theorem exists_valid {value : Value} {validated : Validated Result}
    (alike : Alike relation (.valid value) validated) :
    ∃ result, validated = .valid result ∧ relation value result := by
  cases alike with
  | valid related => exact ⟨_, rfl, related⟩

theorem map {change : Source → Value} {turn : Other → Result} {source : Validated Source}
    {other : Validated Other}
    (changes : ∀ source other, sources source other → relation (change source) (turn other))
    (alike : Alike sources source other) : Alike relation (change <$> source) (turn <$> other) := by
  cases alike with
  | valid related => exact .valid (changes _ _ related)
  | invalid faults => exact .invalid faults

theorem seq {change : Validated (Argument → Value)} {turn : Validated (Part → Result)}
    {argument : Validated Argument} {part : Validated Part}
    (functions : Alike
      (fun change turn => ∀ argument part, parts argument part →
        relation (change argument) (turn part)) change turn)
    (arguments : Alike parts argument part) :
    Alike relation (change <*> argument) (turn <*> part) := by
  cases functions with
  | valid changes =>
      cases arguments with
      | valid related => exact .valid (changes _ _ related)
      | invalid faults => exact .invalid faults
  | invalid faults =>
      cases arguments with
      | valid related => exact .invalid faults
      | invalid more => exact .invalid (faults ++ more)

theorem below {step : Step} {value : Validated Value} {result : Validated Result}
    (alike : Alike relation value result) :
    Alike relation (value.below step) (result.below step) := by
  cases alike with
  | valid related => exact .valid related
  | invalid faults => exact .invalid _

theorem also {faults : List Fault} {value : Validated Value} {result : Validated Result}
    (alike : Alike relation value result) :
    Alike relation (value.also faults) (result.also faults) := by
  cases alike with
  | valid related =>
      cases faults with
      | nil => exact .valid related
      | cons fault faults => exact .invalid _
  | invalid found => exact .invalid _

end Alike
end Validated
end ProseCheck
