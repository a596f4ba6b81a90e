import Mathlib.Data.List.Forall2

/-!
# Readings that may fail

A reading in steps succeeds exactly if each of its steps does, whatever errors they may end with.
-/

namespace ProseCheck
namespace Reading

variable {Error Refusal Source Item Value : Type}

theorem bind_eq_ok_iff {read : Except Error Source} {next : Source → Except Error Value}
    {value : Value} :
    read >>= next = .ok value ↔ ∃ source, read = .ok source ∧ next source = .ok value := by
  cases read <;> simp [bind, Except.bind]

/-- A reading succeeds with a value if it is the same as what was read. -/
theorem eq_ok_of_any {read : Except Error Value} {value : Value} {isSame : Value → Value → Bool}
    (eq_of_isSame : ∀ {left right}, isSame left right = true → left = right)
    (same : read.toOption.any (isSame · value) = true) : read = .ok value := by
  cases read with
  | error error => contradiction
  | ok found => rw [eq_of_isSame (Option.any_some.symm.trans same)]

theorem bind_eq_error_iff {read : Except Error Source} {next : Source → Except Error Value}
    {error : Error} :
    read >>= next = .error error ↔
      read = .error error ∨ ∃ source, read = .ok source ∧ next source = .error error := by
  cases read <;> simp [bind, Except.bind]

theorem mapM_cons_eq_ok_iff {read : Item → Except Error Value} {item : Item} {items : List Item}
    {values : List Value} :
    (item :: items).mapM read = .ok values ↔
      ∃ value others, read item = .ok value ∧ items.mapM read = .ok others ∧
        value :: others = values := by
  rw [List.mapM_cons, bind_eq_ok_iff]
  constructor
  · rintro ⟨value, value_eq, later⟩
    obtain ⟨others, others_eq, values_eq⟩ := bind_eq_ok_iff.1 later
    exact ⟨value, others, value_eq, others_eq, Except.ok.inj values_eq⟩
  · rintro ⟨value, others, value_eq, others_eq, rfl⟩
    exact ⟨value, value_eq, bind_eq_ok_iff.2 ⟨others, others_eq, rfl⟩⟩

/-- Items are read together if each is read. -/
theorem mapM_eq_ok_iff {read : Item → Except Error Value} {items : List Item}
    {values : List Value} :
    items.mapM read = .ok values ↔
      List.Forall₂ (fun item value => read item = .ok value) items values := by
  induction items generalizing values with
  | nil => cases values <;> simp [pure, Except.pure]
  | cons item rest induction =>
      rw [mapM_cons_eq_ok_iff, List.forall₂_cons_left_iff]
      simp only [induction, eq_comm]

theorem mapM_append_eq_ok_iff {read : Item → Except Error Value} {before after : List Item}
    {values : List Value} :
    (before ++ after).mapM read = .ok values ↔
      ∃ front back, before.mapM read = .ok front ∧ after.mapM read = .ok back ∧
        front ++ back = values := by
  rw [List.mapM_append, bind_eq_ok_iff]
  constructor
  · rintro ⟨front, front_eq, later⟩
    obtain ⟨back, back_eq, values_eq⟩ := bind_eq_ok_iff.1 later
    exact ⟨front, back, front_eq, back_eq, Except.ok.inj values_eq⟩
  · rintro ⟨front, back, front_eq, back_eq, rfl⟩
    exact ⟨front, front_eq, bind_eq_ok_iff.2 ⟨back, back_eq, rfl⟩⟩

/-- Items are read with the error of the first one that cannot be read. -/
theorem mapM_eq_error_iff {read : Item → Except Error Value} {items : List Item} {error : Error} :
    items.mapM read = .error error ↔
      ∃ before item after, items = before ++ item :: after ∧
        (∀ earlier ∈ before, ∃ value, read earlier = .ok value) ∧ read item = .error error := by
  induction items with
  | nil => simp [pure, Except.pure]
  | cons first rest induction =>
      rw [List.mapM_cons, bind_eq_error_iff]
      constructor
      · rintro (error_eq | ⟨value, value_eq, later⟩)
        · exact ⟨[], first, rest, rfl, by simp, error_eq⟩
        · rcases bind_eq_error_iff.1 later with later | ⟨values, -, none⟩
          · obtain ⟨before, item, after, rfl, readable, error_eq⟩ := induction.1 later
            refine ⟨first :: before, item, after, rfl, ?_, error_eq⟩
            exact List.forall_mem_cons.2 ⟨⟨value, value_eq⟩, readable⟩
          · contradiction
      · rintro ⟨before, item, after, items_eq, readable, error_eq⟩
        cases before with
        | nil =>
            obtain ⟨rfl, -⟩ := List.cons.inj items_eq
            exact .inl error_eq
        | cons earlier before =>
            obtain ⟨rfl, rest_eq⟩ := List.cons.inj items_eq
            obtain ⟨⟨value, value_eq⟩, readable⟩ := List.forall_mem_cons.1 readable
            have later := induction.2 ⟨before, item, after, rest_eq, readable, error_eq⟩
            exact .inr ⟨value, value_eq, bind_eq_error_iff.2 (.inl later)⟩

/-- One more item that can be read does not hide the error of the others. -/
theorem mapM_insert_eq_error {read : Item → Except Error Value} {item : Item} {value : Value}
    {before after : List Item} {error : Error} (item_eq : read item = .ok value)
    (error_eq : (before ++ after).mapM read = .error error) :
    (before ++ item :: after).mapM read = .error error := by
  rw [List.mapM_append, bind_eq_error_iff] at error_eq ⊢
  refine error_eq.imp_right fun ⟨front, front_eq, later⟩ => ⟨front, front_eq, ?_⟩
  rw [bind_eq_error_iff] at later ⊢
  rcases later with back_eq | ⟨back, -, impossible⟩
  · rw [List.mapM_cons, item_eq]
    exact .inl (bind_eq_error_iff.2 (.inr ⟨value, rfl, bind_eq_error_iff.2 (.inl back_eq)⟩))
  · contradiction

theorem map_eq_ok_iff {change : Source → Value} {read : Except Error Source} {value : Value} :
    read.map change = .ok value ↔ ∃ source, read = .ok source ∧ change source = value := by
  cases read <;> simp [Except.map]

theorem mapError_eq_ok_iff {report : Error → Refusal} {read : Except Error Value}
    {value : Value} : read.mapError report = .ok value ↔ read = .ok value := by
  cases read <;> simp [Except.mapError]

theorem mapError_eq_error_iff {report : Error → Refusal} {read : Except Error Value}
    {refusal : Refusal} :
    read.mapError report = .error refusal ↔
      ∃ error, read = .error error ∧ report error = refusal := by
  cases read <;> simp [Except.mapError]

end Reading
end ProseCheck
