/-!
# Association lists

Names with their values, of which the first of a name counts.  A name that is set anew keeps its
place.
-/

namespace ProseCheck
namespace Association

variable {Name Value : Type} [DecidableEq Name]

/-- Sets a name: in its place if the name is there, at the end if not. -/
def put (name : Name) (value : Value) : List (Name × Value) → List (Name × Value)
  | [] => [(name, value)]
  | entry :: rest =>
    if entry.1 = name then (name, value) :: rest else entry :: put name value rest

/-- Setting a name changes the value of this name alone. -/
theorem lookup_put (name other : Name) (value : Value) (entries : List (Name × Value)) :
    (put name value entries).lookup other =
      if other = name then some value else entries.lookup other := by
  fun_induction put name value entries with
  | case1 =>
      by_cases same : other = name
      · simp [same]
      · have differs : (other == name) = false := beq_false_of_ne same
        simp [List.lookup_cons, same, differs]
  | case2 entry rest is_name =>
      obtain ⟨first, kept⟩ := entry
      obtain rfl : first = name := is_name
      by_cases same : other = first
      · simp [same]
      · have differs : (other == first) = false := beq_false_of_ne same
        simp [List.lookup_cons, same, differs]
  | case3 entry rest differs induction =>
      obtain ⟨first, kept⟩ := entry
      simp only [List.lookup_cons, induction]
      by_cases same : other = first
      · have other_differs : other ≠ name := fun is_name => differs (same.symm.trans is_name)
        simp [same, same ▸ other_differs]
      · simp [beq_false_of_ne same]

end Association
end ProseCheck
