import ProseCheck.Proofs.Server.Reply

/-!
# Places of matches

A server counts a text in 16-bit units, and a suggestion counts its characters.  Whatever offset
and length a match has, it stands on characters of the text, in the order of the offsets, and on the
very ones that were counted if it was counted right.  A match of an allowed word is left out, and
the others make suggestions in their order.
-/

namespace ProseCheck
namespace Reply

open Reading

/-- A place in a text as a server counts it. -/
structure Place where
  /-- Units before the place. -/
  offset : Int
  /-- Units of the place. -/
  length : Int

namespace Place

/-- First character of a place. -/
def start (place : Place) (text : Text) : Nat :=
  Units.charIndex (Units.offsets text) place.offset

/-- Character after the last one of a place. -/
def stop (place : Place) (text : Text) : Nat :=
  Units.charIndex (Units.offsets text) (place.offset + place.length)

/-- A place that has units and stands on an allowed word. -/
def IsLeftOut (place : Place) (text : Text) (allowed : List String) : Prop :=
  place.length ≠ 0 ∧
    String.ofList ((text.take (place.stop text)).drop (place.start text)) ∈ allowed

instance (place : Place) (text : Text) (allowed : List String) :
    Decidable (place.IsLeftOut text allowed) :=
  inferInstanceAs (Decidable (_ ∧ _))

variable {place : Place} {text : Text}

/-- The place of some characters is found where they stand. -/
theorem start_stop_of_size {first last : Nat} (first_le : first ≤ last)
    (last_le : last ≤ text.length)
    (offset : place.offset = Units.size (text.take first))
    (length : place.length = Units.size ((text.take last).drop first)) :
    place.start text = first ∧ place.stop text = last := by
  have total : place.offset + place.length = Units.size (text.take last) := by
    rw [offset, length, ← Int.natCast_add, Units.size_take_add_size first_le]
  constructor
  · rw [start, offset, Units.charIndex_size_take text (Nat.le_trans first_le last_le)]
  · rw [stop, total, Units.charIndex_size_take text last_le]

theorem start_le_stop (nonnegative : 0 ≤ place.length) : place.start text ≤ place.stop text :=
  Units.charIndex_mono (by omega)

theorem stop_le (place : Place) (text : Text) : place.stop text ≤ text.length :=
  Units.charIndex_le text _

theorem isLeftOut_iff {allowed : List String} :
    isLeftOut allowed text place.offset place.length = true ↔ place.IsLeftOut text allowed := by
  have start_le := Units.charIndex_le text place.offset
  simp [isLeftOut, isAllowed, IsLeftOut, start, stop, Slice.between_natCast,
    Nat.min_eq_left start_le]

end Place

/-- A match at a place. -/
structure Match extends Place where
  /-- What is sent of the match. -/
  members : Json.Members
  stands : Stands members offset length

/-- A suggestion that is made of a match on a text. -/
structure Makes (text : Text) (found : Match) (said : Suggestion) : Prop where
  start : said.start = found.start text
  stop : said.stop = found.stop text
  tells : Tells found.members said

/-- Matches that say text are read together: those that are not left out make suggestions, in
order. -/
theorem exists_made {allowed : List String} {text : Text} {found : List Match}
    (speak : ∀ one ∈ found, ¬ one.IsLeftOut text allowed → Speaks one.members) :
    ∃ read, (found.map fun one => Json.obj one.members).mapM
        (ofMatch allowed text (Units.offsets text)) = .ok read ∧
      List.Forall₂ (Makes text) (found.filter fun one => ¬ one.IsLeftOut text allowed)
        (read.filterMap id) := by
  induction found with
  | nil => exact ⟨[], rfl, .nil⟩
  | cons one rest induction =>
      obtain ⟨speaks, speak⟩ := List.forall_mem_cons.1 speak
      obtain ⟨read, read_eq, made⟩ := induction speak
      by_cases left_out : one.IsLeftOut text allowed
      · have first_eq := ofMatch_of_stands one.stands allowed text
        rw [if_pos (Place.isLeftOut_iff.2 left_out)] at first_eq
        refine ⟨none :: read, ?_, ?_⟩
        · rw [List.map_cons, List.mapM_cons, first_eq, read_eq]
          rfl
        · simpa [left_out] using made
      · have first_eq := ofMatch_of_stands one.stands allowed text
        rw [if_neg fun is_left_out => left_out (Place.isLeftOut_iff.1 is_left_out)] at first_eq
        obtain ⟨said, said_eq⟩ := exists_suggestion_iff.2 (speaks left_out)
        obtain ⟨start_eq, stop_eq, tells⟩ := suggestion_eq_ok_iff.1 said_eq
        refine ⟨some said :: read, ?_, ?_⟩
        · rw [List.map_cons, List.mapM_cons, first_eq, said_eq, read_eq]
          rfl
        · simpa [left_out] using And.intro (Makes.mk start_eq stop_eq tells) made

/-- Where matches stand and which of them make suggestions: the units of characters lead back to
them, every place is within the text and starts no earlier than one of a smaller offset, and exactly
the matches with units on an allowed word are left out. -/
theorem matches_convert (allowed : List String) (text : Text) :
    (∀ (place : Place) (first last : Nat), first ≤ last → last ≤ text.length →
      place.offset = Units.size (text.take first) →
        place.length = Units.size ((text.take last).drop first) →
          place.start text = first ∧ place.stop text = last) ∧
    (∀ place : Place, 0 ≤ place.length →
      place.start text ≤ place.stop text ∧ place.stop text ≤ text.length) ∧
    (∀ earlier later : Place, earlier.offset ≤ later.offset →
      earlier.start text ≤ later.start text) ∧
    ∀ (members : Json.Members) (found : List Match),
      members.Enumerates "matches" (found.map Match.members) →
        (∀ one ∈ found, ¬ one.IsLeftOut text allowed → Speaks one.members) →
          ∃ said, suggestions allowed text (.obj members) = .ok said ∧
            List.Forall₂ (Makes text) (found.filter fun one => ¬ one.IsLeftOut text allowed)
              said := by
  refine ⟨?_, ?_, ?_, ?_⟩
  · intro place first last first_le last_le
    exact Place.start_stop_of_size first_le last_le
  · intro place nonnegative
    exact ⟨Place.start_le_stop nonnegative, place.stop_le text⟩
  · intro earlier later le
    exact Units.charIndex_mono le
  · intro members found enumerates speak
    obtain ⟨read, read_eq, made⟩ := exists_made speak
    refine ⟨read.filterMap id, ?_, made⟩
    have listed_eq := listed_of_enumerates enumerates
    rw [List.map_map] at listed_eq
    exact bind_eq_ok_iff.2 ⟨_, listed_eq, bind_eq_ok_iff.2 ⟨read, read_eq, rfl⟩⟩

/-- A match on the word after a character of two units. -/
def matchAfterEmoji : Match where
  offset := 3
  length := 3
  members := [("offset", .int 3), ("length", .int 3), ("message", .str "Typo")]
  stands := ⟨rfl, rfl⟩

theorem speaks_matchAfterEmoji : Speaks matchAfterEmoji.members where
  message := by
    intro value found
    obtain rfl := Option.some.inj found
    exact ⟨"Typo", rfl⟩
  rule := by
    refine ⟨[], Or.inr ⟨rfl, fun value found => by contradiction⟩, ?_, ?_⟩
    · exact Json.Members.isText_of_get?_eq_none rfl
    · exact Json.Members.isText_of_get?_eq_none rfl
  replacements := ⟨[], Or.inr ⟨rfl, fun value found => by contradiction⟩, by simp⟩

theorem matches_convert_afterEmoji :
    (matchAfterEmoji.start "😀 teh".toList = 2 ∧ matchAfterEmoji.stop "😀 teh".toList = 5) ∧
    matchAfterEmoji.start "😀 teh".toList ≤ matchAfterEmoji.stop "😀 teh".toList ∧
    (Place.mk (-1) 9).start "😀 teh".toList ≤ matchAfterEmoji.start "😀 teh".toList ∧
    ∃ said, suggestions [] "😀 teh".toList
        (.obj [("matches", .arr [.obj matchAfterEmoji.members])]) = .ok said ∧
      List.Forall₂ (Makes "😀 teh".toList) [matchAfterEmoji] said := by
  obtain ⟨exact, within, ordered, made⟩ := matches_convert [] "😀 teh".toList
  refine ⟨exact _ 2 5 (by decide) (by decide) rfl rfl, (within _ (by decide)).1,
    ordered _ _ (by decide), ?_⟩
  exact made [("matches", .arr [.obj matchAfterEmoji.members])] [matchAfterEmoji] (Or.inl rfl)
    (fun one mem _ => List.mem_singleton.1 mem ▸ speaks_matchAfterEmoji)

end Reply
end ProseCheck
