import ProseCheck.Proofs.Reading
import ProseCheck.Proofs.Validation.Parts
import ProseCheck.Server.Reply

/-!
# What a match says

Besides its place, a match says a message, the name and the description of a rule, and replacements.
It makes a suggestion exactly if all of these are text where they are there at all; a rule or a list
of replacements may also be anything that counts as absent.  Its offset and its length decide where
the suggestion stands, and whether the match is left out.
-/

namespace ProseCheck

namespace Json.Members

variable (members : Members) (name : String)

/-- A member that is a string if it is there. -/
def IsText : Prop := ∀ value, members.get? name = some value → ∃ text, value.shown? = some text

/-- A member that counts as absent if it is there. -/
def IsBlank : Prop := ∀ value, members.get? name = some value → value.isBlank = true

/-- A member that is an object; one that counts as absent has no members. -/
def Opens (inner : Members) : Prop :=
  members.get? name = some (.obj inner) ∨ inner = [] ∧ members.IsBlank name

/-- A member that is a list of objects; one that counts as absent has none. -/
def Enumerates (items : List Members) : Prop :=
  members.get? name = some (.arr (items.map .obj)) ∨ items = [] ∧ members.IsBlank name

variable {members name}

theorem isText_of_get?_eq_none (nothing : members.get? name = none) : members.IsText name := by
  intro value found
  rw [nothing] at found
  contradiction

end Json.Members

namespace Reply

open Reading

/-! ## Parts of a match -/

variable {members : Json.Members}

theorem isText_iff {name : String} :
    members.IsText name ↔ ∃ text, (textOr members name).shown? = some text := by
  constructor
  · intro is_text
    cases found : members.get? name with
    | none => exact ⟨"", by simp [textOr, found, Json.shown?]⟩
    | some value =>
        obtain ⟨text, text_eq⟩ := is_text value found
        exact ⟨text, by simpa [textOr, found] using text_eq⟩
  · rintro ⟨text, text_eq⟩ value found
    rw [textOr, found] at text_eq
    exact ⟨text, text_eq⟩

theorem rule_of_isBlank (blank : members.IsBlank "rule") : rule members = .ok [] := by
  cases found : members.get? "rule" with
  | none => simp [rule, found]
  | some value =>
      have value_blank := blank value found
      cases value with
      | obj inner =>
          obtain rfl : inner = [] := by simpa [Json.isBlank] using value_blank
          simp [rule, found]
      | _ => simp [rule, found, value_blank]

theorem rule_eq_ok_iff {inner : Json.Members} :
    rule members = .ok inner ↔ members.Opens "rule" inner := by
  constructor
  · intro read
    unfold rule at read
    split at read
    · rename_i found
      exact Or.inr ⟨(Except.ok.inj read).symm, fun value mem => by simp [found] at mem⟩
    · rename_i opened found
      exact Or.inl (Except.ok.inj read ▸ found)
    · rename_i value _ found
      split at read
      · rename_i blank
        refine Or.inr ⟨(Except.ok.inj read).symm, fun other mem => ?_⟩
        obtain rfl := Option.some.inj (found.symm.trans mem)
        exact blank
      · contradiction
  · rintro (found | ⟨rfl, blank⟩)
    · simp [rule, found]
    · exact rule_of_isBlank blank

theorem mapM_replacement_eq_ok_iff {items values : List Json} :
    items.mapM replacement = .ok values ↔
      ∃ objects : List Json.Members,
        items = objects.map .obj ∧ values = objects.map (textOr · "value") := by
  rw [mapM_eq_ok_iff]
  constructor
  · intro each
    induction each with
    | nil => exact ⟨[], rfl, rfl⟩
    | @cons item value items values value_eq _ induction =>
        obtain ⟨objects, rfl, rfl⟩ := induction
        cases item with
        | obj inner =>
            obtain rfl := Except.ok.inj value_eq
            exact ⟨inner :: objects, rfl, rfl⟩
        | _ => contradiction
  · rintro ⟨objects, rfl, rfl⟩
    rw [List.forall₂_map_left_iff, List.forall₂_map_right_iff, List.forall₂_same]
    exact fun _ _ => rfl

theorem replacements_of_isBlank (blank : members.IsBlank "replacements") :
    replacements members = .ok [] := by
  cases found : members.get? "replacements" with
  | none => simp [replacements, found]
  | some value =>
      have value_blank := blank value found
      cases value with
      | arr items =>
          obtain rfl : items = [] := by simpa [Json.isBlank] using value_blank
          simp only [replacements, found]
          rfl
      | _ => simp [replacements, found, value_blank]

theorem replacements_eq_ok_iff {values : List Json} :
    replacements members = .ok values ↔
      ∃ items, members.Enumerates "replacements" items ∧ values = items.map (textOr · "value") := by
  constructor
  · intro read
    unfold replacements at read
    split at read
    · rename_i found
      refine ⟨[], Or.inr ⟨rfl, fun value mem => by simp [found] at mem⟩, ?_⟩
      exact (Except.ok.inj read).symm
    · rename_i items found
      obtain ⟨objects, rfl, values_eq⟩ := mapM_replacement_eq_ok_iff.1 read
      exact ⟨objects, Or.inl found, values_eq⟩
    · rename_i value _ found
      split at read
      · rename_i blank
        refine ⟨[], Or.inr ⟨rfl, fun other mem => ?_⟩, (Except.ok.inj read).symm⟩
        obtain rfl := Option.some.inj (found.symm.trans mem)
        exact blank
      · split at read <;> contradiction
  · rintro ⟨items, found | ⟨rfl, blank⟩, rfl⟩
    · simp only [replacements, found]
      exact mapM_replacement_eq_ok_iff.2 ⟨items, rfl, rfl⟩
    · exact replacements_of_isBlank blank

theorem exists_texts_iff {items : List Json.Members} {name : String} :
    (∃ texts : List String, (items.map (textOr · name)).map Json.shown? = texts.map some) ↔
      ∀ item ∈ items, item.IsText name := by
  induction items with
  | nil => simp
  | cons item rest induction =>
      rw [List.forall_mem_cons, ← induction, isText_iff, List.map_cons, List.map_cons]
      constructor
      · rintro ⟨texts, texts_eq⟩
        cases texts with
        | nil => contradiction
        | cons text texts =>
            obtain ⟨text_eq, rest_eq⟩ := List.cons.inj texts_eq
            exact ⟨⟨text, text_eq⟩, texts, rest_eq⟩
      · rintro ⟨⟨text, text_eq⟩, texts, rest_eq⟩
        exact ⟨text :: texts, by rw [text_eq, rest_eq, List.map_cons]⟩

/-! ## The suggestion of a match -/

/-- What a suggestion takes from a match, wherever it stands. -/
structure Tells (members : Json.Members) (said : Suggestion) : Prop where
  message : (textOr members "message").shown? = some said.message
  rule : ∃ rule, Reply.rule members = .ok rule ∧ (textOr rule "id").shown? = some said.ruleId ∧
    (textOr rule "description").shown? = some said.ruleDescription
  replacements : ∃ values, Reply.replacements members = .ok values ∧
    values.map Json.shown? = said.replacements.map some

/-- A match makes the suggestion that has its place and takes the rest from it. -/
theorem suggestion_eq_ok_iff {start stop : Nat} {said : Suggestion} :
    suggestion members start stop = .ok said ↔
      said.start = start ∧ said.stop = stop ∧ Tells members said := by
  simp only [suggestion, bind_eq_ok_iff]
  constructor
  · rintro ⟨rule, rule_eq, values, values_eq, made⟩
    split at made
    · rename_i read read_eq
      obtain rfl : read = said := Except.ok.inj made
      simp only [Validated.seq_eq_valid_iff, Validated.map_eq_valid_iff,
        Validated.below_eq_valid_iff, Validated.string_eq_valid_iff,
        Validated.each_string_eq_valid_iff] at read_eq
      obtain ⟨_, texts, ⟨_, description, ⟨_, id, ⟨message, message_eq, rfl⟩, id_eq, rfl⟩,
        description_eq, rfl⟩, texts_eq, rfl⟩ := read_eq
      exact ⟨rfl, rfl, message_eq, ⟨rule, rule_eq, id_eq, description_eq⟩, values, values_eq,
        texts_eq⟩
    · contradiction
  · rintro ⟨rfl, rfl, message_eq, ⟨rule, rule_eq, id_eq, description_eq⟩, values, values_eq,
      texts_eq⟩
    refine ⟨rule, rule_eq, values, values_eq, ?_⟩
    rw [Validated.string_eq_valid_iff.2 message_eq, Validated.string_eq_valid_iff.2 id_eq,
      Validated.string_eq_valid_iff.2 description_eq,
      Validated.each_string_eq_valid_iff.2 texts_eq]
    rfl

/-- A match of which all that is said is text: the message, the name and the description of the
rule, and each replacement. -/
structure Speaks (members : Json.Members) : Prop where
  message : members.IsText "message"
  rule : ∃ rule, members.Opens "rule" rule ∧ rule.IsText "id" ∧ rule.IsText "description"
  replacements :
    ∃ items, members.Enumerates "replacements" items ∧ ∀ item ∈ items, item.IsText "value"

/-- What a match says is text exactly if a suggestion can take it over. -/
theorem speaks_iff : Speaks members ↔ ∃ said, Tells members said := by
  constructor
  · rintro ⟨message, ⟨rule, opens, id, description⟩, items, enumerates, values⟩
    obtain ⟨message, message_eq⟩ := isText_iff.1 message
    obtain ⟨id, id_eq⟩ := isText_iff.1 id
    obtain ⟨description, description_eq⟩ := isText_iff.1 description
    obtain ⟨texts, texts_eq⟩ := exists_texts_iff.2 values
    refine ⟨⟨0, 0, message, id, description, texts⟩, message_eq, ?_, ?_⟩
    · exact ⟨rule, rule_eq_ok_iff.2 opens, id_eq, description_eq⟩
    · exact ⟨_, replacements_eq_ok_iff.2 ⟨items, enumerates, rfl⟩, texts_eq⟩
  · rintro ⟨said, message, ⟨rule, rule_eq, id, description⟩, values, read, texts_eq⟩
    obtain ⟨items, enumerates, rfl⟩ := replacements_eq_ok_iff.1 read
    refine ⟨isText_iff.2 ⟨_, message⟩, ?_, ?_⟩
    · exact ⟨rule, rule_eq_ok_iff.1 rule_eq, isText_iff.2 ⟨_, id⟩, isText_iff.2 ⟨_, description⟩⟩
    · exact ⟨items, enumerates, exists_texts_iff.1 ⟨said.replacements, texts_eq⟩⟩

/-- A match makes a suggestion exactly if all that it says is text. -/
theorem exists_suggestion_iff {start stop : Nat} :
    (∃ said, suggestion members start stop = .ok said) ↔ Speaks members := by
  rw [speaks_iff]
  constructor
  · rintro ⟨said, said_eq⟩
    exact ⟨said, (suggestion_eq_ok_iff.1 said_eq).2.2⟩
  · rintro ⟨said, message, rule, replacements⟩
    refine ⟨{ said with start, stop }, suggestion_eq_ok_iff.2 ⟨rfl, rfl, ?_⟩⟩
    exact ⟨message, rule, replacements⟩

/-! ## The place of a match -/

/-- A match at an offset, of a length. -/
structure Stands (members : Json.Members) (offset length : Int) : Prop where
  offset : number members "offset" = .ok offset
  length : number members "length" = .ok length

/-- Whether a match at an offset, of a length, covers an allowed word. -/
def isLeftOut (allowed : List String) (text : Text) (offset length : Int) : Bool :=
  isAllowed allowed text (Units.charIndex (Units.offsets text) offset)
    (Units.charIndex (Units.offsets text) (offset + length)) length

theorem ofMatch_of_stands {offset length : Int} (stands : Stands members offset length)
    (allowed : List String) (text : Text) :
    ofMatch allowed text (Units.offsets text) (.obj members) =
      if isLeftOut allowed text offset length then .ok none
      else some <$> suggestion members (Units.charIndex (Units.offsets text) offset)
        (Units.charIndex (Units.offsets text) (offset + length)) := by
  simp only [ofMatch, stands.offset, stands.length, bind, Except.bind]
  rfl

end Reply
end ProseCheck
