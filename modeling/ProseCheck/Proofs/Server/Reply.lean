import ProseCheck.Proofs.Server.Content
import ProseCheck.Proofs.Text.Units
import ProseCheck.Server.Client

/-!
# Well-formed replies

A well-formed reply lists matches, each with an integer offset and length, and what else a match
says is text.  Such a reply never fails to be read: its suggestions are those of its matches, at the
characters that the units of each match stand for, without the matches of allowed words.
-/

namespace ProseCheck

namespace Json.Members

variable (members : Members) (name : String)

/-- A member that is not there, or `null`. -/
def IsAbsent : Prop := members.get? name = none ∨ members.get? name = some .null

/-- A member that is an object; an absent one has no members. -/
def Holds (inner : Members) : Prop :=
  members.get? name = some (.obj inner) ∨ inner = [] ∧ members.IsAbsent name

/-- A member that lists objects; an absent one lists none. -/
def Lists (items : List Members) : Prop :=
  members.get? name = some (.arr (items.map .obj)) ∨ items = [] ∧ members.IsAbsent name

variable {members name}

theorem IsAbsent.isBlank (absent : members.IsAbsent name) : members.IsBlank name := by
  intro value found
  rcases absent with nothing | null
  · rw [nothing] at found
    contradiction
  · obtain rfl := Option.some.inj (null.symm.trans found)
    rfl

theorem Holds.opens {inner : Members} (holds : members.Holds name inner) :
    members.Opens name inner :=
  holds.imp_right fun absent => ⟨absent.1, absent.2.isBlank⟩

theorem Lists.enumerates {items : List Members} (lists : members.Lists name items) :
    members.Enumerates name items :=
  lists.imp_right fun absent => ⟨absent.1, absent.2.isBlank⟩

end Json.Members

namespace Reply

/-- A match that can be read. -/
structure WellFormedMatch (members : Json.Members) : Prop where
  offset : ∃ value, members.get? "offset" = some (.int value)
  length : ∃ value, members.get? "length" = some (.int value)
  message : members.IsText "message"
  rule : ∃ rule, members.Holds "rule" rule ∧ rule.IsText "id" ∧ rule.IsText "description"
  replacements : ∃ items, members.Lists "replacements" items ∧ ∀ item ∈ items, item.IsText "value"

section

variable {members : Json.Members}

theorem number_of_int {name : String} {value : Int}
    (found : members.get? name = some (.int value)) : number members name = .ok value := by
  simp [number, found]

theorem listed_of_enumerates {items : List Json.Members}
    (enumerates : members.Enumerates "matches" items) : listed members = .ok (items.map .obj) := by
  rcases enumerates with found | ⟨rfl, blank⟩
  · simp [listed, found]
  · cases found : members.get? "matches" with
    | none => simp [listed, found]
    | some value =>
        have value_blank := blank value found
        cases value with
        | arr items =>
            obtain rfl : items = [] := by simpa [Json.isBlank] using value_blank
            simp [listed, found]
        | _ => simp [listed, found, value_blank]

/-- Items that can all be read are read together. -/
theorem mapM_ok {Item Value : Type} {read : Item → Except ServerError Value} {items : List Item}
    (each : ∀ item ∈ items, ∃ value, read item = .ok value) :
    ∃ values, items.mapM read = .ok values ∧
      ∀ item ∈ items, ∃ value ∈ values, read item = .ok value := by
  induction items with
  | nil => exact ⟨[], rfl, by simp⟩
  | cons item rest induction =>
      obtain ⟨value, value_eq⟩ := each item List.mem_cons_self
      obtain ⟨values, values_eq, found⟩ :=
        induction fun other mem => each other (List.mem_cons_of_mem _ mem)
      refine ⟨value :: values, ?_, fun other mem => ?_⟩
      · rw [List.mapM_cons, value_eq, values_eq]
        rfl
      · rcases List.mem_cons.1 mem with rfl | mem
        · exact ⟨value, List.mem_cons_self, value_eq⟩
        · obtain ⟨later, later_mem, later_eq⟩ := found other mem
          exact ⟨later, List.mem_cons_of_mem _ later_mem, later_eq⟩

namespace WellFormedMatch

theorem speaks (well_formed : WellFormedMatch members) : Speaks members := by
  obtain ⟨-, -, message, ⟨rule, holds, texts⟩, items, lists, values⟩ := well_formed
  exact ⟨message, ⟨rule, holds.opens, texts⟩, items, lists.enumerates, values⟩

/-- A well-formed match makes a suggestion wherever it stands. -/
theorem exists_suggestion (well_formed : WellFormedMatch members) (start stop : Nat) :
    ∃ said, suggestion members start stop = .ok said ∧ said.start = start ∧ said.stop = stop := by
  obtain ⟨said, said_eq⟩ := exists_suggestion_iff.2 well_formed.speaks
  obtain ⟨start_eq, stop_eq, -⟩ := suggestion_eq_ok_iff.1 said_eq
  exact ⟨said, said_eq, start_eq, stop_eq⟩

theorem exists_stands (well_formed : WellFormedMatch members) :
    ∃ offset length, Stands members offset length := by
  obtain ⟨offset, offset_eq⟩ := well_formed.offset
  obtain ⟨length, length_eq⟩ := well_formed.length
  exact ⟨offset, length, number_of_int offset_eq, number_of_int length_eq⟩

/-- A well-formed match can be read on any text. -/
theorem exists_ofMatch (well_formed : WellFormedMatch members) (allowed : List String)
    (text : Text) :
    ∃ found, ofMatch allowed text (Units.offsets text) (.obj members) = .ok found := by
  obtain ⟨offset, length, stands⟩ := well_formed.exists_stands
  rw [ofMatch_of_stands stands]
  split
  · exact ⟨none, rfl⟩
  · obtain ⟨said, said_eq, -⟩ := well_formed.exists_suggestion
      (Units.charIndex (Units.offsets text) offset)
      (Units.charIndex (Units.offsets text) (offset + length))
    exact ⟨some said, by rw [said_eq]; rfl⟩

/-- A match at the units of a word that is not allowed makes a suggestion on its characters. -/
theorem exists_suggestion_of_word (well_formed : WellFormedMatch members) {left word right : Text}
    (offset : members.get? "offset" = some (.int (Units.size left)))
    (length : members.get? "length" = some (.int (Units.size word))) {allowed : List String}
    (unknown : String.ofList word ∉ allowed) :
    ∃ said, suggestion members left.length (left.length + word.length) = .ok said ∧
      said.start = left.length ∧ said.stop = left.length + word.length ∧
        ofMatch allowed (left ++ word ++ right) (Units.offsets (left ++ word ++ right))
          (.obj members) = .ok (some said) := by
  obtain ⟨said, said_eq, start_eq, stop_eq⟩ :=
    well_formed.exists_suggestion left.length (left.length + word.length)
  refine ⟨said, said_eq, start_eq, stop_eq, ?_⟩
  have start_index : Units.charIndex (Units.offsets (left ++ word ++ right)) (Units.size left) =
      left.length := by
    rw [List.append_assoc]
    exact Units.charIndex_size left (word ++ right)
  have stop_index : Units.charIndex (Units.offsets (left ++ word ++ right))
      ((Units.size left : Int) + Units.size word) = left.length + word.length := by
    have found := Units.charIndex_size (left ++ word) right
    rwa [Units.size_append, Int.natCast_add, List.length_append] at found
  have kept : isLeftOut allowed (left ++ word ++ right) (Units.size left) (Units.size word) =
      false := by
    have between : Slice.between (left ++ word ++ right) (left.length : Int)
        ((left.length + word.length : Nat) : Int) = word := by
      rw [Slice.between_natCast, ← List.length_append, List.take_left, List.append_assoc,
        List.length_append, Nat.min_eq_left (Nat.le_add_right _ _), List.drop_left]
    simp only [isLeftOut, start_index, stop_index, isAllowed, between]
    simpa using fun _ => unknown
  rw [ofMatch_of_stands ⟨number_of_int offset, number_of_int length⟩, kept,
    if_neg Bool.false_ne_true, start_index, stop_index, said_eq]
  rfl

end WellFormedMatch

end

end Reply

namespace Transmission

/-- A reply that brings some matches, all of them well formed. -/
structure Brings (transmission : Transmission) (found : List Json.Members) : Prop where
  reply : ∃ status body, ∃ members : Json.Members, transmission = .reply status body ∧
    200 ≤ status ∧ status < 300 ∧ Client.readBody body = .ok (.obj members) ∧
      members.Lists "matches" found
  wellFormed : ∀ members ∈ found, Reply.WellFormedMatch members

end Transmission

namespace Client

/-- Words that are allowed for a request. -/
def allowed (client : Client) (request : Request) : List String :=
  (request.allowedWords.getD []).foldl addName client.allowedWords

theorem mem_foldl_addName {names more : List String} {name : String} :
    name ∈ more.foldl addName names ↔ name ∈ names ∨ name ∈ more := by
  induction more generalizing names with
  | nil => simp
  | cons first rest induction =>
      have added : name ∈ addName names first ↔ name ∈ names ∨ name = first := by
        unfold addName
        split
        · rename_i known
          constructor
          · exact Or.inl
          · rintro (mem | rfl)
            · exact mem
            · simpa using known
        · simp
      rw [List.foldl_cons, induction, added, List.mem_cons, or_assoc]

/-- A request that a well-formed reply answers comes to an answer, and the match of a word makes a
suggestion of it. -/
theorem exists_answer {client : Client} (reachable : client.url? ≠ none) (request : Request)
    {transmission : Transmission} {found : List Json.Members} (brings : transmission.Brings found) :
    ∃ answer, client.send request transmission = .ok answer ∧
      ∀ members ∈ found, ∀ said,
        Reply.ofMatch (client.allowed request) request.text (Units.offsets request.text)
            (.obj members) = .ok (some said) →
          said ∈ answer := by
  obtain ⟨⟨status, body, payload, rfl, least, most, read, lists⟩, well_formed⟩ := brings
  have readable : ∀ value ∈ found.map Json.obj, ∃ read,
      Reply.ofMatch (client.allowed request) request.text (Units.offsets request.text) value =
        .ok read := by
    intro value mem
    obtain ⟨members, members_mem, rfl⟩ := List.mem_map.1 mem
    exact (well_formed members members_mem).exists_ofMatch _ _
  obtain ⟨values, values_eq, each⟩ := Reply.mapM_ok readable
  refine ⟨values.filterMap id, ?_, fun members mem said said_eq => ?_⟩
  · obtain ⟨url, url_eq⟩ := Option.ne_none_iff_exists'.1 reachable
    have accepted : ¬ (status < 200 ∨ 300 ≤ status) := by omega
    have suggestions_eq : Reply.suggestions (client.allowed request) request.text (.obj payload) =
        .ok (values.filterMap id) := by
      simp only [Reply.suggestions, Reply.listed_of_enumerates lists.enumerates, bind, Except.bind,
        values_eq]
      rfl
    rw [send, url_eq, outcome, if_neg accepted, read]
    exact suggestions_eq
  · obtain ⟨value, value_mem, value_eq⟩ := each (.obj members) (List.mem_map_of_mem mem)
    rw [said_eq] at value_eq
    obtain rfl : some said = value := Except.ok.inj value_eq
    exact List.mem_filterMap.2 ⟨some said, value_mem, rfl⟩

end Client
end ProseCheck
