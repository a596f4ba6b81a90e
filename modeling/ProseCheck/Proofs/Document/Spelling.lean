import ProseCheck.Proofs.Document.Written
import ProseCheck.Proofs.Json.Written

/-!
# What dumps spell

A dump is read as it is shown, while its sources are made of what it spells.  What is shown of a
spelling is what was read, so the two differ only where halves of pairs are.  Names of files that
hold such halves become texts, which are the same only where the names are.
-/

namespace ProseCheck

open Validated

namespace Validated

theorem exists_codes_of_text {json : Json} {written : Text}
    (read_eq : Validated.text json = .valid written) :
    ∃ codes, json.codes? = some codes ∧ Json.shown codes = written := by
  cases json with
  | str name =>
      obtain rfl : name.toList = written := Validated.valid.inj read_eq
      exact ⟨_, rfl, Json.shown_map_toNat _⟩
  | halved codes =>
      refine ⟨codes, rfl, ?_⟩
      simpa [Validated.text, Validated.string, Validated.map] using read_eq
  | _ => contradiction

end Validated

/-! ## Trees -/

namespace Node

variable {levels : Nat} {json : Json} {node : Node} {members : Json.Members}

theorem spellingOfAll_eq_flatMap (items : List Json) :
    spellingOfAll items = items.flatMap spelling := by
  induction items with
  | nil => rw [spellingOfAll, List.flatMap_nil]
  | cons item rest induction => rw [spellingOfAll, induction, List.flatMap_cons]

theorem spelling_of_children {items : List Json}
    (found : Json.Members.get? members "children" = some (.arr items)) (nonempty : items ≠ []) :
    spelling (.obj members) = items.flatMap spelling := by
  cases items with
  | nil => contradiction
  | cons child children =>
      rw [spelling, List.flatMap_cons, ← spellingOfAll_eq_flatMap]
      split
      · rename_i first rest children_eq
        rw [found] at children_eq
        cases children_eq
        rfl
      · rename_i others
        exact absurd found (others child children)

theorem spelling_of_childless
    (childless : ∀ items, Json.Members.get? members "children" = some (.arr items) → items = []) :
    spelling (.obj members) = ((Json.Members.get? members "text").bind Json.codes?).getD [] := by
  rw [spelling]
  split
  · rename_i found
    have := childless _ found
    contradiction
  · rfl

theorem shown_of_text {written : Text}
    (read_eq : Validated.optional members "text" [] Validated.text = .valid written) :
    Json.shown (((Json.Members.get? members "text").bind Json.codes?).getD []) = written := by
  rcases optional_eq_valid_iff.1 read_eq with ⟨value, found, value_eq⟩ | ⟨nothing, rfl⟩
  · obtain ⟨codes, codes_eq, shown_eq⟩ := Validated.exists_codes_of_text value_eq
    rw [found, Option.bind_some, codes_eq]
    exact shown_eq
  · rw [nothing]
    rfl

theorem shown_flatMap_spelling {items : List Json} {nodes : List Node}
    (each : List.Forall₂ (fun item node => Json.shown (spelling item) = node.fullText)
      items nodes) :
    Json.shown (items.flatMap spelling) = nodes.flatMap fullText := by
  induction each with
  | nil => rfl
  | cons first _ induction =>
      rw [List.flatMap_cons, List.flatMap_cons, ← first, ← induction]
      exact List.map_append

/-- A tree stands for the text that is shown of what it spells. -/
theorem shown_spelling (read_eq : readWithin levels json = .valid node) :
    Json.shown (spelling json) = node.fullText := by
  induction levels generalizing json node with
  | zero =>
      rw [readWithin_zero] at read_eq
      contradiction
  | succ levels induction =>
      obtain ⟨members, rfl, -, text_eq, children_eq, -⟩ := readWithin_succ_eq_valid_iff.1 read_eq
      rcases optional_eq_valid_iff.1 children_eq with ⟨listed, found, listed_eq⟩ | ⟨nothing, none⟩
      · obtain ⟨items, rfl, each⟩ := list_eq_valid_iff.1 listed_eq
        by_cases childless : items = []
        · subst childless
          have no_children := List.forall₂_nil_left_iff.1 each
          rw [spelling_of_childless fun items same => by simpa [found, eq_comm] using same,
            shown_of_text text_eq, fullText_of_childless no_children]
        · have inner : node.children ≠ [] := by
            intro no_children
            rw [no_children, List.forall₂_nil_right_iff] at each
            exact childless each
          rw [spelling_of_children found childless, fullText_of_children inner]
          exact shown_flatMap_spelling (each.imp fun _ _ => induction)
      · rw [spelling_of_childless fun items same => by simp [nothing] at same,
          shown_of_text text_eq, fullText_of_childless none.symm]

end Node

/-! ## Files -/

namespace Spelling

/-- A spelling shows as the texts of a file. -/
structure Shows (spelling : Spelling) (file : FileDump) : Prop where
  given_eq : spelling.given.map Json.shown = file.text
  tree_eq : Json.shown spelling.tree = file.root.fullText

/-- A spelling of a source: the text that is given, if one is, is that of the tree, and no half of a
pair is in it. -/
structure IsExact (spelling : Spelling) : Prop where
  agrees : ∀ given ∈ spelling.given, given = spelling.tree
  whole : ∀ code ∈ spelling.tree, Json.isHalf code = false

/-- A spelling with half a pair in the text of the tree, which is that given, if one is. -/
structure IsHalved (spelling : Spelling) : Prop where
  agrees : ∀ given ∈ spelling.given, given = spelling.tree
  halved : ∃ code ∈ spelling.tree, Json.isHalf code = true

variable {json : Json} {file : FileDump} {dump : Dump}

theorem shows_of_read (read_eq : FileDump.read json = .valid file) :
    (ofJson json).Shows file := by
  obtain ⟨members, rfl, members_eq⟩ := record_eq_valid_iff.1 read_eq
  simp only [seq_eq_valid_iff, map_eq_valid_iff] at members_eq
  obtain ⟨_, root, ⟨_, text, ⟨id, -, rfl⟩, text_eq, rfl⟩, root_eq, rfl⟩ := members_eq
  obtain ⟨tree, found, tree_eq⟩ := required_eq_valid_iff.1 root_eq
  constructor
  · show ((Json.Members.get? members "text").bind Json.codes?).map Json.shown = text
    rcases optional_eq_valid_iff.1 text_eq with ⟨value, given, value_eq⟩ | ⟨nothing, rfl⟩
    · rw [given, Option.bind_some]
      by_cases absent : value = .null
      · subst absent
        exact Validated.valid.inj value_eq
      · rw [nullable_of_ne_null absent, map_eq_valid_iff] at value_eq
        obtain ⟨written, written_eq, rfl⟩ := value_eq
        obtain ⟨codes, codes_eq, rfl⟩ := exists_codes_of_text written_eq
        rw [codes_eq, Option.map_some]
    · rw [nothing]
      rfl
  · show Json.shown (Node.spelling ((Json.Members.get? members "root").getD .null)) = root.fullText
    rw [found]
    exact Node.shown_spelling tree_eq

theorem shows_of_readDump (read_eq : Dump.read json = .valid dump) :
    List.Forall₂ Shows (ofDump json) dump.files := by
  obtain ⟨members, rfl, -, -, files_eq, -⟩ := Dump.read_eq_valid_iff.1 read_eq
  obtain ⟨listed, found, listed_eq⟩ := required_eq_valid_iff.1 files_eq
  obtain ⟨items, rfl, each⟩ := list_eq_valid_iff.1 listed_eq
  have spelled : ofDump (.obj members) = items.map ofJson := by
    rw [ofDump, Json.member?, found]
  rw [spelled, List.forall₂_map_left_iff]
  exact each.imp fun _ _ => shows_of_read

end Spelling

/-! ## Names -/

namespace Dump

/-- A name of a file in a dump of `length` characters: a text, or a string with half a pair. -/
inductive IsName (length : Nat) : Json → Prop where
  | text {name : String} (short : name.length ≤ length) : IsName length (.str name)
  | halved {codes : List Nat} (halved : codes.any Json.isHalf = true)
      (codepoints : ∀ code ∈ codes, code < 0x110000) : IsName length (.halved codes)

theorem flatMap_hexDigits_inj {left right : List Nat} (left_small : ∀ code ∈ left, code < 0x110000)
    (right_small : ∀ code ∈ right, code < 0x110000)
    (same : left.flatMap (Text.hexDigits 6) = right.flatMap (Text.hexDigits 6)) : left = right := by
  induction left generalizing right with
  | nil =>
      cases right with
      | nil => rfl
      | cons other others => simp [Text.hexDigits] at same
  | cons code rest induction =>
      cases right with
      | nil => simp [Text.hexDigits] at same
      | cons other others =>
          obtain ⟨small, rest_small⟩ := List.forall_mem_cons.1 left_small
          obtain ⟨other_small, others_small⟩ := List.forall_mem_cons.1 right_small
          rw [List.flatMap_cons, List.flatMap_cons] at same
          obtain ⟨digits_eq, rest_eq⟩ := List.append_inj same (by simp [Text.length_hexDigits])
          have read_eq := congrArg Text.hexNumber? digits_eq
          rw [Text.hexNumber?_hexDigits (by omega), Text.hexNumber?_hexDigits (by omega)] at read_eq
          rw [Option.some.inj read_eq, induction rest_small others_small rest_eq]

theorem nameWithin_halved_ne {length : Nat} {codes : List Nat} {name : String}
    (halved : codes.any Json.isHalf = true) (short : name.length ≤ length) :
    nameWithin length (.halved codes) ≠ .str name := by
  intro same
  have lengths := congrArg String.length (Json.str.inj same)
  cases codes with
  | nil => contradiction
  | cons code rest =>
      rw [String.length_ofList, List.length_append, List.length_replicate, List.flatMap_cons,
        List.length_append, Text.length_hexDigits] at lengths
      omega

/-- Names are the same texts only where they are the same names. -/
theorem nameWithin_inj {length : Nat} {left right : Json} (left_name : IsName length left)
    (right_name : IsName length right) (same : nameWithin length left = nameWithin length right) :
    left = right := by
  cases left_name with
  | text short =>
      cases right_name with
      | text _ => exact same
      | halved halved _ => exact absurd same.symm (nameWithin_halved_ne halved short)
  | halved halved small =>
      cases right_name with
      | text short => exact absurd same (nameWithin_halved_ne halved short)
      | halved _ other_small =>
          have texts_eq := String.ofList_injective (Json.str.inj same)
          exact congrArg Json.halved
            (flatMap_hexDigits_inj small other_small (List.append_cancel_left texts_eq))

end Dump
end ProseCheck
