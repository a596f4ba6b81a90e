import ProseCheck.Document
import ProseCheck.Proofs.Layout.Written
import ProseCheck.Proofs.Options.Names

/-!
# Dumps that are written and read back

The files of a dump are read back with their trees, and its pages with their frames.  Members that a
dump does not have are kept: each has the value in what is written that it had in what was read.
-/

namespace ProseCheck

open Validated

theorem FileDump.isNormalForm : IsNormalForm FileDump.read FileDump.toJson := by
  intro json file read_eq
  obtain ⟨members, rfl, members_eq⟩ := record_eq_valid_iff.1 read_eq
  simp only [seq_eq_valid_iff, map_eq_valid_iff] at members_eq
  obtain ⟨_, root, ⟨_, text, ⟨id, -, rfl⟩, -, rfl⟩, root_eq, rfl⟩ := members_eq
  have text_eq := isFaithful_text.nullable (by simp [Json.text]) text
  have root_eq : Node.readPart root.toJson = .valid root :=
    Node.isNormalForm.of_required root_eq
  simp [read, toJson, record, text_eq, root_eq]

theorem Json.Members.get?_filter {members : Json.Members} {name : String} (keeps : String → Bool)
    (kept : keeps name = true) :
    Json.Members.get? (members.filter fun member => keeps member.1) name = members.get? name := by
  induction members with
  | nil => rfl
  | cons member rest induction =>
      obtain ⟨key, value⟩ := member
      simp only [Json.Members.get?] at induction ⊢
      by_cases same : name = key
      · subst same
        simp [kept]
      · have differs : (name == key) = false := beq_eq_false_iff_ne.2 same
        rw [List.lookup_cons, differs, ← induction, List.filter_cons]
        split
        · rw [List.lookup_cons, differs]
        · rfl

namespace Dump

variable {json : Json} {dump : Dump} {name : String}

theorem read_eq_valid_iff : read json = .valid dump ↔
    ∃ members, json = .obj members ∧ members.any hasHalvedName = false ∧
      optional members "main" none (nullable string) = .valid dump.main ∧
      required members "files" (list FileDump.read) = .valid dump.files ∧
      optional members "pages" none (nullable (list Page.read)) = .valid dump.pages ∧
      members.filter (fun member => !known.contains member.1) = dump.extra := by
  obtain ⟨main, files, pages, extra⟩ := dump
  rw [read, record_eq_valid_iff]
  refine exists_congr fun members => and_congr_right fun _ => ?_
  cases halved : members.any hasHalvedName with
  | true => simp [refuse]
  | false => simp

theorem isNormalForm : IsNormalForm read toJson := by
  intro json dump read_eq
  obtain ⟨members, rfl, named, -, files_eq, pages_eq, extra_eq⟩ := read_eq_valid_iff.1 read_eq
  have extra_named : dump.extra.any hasHalvedName = false := by
    rw [List.any_eq_false] at named ⊢
    intro member mem
    rw [← extra_eq] at mem
    exact named member (List.mem_of_mem_filter mem)
  have main_eq := isFaithful_string.nullable (by simp) dump.main
  have files_eq := FileDump.isNormalForm.list.of_required files_eq
  have pages_eq := (Page.isNormalForm.list.nullable (by simp)).of_optional rfl pages_eq
  have extra_eq : dump.extra.filter (fun member => !known.contains member.1) = dump.extra := by
    rw [← extra_eq, List.filter_filter]
    simp only [Bool.and_self]
  refine read_eq_valid_iff.2 ⟨_, rfl, ?_, ?_, ?_, ?_, ?_⟩
  · rw [List.any_append, extra_named, Bool.or_false]
    cases dump.main <;> cases dump.pages <;> rfl
  · simp [main_eq]
  · simp [files_eq]
  · simp [pages_eq]
  · rw [List.filter_append, extra_eq]
    simp [known]

/-- Members that a dump does not have are kept. -/
theorem member?_toJson (read_eq : read json = .valid dump) (unknown : name ∉ known) :
    dump.toJson.member? name = json.member? name := by
  obtain ⟨members, rfl, -, -, -, -, extra_eq⟩ := read_eq_valid_iff.1 read_eq
  have kept : (!known.contains name) = true := by simpa using unknown
  have extra_get : dump.extra.get? name = Json.Members.get? members name := by
    rw [← extra_eq]
    exact Json.Members.get?_filter (fun key => !known.contains key) kept
  simp only [known, List.mem_cons, List.not_mem_nil, or_false, not_or] at unknown
  obtain ⟨not_main, not_files, not_pages⟩ := unknown
  rw [toJson, Json.member?, Json.member?, ← extra_get]
  simp [Json.Members.get?, List.lookup_cons, beq_eq_false_iff_ne.2 not_main,
    beq_eq_false_iff_ne.2 not_files, beq_eq_false_iff_ne.2 not_pages]

end Dump

/-! ## Interchange -/

/-- A tree, a page, a dump and options that were read are the same after they were written and read
again.  In particular every tree and every frame is read back that is no deeper than what is read at
all.  What is written of a tree has its kinds at the same places, with names of no kind as `other`;
a glyph has its octets as a pair; a port that was an integer is a text; and the members that a dump
does not have are what they were.  Numbers are written as they are, finite or not. -/
theorem interchange_isNormalForm :
    IsNormalForm Node.read Node.toJson ∧ IsNormalForm Page.read Page.toJson ∧
      IsNormalForm Dump.read Dump.toJson ∧ IsNormalForm Options.read Options.toJson ∧
      (∀ levels (tree : Node),
        Node.readWithin levels tree.toJson = .valid tree ↔ tree.depth ≤ levels) ∧
      (∀ levels (frame : Frame),
        Frame.readWithin ⟨false, levels⟩ frame.toJson = .valid frame ↔
          frame.nesting false ≤ levels) ∧
      (∀ levels json tree, Node.readWithin levels json = .valid tree → ∀ path,
        Option.Rel Kind.Normalises (json.kind? path) (tree.toJson.kind? path)) ∧
      (∀ glyph : Glyph, Glyph.read glyph.toJson = .valid glyph ∧
        glyph.toJson.member? "range" = some (.arr [.int glyph.range.1, .int glyph.range.2])) ∧
      (∀ json options, Options.read json = .valid options →
        ∀ number, json.member? "port" = some (.int number) →
          options.toJson.member? "port" = some (.text (Numeral.write number))) ∧
      ∀ json dump, Dump.read json = .valid dump →
        ∀ name ∉ Dump.known, dump.toJson.member? name = json.member? name := by
  refine ⟨Node.isNormalForm, Page.isNormalForm, Dump.isNormalForm, Options.isNormalForm,
    fun _ _ => Node.readWithin_toJson_iff, fun _ _ => Frame.readWithin_toJson_iff,
    fun _ _ _ => Node.kind?_of_readWithin, fun glyph => ⟨Glyph.isFaithful glyph, rfl⟩, ?_,
    fun _ _ read_eq _ => Dump.member?_toJson read_eq⟩
  intro json options read_eq number named
  rw [show options.toJson.member? "port" = some (Json.option .str options.port) from rfl,
    Options.port_of_int read_eq named]
  rfl

/-- A tree that leaves out what it can, with a truth value for a kind. -/
def laxTree : Json :=
  .obj [("kind", .bool true), ("children", .arr [.obj [("kind", .str "Text"), ("text", .str "x")]])]

/-- A dump of that tree and of a page whose number is a truth value, with a member that dumps do not
have. -/
def laxDump : Json :=
  .obj [("files", .arr [.obj [("id", .str "a"), ("root", laxTree)]]),
    ("pages", .arr [.obj [("number", .bool true)]]), ("note", .nat 1)]

theorem laxDump_isNormalForm :
    ∃ dump, Dump.read laxDump = .valid dump ∧
      dump.files.map FileDump.root = [⟨.other, [], [.leaf .text ['x']], .detached⟩] ∧
      Dump.read dump.toJson = .valid dump ∧ dump.toJson.member? "note" = some (.nat 1) := by
  have leaf_eq : Node.readWithin 253 (.obj [("kind", .str "Text"), ("text", .str "x")]) =
      .valid (.leaf .text ['x']) :=
    Node.readWithin_succ_eq_valid_iff.2 ⟨_, rfl, rfl, rfl, rfl, rfl⟩
  have tree_eq : Node.readPart laxTree =
      .valid ⟨.other, [], [.leaf .text ['x']], .detached⟩ := by
    refine Node.readWithin_succ_eq_valid_iff.2 ⟨_, rfl, rfl, rfl, ?_, rfl⟩
    simp [list, each, leaf_eq]
  have read_eq : Dump.read laxDump =
      .valid ⟨none, [⟨"a", none, ⟨.other, [], [.leaf .text ['x']], .detached⟩⟩],
        some [⟨1, ⟨0, 0, []⟩⟩], [("note", .nat 1)]⟩ := by
    refine Dump.read_eq_valid_iff.2 ⟨_, rfl, rfl, rfl, ?_, rfl, rfl⟩
    simp [list, each, FileDump.read, record, tree_eq]
  obtain ⟨-, -, dumps, -, -, -, -, -, -, kept⟩ := interchange_isNormalForm
  exact ⟨_, read_eq, rfl, dumps _ _ read_eq, kept _ _ read_eq "note" (by decide)⟩

end ProseCheck
