import ProseCheck.Proofs.Document.Assembly
import ProseCheck.Proofs.Node.Tree
import ProseCheck.Proofs.Prose.Tokens
import ProseCheck.Proofs.Text.Utf8

/-!
# Files that are loaded

A file comes to a world or to an error, stage by stage: its octets are read as a text, and the text
as prose, or as JSON, which is read as a dump, of which a world is made.  Every world holds just
what the file says.  Errors are those of the document, except at four stages: the path may be none,
the octets may be no text, the JSON may be too large to read, and a file of a dump may spell half a
pair of units, of which no source is made.
-/

namespace ProseCheck

/-- The text of plain prose is kept. -/
theorem Prose.fullText_parse (text : Text) : (Prose.parse text).fullText = text := by
  have children_eq : (Prose.parse text).children = (Prose.runs text).map Prose.leafOf := by
    rw [Prose.parse_eq]
    rfl
  have leaf_text (run : Text) : (Prose.leafOf run).fullText = run :=
    Node.fullText_of_childless rfl
  by_cases childless : (Prose.parse text).children = []
  · have no_runs : Prose.runs text = [] := by simpa [children_eq] using childless
    have text_eq : text = [] := by rw [← Prose.flatten_runs text, no_runs]; rfl
    rw [Node.fullText_of_childless childless, text_eq]
    rfl
  · rw [Node.fullText_of_children childless, children_eq, List.flatMap_map]
    simp only [leaf_text]
    rw [List.flatMap_id', Prose.flatten_runs]

namespace World

open Reading

/-- A world holds prose: one source, which has the text and is the main one. -/
structure HoldsProse (world : World) (file : FileId) (text : Text) : Prop where
  sources_eq : world.sources = [Source.ofTree file (Prose.parse text)]
  text_eq : ∀ source ∈ world.sources, source.text = text
  main_eq : world.main = some file
  pages_eq : world.pages = none

/-- The text of a file under a path: its octets are that text, but for the ends of lines. -/
def Brings (path : String) (entry : PathEntry) (text : Text) : Prop :=
  '\x00' ∉ path.toList ∧
    ∃ written, entry = .file (Utf8.encode written) ∧ Lines.unifyReturns written = text

/-- What a file has to be to come to a world. -/
inductive Loads (path : String) (entry : PathEntry) (world : World) : Prop where
  | prose {text : Text} (brings : Brings path entry text) (suffix : Path.lowerSuffix path ≠ ".json")
      (holds : world.HoldsProse (Path.name path) text)
  | dump {text : Text} {value : Json} {dump : Dump} (brings : Brings path entry text)
      (suffix : Path.lowerSuffix path = ".json") (json : Dump.jsonOf text = .ok value)
      (valid : Dump.read value = .valid dump)
      (exact : ∀ spelling ∈ Spelling.ofDump value, spelling.IsExact) (holds : world.Holds dump)

/-- A file that cannot be loaded for another reason than its document: no path leads to it, its
octets are not those of any text, the JSON in it is too large, or the first file of its dump that
does not spell a source spells half a pair of units. -/
inductive Unforeseen (path : String) (entry : PathEntry) : Prop where
  | path (unusable : '\x00' ∈ path.toList)
  | octets {octets : List Nat} (usable : '\x00' ∉ path.toList) (stands : entry = .file octets)
      (no_text : ∀ text, octets ≠ Utf8.encode text)
  | json {text : Text} {trouble : Json.Trouble} (brings : Brings path entry text)
      (suffix : Path.lowerSuffix path = ".json") (json : Json.read text = .error trouble)
      (is_json : trouble ≠ .malformed)
  | source {text : Text} {value : Json} {dump : Dump} {before after : List Spelling}
      {spelling : Spelling} (brings : Brings path entry text)
      (suffix : Path.lowerSuffix path = ".json") (json : Dump.jsonOf text = .ok value)
      (valid : Dump.read value = .valid dump)
      (spellings : Spelling.ofDump value = before ++ spelling :: after)
      (exact : ∀ earlier ∈ before, earlier.IsExact) (halved : spelling.IsHalved)

/-! ## The stages of loading -/

variable {path : String} {entry : PathEntry} {text : Text} {world : World}

theorem load_of_unusable (unusable : '\x00' ∈ path.toList) :
    load path entry = .error .unusablePath := by
  have contained : path.toList.contains '\x00' = true := by simpa using unusable
  unfold load
  rw [if_pos contained]

theorem load_of_octets?_eq_none (usable : '\x00' ∉ path.toList) (nothing : entry.octets? = none) :
    load path entry = .error (.document (.unreadable (Path.normal path))) := by
  cases entry with
  | nothing => simp [load, usable]
  | directory => simp [load, usable]
  | file octets => contradiction

theorem load_of_no_text {octets : List Nat} (usable : '\x00' ∉ path.toList)
    (no_text : ∀ text, octets ≠ Utf8.encode text) :
    load path (.file octets) = .error .notText := by
  have undecoded : Utf8.decode? octets = none := by
    rw [Option.eq_none_iff_forall_not_mem]
    intro text decoded
    exact no_text text (Utf8.decode?_eq_some_iff.1 decoded)
  simp [load, usable, undecoded]

theorem load_of_brings (brings : Brings path entry text) :
    load path entry =
      if Path.lowerSuffix path = ".json" then ofDumpText path text
      else .ok (ofProse (Path.name path) text) := by
  obtain ⟨usable, written, rfl, rfl⟩ := brings
  have not_contained : path.toList.contains '\x00' = false := by simpa using usable
  simp only [load, not_contained, Utf8.decode?_encode]
  rfl

/-- A path is none, or no file stands there, or its octets are no text, or they are one. -/
theorem stands_cases (path : String) (entry : PathEntry) :
    '\x00' ∈ path.toList ∨
    '\x00' ∉ path.toList ∧ entry.octets? = none ∨
    ('\x00' ∉ path.toList ∧ ∃ octets, entry = .file octets ∧
      ∀ text, octets ≠ Utf8.encode text) ∨
    ∃ text, Brings path entry text := by
  by_cases usable : '\x00' ∈ path.toList
  · exact .inl usable
  · cases entry with
    | nothing => exact .inr (.inl ⟨usable, rfl⟩)
    | directory => exact .inr (.inl ⟨usable, rfl⟩)
    | file octets =>
        by_cases is_text : ∃ text, octets = Utf8.encode text
        · obtain ⟨written, rfl⟩ := is_text
          exact .inr (.inr (.inr ⟨_, usable, written, rfl, rfl⟩))
        · exact .inr (.inr (.inl ⟨usable, octets, rfl, not_exists.1 is_text⟩))

theorem jsonOf_eq_error_iff {trouble : Json.Trouble} :
    Dump.jsonOf text = .error trouble ↔ Json.read text = .error trouble := by
  cases read : Json.read text <;> simp [Dump.jsonOf, read, Except.map]

theorem ofDumpText_of_valid {value : Json} {dump : Dump} (json : Dump.jsonOf text = .ok value)
    (valid : Dump.read value = .valid dump) :
    ofDumpText path text = ofDump (Spelling.ofDump value) dump := by
  unfold ofDumpText
  rw [json]
  dsimp only
  rw [valid]

theorem ofDumpText_of_trouble {trouble : Json.Trouble} (json : Json.read text = .error trouble)
    (is_json : trouble ≠ .malformed) : ofDumpText path text = .error (.unreadable trouble) := by
  unfold ofDumpText
  rw [jsonOf_eq_error_iff.2 json]
  cases trouble <;> first | contradiction | rfl

/-- The text of a dump is read as one, or it is not, which is reported unless it is JSON that is too
large. -/
theorem dump_cases (path : String) (text : Text) :
    (∃ value dump, Dump.jsonOf text = .ok value ∧ Dump.read value = .valid dump) ∨
    (∃ trouble, Json.read text = .error trouble ∧ trouble ≠ .malformed) ∨
    ∃ error, ofDumpText path text = .error (.document error) := by
  cases json : Dump.jsonOf text with
  | error trouble =>
      by_cases malformed : trouble = .malformed
      · subst malformed
        refine .inr (.inr ⟨.brokenJson (Path.normal path), ?_⟩)
        unfold ofDumpText
        rw [json]
      · exact .inr (.inl ⟨trouble, jsonOf_eq_error_iff.1 json, malformed⟩)
  | ok value =>
      cases read : Dump.read value with
      | valid dump => exact .inl ⟨value, dump, rfl, read⟩
      | invalid faults =>
          refine .inr (.inr ⟨.invalidDump (Path.normal path) faults, ?_⟩)
          unfold ofDumpText
          rw [json]
          dsimp only
          rw [read]

theorem ofDumpText_eq_ok_iff :
    ofDumpText path text = .ok world ↔
      ∃ value dump, Dump.jsonOf text = .ok value ∧ Dump.read value = .valid dump ∧
        (∀ spelling ∈ Spelling.ofDump value, spelling.IsExact) ∧ world.Holds dump := by
  constructor
  · intro loaded
    rcases dump_cases path text with ⟨value, dump, json, valid⟩ | ⟨trouble, json, is_json⟩ |
      ⟨error, refused⟩
    · rw [ofDumpText_of_valid json valid,
        ofDump_eq_ok_iff (Spelling.shows_of_readDump valid)] at loaded
      exact ⟨value, dump, json, valid, loaded⟩
    · rw [ofDumpText_of_trouble json is_json] at loaded
      contradiction
    · rw [refused] at loaded
      contradiction
  · rintro ⟨value, dump, json, valid, holds⟩
    rw [ofDumpText_of_valid json valid]
    exact (ofDump_eq_ok_iff (Spelling.shows_of_readDump valid)).2 holds

/-- Of the text of a dump, JSON that is too large is not reported, and neither is half a pair in the
first file that does not spell a source. -/
theorem ofDumpText_escapes_iff :
    (∃ error, ofDumpText path text = .error error ∧ error.isReported = false) ↔
      (∃ trouble, Json.read text = .error trouble ∧ trouble ≠ .malformed) ∨
      ∃ value dump before spelling after, Dump.jsonOf text = .ok value ∧
        Dump.read value = .valid dump ∧ Spelling.ofDump value = before ++ spelling :: after ∧
          (∀ earlier ∈ before, earlier.IsExact) ∧ spelling.IsHalved := by
  constructor
  · intro escapes
    rcases dump_cases path text with ⟨value, dump, json, valid⟩ | troubled | ⟨error, refused⟩
    · rw [ofDumpText_of_valid json valid,
        ofDump_escapes_iff (Spelling.shows_of_readDump valid)] at escapes
      obtain ⟨before, spelling, after, halved⟩ := escapes
      exact .inr ⟨value, dump, before, spelling, after, json, valid, halved⟩
    · exact .inl troubled
    · obtain ⟨other, other_eq, unreported⟩ := escapes
      rw [refused] at other_eq
      obtain rfl := Except.error.inj other_eq
      contradiction
  · rintro (⟨trouble, json, is_json⟩ | ⟨value, dump, before, spelling, after, json, valid, halved⟩)
    · exact ⟨_, ofDumpText_of_trouble json is_json, rfl⟩
    · rw [ofDumpText_of_valid json valid]
      exact (ofDump_escapes_iff (Spelling.shows_of_readDump valid)).2
        ⟨before, spelling, after, halved⟩

theorem ofProse_eq_iff {file : FileId} :
    ofProse file text = world ↔ world.HoldsProse file text := by
  constructor
  · rintro rfl
    refine ⟨rfl, ?_, rfl, rfl⟩
    intro source mem
    obtain rfl := List.mem_singleton.1 mem
    exact Prose.fullText_parse text
  · rintro ⟨sources_eq, -, main_eq, pages_eq⟩
    exact eq_of_parts sources_eq.symm main_eq.symm pages_eq.symm

theorem load_eq_ok_iff : load path entry = .ok world ↔ Loads path entry world := by
  constructor
  · intro loaded
    rcases stands_cases path entry with
      unusable | ⟨usable, nothing⟩ | ⟨usable, octets, rfl, no_text⟩ | ⟨text, brings⟩
    · rw [load_of_unusable unusable] at loaded
      contradiction
    · rw [load_of_octets?_eq_none usable nothing] at loaded
      contradiction
    · rw [load_of_no_text usable no_text] at loaded
      contradiction
    · rw [load_of_brings brings] at loaded
      split at loaded
      · rename_i suffix
        obtain ⟨value, dump, json, valid, exact, holds⟩ := ofDumpText_eq_ok_iff.1 loaded
        exact .dump brings suffix json valid exact holds
      · rename_i suffix
        exact .prose brings suffix (ofProse_eq_iff.1 (Except.ok.inj loaded))
  · intro loads
    cases loads with
    | prose brings suffix holds =>
        rw [load_of_brings brings, if_neg suffix, ofProse_eq_iff.2 holds]
    | dump brings suffix json valid exact holds =>
        rw [load_of_brings brings, if_pos suffix]
        exact ofDumpText_eq_ok_iff.2 ⟨_, _, json, valid, exact, holds⟩

theorem load_escapes_iff :
    (∃ error, load path entry = .error error ∧ error.isReported = false) ↔
      Unforeseen path entry := by
  constructor
  · rintro ⟨error, refused, unreported⟩
    rcases stands_cases path entry with
      unusable | ⟨usable, nothing⟩ | ⟨usable, octets, stands, no_text⟩ | ⟨text, brings⟩
    · exact .path unusable
    · rw [load_of_octets?_eq_none usable nothing] at refused
      obtain rfl := Except.error.inj refused
      contradiction
    · exact .octets usable stands no_text
    · rw [load_of_brings brings] at refused
      split at refused
      · rename_i suffix
        rcases ofDumpText_escapes_iff.1 ⟨error, refused, unreported⟩ with
          ⟨trouble, json, is_json⟩ | ⟨_, _, _, _, _, json, valid, spelled, exact, halved⟩
        · exact .json brings suffix json is_json
        · exact .source brings suffix json valid spelled exact halved
      · contradiction
  · intro unforeseen
    cases unforeseen with
    | path unusable => exact ⟨_, load_of_unusable unusable, rfl⟩
    | octets usable stands no_text =>
        subst stands
        exact ⟨_, load_of_no_text usable no_text, rfl⟩
    | json brings suffix json is_json =>
        rw [load_of_brings brings, if_pos suffix]
        exact ofDumpText_escapes_iff.2 (.inl ⟨_, json, is_json⟩)
    | source brings suffix json valid spelled exact halved =>
        rw [load_of_brings brings, if_pos suffix]
        exact ofDumpText_escapes_iff.2 (.inr ⟨_, _, _, _, _, json, valid, spelled, exact, halved⟩)

/-! ## Worlds that are loaded -/

/-- The main file of a loaded world is one of its files, if there is any. -/
theorem Loads.exists_main (loads : Loads path entry world) (nonempty : world.files ≠ []) :
    ∃ file ∈ world.files, world.main = some file := by
  have named : world.main ≠ none := by
    cases loads with
    | prose _ _ holds => rw [holds.main_eq]; exact Option.some_ne_none _
    | dump _ _ _ _ _ holds =>
        rename_i dump
        intro nameless
        rw [holds.main_eq, Option.or_eq_none_iff, Option.map_eq_none_iff,
          List.head?_eq_none_iff] at nameless
        have sources := holds.sources
        rw [nameless.2, List.forall₂_nil_left_iff] at sources
        exact nonempty (by rw [files, sources, List.map_nil])
  obtain ⟨file, main_eq⟩ := Option.ne_none_iff_exists'.1 named
  exact ⟨file, world.main_mem file main_eq, main_eq⟩

/-- A file comes to a world exactly if that world holds what the file says: its files have distinct
names, and the main one is among them.  All other files come to an error, and it is one of the
document unless the path is none, the octets are no text, the JSON is too large, or the dump spells
half a pair of units where a source is to be made. -/
theorem load_or_refuse (path : String) (entry : PathEntry) :
    (∀ world, load path entry = .ok world ↔ Loads path entry world) ∧
    (∀ world, load path entry = .ok world →
      world.files.Nodup ∧
        (world.files ≠ [] → ∃ file ∈ world.files, world.main = some file)) ∧
    ((∃ error, load path entry = .error error ∧ error.isReported = false) ↔
      Unforeseen path entry) :=
  ⟨fun _ => load_eq_ok_iff,
    fun world loaded => ⟨world.distinct, (load_eq_ok_iff.1 loaded).exists_main⟩, load_escapes_iff⟩

/-- Octets that are no text are not reported as an error of the document. -/
theorem load_escapes_brokenOctets :
    ∃ error, load "notes.txt" (.file [0xFF]) = .error error ∧ error.isReported = false :=
  ⟨.notText, rfl, rfl⟩

end World
end ProseCheck
