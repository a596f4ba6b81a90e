import ProseCheck.Json.Basic
import ProseCheck.Options.Sources
import ProseCheck.Proofs.Options.Names
import ProseCheck.Proofs.Reading

/-!
# What sources of options give

Each source gives members of its own.  The last setting of a name goes before the file, and the
file before the text; what stands for an option is then read as its value.  A setting that is added
to others, wherever it stands, gives one more member there: if no source named its option, that
option alone gets a value, and every error stays as it was.
-/

namespace ProseCheck
namespace Json

/-! ## Members that are set -/

namespace Members

/-- Value of the last member of a name. -/
def last? (members : Members) (name : String) : Option Json := members.reverse.lookup name

variable {members updates : Members} {name : String}

theorem last?_append : last? (members ++ updates) name =
    (updates.last? name).or (members.last? name) := by
  rw [last?, List.reverse_append, List.lookup_append]
  rfl

theorem last?_cons_self {value : Json} :
    last? ((name, value) :: members) name = (members.last? name).or (some value) := by
  rw [← List.singleton_append, last?_append]
  simp [last?]

theorem last?_cons_of_ne {other : String} {value : Json} (differs : name ≠ other) :
    last? ((other, value) :: members) name = members.last? name := by
  have otherwise : (name == other) = false := by simpa using differs
  rw [← List.singleton_append, last?_append]
  simp [last?, List.lookup_cons, otherwise]

/-- What is set last stands. -/
theorem get?_putAll :
    (members.putAll updates).get? name = (updates.last? name).or (members.get? name) := by
  induction updates generalizing members with
  | nil => rfl
  | cons update rest induction =>
      obtain ⟨other, value⟩ := update
      rw [putAll, List.foldl_cons, ← putAll, induction]
      by_cases same : name = other
      · subst same
        rw [get?, Association.lookup_put, if_pos rfl, last?_cons_self, Option.or_assoc]
        rfl
      · rw [get?, Association.lookup_put, if_neg same, last?_cons_of_ne same]
        rfl

/-- One more member among others, of a name that none of them has, stands for that name alone. -/
theorem last?_insert {value : Json} {after : Members}
    (absent : last? (members ++ after) name = none) :
    last? (members ++ (name, value) :: after) name = some value := by
  rw [last?_append, Option.or_eq_none_iff] at absent
  rw [last?_append, last?_cons_self, absent.1]
  rfl

theorem last?_insert_of_ne {other : String} {value : Json} {after : Members}
    (differs : name ≠ other) :
    last? (members ++ (other, value) :: after) name = last? (members ++ after) name := by
  rw [last?_append, last?_append, last?_cons_of_ne differs]

variable (chosen : String → Bool)

theorem filter_put {value : Json} :
    (Association.put name value members).filter (fun member => chosen member.1) =
      if chosen name then Association.put name value (members.filter fun member => chosen member.1)
      else members.filter fun member => chosen member.1 := by
  induction members with
  | nil => by_cases pick : chosen name <;> simp [Association.put, pick]
  | cons member rest induction =>
      obtain ⟨other, content⟩ := member
      by_cases same : other = name
      · subst same
        by_cases pick : chosen other <;> simp [Association.put, pick]
      · by_cases pick : chosen other <;> by_cases named : chosen name <;>
          simp [Association.put, same, pick, named, induction]

theorem filter_putAll (members updates : Members) :
    (members.putAll updates).filter (fun member => chosen member.1) =
      putAll (members.filter fun member => chosen member.1)
        (updates.filter fun member => chosen member.1) := by
  induction updates generalizing members with
  | nil => rfl
  | cons update rest induction =>
      rw [putAll, List.foldl_cons, ← putAll, induction, filter_put chosen, List.filter_cons]
      split
      · rfl
      · rfl

end Members
end Json
end ProseCheck

/-! ## What sources give -/

namespace ProseCheck

open Reading

namespace OptionSources

/-- Members of the text; there are none without it or if it is empty. -/
def inlineMembers (sources : OptionSources) : Except OptionsError Json.Members :=
  match sources.inline with
  | some text => if text.isEmpty then .ok [] else ofText text
  | none => .ok []

/-- Members of the file; there are none without it. -/
def fileMembers (files : String → PathEntry) (sources : OptionSources) :
    Except OptionsError Json.Members :=
  match sources.file with
  | some path => ofFile path (files path)
  | none => .ok []

/-- Members that the sources give, one source apart from the other. -/
structure Given where
  /-- Members of the text. -/
  inline : Json.Members
  /-- Members of the file. -/
  file : Json.Members
  /-- Members of the settings, in order. -/
  settings : Json.Members

namespace Given

/-- What stands for a name: the last setting of it, or what the file says, or the text. -/
def value? (given : Given) (name : String) : Option Json :=
  (given.settings.last? name).or ((given.file.last? name).or (given.inline.get? name))

/-- Members of all sources together. -/
def merged (given : Given) : Json.Members := (given.inline.putAll given.file).putAll given.settings

theorem get?_merged {given : Given} {name : String} :
    given.merged.get? name = given.value? name := by
  rw [merged, Json.Members.get?_putAll, Json.Members.get?_putAll, value?]

end Given

/-- The sources can be read, and this is what they give. -/
structure Gives (files : String → PathEntry) (sources : OptionSources) (given : Given) : Prop where
  inline : sources.inlineMembers = .ok given.inline
  file : sources.fileMembers files = .ok given.file
  settings : sources.settings.mapM ofSetting = .ok given.settings

variable {files : String → PathEntry} {sources : OptionSources} {members : Json.Members}
  {sheet : OptionSheet}

theorem Gives.unique {given other : Given} (gives : sources.Gives files given)
    (gives_other : sources.Gives files other) : given = other := by
  obtain ⟨inline, file, settings⟩ := given
  obtain rfl := Except.ok.inj (gives.inline.symm.trans gives_other.inline)
  obtain rfl := Except.ok.inj (gives.file.symm.trans gives_other.file)
  obtain rfl := Except.ok.inj (gives.settings.symm.trans gives_other.settings)
  rfl

theorem members_eq : sources.members files = (do
    let inline ← sources.inlineMembers
    let file ← sources.fileMembers files
    let settings ← sources.settings.mapM ofSetting
    pure (Given.merged ⟨inline, file, settings⟩)) := by
  obtain ⟨inline, file, settings⟩ := sources
  cases inline with
  | none => cases file <;> rfl
  | some text => cases text <;> cases file <;> rfl

theorem members_eq_ok_iff : sources.members files = .ok members ↔
    ∃ given, sources.Gives files given ∧ given.merged = members := by
  rw [members_eq, bind_eq_ok_iff]
  constructor
  · rintro ⟨inline, inline_eq, later⟩
    obtain ⟨file, file_eq, later⟩ := bind_eq_ok_iff.1 later
    obtain ⟨settings, settings_eq, merged_eq⟩ := bind_eq_ok_iff.1 later
    exact ⟨⟨inline, file, settings⟩, ⟨inline_eq, file_eq, settings_eq⟩, Except.ok.inj merged_eq⟩
  · rintro ⟨⟨inline, file, settings⟩, gives, rfl⟩
    exact ⟨inline, gives.inline, bind_eq_ok_iff.2 ⟨file, gives.file,
      bind_eq_ok_iff.2 ⟨settings, gives.settings, rfl⟩⟩⟩

theorem sheetOf_eq_ok_iff :
    sheetOf members = .ok sheet ↔ OptionSheet.read (.obj members) = .valid sheet := by
  unfold sheetOf
  generalize OptionSheet.read (.obj members) = validated
  cases validated <;> simp

theorem sheet_eq_ok_iff : sources.sheet files = .ok sheet ↔
    ∃ given, sources.Gives files given ∧
      OptionSheet.read (.obj given.merged) = .valid sheet := by
  rw [OptionSources.sheet, bind_eq_ok_iff]
  simp only [members_eq_ok_iff, sheetOf_eq_ok_iff]
  constructor
  · rintro ⟨_, ⟨given, gives, rfl⟩, read_eq⟩
    exact ⟨given, gives, read_eq⟩
  · rintro ⟨given, gives, read_eq⟩
    exact ⟨_, ⟨given, gives, rfl⟩, read_eq⟩

end OptionSources
end ProseCheck

/-! ## One more setting -/

namespace ProseCheck

open Reading Validated

namespace OptionSources

/-- The sources with one more setting at a place among the others. -/
def insert (place : Nat) (setting : Text) (sources : OptionSources) : OptionSources :=
  { sources with
    settings := sources.settings.take place ++ setting :: sources.settings.drop place }

/-- No source names the option. -/
def IsOpen (files : String → PathEntry) (sources : OptionSources) (name : OptionName) : Prop :=
  ∀ given, sources.Gives files given → given.value? name.member = none

variable {files : String → PathEntry} {sources : OptionSources} {place : Nat} {setting : Text}
  {name : OptionName} {value : Json} {content : name.Value} {error : OptionsError}
  {given : Given} {sheet : OptionSheet} {member : String × Json}

theorem exists_gives_insert (place : Nat) (member_eq : ofSetting setting = .ok member)
    (gives : sources.Gives files given) :
    ∃ front back, given.settings = front ++ back ∧ (sources.insert place setting).Gives files
      { given with settings := front ++ member :: back } := by
  have settings_eq := gives.settings
  rw [← List.take_append_drop place sources.settings, mapM_append_eq_ok_iff] at settings_eq
  obtain ⟨front, back, front_eq, back_eq, append_eq⟩ := settings_eq
  refine ⟨front, back, append_eq.symm, gives.inline, gives.file, ?_⟩
  exact mapM_append_eq_ok_iff.2 ⟨front, member :: back, front_eq,
    mapM_cons_eq_ok_iff.2 ⟨member, back, member_eq, back_eq, rfl⟩, rfl⟩

theorem exists_gives_of_insert (gives : (sources.insert place setting).Gives files given) :
    ∃ front back member, ofSetting setting = .ok member ∧
      given.settings = front ++ member :: back ∧
      sources.Gives files { given with settings := front ++ back } := by
  obtain ⟨front, others, front_eq, others_eq, append_eq⟩ := mapM_append_eq_ok_iff.1 gives.settings
  obtain ⟨member, back, member_eq, back_eq, rfl⟩ := mapM_cons_eq_ok_iff.1 others_eq
  refine ⟨front, back, member, member_eq, append_eq.symm, gives.inline, gives.file, ?_⟩
  rw [← List.take_append_drop place sources.settings]
  exact mapM_append_eq_ok_iff.2 ⟨front, back, front_eq, back_eq, rfl⟩

theorem members_insert_of_error (member_eq : ofSetting setting = .ok member)
    (error_eq : sources.members files = .error error) :
    (sources.insert place setting).members files = .error error := by
  rw [members_eq, bind_eq_error_iff] at error_eq ⊢
  refine error_eq.imp_right fun ⟨inline, inline_eq, later⟩ => ⟨inline, inline_eq, ?_⟩
  rw [bind_eq_error_iff] at later ⊢
  refine later.imp_right fun ⟨file, file_eq, later⟩ => ⟨file, file_eq, ?_⟩
  rw [bind_eq_error_iff] at later ⊢
  rcases later with settings_eq | ⟨settings, -, impossible⟩
  · rw [← List.take_append_drop place sources.settings] at settings_eq
    exact .inl (mapM_insert_eq_error member_eq settings_eq)
  · contradiction

/-- What the members come to with one more setting, of an option that none of them names. -/
theorem merged_insert {inline file front back : Json.Members} (value : Json)
    (unnamed : Given.value? ⟨inline, file, front ++ back⟩ name.member = none) :
    let narrow : Given := ⟨inline, file, front ++ back⟩
    let wide : Given := ⟨inline, file, front ++ (name.member, value) :: back⟩
    wide.merged.get? name.member = some value ∧
      (∀ other ≠ name, wide.merged.get? other.member = narrow.merged.get? other.member) ∧
      extras OptionSheet.known wide.merged = extras OptionSheet.known narrow.merged := by
  refine ⟨?_, fun other differs => ?_, ?_⟩
  · rw [Given.value?, Option.or_eq_none_iff] at unnamed
    rw [Given.get?_merged, Given.value?, Json.Members.last?_insert unnamed.1, Option.some_or]
  · rw [Given.get?_merged, Given.get?_merged, Given.value?, Given.value?,
      Json.Members.last?_insert_of_ne (OptionName.member_injective.ne differs)]
  · have known : name.member ∈ OptionSheet.known := name.member_mem_known
    have dropped : (front ++ (name.member, value) :: back).filter
          (fun member => !OptionSheet.known.contains member.1) =
        (front ++ back).filter fun member => !OptionSheet.known.contains member.1 := by
      simp [known]
    have foreign (settings : Json.Members) := Json.Members.filter_putAll
      (fun name => !OptionSheet.known.contains name) (inline.putAll file) settings
    apply congrArg (List.map _)
    exact (foreign _).trans ((congrArg _ dropped).trans (foreign _).symm)

theorem sheetOf_alike {members more : Json.Members} {relation : OptionSheet → OptionSheet → Prop}
    (alike : Alike relation (OptionSheet.read (.obj members)) (OptionSheet.read (.obj more))) :
    (∃ error, sheetOf members = .error error ∧ sheetOf more = .error error) ∨
    ∃ sheet wider, sheetOf members = .ok sheet ∧ sheetOf more = .ok wider ∧
      relation sheet wider := by
  unfold sheetOf
  generalize OptionSheet.read (.obj members) = sheet at alike
  generalize OptionSheet.read (.obj more) = wider at alike
  cases alike with
  | valid related => exact .inr ⟨_, _, rfl, rfl, related⟩
  | invalid faults => exact .inl ⟨_, rfl, rfl⟩

/-- One more setting of an open option gives that option a value, and hides no error. -/
theorem sheet_insert (place : Nat) (member_eq : ofSetting setting = .ok (name.member, value))
    (isOpen : sources.IsOpen files name) (read_eq : name.read value = .valid content) :
    (∃ error, sources.sheet files = .error error ∧
      (sources.insert place setting).sheet files = .error error) ∨
    ∃ upper wider, sources.sheet files = .ok upper ∧
      (sources.insert place setting).sheet files = .ok wider ∧
      OptionSheet.Widens name content upper wider := by
  rw [OptionSources.sheet, OptionSources.sheet]
  cases members_eq : sources.members files with
  | error error =>
      rw [members_insert_of_error member_eq members_eq]
      exact .inl ⟨error, rfl, rfl⟩
  | ok members =>
      obtain ⟨given, gives, rfl⟩ := members_eq_ok_iff.1 members_eq
      obtain ⟨front, back, settings_eq, gives_wide⟩ :=
        exists_gives_insert place member_eq gives
      obtain ⟨inline, file, settings⟩ := given
      obtain rfl : settings = front ++ back := settings_eq
      rw [members_eq_ok_iff.2 ⟨_, gives_wide, rfl⟩]
      have unnamed := isOpen _ gives
      obtain ⟨named, others, extras_eq⟩ := merged_insert value unnamed
      exact sheetOf_alike (OptionSheet.read_alike (Given.get?_merged.trans unnamed) named others
        extras_eq read_eq)

theorem exists_ofSetting_of_insert
    (sheet_eq : (sources.insert place setting).sheet files = .ok sheet) :
    ∃ member, ofSetting setting = .ok member := by
  obtain ⟨given, gives, -⟩ := sheet_eq_ok_iff.1 sheet_eq
  obtain ⟨front, back, member, member_eq, -⟩ := exists_gives_of_insert gives
  exact ⟨member, member_eq⟩

theorem exists_valid_of_insert (member_eq : ofSetting setting = .ok (name.member, value))
    (isOpen : sources.IsOpen files name)
    (sheet_eq : (sources.insert place setting).sheet files = .ok sheet) :
    ∃ content, name.read value = .valid content := by
  obtain ⟨given, gives, read_eq⟩ := sheet_eq_ok_iff.1 sheet_eq
  obtain ⟨front, back, member, found_eq, settings_eq, gives_narrow⟩ := exists_gives_of_insert gives
  obtain rfl := Except.ok.inj (member_eq.symm.trans found_eq)
  obtain ⟨inline, file, settings⟩ := given
  obtain rfl : settings = _ := settings_eq
  have named := (merged_insert value (isOpen _ gives_narrow)).1
  obtain ⟨content, content_eq, -⟩ := OptionSheet.get?_of_named read_eq named
  exact ⟨content, content_eq⟩

end OptionSources
end ProseCheck
