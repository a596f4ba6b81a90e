import ProseCheck.Options.Basic
import ProseCheck.Proofs.Validation.Parts

/-!
# Options by their names

A sheet of options is a partial table from names to values.  Each name is that of a member with a
reading of its own, and a sheet is read by reading each of its members.
-/

namespace ProseCheck

/-- What an option is called. -/
inductive OptionName where
  | language
  | chunkSize
  | rules
  | dictionary
  | disabledChecks
  | ignoreFunctions
  | languages
  | host
  | port
  | concurrency
  | lineSpacing
deriving DecidableEq, Repr

namespace OptionName

/-- Name of the member that holds an option. -/
def member : OptionName → String
  | language => "language"
  | chunkSize => "chunk_size"
  | rules => "rules"
  | dictionary => "dictionary"
  | disabledChecks => "disabled_checks"
  | ignoreFunctions => "ignore_functions"
  | languages => "languages"
  | host => "host"
  | port => "port"
  | concurrency => "concurrency"
  | lineSpacing => "line_spacing"

/-- What an option holds. -/
def Value : OptionName → Type
  | language => String
  | rules => Rules
  | chunkSize | concurrency => Nat
  | dictionary | disabledChecks | ignoreFunctions => List String
  | languages => List (String × String)
  | host | port => Option String
  | lineSpacing => Float

/-- Reads the value of an option. -/
def read : (name : OptionName) → Json → Validated name.Value
  | language => Validated.string
  | rules => Rules.read
  | chunkSize | concurrency => Validated.positive
  | dictionary | disabledChecks | ignoreFunctions => Validated.list Validated.string
  | languages => Validated.table Validated.string
  | host => Validated.nullable Validated.string
  | port => OptionSheet.readPort
  | lineSpacing => Validated.unsignedNumber

theorem member_injective : Function.Injective member := by
  intro first second
  cases first <;> cases second <;> simp [member]

theorem member_mem_known (name : OptionName) : name.member ∈ OptionSheet.known := by
  cases name <;> simp [member, OptionSheet.known]

end OptionName

namespace Options

/-- Value of an option. -/
def get (options : Options) : (name : OptionName) → name.Value
  | .language => options.language
  | .chunkSize => options.chunkSize
  | .rules => options.rules
  | .dictionary => options.dictionary
  | .disabledChecks => options.disabledChecks
  | .ignoreFunctions => options.ignoreFunctions
  | .languages => options.languages
  | .host => options.host
  | .port => options.port
  | .concurrency => options.concurrency
  | .lineSpacing => options.lineSpacing

/-- Options are the same if each of them is. -/
theorem ext_get {first second : Options} (each : ∀ name, first.get name = second.get name) :
    first = second := by
  cases first
  cases second
  congr 1
  · exact each .language
  · exact each .chunkSize
  · exact each .rules
  · exact each .dictionary
  · exact each .disabledChecks
  · exact each .ignoreFunctions
  · exact each .languages
  · exact each .host
  · exact each .port
  · exact each .concurrency
  · exact each .lineSpacing

end Options

namespace OptionSheet

/-- Value of an option, if the sheet names it. -/
def get? (sheet : OptionSheet) : (name : OptionName) → Option name.Value
  | .language => sheet.language
  | .chunkSize => sheet.chunkSize
  | .rules => sheet.rules
  | .dictionary => sheet.dictionary
  | .disabledChecks => sheet.disabledChecks
  | .ignoreFunctions => sheet.ignoreFunctions
  | .languages => sheet.languages
  | .host => sheet.host
  | .port => sheet.port
  | .concurrency => sheet.concurrency
  | .lineSpacing => sheet.lineSpacing

variable {sheet upper lower : OptionSheet} {members : Json.Members} {name : OptionName}

theorem get_options : sheet.options.get name =
    (sheet.get? name).getD (Options.standard.get name) := by
  cases name <;> rfl

theorem get?_above : (upper.above lower).get? name = (upper.get? name).or (lower.get? name) := by
  cases name <;> rfl

theorem get_options_above_of_some {value : name.Value} (named : upper.get? name = some value) :
    (upper.above lower).options.get name = value := by
  rw [get_options, get?_above, named]
  rfl

theorem get_options_above_of_none (unnamed : upper.get? name = none) :
    (upper.above lower).options.get name = lower.options.get name := by
  rw [get_options, get?_above, unnamed, get_options]
  rfl

theorem readOption_of_none {Value : Type} {member : String} {reading : Json → Validated Value}
    (unnamed : members.get? member = none) : readOption members member reading = .valid none := by
  rw [readOption, Validated.optional, unnamed]

theorem readOption_of_some {Value : Type} {member : String} {reading : Json → Validated Value}
    {value : Json} (named : members.get? member = some value) :
    readOption members member reading = (some <$> reading value).below (.field member) := by
  rw [readOption, Validated.optional, named]
  rfl

/-- A sheet is read if each of its options is and there is no other member. -/
theorem read_eq_valid_iff : read (.obj members) = .valid sheet ↔
    (∀ name : OptionName, readOption members name.member name.read = .valid (sheet.get? name)) ∧
      Validated.extras known members = [] := by
  rw [read, Validated.record, Validated.also_eq_valid_iff]
  apply and_congr_left'
  simp only [Validated.seq_eq_valid_iff, Validated.map_eq_valid_iff]
  constructor
  · rintro ⟨_, _, ⟨_, _, ⟨_, _, ⟨_, _, ⟨_, _, ⟨_, _, ⟨_, _, ⟨_, _, ⟨_, _, ⟨_, _, ⟨_, language, rfl⟩,
      chunkSize, rfl⟩, rules, rfl⟩, dictionary, rfl⟩, disabledChecks, rfl⟩, ignoreFunctions, rfl⟩,
      languages, rfl⟩, host, rfl⟩, port, rfl⟩, concurrency, rfl⟩, lineSpacing, rfl⟩ name
    cases name <;> assumption
  · intro parts
    exact ⟨_, _, ⟨_, _, ⟨_, _, ⟨_, _, ⟨_, _, ⟨_, _, ⟨_, _, ⟨_, _, ⟨_, _, ⟨_, _, ⟨_,
      parts .language, rfl⟩, parts .chunkSize, rfl⟩, parts .rules, rfl⟩, parts .dictionary, rfl⟩,
      parts .disabledChecks, rfl⟩, parts .ignoreFunctions, rfl⟩, parts .languages, rfl⟩,
      parts .host, rfl⟩, parts .port, rfl⟩, parts .concurrency, rfl⟩, parts .lineSpacing, rfl⟩

theorem get?_of_unnamed (read_eq : read (.obj members) = .valid sheet)
    (unnamed : members.get? name.member = none) : sheet.get? name = none := by
  have part := (read_eq_valid_iff.1 read_eq).1 name
  rw [readOption_of_none unnamed] at part
  exact (Validated.valid.inj part).symm

theorem get?_of_named {value : Json} (read_eq : read (.obj members) = .valid sheet)
    (named : members.get? name.member = some value) :
    ∃ content, name.read value = .valid content ∧ sheet.get? name = some content := by
  have part := (read_eq_valid_iff.1 read_eq).1 name
  rw [readOption_of_some named, Validated.below_eq_valid_iff] at part
  obtain ⟨content, content_eq, named_eq⟩ := Validated.map_eq_valid_iff.1 part
  exact ⟨content, content_eq, named_eq.symm⟩

end OptionSheet
end ProseCheck

/-!
## A sheet with one option more

A member for an option that was open changes that option alone: what else is read, and every fault
that is found, stays as it was.
-/

namespace ProseCheck

open Validated

namespace OptionSheet

/-- Both hold the same, but for one option that was open and has a value now. -/
structure Widens (name : OptionName) (content : name.Value) (sheet wider : OptionSheet) : Prop where
  unnamed : sheet.get? name = none
  named : wider.get? name = some content
  others : ∀ other ≠ name, wider.get? other = sheet.get? other

variable {members more : Json.Members} {name : OptionName} {content : name.Value} {value : Json}
  {sheet wider : OptionSheet}

/-- What `Widens` says of a single option. -/
def WidensAt (name : OptionName) (content : name.Value) (other : OptionName)
    (before after : Option other.Value) : Prop :=
  (∀ same : name = other, before = none ∧ after = some (same ▸ content)) ∧
    (name ≠ other → after = before)

theorem widens_of_widensAt
    (each : ∀ other, WidensAt name content other (sheet.get? other) (wider.get? other)) :
    Widens name content sheet wider where
  unnamed := ((each name).1 rfl).1
  named := ((each name).1 rfl).2
  others other differs := (each other).2 differs.symm

theorem readOption_alike (unnamed : members.get? name.member = none)
    (named : more.get? name.member = some value)
    (others : ∀ other ≠ name, more.get? other.member = members.get? other.member)
    (read_eq : name.read value = .valid content) (other : OptionName) :
    Alike (WidensAt name content other) (readOption members other.member other.read)
      (readOption more other.member other.read) := by
  by_cases same : name = other
  · subst same
    rw [readOption_of_none unnamed, readOption_of_some named, read_eq]
    exact .valid ⟨fun _ => ⟨rfl, rfl⟩, fun differs => absurd rfl differs⟩
  · have member_eq := others other (Ne.symm same)
    rw [readOption, readOption, Validated.optional, Validated.optional, member_eq]
    exact .refl (fun _ => ⟨fun same' => absurd same' same, fun _ => rfl⟩) _

theorem read_alike (unnamed : members.get? name.member = none)
    (named : more.get? name.member = some value)
    (others : ∀ other ≠ name, more.get? other.member = members.get? other.member)
    (extras_eq : extras known more = extras known members)
    (read_eq : name.read value = .valid content) :
    Alike (Widens name content) (read (.obj members)) (read (.obj more)) := by
  have parts := readOption_alike unnamed named others read_eq
  rw [read, record, record, extras_eq]
  refine .also ?_
  refine .seq ?_ (parts .lineSpacing)
  refine .seq ?_ (parts .concurrency)
  refine .seq ?_ (parts .port)
  refine .seq ?_ (parts .host)
  refine .seq ?_ (parts .languages)
  refine .seq ?_ (parts .ignoreFunctions)
  refine .seq ?_ (parts .disabledChecks)
  refine .seq ?_ (parts .dictionary)
  refine .seq ?_ (parts .rules)
  refine .seq ?_ (parts .chunkSize)
  refine .map ?_ (parts .language)
  intros
  apply widens_of_widensAt
  intro other
  cases other <;> assumption

end OptionSheet
end ProseCheck

/-!
## Options that are written and read back

Options that are written name every option, so a sheet that is read from them leaves none open.
-/

namespace ProseCheck

open Validated

theorem FunctionRule.isFaithful : IsFaithful FunctionRule.read FunctionRule.toJson := by
  rintro ⟨before, after, afterArgument⟩
  simp [read, toJson, record, extras, isFaithful_text _]

theorem ArgumentRule.isFaithful : IsFaithful ArgumentRule.read ArgumentRule.toJson := by
  rintro ⟨before, after⟩
  simp [read, toJson, record, extras, isFaithful_text _]

theorem Rules.isFaithful : IsFaithful Rules.read Rules.toJson := by
  rintro ⟨functions, arguments⟩
  have functions_eq := FunctionRule.isFaithful.table (by simp [FunctionRule.toJson]) functions
  have arguments_eq := ArgumentRule.isFaithful.table (by simp [ArgumentRule.toJson]) arguments
  simp [read, toJson, record, functions_eq, arguments_eq]

theorem OptionSheet.isFaithful_port : IsFaithful readPort (Json.option .str) := by
  intro port
  cases port <;> rfl

namespace OptionName

/-- Writes the value of an option. -/
def write : (name : OptionName) → name.Value → Json
  | language => .str
  | rules => Rules.toJson
  | chunkSize | concurrency => .nat
  | dictionary | disabledChecks | ignoreFunctions => Json.strings
  | languages => fun codes => .obj (codes.map fun (name, code) => (name, .str code))
  | host | port => Json.option .str
  | lineSpacing => .float

theorem isNormalForm (name : OptionName) : IsNormalForm name.read name.write := by
  cases name with
  | language => exact isFaithful_string.isNormalForm
  | rules => exact Rules.isFaithful.isNormalForm
  | chunkSize | concurrency => exact isNormalForm_positive
  | dictionary | disabledChecks | ignoreFunctions => exact isFaithful_string.list.isNormalForm
  | languages => exact (isFaithful_string.table (by simp)).isNormalForm
  | host => exact (isFaithful_string.nullable (by simp)).isNormalForm
  | port => exact OptionSheet.isFaithful_port.isNormalForm
  | lineSpacing => exact isNormalForm_unsignedNumber

/-- What holds where nothing is said is in range. -/
theorem read_write_standard (name : OptionName) :
    name.read (name.write (Options.standard.get name)) = .valid (Options.standard.get name) := by
  cases name with
  | lineSpacing =>
      have unsigned : (0 : Float) ≤ 0.65 := by decide
      exact unsignedNumber_float_eq_valid unsigned
  | rules => exact Rules.isFaithful _
  | _ => rfl

end OptionName

namespace Options

variable {json : Json} {options : Options}

/-- Reads options: what a sheet leaves open has its default. -/
def read (json : Json) : Validated Options := OptionSheet.options <$> OptionSheet.read json

/-- The sheet that names every option. -/
def sheet (options : Options) : OptionSheet where
  language := some options.language
  chunkSize := some options.chunkSize
  rules := some options.rules
  dictionary := some options.dictionary
  disabledChecks := some options.disabledChecks
  ignoreFunctions := some options.ignoreFunctions
  languages := some options.languages
  host := some options.host
  port := some options.port
  concurrency := some options.concurrency
  lineSpacing := some options.lineSpacing

theorem get?_sheet (name : OptionName) : options.sheet.get? name = some (options.get name) := by
  cases name <;> rfl

theorem member?_toJson (name : OptionName) :
    options.toJson.member? name.member = some (name.write (options.get name)) := by
  cases name <;> rfl

/-- Options that can be read back one by one are read back, and each of them is named. -/
theorem read_toJson
    (sound : ∀ name : OptionName, name.read (name.write (options.get name)) =
      .valid (options.get name)) :
    OptionSheet.read options.toJson = .valid options.sheet := by
  rw [toJson, OptionSheet.read_eq_valid_iff]
  constructor
  · intro name
    rw [OptionSheet.readOption_of_some (member?_toJson name), sound name, get?_sheet]
    rfl
  · simp [extras, OptionSheet.known]

section Read

variable {name : OptionName} (read_eq : read json = .valid options)

include read_eq

theorem exists_sheet_of_read :
    ∃ members sheet, json = .obj members ∧ OptionSheet.read (.obj members) = .valid sheet ∧
      sheet.options = options := by
  obtain ⟨sheet, sheet_eq, options_eq⟩ := map_eq_valid_iff.1 read_eq
  obtain ⟨members, rfl, -⟩ := record_eq_valid_iff.1 sheet_eq
  exact ⟨members, sheet, rfl, sheet_eq, options_eq⟩

/-- An option is read from the member that names it. -/
theorem read_of_member? {value : Json} (named : json.member? name.member = some value) :
    name.read value = .valid (options.get name) := by
  obtain ⟨members, sheet, rfl, sheet_eq, rfl⟩ := exists_sheet_of_read read_eq
  obtain ⟨content, content_eq, content_get⟩ := OptionSheet.get?_of_named sheet_eq named
  rw [content_eq, OptionSheet.get_options, content_get]
  rfl

/-- An option that no member names has its default. -/
theorem get_of_member?_none (unnamed : json.member? name.member = none) :
    options.get name = standard.get name := by
  obtain ⟨members, sheet, rfl, sheet_eq, rfl⟩ := exists_sheet_of_read read_eq
  rw [OptionSheet.get_options, OptionSheet.get?_of_unnamed sheet_eq unnamed]
  rfl

end Read

theorem isNormalForm : IsNormalForm read toJson := by
  intro json options read_eq
  rw [read, read_toJson, map_eq_valid_iff]
  · exact ⟨options.sheet, rfl, rfl⟩
  · intro name
    cases named : json.member? name.member with
    | none =>
        rw [get_of_member?_none read_eq named]
        exact name.read_write_standard
    | some value => exact name.isNormalForm value _ (read_of_member? read_eq named)

/-- A port that is an integer is kept as its text. -/
theorem port_of_int {number : Int} (read_eq : read json = .valid options)
    (named : json.member? "port" = some (.int number)) :
    options.port = some (String.ofList (Numeral.write number)) := by
  have port_eq : OptionName.port.read (.int number) = .valid options.port :=
    read_of_member? read_eq named
  exact (Validated.valid.inj port_eq).symm

end Options
end ProseCheck
