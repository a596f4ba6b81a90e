import ProseCheck.CommandLine.Flags
import ProseCheck.Proofs.Json.Written
import ProseCheck.Proofs.Options.Names
import ProseCheck.Proofs.Options.Sources
import ProseCheck.Proofs.Reading
import ProseCheck.Text.Blank

/-!
# Flags over settings

A flag that is neither empty nor out of range stands for its option; without it a setting does, and
settings that were loaded are in range.
-/

namespace ProseCheck

open Reading

namespace Validated

theorem positive_int_eq_valid_iff {number : Int} {size : Nat} :
    positive (.int number) = .valid size ↔ 1 ≤ number ∧ number.toNat = size := by
  simp [positive_eq_valid_iff, integer]

theorem one_le_of_positive {json : Json} {size : Nat} (read_eq : positive json = .valid size) :
    1 ≤ size := by
  obtain ⟨number, -, large, rfl⟩ := positive_eq_valid_iff.1 read_eq
  omega

end Validated

namespace Settings

variable {environment process : Environment} {files : String → PathEntry} {settings : Settings}

/-- What a setting is for an option that no source names; some options have no setting. -/
def fallback (settings : Settings) : (name : OptionName) → name.Value
  | .language => settings.language
  | .chunkSize => settings.chunkSize
  | .concurrency => settings.concurrency
  | .lineSpacing => settings.lineSpacing
  | name => Options.standard.get name

theorem readVariable_positive {name : String} {default size : Nat} (sound : 1 ≤ default)
    (read : readVariable environment name default Validated.positive = .valid size) :
    1 ≤ size := by
  rw [readVariable] at read
  split at read
  · exact Validated.one_le_of_positive (Validated.below_eq_valid_iff.1 read)
  · simpa [← Validated.valid.inj read] using sound

theorem sizes_of_read (read_eq : read environment = .valid settings) :
    1 ≤ settings.chunkSize ∧ 1 ≤ settings.concurrency := by
  simp only [read, Validated.seq_eq_valid_iff, Validated.map_eq_valid_iff] at read_eq
  obtain ⟨_, _, ⟨_, _, ⟨_, _, ⟨_, _, ⟨_, _, ⟨_, _, ⟨_, _, ⟨_, _, ⟨_, -, rfl⟩, -, rfl⟩, -, rfl⟩, -,
    rfl⟩, chunkSize, rfl⟩, concurrency, rfl⟩, -, rfl⟩, -, rfl⟩, -, rfl⟩ := read_eq
  exact ⟨readVariable_positive (by decide) chunkSize, readVariable_positive (by decide) concurrency⟩

theorem read_of_settled {settled : Except SettingsError Settings}
    (settled_eq : settled = match read environment with
      | .valid settings => .ok settings
      | .invalid faults => .error (.invalid faults))
    (found : settled = .ok settings) : read environment = .valid settings := by
  rw [found] at settled_eq
  split at settled_eq
  · rename_i read_eq
    rw [read_eq, Except.ok.inj settled_eq]
  · contradiction

/-- Settings that were loaded were read, with the bindings of a file or without them. -/
theorem exists_read_of_load (load_eq : load process files = .ok settings) :
    ∃ environment, read environment = .valid settings := by
  rw [load] at load_eq
  cases entry_eq : files bindingsPath with
  | nothing | directory =>
      rw [entry_eq] at load_eq
      exact ⟨process, read_of_settled rfl load_eq⟩
  | file octets =>
      rw [entry_eq] at load_eq
      cases text_eq : Utf8.decode? octets with
      | none => simp [text_eq, throw, throwThe, MonadExceptOf.throw, bind, Except.bind] at load_eq
      | some text =>
          simp only [text_eq] at load_eq
          exact ⟨process.above (.ofText process text), read_of_settled rfl load_eq⟩

theorem sizes_of_load (load_eq : load process files = .ok settings) :
    1 ≤ settings.chunkSize ∧ 1 ≤ settings.concurrency :=
  (exists_read_of_load load_eq).elim fun _ => sizes_of_read

end Settings

namespace Flags

/-- Value of a flag, if it is given. -/
def get? (flags : Flags) : (name : OptionName) → Option name.Value
  | .language => flags.language
  | .chunkSize => flags.chunkSize.map Int.toNat
  | .host => flags.host.map some
  | .port => flags.port.map some
  | .concurrency => flags.concurrency.map Int.toNat
  | _ => none

/-- Flags that are given are neither empty nor out of range. -/
structure IsProper (flags : Flags) : Prop where
  language : ∀ code ∈ flags.language, code ≠ ""
  chunkSize : ∀ size ∈ flags.chunkSize, 1 ≤ size
  concurrency : ∀ count ∈ flags.concurrency, 1 ≤ count

variable {flags : Flags} {settings : Settings} {sheet : OptionSheet}

theorem textOr_eq {flag : Option String} {setting : String} (proper : ∀ text ∈ flag, text ≠ "") :
    textOr flag setting = flag.getD setting := by
  cases flag <;> simp_all [textOr]

theorem numberOr_eq {flag : Option Int} {setting : Nat} (proper : ∀ number ∈ flag, 1 ≤ number) :
    numberOr flag setting = flag.getD setting := by
  cases flag with
  | none => rfl
  | some number =>
      have large := proper number rfl
      simp only [numberOr, Option.getD_some, ite_eq_right_iff]
      omega

theorem sheet_eq_valid_iff : flags.sheet settings = .valid sheet ↔
    1 ≤ numberOr flags.chunkSize settings.chunkSize ∧
      1 ≤ numberOr flags.concurrency settings.concurrency ∧
      sheet = { OptionSheet.blank with
        language := some (textOr flags.language settings.language)
        chunkSize := some (numberOr flags.chunkSize settings.chunkSize).toNat
        host := some flags.host
        port := some flags.port
        concurrency := some (numberOr flags.concurrency settings.concurrency).toNat
        lineSpacing := some settings.lineSpacing } := by
  simp only [Flags.sheet, Validated.seq_eq_valid_iff, Validated.map_eq_valid_iff,
    Validated.below_eq_valid_iff, Validated.positive_int_eq_valid_iff]
  constructor
  · rintro ⟨_, _, ⟨_, ⟨chunkSize, rfl⟩, rfl⟩, ⟨concurrency, rfl⟩, rfl⟩
    exact ⟨chunkSize, concurrency, rfl⟩
  · rintro ⟨chunkSize, concurrency, rfl⟩
    exact ⟨_, _, ⟨_, ⟨chunkSize, rfl⟩, rfl⟩, ⟨concurrency, rfl⟩, rfl⟩

theorem toNat_getD {flag : Option Int} {setting : Nat} :
    (flag.getD setting).toNat = (flag.map Int.toNat).getD setting := by
  cases flag <;> simp

theorem eq_getD_map_some {flag : Option String} : flag = (flag.map some).getD none := by
  cases flag <;> rfl

theorem get_options_of_sheet (proper : flags.IsProper)
    (sheet_eq : flags.sheet settings = .valid sheet) (name : OptionName) :
    sheet.options.get name = (flags.get? name).getD (settings.fallback name) := by
  obtain ⟨-, -, rfl⟩ := sheet_eq_valid_iff.1 sheet_eq
  rw [numberOr_eq proper.chunkSize, numberOr_eq proper.concurrency, textOr_eq proper.language]
  cases name with
  | chunkSize | concurrency => exact toNat_getD
  | host | port => exact eq_getD_map_some
  | _ => rfl

theorem one_le_numberOr {flag : Option Int} {setting : Nat} (proper : ∀ number ∈ flag, 1 ≤ number)
    (setting_positive : 1 ≤ setting) : 1 ≤ numberOr flag setting := by
  rw [numberOr_eq proper]
  cases flag with
  | none => exact Int.ofNat_le.2 setting_positive
  | some number => exact proper number rfl

/-- Proper flags are accepted, whatever is set. -/
theorem exists_sheet (proper : flags.IsProper)
    (sizes : 1 ≤ settings.chunkSize ∧ 1 ≤ settings.concurrency) :
    ∃ sheet, flags.sheet settings = .valid sheet := by
  have chunkSize := one_le_numberOr proper.chunkSize sizes.1
  have concurrency := one_le_numberOr proper.concurrency sizes.2
  exact ⟨_, sheet_eq_valid_iff.2 ⟨chunkSize, concurrency, rfl⟩⟩

end Flags
end ProseCheck

/-!
## Flags as settings

What a flag says can also be written as a setting: the name of the option, an equals sign, and the
value as JSON.  Such a setting is read back as that value, unless it is an integer of too many
digits.
-/

namespace ProseCheck

namespace Text

theorem isBlank_of_isDigit {char : Char} (isDigit : char.isDigit) : isBlank char = false := by
  have range : 48 ≤ char.toNat ∧ char.toNat ≤ 57 := by
    simpa [Char.isDigit, UInt32.le_iff_toNat_le] using isDigit
  simp [isBlank]
  omega

theorem cut?_append {separator : Char} {before after : Text} (absent : separator ∉ before) :
    cut? [separator] (before ++ separator :: after) = some (before, after) := by
  induction before with
  | nil => simp [cut?]
  | cons char before induction =>
      simp only [List.mem_cons, not_or] at absent
      simp [cut?, absent.1, induction absent.2]

end Text

namespace Json

theorem read_canonical_str (text : String) : read (Json.str text).canonical = .ok (.str text) := by
  rw [canonical, Writer.canonical, read_string le_of_isPrintableAscii, Json.text,
    String.ofList_toList]

theorem read_canonical_int (number : Int) : read (Json.int number).canonical =
    if (Numeral.digits number.natAbs).length > Numeral.digitLimit then .error .oversized
    else .ok (.int number) := by
  rw [canonical, Writer.canonical, read_write]

theorem strip_canonical_str (text : String) :
    Text.strip (Json.str text).canonical = (Json.str text).canonical := by
  rw [canonical, Writer.canonical, Writer.string]
  apply Text.trim_eq_self
  · rintro char ⟨⟩
    decide
  · simp only [← List.cons_append, List.getLast?_append, List.getLast?_singleton, Option.some_or]
    rintro char ⟨⟩
    decide

theorem strip_canonical_int (number : Int) :
    Text.strip (Json.int number).canonical = (Json.int number).canonical := by
  have solid : ∀ char ∈ Numeral.write number, Text.isBlank char = false := by
    intro char mem
    cases number with
    | ofNat number => exact Text.isBlank_of_isDigit (Json.Reader.isDigit_of_mem_digits mem)
    | negSucc number =>
        rcases List.mem_cons.1 mem with rfl | mem
        · decide
        · exact Text.isBlank_of_isDigit (Json.Reader.isDigit_of_mem_digits mem)
  rw [canonical, Writer.canonical]
  exact Text.trim_eq_self (fun char head => solid char (List.mem_of_mem_head? head))
    fun char last => solid char (List.mem_of_getLast? last)

end Json

/-- What a flag is called. -/
inductive FlagName where
  | language
  | chunkSize
  | host
  | port
  | concurrency
deriving DecidableEq, Repr

namespace FlagName

/-- Option of a flag. -/
def option : FlagName → OptionName
  | language => .language
  | chunkSize => .chunkSize
  | host => .host
  | port => .port
  | concurrency => .concurrency

/-- What stands behind a flag. -/
def Value : FlagName → Type
  | language | host | port => String
  | chunkSize | concurrency => Int

/-- Value of a flag as JSON. -/
def json : (flag : FlagName) → flag.Value → Json
  | language, text | host, text | port, text => .str text
  | chunkSize, number | concurrency, number => .int number

/-- The setting that says what a flag says. -/
def setting (flag : FlagName) (value : flag.Value) : Text :=
  flag.option.member.toList ++ '=' :: (flag.json value).canonical

/-- Whether the value is no integer of too many digits. -/
def Fits : (flag : FlagName) → flag.Value → Prop
  | language, _ | host, _ | port, _ => True
  | chunkSize, number | concurrency, number =>
    (Numeral.digits (Int.natAbs number)).length ≤ Numeral.digitLimit

variable {flag : FlagName} {value : flag.Value}

theorem read_canonical_of_fits (fits : flag.Fits value) :
    Json.read (flag.json value).canonical = .ok (flag.json value) := by
  cases flag with
  | language | host | port => exact Json.read_canonical_str value
  | chunkSize | concurrency =>
      exact (Json.read_canonical_int value).trans (if_neg (Nat.not_lt.2 fits))

theorem read_canonical_of_not_fits (oversized : ¬flag.Fits value) :
    Json.read (flag.json value).canonical = .error .oversized := by
  cases flag with
  | language | host | port => exact absurd trivial oversized
  | chunkSize | concurrency =>
      exact (Json.read_canonical_int value).trans (if_pos (Nat.lt_of_not_le oversized))

theorem strip_canonical : Text.strip (flag.json value).canonical = (flag.json value).canonical := by
  cases flag with
  | language | host | port => exact Json.strip_canonical_str value
  | chunkSize | concurrency => exact Json.strip_canonical_int value

theorem ofSetting_setting : OptionSources.ofSetting (flag.setting value) =
    (OptionSources.valueOf (flag.json value).canonical).map
      fun json => (flag.option.member, json) := by
  have absent : '=' ∉ flag.option.member.toList := by cases flag <;> decide
  have stripped : Text.strip flag.option.member.toList = flag.option.member.toList := by
    cases flag <;> decide
  have nonempty : flag.option.member.toList.isEmpty = false := by cases flag <;> decide
  rw [setting, OptionSources.ofSetting, Text.cut?_append absent]
  simp [stripped, nonempty, strip_canonical]

theorem ofSetting_of_fits (fits : flag.Fits value) : OptionSources.ofSetting (flag.setting value) =
    .ok (flag.option.member, flag.json value) := by
  rw [ofSetting_setting, OptionSources.valueOf, read_canonical_of_fits fits]
  rfl

theorem ofSetting_of_not_fits (oversized : ¬flag.Fits value) :
    OptionSources.ofSetting (flag.setting value) = .error (.unreadable .oversized) := by
  rw [ofSetting_setting, OptionSources.valueOf, read_canonical_of_not_fits oversized]
  rfl

end FlagName
end ProseCheck
