import ProseCheck.Proofs.Options.Flags
import ProseCheck.Proofs.Options.Sources
import ProseCheck.Proofs.Options.Precedence

/-!
# A flag or a setting

A flag and the setting that says the same lead to the same check, unless the flag is empty or zero
and so gives way to what is set, or is an integer that is negative or has too many digits.
-/

namespace ProseCheck

open Reading Validated

namespace FlagName

/-- What a flag means for its option. -/
def content : (flag : FlagName) → flag.Value → flag.option.Value
  | language, text => text
  | host, text | port, text => some text
  | chunkSize, number | concurrency, number => Int.toNat number

/-- Whether a flag stands as it is: an empty language gives way to the one that is set, and an
integer has to be positive and of not too many digits. -/
def Stands (settings : Settings) : (flag : FlagName) → flag.Value → Prop
  | language, text => text = "" → settings.language = ""
  | host, _ | port, _ => True
  | chunkSize, number | concurrency, number =>
    (1 : Int) ≤ number ∧ (Numeral.digits (Int.natAbs number)).length ≤ Numeral.digitLimit

variable {flag : FlagName} {value : flag.Value} {settings : Settings}

theorem fits_of_stands (stands : flag.Stands settings value) : flag.Fits value := by
  cases flag with
  | language | host | port => trivial
  | chunkSize | concurrency => exact stands.2

theorem read_json_of_stands (stands : flag.Stands settings value) :
    flag.option.read (flag.json value) = .valid (flag.content value) := by
  cases flag with
  | language | host | port => rfl
  | chunkSize | concurrency => exact positive_int_eq_valid_iff.2 ⟨stands.1, rfl⟩

end FlagName

namespace Flags

/-- What stands behind a flag, if it is given. -/
def value? (flags : Flags) : (flag : FlagName) → Option flag.Value
  | .language => flags.language
  | .chunkSize => flags.chunkSize
  | .host => flags.host
  | .port => flags.port
  | .concurrency => flags.concurrency

/-- The flags with one of them set. -/
def set (flags : Flags) : (flag : FlagName) → flag.Value → Flags
  | .language, text => { flags with language := some text }
  | .chunkSize, number => { flags with chunkSize := some number }
  | .host, text => { flags with host := some text }
  | .port, text => { flags with port := some text }
  | .concurrency, number => { flags with concurrency := some number }

variable {flags : Flags} {settings : Settings} {flag : FlagName} {value : flag.Value}

theorem textOr_of_stands {text : String} (stands : FlagName.language.Stands settings text) :
    textOr (some text) settings.language = text := by
  by_cases empty : text = ""
  · simp [textOr, empty, stands empty]
  · simp [textOr, empty]

theorem positive_numberOr {flagged : Option Int} {number : Int} {setting : Nat}
    (unset : flagged = none) (setting_positive : 1 ≤ setting) (number_positive : 1 ≤ number) :
    Alike (fun _ size => size = number.toNat) (positive (.int (numberOr flagged setting)))
      (positive (.int (numberOr (some number) setting))) := by
  have given : numberOr (some number) setting = number := if_neg (by omega)
  have positive_setting : positive (.int (numberOr none setting)) = .valid setting :=
    positive_int_eq_valid_iff.2 ⟨Int.ofNat_le.2 setting_positive, rfl⟩
  rw [unset, given, positive_setting, positive_int_eq_valid_iff.2 ⟨number_positive, rfl⟩]
  exact .valid rfl

/-- A flag that stands as it is changes its own option alone, and hides no fault of the others. -/
theorem sheet_set (sizes : 1 ≤ settings.chunkSize ∧ 1 ≤ settings.concurrency)
    (unset : flags.value? flag = none) (stands : flag.Stands settings value) :
    Alike (fun base flagged => flagged.get? flag.option = some (flag.content value) ∧
        ∀ other ≠ flag.option, flagged.get? other = base.get? other)
      (flags.sheet settings) ((flags.set flag value).sheet settings) := by
  cases flag with
  | language =>
      refine .seq ?_ (.refl (fun _ => rfl) _)
      refine .map ?_ (.refl (fun _ => rfl) _)
      rintro chunkSize _ rfl concurrency _ rfl
      refine ⟨congrArg some (textOr_of_stands stands), fun other differs => ?_⟩
      cases other <;> first | rfl | exact absurd rfl differs
  | host | port =>
      refine .seq ?_ (.refl (fun _ => rfl) _)
      refine .map ?_ (.refl (fun _ => rfl) _)
      rintro chunkSize _ rfl concurrency _ rfl
      refine ⟨rfl, fun other differs => ?_⟩
      cases other <;> first | rfl | exact absurd rfl differs
  | chunkSize =>
      refine .seq ?_ (.refl (fun _ => rfl) _)
      refine .map ?_ (positive_numberOr unset sizes.1 stands.1).below
      rintro chunkSize _ rfl concurrency _ rfl
      refine ⟨rfl, fun other differs => ?_⟩
      cases other <;> first | rfl | exact absurd rfl differs
  | concurrency =>
      refine .seq ?_ (positive_numberOr unset sizes.2 stands.1).below
      refine .map ?_ (.refl (fun _ => rfl) _)
      rintro chunkSize _ rfl concurrency _ rfl
      refine ⟨rfl, fun other differs => ?_⟩
      cases other <;> first | rfl | exact absurd rfl differs

end Flags

namespace CheckCommand

/-- The command with one flag set. -/
def withFlag (command : CheckCommand) (flag : FlagName) (value : flag.Value) : CheckCommand :=
  { command with flags := command.flags.set flag value }

/-- The command with a setting, at a place among the others, in the place of a flag. -/
def withSetting (command : CheckCommand) (place : Nat) (flag : FlagName) (value : flag.Value) :
    CheckCommand :=
  { command with sources := command.sources.insert place (flag.setting value) }

end CheckCommand

/-- Whether an error is reported as a bad parameter. -/
def OptionsError.isReported : OptionsError → Bool
  | .fileIsDirectory | .fileNotText | .unreadable _ => false
  | .brokenYaml trouble => trouble == .malformed
  | _ => true

namespace CommandLine

/-- The options are refused, and what is wrong with them is reported as a bad parameter. -/
def IsRefused (outcome : Except CommandError OptionSheet) : Prop :=
  ∃ error, outcome = .error (.options error) ∧ error.isReported

/-- Both lead to the same options, or both are refused. -/
def HaveSameEffect (left right : Except CommandError OptionSheet) : Prop :=
  (∃ options, left.map OptionSheet.options = .ok options ∧
    right.map OptionSheet.options = .ok options) ∨ (IsRefused left ∧ IsRefused right)

variable {State : Type} {surroundings : Surroundings State} {files : String → PathEntry}
  {settings : Settings} {command : CheckCommand} {flag : FlagName} {value : flag.Value}
  {place : Nat} {base flagged upper wider sheet : OptionSheet}

theorem options_eq_of_widens {name : OptionName} {content : name.Value}
    (named : flagged.get? name = some content)
    (others : ∀ other ≠ name, flagged.get? other = base.get? other)
    (widens : OptionSheet.Widens name content upper wider) :
    (upper.above flagged).options = (wider.above base).options := by
  apply Options.ext_get
  intro other
  rw [OptionSheet.get_options, OptionSheet.get_options, OptionSheet.get?_above,
    OptionSheet.get?_above]
  by_cases same : other = name
  · subst same
    rw [widens.unnamed, named, widens.named]
    rfl
  · rw [widens.others other same, others other same]

/-- A flag that stands as it is and the setting that says the same lead to the same options or to
the same error. -/
theorem checkSheet_withFlag_eq (place : Nat)
    (sizes : 1 ≤ settings.chunkSize ∧ 1 ≤ settings.concurrency)
    (unset : command.flags.value? flag = none)
    (isOpen : command.sources.IsOpen files flag.option) (stands : flag.Stands settings value) :
    (checkSheet files settings (command.withFlag flag value)).map OptionSheet.options =
      (checkSheet files settings (command.withSetting place flag value)).map
        OptionSheet.options := by
  have flags_alike := Flags.sheet_set sizes unset stands
  have sources_alike := OptionSources.sheet_insert place
    (FlagName.ofSetting_of_fits (FlagName.fits_of_stands stands)) isOpen
    (FlagName.read_json_of_stands stands)
  show Except.map _ (require ((command.flags.set flag value).sheet settings) >>= fun flags =>
      (command.sources.sheet files).mapError .options >>= fun sheet => pure (sheet.above flags)) =
    Except.map _ (require (command.flags.sheet settings) >>= fun flags =>
      ((command.sources.insert place (flag.setting value)).sheet files).mapError .options >>=
        fun sheet => pure (sheet.above flags))
  generalize command.flags.sheet settings = base at flags_alike
  generalize (command.flags.set flag value).sheet settings = flagged at flags_alike
  cases flags_alike with
  | invalid faults => rfl
  | valid related =>
      rcases sources_alike with ⟨error, upper_eq, wider_eq⟩ |
        ⟨upper, wider, upper_eq, wider_eq, widens⟩
      · rw [upper_eq, wider_eq]
        rfl
      · rw [upper_eq, wider_eq]
        exact congrArg Except.ok (options_eq_of_widens related.1 related.2 widens)

/-- A setting that is accepted says what its flag may say, unless it is of a language. -/
theorem stands_of_accepted (isOpen : command.sources.IsOpen files flag.option)
    (accepted : checkSheet files settings (command.withSetting place flag value) = .ok sheet)
    (other : flag ≠ .language) : flag.Stands settings value := by
  obtain ⟨base, wider, -, wider_eq, -⟩ := checkSheet_eq_ok_iff.1 accepted
  obtain ⟨member, member_eq⟩ := OptionSources.exists_ofSetting_of_insert wider_eq
  have fits : flag.Fits value := by
    by_contra oversized
    rw [FlagName.ofSetting_of_not_fits oversized] at member_eq
    contradiction
  obtain ⟨content, content_eq⟩ :=
    OptionSources.exists_valid_of_insert (FlagName.ofSetting_of_fits fits) isOpen wider_eq
  cases flag with
  | language => exact absurd rfl other
  | host | port => trivial
  | chunkSize | concurrency => exact ⟨(positive_int_eq_valid_iff.1 content_eq).1, fits⟩

/-- An empty language gives way to the one that is set. -/
theorem language_of_emptyFlag (isOpen : command.sources.IsOpen files .language)
    (accepted : checkSheet files settings (command.withFlag .language "") = .ok sheet) :
    sheet.options.language = settings.language := by
  obtain ⟨flagged, upper, flagged_eq, upper_eq, rfl⟩ := checkSheet_eq_ok_iff.1 accepted
  obtain ⟨given, gives, read_eq⟩ := OptionSources.sheet_eq_ok_iff.1 upper_eq
  have unnamed := OptionSheet.get?_of_unnamed read_eq
    (OptionSources.Given.get?_merged.trans (isOpen given gives))
  obtain ⟨-, -, rfl⟩ := Flags.sheet_eq_valid_iff.1 flagged_eq
  exact OptionSheet.get_options_above_of_none unnamed

theorem language_of_setting {text : String} (isOpen : command.sources.IsOpen files .language)
    (accepted : checkSheet files settings (command.withSetting place .language text) = .ok sheet) :
    sheet.options.language = text := by
  obtain ⟨base, wider, -, wider_eq, rfl⟩ := checkSheet_eq_ok_iff.1 accepted
  have fits : FlagName.language.Fits text := trivial
  have read_eq : OptionName.language.read (FlagName.language.json text) = .valid text := rfl
  rcases OptionSources.sheet_insert place (FlagName.ofSetting_of_fits fits) isOpen read_eq with
    ⟨error, -, error_eq⟩ | ⟨upper, found, -, found_eq, widens⟩
  · have := wider_eq.symm.trans error_eq
    contradiction
  · obtain rfl := Except.ok.inj (found_eq.symm.trans wider_eq)
    exact OptionSheet.get_options_above_of_some widens.named

/-- A flag by itself is never refused with a report. -/
theorem not_isRefused_withFlag (plain : checkSheet files settings command = .ok sheet) :
    ¬IsRefused (checkSheet files settings (command.withFlag flag value)) := by
  rintro ⟨error, error_eq, -⟩
  obtain ⟨base, upper, -, upper_eq, -⟩ := checkSheet_eq_ok_iff.1 plain
  rw [checkSheet, bind_eq_error_iff] at error_eq
  rcases error_eq with flags_eq | ⟨flagged, -, later⟩
  · unfold require at flags_eq
    split at flags_eq <;> simp at flags_eq
  · rw [show (command.withFlag flag value).sources.sheet files = .ok upper from upper_eq] at later
    contradiction

theorem stands_of_haveSameEffect (isOpen : command.sources.IsOpen files flag.option)
    (plain : checkSheet files settings command = .ok sheet)
    (same : HaveSameEffect (checkSheet files settings (command.withFlag flag value))
      (checkSheet files settings (command.withSetting place flag value))) :
    flag.Stands settings value := by
  rcases same with ⟨options, left_eq, right_eq⟩ | ⟨refused, -⟩
  · obtain ⟨left, flagged_eq, rfl⟩ := map_eq_ok_iff.1 left_eq
    obtain ⟨right, set_eq, options_eq⟩ := map_eq_ok_iff.1 right_eq
    by_cases language : flag = .language
    · subst language
      rintro rfl
      rw [← language_of_emptyFlag isOpen flagged_eq, ← options_eq]
      exact language_of_setting isOpen set_eq
    · exact stands_of_accepted isOpen set_eq language
  · exact absurd refused (not_isRefused_withFlag plain)

theorem haveSameEffect_of_stands (place : Nat)
    (sizes : 1 ≤ settings.chunkSize ∧ 1 ≤ settings.concurrency)
    (unset : command.flags.value? flag = none)
    (isOpen : command.sources.IsOpen files flag.option) (stands : flag.Stands settings value)
    (plain : checkSheet files settings command = .ok sheet) :
    HaveSameEffect (checkSheet files settings (command.withFlag flag value))
      (checkSheet files settings (command.withSetting place flag value)) := by
  obtain ⟨base, upper, base_eq, upper_eq, -⟩ := checkSheet_eq_ok_iff.1 plain
  have flags_alike := Flags.sheet_set sizes unset stands
  rw [base_eq] at flags_alike
  obtain ⟨flagged, flagged_eq, -⟩ := flags_alike.exists_valid
  have left_eq : checkSheet files settings (command.withFlag flag value) =
      .ok (upper.above flagged) :=
    checkSheet_eq_ok_iff.2 ⟨flagged, upper, flagged_eq, upper_eq, rfl⟩
  have both := checkSheet_withFlag_eq place sizes unset isOpen stands
  rw [left_eq] at both ⊢
  exact .inl ⟨_, rfl, both.symm⟩

/-- A flag and the setting that says the same have the same effect exactly if the flag stands as
it is; then they also end with the same error. -/
theorem flag_or_setting (loaded : CommandLine.settings surroundings = .ok settings)
    (unset : command.flags.value? flag = none)
    (isOpen : command.sources.IsOpen surroundings.files flag.option) :
    (flag.Stands settings value →
      (checkSheet surroundings.files settings (command.withFlag flag value)).map
          OptionSheet.options =
        (checkSheet surroundings.files settings (command.withSetting place flag value)).map
          OptionSheet.options) ∧
    ∀ sheet, checkSheet surroundings.files settings command = .ok sheet →
      (HaveSameEffect (checkSheet surroundings.files settings (command.withFlag flag value))
          (checkSheet surroundings.files settings (command.withSetting place flag value)) ↔
        flag.Stands settings value) := by
  have sizes := Settings.sizes_of_load (mapError_eq_ok_iff.1 loaded)
  refine ⟨checkSheet_withFlag_eq place sizes unset isOpen, fun sheet plain => ?_⟩
  constructor
  · intro same
    exact stands_of_haveSameEffect isOpen plain same
  · intro stands
    exact haveSameEffect_of_stands place sizes unset isOpen stands plain

/-- A check that is asked for nothing but a file. -/
def bare : CheckCommand where
  path := "letter.txt"
  flags := .absent
  sources := ⟨none, none, []⟩
  allFiles := false
  style := .plain

theorem bare_isOpen (files : String → PathEntry) (name : OptionName) :
    bare.sources.IsOpen files name := by
  intro given gives
  obtain rfl : given = ⟨[], [], []⟩ := gives.unique ⟨rfl, rfl, rfl⟩
  rfl

theorem flag_or_setting_bare :
    (checkSheet beside.files .standard (bare.withFlag .chunkSize (500 : Int))).map
        OptionSheet.options =
      (checkSheet beside.files .standard (bare.withSetting 0 .chunkSize (500 : Int))).map
        OptionSheet.options ∧
    ¬HaveSameEffect (checkSheet beside.files .standard (bare.withFlag .chunkSize (0 : Int)))
      (checkSheet beside.files .standard (bare.withSetting 0 .chunkSize (0 : Int))) := by
  have isOpen := bare_isOpen beside.files .chunkSize
  obtain ⟨sheet, accepted⟩ : ∃ sheet, checkSheet beside.files .standard bare = .ok sheet :=
    ⟨_, rfl⟩
  constructor
  · exact (flag_or_setting beside_settings rfl isOpen).1 ⟨by decide, by decide⟩
  · intro same
    have stands := ((flag_or_setting beside_settings rfl isOpen).2 sheet accepted).1 same
    exact absurd stands.1 (by decide)

/-- A negative flag ends in an error that is not reported, where the setting is refused. -/
theorem negative_flag_escapes :
    (∃ faults, checkSheet beside.files .standard (bare.withFlag .chunkSize (-1 : Int)) =
        .error (.invalid faults)) ∧
      IsRefused (checkSheet beside.files .standard (bare.withSetting 0 .chunkSize (-1 : Int))) ∧
      ¬HaveSameEffect (checkSheet beside.files .standard (bare.withFlag .chunkSize (-1 : Int)))
        (checkSheet beside.files .standard (bare.withSetting 0 .chunkSize (-1 : Int))) := by
  have escapes : checkSheet beside.files .standard (bare.withFlag .chunkSize (-1 : Int)) =
      .error (.invalid [⟨.belowLeast, [.field "chunk_size"]⟩]) := rfl
  refine ⟨⟨_, escapes⟩, ⟨.invalid [⟨.belowLeast, [.field "chunk_size"]⟩], ?_, rfl⟩, ?_⟩
  · have members_eq : (bare.withSetting 0 .chunkSize (-1 : Int)).sources.members beside.files =
        .ok [("chunk_size", .int (-1))] := rfl
    have sheet_eq : (bare.withSetting 0 .chunkSize (-1 : Int)).sources.sheet beside.files =
        .error (.invalid [⟨.belowLeast, [.field "chunk_size"]⟩]) := by
      rw [OptionSources.sheet, members_eq]
      rfl
    rw [checkSheet, sheet_eq]
    rfl
  · rw [escapes]
    rintro (⟨options, flagged_eq, -⟩ | ⟨⟨error, flagged_eq, -⟩, -⟩)
    · simp [Except.map] at flagged_eq
    · simp at flagged_eq

end CommandLine
end ProseCheck
