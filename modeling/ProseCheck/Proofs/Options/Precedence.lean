import ProseCheck.CommandLine.Run
import ProseCheck.Proofs.Json.Written
import ProseCheck.Proofs.Options.Flags
import ProseCheck.Proofs.Options.Sources
import ProseCheck.Proofs.Text.Utf8

/-!
# Which source of options counts

A check uses for an option what the last of its sources says: flags go before settings, the text
before flags, the file before the text, and single settings before all, each value as a whole.
-/

namespace ProseCheck

open Reading

namespace CommandLine

variable {State : Type} {surroundings : Surroundings State} {settings : Settings}
  {command : CheckCommand} {flags upper sheet : OptionSheet} {result : CommandResult State}

theorem require_eq_ok_iff {Value : Type} {validated : Validated Value} {value : Value} :
    require validated = .ok value ↔ validated = .valid value := by
  cases validated <;> simp [require]

theorem checkSheet_eq_ok_iff {files : String → PathEntry} :
    checkSheet files settings command = .ok sheet ↔
      ∃ flags upper, command.flags.sheet settings = .valid flags ∧
        command.sources.sheet files = .ok upper ∧ upper.above flags = sheet := by
  rw [checkSheet, bind_eq_ok_iff]
  constructor
  · rintro ⟨flags, flags_eq, later⟩
    obtain ⟨upper, upper_eq, above_eq⟩ := bind_eq_ok_iff.1 later
    exact ⟨flags, upper, require_eq_ok_iff.1 flags_eq, mapError_eq_ok_iff.1 upper_eq,
      Except.ok.inj above_eq⟩
  · rintro ⟨flags, upper, flags_eq, upper_eq, rfl⟩
    exact ⟨flags, require_eq_ok_iff.2 flags_eq,
      bind_eq_ok_iff.2 ⟨upper, mapError_eq_ok_iff.2 upper_eq, rfl⟩⟩

/-- A check runs with the options of its sheet. -/
theorem visit_of_runCommand (loaded : CommandLine.settings surroundings = .ok settings)
    (sheet_eq : checkSheet surroundings.files settings command = .ok sheet)
    (run_eq : runCommand surroundings (.check command) = .ok result) :
    ∃ state, result.visit = some (sheet.options, state) := by
  obtain ⟨_, loaded_eq, later⟩ := bind_eq_ok_iff.1 run_eq
  obtain rfl := Except.ok.inj (loaded.symm.trans loaded_eq)
  obtain ⟨_, given_eq, later⟩ := bind_eq_ok_iff.1 later
  obtain rfl := Except.ok.inj (sheet_eq.symm.trans given_eq)
  obtain ⟨world, -, later⟩ := bind_eq_ok_iff.1 later
  dsimp only at later
  split at later <;>
  · obtain ⟨printout, -, result_eq⟩ := bind_eq_ok_iff.1 later
    exact ⟨_, (congrArg CommandResult.visit (Except.ok.inj result_eq)).symm⟩

/-- A check uses for each option what the last of its sources says, be it the default or not, and
sheets may be laid above each other in either order. -/
theorem options_precedence (loaded : CommandLine.settings surroundings = .ok settings)
    (proper : command.flags.IsProper)
    (accepted : command.sources.sheet surroundings.files = .ok upper) :
    (∃ given sheet, command.sources.Gives surroundings.files given ∧
      checkSheet surroundings.files settings command = .ok sheet ∧
      (∀ result, runCommand surroundings (.check command) = .ok result →
        ∃ state, result.visit = some (sheet.options, state)) ∧
      ∀ name : OptionName,
        match given.value? name.member with
        | some value => name.read value = .valid (sheet.options.get name)
        | none => sheet.options.get name =
            (command.flags.get? name).getD (settings.fallback name)) ∧
    ∀ first second third : OptionSheet,
      (first.above second).above third = first.above (second.above third) ∧
        ((first.above second).above third).given = (first.above (second.above third)).given := by
  have sizes := Settings.sizes_of_load (mapError_eq_ok_iff.1 loaded)
  obtain ⟨flags, flags_eq⟩ := Flags.exists_sheet proper sizes
  obtain ⟨given, gives, read_eq⟩ := OptionSources.sheet_eq_ok_iff.1 accepted
  have sheet_eq := checkSheet_eq_ok_iff.2 ⟨flags, upper, flags_eq, accepted, rfl⟩
  refine ⟨⟨given, upper.above flags, gives, sheet_eq,
    fun result => visit_of_runCommand loaded sheet_eq, ?_⟩, fun first second third => ?_⟩
  · intro name
    rw [← OptionSources.Given.get?_merged]
    cases value_eq : given.merged.get? name.member with
    | some value =>
        obtain ⟨content, content_eq, named⟩ := OptionSheet.get?_of_named read_eq value_eq
        rw [OptionSheet.get_options_above_of_some named]
        exact content_eq
    | none =>
        rw [OptionSheet.get_options_above_of_none (OptionSheet.get?_of_unnamed read_eq value_eq)]
        exact Flags.get_options_of_sheet proper flags_eq name
  · rw [OptionSheet.above_assoc]
    exact ⟨rfl, rfl⟩

/-- A check that is asked for options in every way at once. -/
def layered : CheckCommand where
  path := "letter.txt"
  flags := ⟨some "fr", some 5, none, some "8010", none⟩
  sources := ⟨some "\x7b\"port\": 8082, \"dictionary\": [\"Foo\"]\x7d".toList, some "options.json",
    ["chunk_size=600".toList, "chunk_size = 1000".toList]⟩
  allFiles := false
  style := .plain

/-- Text of a file of options. -/
def filed : Text := "\x7b\"dictionary\": [\"Bar\"], \"chunk_size\": 700\x7d".toList

/-- A process without variables, beside a file of options. -/
def beside : Surroundings Unit where
  environment := .empty
  files := fun path => if path = "options.json" then .file (Utf8.encode filed) else .nothing
  columns := 80
  serverOf := fun _ _ => .ofFunction fun _ => .ok []
  state := ()

theorem layered_gives : layered.sources.Gives beside.files
    { inline := [("port", .int 8082), ("dictionary", .arr [.str "Foo"])]
      file := [("dictionary", .arr [.str "Bar"]), ("chunk_size", .int 700)]
      settings := [("chunk_size", .int 600), ("chunk_size", .int 1000)] } where
  inline := eq_ok_of_any Json.eq_of_haveSame (by decide +kernel)
  file := by
    have stands : beside.files "options.json" = .file (Utf8.encode filed) := by simp [beside]
    have isJson : ¬ [".yaml", ".yml"].contains (Path.lowerSuffix "options.json") := by
      decide +kernel
    show OptionSources.ofFile "options.json" (beside.files "options.json") = _
    rw [stands, OptionSources.ofFile, Utf8.decode?_encode]
    dsimp only
    rw [if_neg isJson]
    exact eq_ok_of_any Json.eq_of_haveSame (by decide +kernel)
  settings := eq_ok_of_any Json.eq_of_haveSame (by decide +kernel)

theorem layered_sheet : layered.sources.sheet beside.files = .ok
    { OptionSheet.blank with
      chunkSize := some 1000
      dictionary := some ["Bar"]
      port := some (some "8082") } :=
  OptionSources.sheet_eq_ok_iff.2 ⟨_, layered_gives, rfl⟩

theorem beside_settings : CommandLine.settings beside = .ok .standard := by
  rfl

theorem layered_isProper : layered.flags.IsProper where
  language := by simp [layered]
  chunkSize := by simp [layered]
  concurrency := by simp [layered]

theorem layered_precedence : ∃ sheet, checkSheet beside.files .standard layered = .ok sheet ∧
    sheet.options.language = "fr" ∧ sheet.options.chunkSize = 1000 ∧
    sheet.options.dictionary = ["Bar"] ∧ sheet.options.port = some "8082" ∧
    sheet.options.concurrency = 1 := by
  obtain ⟨⟨given, sheet, gives, sheet_eq, -, values⟩, -⟩ :=
    options_precedence beside_settings layered_isProper layered_sheet
  obtain rfl := gives.unique layered_gives
  refine ⟨sheet, sheet_eq, values .language, ?_, ?_, ?_, values .concurrency⟩
  · exact (Validated.valid.inj (values .chunkSize)).symm
  · exact (Validated.valid.inj (values .dictionary)).symm
  · exact (Validated.valid.inj (values .port)).symm

end CommandLine
end ProseCheck
