import ProseCheck.CommandLine.Command
import ProseCheck.CommandLine.Group

/-!
# The group that is looked for

Levels of messages may stand before the name of a command, each in a word of its own behind its
option, or in one word with it.  The program reads them as options and passes over all of them.  A
group is looked for word by word, so a level in a word of its own is taken for the name of a command
unless it starts with a dash.  The right group is found exactly if the first such level tells of a
group as the command does, or if there is none.
-/

namespace ProseCheck

/-- Name of a command or of a group of commands. -/
def CommandName.name : CommandName → String
  | .check => "check"
  | .convert => "convert"
  | .config => "config"

@[simp]
theorem CommandName.ofName?_name (command : CommandName) : ofName? command.name = some command := by
  cases command <;> rfl

/-- A level of messages, as it is given before the name of a command. -/
inductive LevelOption where
  /-- The level is the word behind the option. -/
  | apart (level : String)
  /-- The level stands behind an equals sign. -/
  | joined (level : String)

namespace LevelOption

/-- The level that is given. -/
def level : LevelOption → String
  | apart level | joined level => level

/-- Words of the option. -/
def words : LevelOption → List String
  | apart level => ["--log-level", level]
  | joined level => ["--log-level=" ++ level]

/-- The level, if it is a word of its own. -/
def ownWord? : LevelOption → Option String
  | apart level => some level
  | joined _ => none

end LevelOption

/-! ## How the program reads the words -/

namespace Command

/-- An option that is the whole word takes the next word for its value. -/
theorem effect?_apart : program.effect? "--log-level" =
    some (.ok (.awaits [] "--log-level" "log_level")) :=
  rfl

/-- What stands behind the first equals sign is the value, whatever it holds. -/
theorem effect?_joined (level : String) : program.effect? ("--log-level=" ++ level) =
    some (.ok (.sets [("log_level", level)])) := by
  have written : ("--log-level=" ++ level).toList =
      '-' :: '-' :: ("log-level".toList ++ '=' :: level.toList) := by
    rw [String.toList_append]
    rfl
  have cut : Text.cut? ['='] ("log-level".toList ++ '=' :: level.toList) =
      some ("log-level".toList, level.toList) := by
    simp [Text.cut?]
  unfold Grammar.effect?
  rw [written]
  simp only [cut, String.ofList_toList]
  rfl

theorem effect?_name (command : CommandName) : program.effect? command.name = none := by
  cases command <;> rfl

theorem read_words (option : LevelOption) (rest : List String) :
    program.read (option.words ++ rest) =
      (program.read rest).map (Arguments.withFields [("log_level", option.level)]) := by
  cases option with
  | apart level =>
      show program.read ("--log-level" :: level :: rest) = _
      rw [Grammar.read, if_neg (by decide), effect?_apart]
      rfl
  | joined level =>
      have not_dashes : "--log-level=" ++ level ≠ "--" := by
        intro same
        have := congrArg String.toList same
        simp at this
      show program.read (("--log-level=" ++ level) :: rest) = _
      rw [Grammar.read, if_neg not_dashes, effect?_joined]
      rfl

theorem read_name (command : CommandName) (rest : List String) :
    program.read (command.name :: rest) = .ok ⟨[], command.name :: rest⟩ := by
  have not_dashes : command.name ≠ "--" := by cases command <;> decide
  rw [Grammar.read, if_neg not_dashes, effect?_name]
  rfl

/-- The program takes the levels for options, and the name and what follows it for operands. -/
theorem read_levels (options : List LevelOption) (command : CommandName) (rest : List String) :
    program.read (options.flatMap LevelOption.words ++ command.name :: rest) =
      .ok ⟨options.map fun option => ("log_level", option.level), command.name :: rest⟩ := by
  induction options with
  | nil => exact read_name command rest
  | cons option others induction =>
      rw [List.flatMap_cons, List.append_assoc, read_words, induction]
      rfl

end Command

/-! ## How a group is looked for -/

namespace CommandGroup

/-- Whether a word is passed over. -/
def isDashed (word : String) : Bool := word.toList.head? == some '-'

theorem ofName?_of_isDashed {word : String} (dashed : isDashed word = true) :
    ofName? word = none := by
  have not_config : word ≠ "config" := by
    rintro rfl
    contradiction
  rw [ofName?, if_neg not_config]

/-- The first word without a dash decides. -/
theorem named?_eq (words : List String) :
    named? words = (words.find? fun word => !isDashed word).bind ofName? := by
  induction words with
  | nil => rfl
  | cons word rest induction =>
      rw [named?, List.find?_cons]
      cases dashed : isDashed word with
      | true =>
          have first_dash : word.toList.head? = some '-' := by simpa [isDashed] using dashed
          rw [ofName?_of_isDashed dashed]
          simpa [first_dash] using induction
      | false =>
          have no_dash : word.toList.head? ≠ some '-' := by simpa [isDashed] using dashed
          cases named : ofName? word <;> simp [no_dash, named]

/-- The level that decides on a group: the first one in a word of its own and without a dash. -/
def decisiveLevel? (options : List LevelOption) : Option String :=
  (options.filterMap LevelOption.ownWord?).find? fun level => !isDashed level

theorem isDashed_joined (level : String) : isDashed ("--log-level=" ++ level) = true := by
  rw [isDashed, String.toList_append]
  rfl

/-- Of the words of options, only levels in words of their own may have no dash. -/
theorem find?_words (options : List LevelOption) :
    (options.flatMap LevelOption.words).find? (fun word => !isDashed word) =
      decisiveLevel? options := by
  unfold decisiveLevel?
  induction options with
  | nil => rfl
  | cons option others induction =>
      rw [List.flatMap_cons, List.find?_append, induction]
      cases option with
      | apart level =>
          have option_dashed : isDashed "--log-level" = true := rfl
          cases dashed : isDashed level <;>
            simp [LevelOption.words, LevelOption.ownWord?, option_dashed, dashed]
      | joined level => simp [LevelOption.words, LevelOption.ownWord?, isDashed_joined]

/-- The group that is found behind levels is named by the level that decides, or else by the word
that names the command. -/
theorem invoked?_levels (options : List LevelOption) (command : CommandName)
    (rest : List String) :
    invoked? [] (options.flatMap LevelOption.words ++ command.name :: rest) =
      ofName? ((decisiveLevel? options).getD command.name) := by
  have no_dash : isDashed command.name = false := by cases command <;> rfl
  show named? (options.flatMap LevelOption.words ++ command.name :: rest) = _
  rw [named?_eq, List.find?_append, find?_words, List.find?_cons]
  cases decisiveLevel? options <;> simp [no_dash]

theorem ofName?_eq_config_iff {word : String} : ofName? word = some .config ↔ word = "config" := by
  simp [ofName?]

/-- The program comes to the command whatever levels stand before it.  The group is found if and
only if it is the one of that command exactly where a level that decides, if there is one, is the
name of the group just when the command is. -/
theorem invoked_iff_of_levels (options : List LevelOption) (command : CommandName)
    (rest : List String) :
    Command.program.read (options.flatMap LevelOption.words ++ command.name :: rest) =
        .ok ⟨options.map fun option => ("log_level", option.level), command.name :: rest⟩ ∧
    CommandName.ofName? command.name = some command ∧
    ((invoked? [] (options.flatMap LevelOption.words ++ command.name :: rest) = some .config ↔
        command = .config) ↔
      ∀ level, decisiveLevel? options = some level → (level = "config" ↔ command = .config)) := by
  refine ⟨Command.read_levels options command rest, command.ofName?_name, ?_⟩
  rw [invoked?_levels, ofName?_eq_config_iff]
  cases decided : decisiveLevel? options with
  | none => cases command <;> simp [CommandName.name]
  | some level => simp

/-- A level in a word of its own hides the group that the program comes to. -/
theorem level_hides_group :
    Command.program.read ["--log-level", "debug", "config", "show"] =
        .ok ⟨[("log_level", "debug")], ["config", "show"]⟩ ∧
    CommandName.ofName? "config" = some .config ∧
    invoked? [] ["--log-level", "debug", "config", "show"] = none :=
  ⟨rfl, rfl, rfl⟩

end CommandGroup
end ProseCheck
