import ProseCheck.Proofs.Document.Spelling
import ProseCheck.Proofs.Reading
import ProseCheck.Proofs.Source.Numbering

/-!
# Worlds that are put together

The parts of a world are its sources, its main file and its pages.  Parts that are one world's are
put together to that world, and nothing else can be put together: since the names of sources are
distinct and the main file is one of them in every world, those are all the conditions there are.
The world of a dump is likewise the one that holds what the dump says, file by file.
-/

namespace ProseCheck

open Reading

namespace World

/-! ## Parts of a world -/

variable {world result : World} {source : Source} {sources : List Source} {main : Option FileId}
  {pages : Option (List Page)}

/-- A world is told by its parts. -/
theorem eq_of_parts {world other : World} (sources_eq : world.sources = other.sources)
    (main_eq : world.main = other.main) (pages_eq : world.pages = other.pages) : world = other := by
  cases world
  cases other
  cases sources_eq
  cases main_eq
  cases pages_eq
  rfl

theorem ok_eq_ok_iff :
    (.ok world : Except DocumentError World) = .ok result ↔
      result.sources = world.sources ∧ result.main = world.main ∧ result.pages = world.pages := by
  constructor
  · intro same
    obtain rfl := Except.ok.inj same
    exact ⟨rfl, rfl, rfl⟩
  · rintro ⟨sources_eq, main_eq, pages_eq⟩
    exact congrArg Except.ok (eq_of_parts sources_eq.symm main_eq.symm pages_eq.symm)

/-- The name of a source that other sources precede in a world is not one of theirs. -/
theorem not_mem_files_of_sources
    (sources_eq : result.sources = world.sources ++ source :: sources) :
    source.id ∉ world.files := by
  intro taken
  have distinct := result.distinct
  rw [sources_eq, List.map_append, List.nodup_append] at distinct
  exact distinct.2.2 _ taken source.id (by simp) rfl

theorem add_eq_ok_iff :
    world.add source = .ok result ↔
      result.sources = world.sources ++ [source] ∧ result.main = world.main ∧
        result.pages = world.pages := by
  unfold add
  split
  · rename_i taken
    simp only [reduceCtorEq, false_iff]
    rintro ⟨sources_eq, -⟩
    exact not_mem_files_of_sources sources_eq taken
  · rw [ok_eq_ok_iff]

/-- A source is added under a name that is not taken. -/
theorem exists_add (free : source.id ∉ world.files) : ∃ next, world.add source = .ok next := by
  unfold add
  rw [dif_neg (by exact free)]
  exact ⟨_, rfl⟩

/-- Sources are added to the world that has them behind its own. -/
theorem addAll_eq_ok_iff :
    world.addAll sources = .ok result ↔
      result.sources = world.sources ++ sources ∧ result.main = world.main ∧
        result.pages = world.pages := by
  induction sources generalizing world with
  | nil => rw [addAll, List.append_nil, ok_eq_ok_iff]
  | cons source rest induction =>
      have split_eq : world.sources ++ source :: rest = world.sources ++ [source] ++ rest := by simp
      rw [addAll]
      cases added : world.add source with
      | ok next =>
          obtain ⟨sources_eq, main_eq, pages_eq⟩ := add_eq_ok_iff.1 added
          simp only [induction, sources_eq, main_eq, pages_eq, split_eq]
      | error error =>
          simp only [reduceCtorEq, false_iff]
          rintro ⟨sources_eq, -⟩
          obtain ⟨next, next_eq⟩ := exists_add (not_mem_files_of_sources sources_eq)
          rw [added] at next_eq
          contradiction

/-- A world gets the main file that is asked for, or else its first. -/
theorem withMain_eq_ok_iff :
    world.withMain main = .ok result ↔
      result.sources = world.sources ∧ result.main = main.or world.files.head? ∧
        result.pages = world.pages := by
  unfold withMain
  split
  · rename_i nothing
    rw [ok_eq_ok_iff, nothing]
  · rename_i file file_eq
    rw [file_eq]
    split
    · rw [ok_eq_ok_iff]
    · rename_i unknown
      simp only [reduceCtorEq, false_iff]
      rintro ⟨sources_eq, main_eq, -⟩
      exact unknown (sources_eq ▸ result.main_mem file main_eq)

theorem ofSources_eq_ok_iff :
    ofSources sources main pages = .ok world ↔
      world.sources = sources ∧ world.main = main.or (sources.head?.map Source.id) ∧
        world.pages = pages := by
  unfold ofSources
  simp only [bind_eq_ok_iff]
  constructor
  · rintro ⟨filled, filled_eq, chosen, chosen_eq, world_eq⟩
    obtain ⟨filled_sources, -, -⟩ := addAll_eq_ok_iff.1 filled_eq
    obtain ⟨chosen_sources, chosen_main, -⟩ := withMain_eq_ok_iff.1 chosen_eq
    obtain rfl := Except.ok.inj world_eq
    refine ⟨chosen_sources.trans filled_sources, ?_, rfl⟩
    rw [chosen_main, files, filled_sources, List.head?_map]
    rfl
  · rintro ⟨rfl, main_eq, rfl⟩
    have filled : empty.addAll world.sources =
        .ok { world with main := none, pages := none, main_mem := by simp } :=
      addAll_eq_ok_iff.2 ⟨rfl, rfl, rfl⟩
    have chosen : withMain { world with main := none, pages := none, main_mem := by simp } main =
        .ok { world with pages := none } := by
      refine withMain_eq_ok_iff.2 ⟨rfl, ?_, rfl⟩
      rw [files, List.head?_map]
      exact main_eq
    exact ⟨_, filled, _, chosen, rfl⟩

end World

/-! ## What dumps say -/

/-- A source is of a file of a dump: it has the name and the tree of the file and the text of the
tree, which is also the text that the dump repeats, if it does. -/
structure Source.IsOf (source : Source) (file : FileDump) : Prop where
  id_eq : source.id = file.id
  tree_eq : source.tree = file.root
  text_eq : source.text = file.root.fullText
  given_eq : ∀ given, file.text = some given → source.text = given

/-- A world holds what a dump says. -/
structure World.Holds (world : World) (dump : Dump) : Prop where
  sources : List.Forall₂ (fun file (source : Source) => source.IsOf file) dump.files world.sources
  main_eq : world.main = dump.main.or (dump.files.head?.map FileDump.id)
  pages_eq : world.pages = dump.pages

/-- What a file of a dump says is what its source holds, if the text is right that it repeats. -/
theorem Source.ofTree_eq_iff_isOf {file : FileDump} {source : Source}
    (agrees : ∀ given ∈ file.text, given = file.root.fullText) :
    Source.ofTree file.id file.root = source ↔ source.IsOf file := by
  constructor
  · rintro rfl
    exact ⟨rfl, rfl, rfl, fun given mem => (agrees given mem).symm⟩
  · rintro ⟨id_eq, tree_eq, -, -⟩
    rw [source.eq_ofTree, id_eq, tree_eq]

namespace Spelling

variable {spelling : Spelling} {file : FileDump} {source : Source}

/-- A spelling is that of a source, or half a pair is in it, or the text that is given is another
than that of the tree. -/
theorem exact_cases (spelling : Spelling) :
    spelling.IsExact ∨ spelling.IsHalved ∨ ∃ given ∈ spelling.given, given ≠ spelling.tree := by
  by_cases agrees : ∀ given ∈ spelling.given, given = spelling.tree
  · by_cases whole : ∀ code ∈ spelling.tree, Json.isHalf code = false
    · exact .inl ⟨agrees, whole⟩
    · refine .inr (.inl ⟨agrees, ?_⟩)
      simpa using whole
  · refine .inr (.inr ?_)
    simpa using agrees

theorem IsExact.not_isHalved (exact : spelling.IsExact) : ¬ spelling.IsHalved := by
  rintro ⟨-, code, mem, is_half⟩
  rw [exact.whole code mem] at is_half
  contradiction

theorem any_given_eq_false (agrees : ∀ given ∈ spelling.given, given = spelling.tree) :
    spelling.given.any (fun given => decide (given ≠ spelling.tree)) = false := by
  cases given_eq : spelling.given with
  | none => rfl
  | some given => simpa using agrees given given_eq

theorem IsExact.agrees_shown (exact : spelling.IsExact) (shows : spelling.Shows file) :
    ∀ given ∈ file.text, given = file.root.fullText := by
  intro shown mem
  rw [← shows.given_eq] at mem
  obtain ⟨given, given_eq, rfl⟩ := Option.map_eq_some_iff.1 mem
  rw [exact.agrees given given_eq, shows.tree_eq]

end Spelling

namespace World

/-- Whether an error is reported as one of the document. -/
def LoadError.isReported : LoadError → Bool
  | .document _ => true
  | .unusablePath | .notText | .halvedText | .unreadable _ => false

variable {spelling : Spelling} {spellings : List Spelling} {file : FileDump} {source : Source}
  {dump : Dump} {world : World}

theorem sourceOf_of_isExact (exact : spelling.IsExact) :
    sourceOf file spelling = .ok (.ofTree file.id file.root) := by
  have whole : spelling.tree.any Json.isHalf = false := by simpa using exact.whole
  rw [sourceOf, Spelling.any_given_eq_false exact.agrees, whole]
  rfl

theorem sourceOf_of_isHalved (halved : spelling.IsHalved) :
    sourceOf file spelling = .error .halvedText := by
  have found : spelling.tree.any Json.isHalf = true := List.any_eq_true.2 halved.halved
  rw [sourceOf, Spelling.any_given_eq_false halved.agrees, found]
  rfl

theorem sourceOf_of_differs (differs : ∃ given ∈ spelling.given, given ≠ spelling.tree) :
    sourceOf file spelling = .error (.document (.textDiffers file.id)) := by
  obtain ⟨given, given_eq, other⟩ := differs
  have found : spelling.given.any (fun given => decide (given ≠ spelling.tree)) = true := by
    rw [Option.mem_def.1 given_eq]
    simpa using other
  rw [sourceOf, if_pos found]

theorem sourceOf_eq_ok_iff :
    sourceOf file spelling = .ok source ↔
      spelling.IsExact ∧ Source.ofTree file.id file.root = source := by
  rcases spelling.exact_cases with exact | halved | differs
  · rw [sourceOf_of_isExact exact, Except.ok.injEq]
    exact (and_iff_right exact).symm
  · rw [sourceOf_of_isHalved halved]
    simpa using fun exact => absurd halved exact.not_isHalved
  · rw [sourceOf_of_differs differs]
    obtain ⟨given, given_eq, other⟩ := differs
    simpa using fun exact => absurd (exact.agrees given given_eq) other

theorem sourceOf_eq_ok_iff_isOf (shows : spelling.Shows file) :
    sourceOf file spelling = .ok source ↔ spelling.IsExact ∧ source.IsOf file := by
  rw [sourceOf_eq_ok_iff]
  exact and_congr_right fun exact => Source.ofTree_eq_iff_isOf (exact.agrees_shown shows)

/-- No source is made of half a pair, which is not reported. -/
theorem sourceOf_escapes_iff :
    (∃ error, sourceOf file spelling = .error error ∧ error.isReported = false) ↔
      spelling.IsHalved := by
  rcases spelling.exact_cases with exact | halved | differs
  · rw [sourceOf_of_isExact exact]
    simpa using exact.not_isHalved
  · rw [sourceOf_of_isHalved halved]
    exact iff_of_true ⟨_, rfl, rfl⟩ halved
  · rw [sourceOf_of_differs differs]
    obtain ⟨given, given_eq, other⟩ := differs
    refine iff_of_false ?_ fun halved => other (halved.agrees given given_eq)
    rintro ⟨error, refused, unreported⟩
    obtain rfl := Except.error.inj refused
    contradiction

/-- Sources are made of all files of a dump exactly if each file spells one. -/
theorem mapM_sourceOf_eq_ok_iff {files : List FileDump} {sources : List Source}
    (shows : List.Forall₂ Spelling.Shows spellings files) :
    (files.zip spellings).mapM (Function.uncurry sourceOf) = .ok sources ↔
      (∀ spelling ∈ spellings, spelling.IsExact) ∧
        List.Forall₂ (fun file (source : Source) => source.IsOf file) files sources := by
  induction shows generalizing sources with
  | nil => cases sources <;> simp [pure, Except.pure]
  | cons first _ induction =>
      rw [List.zip_cons_cons, mapM_cons_eq_ok_iff, List.forall_mem_cons,
        List.forall₂_cons_left_iff]
      constructor
      · rintro ⟨source, others, source_eq, others_eq, rfl⟩
        obtain ⟨exact, is_of⟩ := (sourceOf_eq_ok_iff_isOf first).1 source_eq
        obtain ⟨all_exact, each⟩ := induction.1 others_eq
        exact ⟨⟨exact, all_exact⟩, source, others, is_of, each, rfl⟩
      · rintro ⟨⟨exact, all_exact⟩, source, others, is_of, each, rfl⟩
        exact ⟨source, others, (sourceOf_eq_ok_iff_isOf first).2 ⟨exact, is_of⟩,
          induction.2 ⟨all_exact, each⟩, rfl⟩

theorem head?_map_id_of_isOf {files : List FileDump} {sources : List Source}
    (each : List.Forall₂ (fun file (source : Source) => source.IsOf file) files sources) :
    sources.head?.map Source.id = files.head?.map FileDump.id := by
  cases each with
  | nil => rfl
  | cons first _ => exact congrArg some first.id_eq

/-- A dump comes to the world that holds what it says, if each of its files spells a source. -/
theorem ofDump_eq_ok_iff (shows : List.Forall₂ Spelling.Shows spellings dump.files) :
    ofDump spellings dump = .ok world ↔
      (∀ spelling ∈ spellings, spelling.IsExact) ∧ world.Holds dump := by
  simp only [ofDump, bind_eq_ok_iff, mapM_sourceOf_eq_ok_iff shows, mapError_eq_ok_iff,
    ofSources_eq_ok_iff]
  constructor
  · rintro ⟨sources, ⟨exact, each⟩, rfl, main_eq, pages_eq⟩
    exact ⟨exact, each, by rw [main_eq, head?_map_id_of_isOf each], pages_eq⟩
  · rintro ⟨exact, each, main_eq, pages_eq⟩
    exact ⟨_, ⟨exact, each⟩, rfl, by rw [main_eq, head?_map_id_of_isOf each], pages_eq⟩

/-- Making sources stops at the first file that does not spell one, and half a pair in it is not
reported. -/
theorem mapM_sourceOf_escapes_iff {pairs : List (FileDump × Spelling)} :
    (∃ error, pairs.mapM (Function.uncurry sourceOf) = .error error ∧ error.isReported = false) ↔
      ∃ before spelling after, pairs.map Prod.snd = before ++ spelling :: after ∧
        (∀ earlier ∈ before, earlier.IsExact) ∧ spelling.IsHalved := by
  simp only [mapM_eq_error_iff]
  constructor
  · rintro ⟨error, ⟨before, ⟨file, spelling⟩, after, rfl, made, refused⟩, unreported⟩
    refine ⟨before.map Prod.snd, spelling, after.map Prod.snd, by simp, ?_, ?_⟩
    · rw [List.forall_mem_map]
      intro earlier mem
      obtain ⟨source, source_eq⟩ := made earlier mem
      exact (sourceOf_eq_ok_iff.1 source_eq).1
    · exact sourceOf_escapes_iff.1 ⟨error, refused, unreported⟩
  · rintro ⟨before, spelling, after, spelled, exact, halved⟩
    obtain ⟨front, back, rfl, rfl, back_eq⟩ := List.map_eq_append_iff.1 spelled
    obtain ⟨⟨file, spelling⟩, rest, rfl, rfl, -⟩ := List.map_eq_cons_iff.1 back_eq
    refine ⟨.halvedText, ⟨front, _, rest, rfl, ?_, sourceOf_of_isHalved halved⟩, rfl⟩
    intro earlier mem
    exact ⟨_, sourceOf_of_isExact (exact _ (List.mem_map_of_mem mem))⟩

/-- Of a dump, half a pair in the first file that does not spell a source is not reported. -/
theorem ofDump_escapes_iff (shows : List.Forall₂ Spelling.Shows spellings dump.files) :
    (∃ error, ofDump spellings dump = .error error ∧ error.isReported = false) ↔
      ∃ before spelling after, spellings = before ++ spelling :: after ∧
        (∀ earlier ∈ before, earlier.IsExact) ∧ spelling.IsHalved := by
  have spelled : (dump.files.zip spellings).map Prod.snd = spellings :=
    List.map_snd_zip (Nat.le_of_eq shows.length_eq)
  rw [← spelled, ← mapM_sourceOf_escapes_iff, spelled]
  simp only [ofDump, bind_eq_error_iff, mapError_eq_error_iff]
  constructor
  · rintro ⟨error, refused | ⟨sources, -, reported, -, rfl⟩, unreported⟩
    · exact ⟨error, refused, unreported⟩
    · contradiction
  · rintro ⟨error, refused, unreported⟩
    exact ⟨error, .inl refused, unreported⟩

end World
end ProseCheck
