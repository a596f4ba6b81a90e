import ProseCheck.Proofs.Check.Remote
import ProseCheck.Proofs.Json.Written
import ProseCheck.Proofs.Location.Verbatim
import ProseCheck.Proofs.Prose.Conversion
import ProseCheck.Proofs.Prose.Normal
import ProseCheck.Proofs.Reading
import ProseCheck.Proofs.Server.Reply

/-!
# From a match to the word in the file

A server counts 16-bit units of a stream, a chunk counts characters, and a file counts octets, and
blanks may be shorter in the stream than in the file.  A word of the stream stands in one run of the
text all the same, so a match of it is located at the octets of that very word.
-/

namespace ProseCheck

theorem Diagnostic.exists_ofSuggestion? (suggestion : Suggestion) {locations : List Location}
    (located : locations ≠ []) :
    ∃ diagnostic, ofSuggestion? suggestion locations = some diagnostic ∧
      diagnostic.locations = locations :=
  ⟨_, dif_pos located, rfl⟩

theorem Assignment.mem_of_unlessEmpty {names : List String} {name : String}
    (mem : name ∈ (unlessEmpty names).getD []) : name ∈ names := by
  unfold unlessEmpty at mem
  split at mem
  · simp at mem
  · simpa using mem

namespace Prose

/-- A numbered run of a text is found in its file at its octets, in no call. -/
theorem exists_found_nodeAt (file : FileId) {text : Text} {front back : List (Text × Nat)}
    {run : Text × Nat} (numbered_eq : numbered text = front ++ run :: back) :
    ∃ placed, (World.ofProse file text).find? ⟨some file, run.2⟩ = some placed ∧
      placed.node = nodeAt file run ∧
        placed.start = Utf8.size (front.map Prod.fst).flatten ∧
          ∀ ignored, placed.isIgnored ignored = false := by
  have children_eq : (Source.ofTree file (parse text)).root.children =
      front.map (nodeAt file) ++ nodeAt file run :: back.map (nodeAt file) := by
    rw [root_ofTree_parse, numbered_eq, List.map_append, List.map_cons]
  have earlier : (front.map (nodeAt file)).flatMap Node.fullText =
      (front.map Prod.fst).flatten := by
    rw [List.flatMap_map, ← List.flatMap_id, List.flatMap_map]
    exact List.flatMap_congr fun other _ => Node.fullText_of_childless rfl
  have placed_mem := Source.mem_places_of_children children_eq
  rw [earlier] at placed_mem
  have listed : Source.ofTree file (parse text) ∈ (World.ofProse file text).sources := by
    simp [World.ofProse]
  refine ⟨_, World.find?_of_mem_places listed placed_mem, rfl, rfl, fun ignored => ?_⟩
  rw [Placed.isIgnored_eq_false_iff]
  intro node node_mem name _
  rcases List.mem_cons.1 node_mem with rfl | node_mem
  · simp [nodeAt, Node.callee?]
  · obtain rfl := List.mem_singleton.1 node_mem
    simp [root_ofTree_parse, Node.callee?]

/-- The marks of a word of a portion follow as many others as there are characters before it. -/
theorem exists_marks_of_word (file : FileId) (front back : List (Text × Nat)) {run : Text}
    (number : Nat) (not_blank : Text.isBlankText run = false) {before word after : Text}
    (run_eq : run = before ++ word ++ after) :
    ∃ earlier later,
      ((front ++ (run, number) :: back).map (pieceAt file)).flatMap Piece.marks =
          earlier ++ Mark.verbatim ⟨some file, number⟩ (Utf8.size before) word ++ later ∧
        earlier.length = ((front.map Prod.fst).flatMap normalRun ++ before).length := by
  -- The run is taken as it stands, and the word with it.
  have piece_eq : pieceAt file (run, number) = .plain run (some ⟨some file, number⟩) 0 := by
    simp [pieceAt, piece, normalRun, kindOf, not_blank]
  have stream_eq : ((front.map (pieceAt file)).flatMap Piece.marks).map Mark.char =
      (front.map Prod.fst).flatMap normalRun := by
    rw [← Piece.stream_eq_map_marks]
    simp [Piece.stream, List.flatMap_map, pieceAt]
  refine ⟨(front.map (pieceAt file)).flatMap Piece.marks ++
      Mark.verbatim ⟨some file, number⟩ 0 before,
    Mark.verbatim ⟨some file, number⟩ (Utf8.size before + Utf8.size word) after ++
      (back.map (pieceAt file)).flatMap Piece.marks, ?_, ?_⟩
  · rw [List.map_append, List.flatMap_append, List.map_cons, List.flatMap_cons, piece_eq,
      Piece.marks, run_eq, Mark.verbatim_append, Mark.verbatim_append]
    simp
  · rw [← List.length_map Mark.char, List.map_append, stream_eq, Mark.map_char_verbatim]

/-- A word of a chunk has one location, at its octets in the file. -/
theorem locations_of_word (options : Options) {file : FileId} {text : Text}
    {earlier later front back : List (Text × Nat)} {run : Text} {number : Nat}
    (numbered_eq : numbered text = earlier ++ (front ++ (run, number) :: back) ++ later)
    (not_blank : Text.isBlankText run = false) {before word after : Text}
    (run_eq : run = before ++ word ++ after) (nonempty : word ≠ []) {suggestion : Suggestion}
    (start_eq : suggestion.start = ((front.map Prod.fst).flatMap normalRun ++ before).length)
    (stop_eq : suggestion.stop = suggestion.start + word.length) (ignored : List String) :
    (chunkOf file options.language (front ++ (run, number) :: back)).map.locations
        (World.ofProse file text) (some file) ignored suggestion =
      [⟨file, Utf8.size (((earlier ++ front).map Prod.fst).flatten ++ before),
        Utf8.size (((earlier ++ front).map Prod.fst).flatten ++ before ++ word)⟩] := by
  have map_eq : (chunkOf file options.language (front ++ (run, number) :: back)).map =
      Piece.positionMap ((front ++ (run, number) :: back).map (pieceAt file)) := rfl
  have placed_eq : numbered text = (earlier ++ front) ++ (run, number) :: (back ++ later) := by
    rw [numbered_eq]
    simp
  obtain ⟨placed, found, node_eq, placed_start, shown⟩ := exists_found_nodeAt file placed_eq
  have is_text : placed.node.kind = .text := by
    rw [node_eq, nodeAt]
    simp [kindOf, not_blank]
  obtain ⟨marks, others, marks_eq, length_eq⟩ :=
    exists_marks_of_word file front back number not_blank run_eq
  rw [← length_eq] at start_eq
  rw [start_eq] at stop_eq
  rw [map_eq, PositionMap.locations_of_verbatim (Piece.reads_entries _)
    (Piece.stream_eq_map_marks _) marks_eq nonempty rfl found is_text (shown ignored) start_eq
    stop_eq, placed_start]
  simp [Int.add_assoc]

/-- The runs of a chunk stand between those of the chunks before and behind it. -/
theorem exists_portion (options : Options) {file : FileId} (named : file ≠ "") {text : Text}
    {place : Nat} {chunk : Chunk} (chunk_eq : (chunks options file text)[place]? = some chunk) :
    ∃ earlier portion later, numbered text = earlier ++ portion ++ later ∧
      chunk = chunkOf file options.language portion ∧
        ((chunks options file text).take place).flatMap Chunk.stream =
            (earlier.map Prod.fst).flatMap normalRun ∧
          ((chunks options file text).drop (place + 1)).flatMap Chunk.stream =
            (later.map Prod.fst).flatMap normalRun := by
  rw [chunks_eq_map_portions options named] at chunk_eq ⊢
  rw [List.getElem?_map, Option.map_eq_some_iff] at chunk_eq
  obtain ⟨portion, portion_eq, rfl⟩ := chunk_eq
  obtain ⟨inside, rfl⟩ := List.getElem?_eq_some_iff.1 portion_eq
  refine ⟨((portions options.chunkSize text).take place).flatten, _,
    ((portions options.chunkSize text).drop (place + 1)).flatten, ?_, rfl, ?_, ?_⟩
  · calc
      numbered text = ((portions options.chunkSize text).take place ++
          (portions options.chunkSize text)[place] ::
            (portions options.chunkSize text).drop (place + 1)).flatten := by
        rw [List.getElem_cons_drop, List.take_append_drop, flatten_portions]
      _ = _ := by rw [List.flatten_append, List.flatten_cons, List.append_assoc]
  · rw [← List.map_take, flatMap_stream_map_chunkOf]
  · rw [← List.map_drop, flatMap_stream_map_chunkOf]

section

variable {options : Options} {file : FileId} (named : file ≠ "") {text : Text} {place : Nat}
  {chunk : Chunk} (chunk_eq : (chunks options file text)[place]? = some chunk)
  {left word right : Text} (stream_eq : chunk.stream = left ++ word ++ right)
  (nonempty : word ≠ []) (solid : ∀ char ∈ word, Text.isBlank char = false)
include named chunk_eq stream_eq nonempty solid

/-- A word of a stream stands once in the text for it, and every suggestion about it is located
there. -/
theorem exists_occurrence :
    ∃ before after, text = before ++ word ++ after ∧
      normal before = ((chunks options file text).take place).flatMap Chunk.stream ++ left ∧
      normal after = right ++ ((chunks options file text).drop (place + 1)).flatMap Chunk.stream ∧
      ∀ ignored suggestion, suggestion.start = left.length →
        suggestion.stop = left.length + word.length →
          chunk.map.locations (World.ofProse file text) (some file) ignored suggestion =
            [⟨file, Utf8.size before, Utf8.size (before ++ word)⟩] := by
  obtain ⟨earlier, portion, later, numbered_eq, rfl, earlier_eq, later_eq⟩ :=
    exists_portion options named chunk_eq
  have runs_eq : runs text =
      earlier.map Prod.fst ++ portion.map Prod.fst ++ later.map Prod.fst := by
    rw [← List.map_append, ← List.map_append, ← numbered_eq, numbered, List.zipIdx_map_fst]
  have alternates := alternates_runs text
  rw [runs_eq] at alternates
  rw [stream_chunkOf] at stream_eq
  obtain ⟨front, run, back, before, after, portion_eq, not_blank, run_eq, rfl, rfl⟩ :=
    exists_run_of_word (alternates.of_append.1.of_append.2) nonempty solid stream_eq
  obtain ⟨frontRuns, others, rfl, rfl, others_eq⟩ := List.map_eq_append_iff.1 portion_eq
  obtain ⟨⟨run, number⟩, backRuns, rfl, rfl, rfl⟩ := List.map_eq_cons_iff.1 others_eq
  have split_eq : runs text = (earlier ++ frontRuns).map Prod.fst ++
      run :: (backRuns ++ later).map Prod.fst := by
    rw [runs_eq]
    simp
  have around := alternates_runs text
  rw [split_eq] at around
  obtain ⟨normal_before, normal_after⟩ := normal_around_word around not_blank run_eq
  refine ⟨((earlier ++ frontRuns).map Prod.fst).flatten ++ before,
    after ++ ((backRuns ++ later).map Prod.fst).flatten, ?_, ?_, ?_, ?_⟩
  · conv_lhs => rw [← flatten_runs text, split_eq]
    rw [List.flatten_append, List.flatten_cons, show run = before ++ word ++ after from run_eq]
    simp only [List.append_assoc]
  · rw [normal_before, earlier_eq]
    simp
  · rw [normal_after, later_eq]
    simp
  · intro ignored suggestion start_eq stop_eq
    rw [← start_eq] at stop_eq
    exact locations_of_word options numbered_eq not_blank run_eq nonempty start_eq stop_eq
      ignored

/-- From a match of a server to the octets of the file.  Let a word stand in the stream of a chunk,
in one text leaf since none of its characters is blank, and let it be no allowed word.  If all
replies are well formed and the one for the chunk holds a match at the units of the word, then a
check without a cache succeeds and reports what the match says of exactly one location: the octets
of that very occurrence, behind a text whose normal form is what comes before the word in the
streams. -/
theorem match_locates_word {Key : Type} [DecidableEq Key] (keyOf : Text → String → Key)
    {client : Client} (reachable : client.url? ≠ none) {transmissions : Nat → Transmission}
    (replies : ∀ call < (chunks options file text).length,
      ∃ found, (transmissions call).Brings found)
    (unknown : String.ofList word ∉ client.allowedWords ∧ String.ofList word ∉ options.dictionary)
    {found : List Json.Members} (brings : (transmissions place).Brings found)
    {members : Json.Members} (mem : members ∈ found)
    (offset : members.get? "offset" = some (.int (Units.size left)))
    (length : members.get? "length" = some (.int (Units.size word))) :
    ∃ before after said diagnostic report cache,
      text = before ++ word ++ after ∧
      normal before = ((chunks options file text).take place).flatMap Chunk.stream ++ left ∧
      normal after = right ++ ((chunks options file text).drop (place + 1)).flatMap Chunk.stream ∧
      Reply.suggestion members left.length (left.length + word.length) = .ok said ∧
      (Check.run keyOf (client.server transmissions) 0 ⟨.ofProse file text, options, false⟩
        .empty).1 = .ok (report, cache) ∧
      diagnostic ∈ report.diagnostics ∧
      Diagnostic.ofSuggestion? said diagnostic.locations = some diagnostic ∧
      diagnostic.locations = [⟨file, Utf8.size before, Utf8.size (before ++ word)⟩] ∧
      Utf8.decode? (Slice.between (Utf8.encode text) (Utf8.size before)
        (Utf8.size (before ++ word))) = some word := by
  obtain ⟨before, after, text_eq, normal_before, normal_after, located⟩ :=
    exists_occurrence named chunk_eq stream_eq nonempty solid
  let assignment : Assignment := ⟨.ofProse file text, options, false⟩
  have request_text : (assignment.request chunk).text = left ++ word ++ right := by
    rw [← stream_eq]
    exact World.text_request_of_mem_chunks (List.mem_of_getElem? chunk_eq) _ _
  have not_allowed : String.ofList word ∉ client.allowed (assignment.request chunk) := by
    rw [Client.allowed, Client.mem_foldl_addName, not_or]
    exact ⟨unknown.1, fun listed => unknown.2 (Assignment.mem_of_unlessEmpty listed)⟩
  -- The match makes a suggestion on the characters of the word.
  obtain ⟨said, said_eq, start_eq, stop_eq, match_eq⟩ :=
    (brings.wellFormed members mem).exists_suggestion_of_word offset length not_allowed
  obtain ⟨answer, answer_eq, told⟩ :=
    Client.exists_answer reachable (assignment.request chunk) brings
  rw [request_text] at told
  have said_mem : said ∈ answer := told members mem said match_eq
  -- The suggestion is located at the octets of the word and reported.
  have locations_eq := located options.ignoreFunctions said start_eq stop_eq
  obtain ⟨diagnostic, diagnostic_eq, diagnostic_locations⟩ :=
    Diagnostic.exists_ofSuggestion? said (List.cons_ne_nil
      (⟨file, Utf8.size before, Utf8.size (before ++ word)⟩ : Location) [])
  have locate_eq : chunk.locate? assignment.scope said = some diagnostic := by
    rw [Chunk.locate?, ← diagnostic_eq, ← locations_eq]
    rfl
  have answers : ∀ call other, assignment.chunks[call]? = some other →
      ∃ answer, client.send (assignment.request other) (transmissions call) = .ok answer := by
    intro call other other_eq
    obtain ⟨inside, -⟩ := List.getElem?_eq_some_iff.1 other_eq
    obtain ⟨found, brings⟩ := replies call inside
    obtain ⟨answer, answer_eq, -⟩ :=
      Client.exists_answer reachable (assignment.request other) brings
    exact ⟨answer, answer_eq⟩
  obtain ⟨report, cache, run_eq, reported⟩ := Check.run_of_answers keyOf answers
  have diagnostic_mem : diagnostic ∈ report.diagnostics :=
    reported place chunk chunk_eq answer answer_eq
      (List.mem_filterMap.2 ⟨said, said_mem, locate_eq⟩)
  refine ⟨before, after, said, diagnostic, report, cache, text_eq, normal_before, normal_after,
    said_eq, run_eq, diagnostic_mem, ?_, diagnostic_locations, ?_⟩
  · rw [diagnostic_locations, diagnostic_eq]
  · rw [text_eq]
    exact Utf8.decode?_between before word after

end

/-- Replies of which the second lists a match of four units behind four units. -/
def matchOnSecond (call : Nat) : Transmission :=
  .reply 200 (Utf8.encode (if call = 1
    then "\x7b\"matches\":[\x7b\"offset\":4,\"length\":4\x7d]\x7d".toList
    else "\x7b\x7d".toList))

theorem matchOnSecond_brings :
    (matchOnSecond 1).Brings [[("offset", .int 4), ("length", .int 4)]] := by
  have read : Client.readBody (Utf8.encode
      "\x7b\"matches\":[\x7b\"offset\":4,\"length\":4\x7d]\x7d".toList) =
        .ok (.obj [("matches", .arr [.obj [("offset", .int 4), ("length", .int 4)]])]) :=
    Reading.eq_ok_of_any Json.eq_of_isSame (by decide +kernel)
  refine ⟨⟨200, _, _, rfl, by decide, by decide, read, .inl rfl⟩, fun members mem => ?_⟩
  obtain rfl := List.mem_singleton.1 mem
  constructor
  case offset => exact ⟨4, rfl⟩
  case length => exact ⟨4, rfl⟩
  case message => exact Json.Members.isText_of_get?_eq_none rfl
  case rule =>
    exact ⟨[], .inr ⟨rfl, .inl rfl⟩, Json.Members.isText_of_get?_eq_none rfl,
      Json.Members.isText_of_get?_eq_none rfl⟩
  case replacements => exact ⟨[], .inr ⟨rfl, .inl rfl⟩, by simp⟩

theorem exists_matchOnSecond_brings (call : Nat) : ∃ found, (matchOnSecond call).Brings found := by
  by_cases second : call = 1
  · exact ⟨_, second ▸ matchOnSecond_brings⟩
  · have read : Client.readBody (Utf8.encode "\x7b\x7d".toList) = .ok (.obj []) :=
      Reading.eq_ok_of_any Json.eq_of_isSame (by decide +kernel)
    refine ⟨[], ⟨200, _, [], rfl, by decide, by decide, ?_, .inr ⟨rfl, .inl rfl⟩⟩, by simp⟩
    rwa [if_neg second]

/-- A misspelt word behind a cut, a shortened paragraph break and a character of two units. -/
theorem match_locates_word_misspelt :
    ∃ chunk, (chunks shortChunks "main.txt" "ab\n \n😀x wrod".toList)[1]? = some chunk ∧
      chunk.stream = "😀x ".toList ++ "wrod".toList ++ [] ∧
      (Client.ofHost "http://localhost" "8081").url? ≠ none ∧
      ∃ diagnostic report cache,
        (Check.run Prod.mk ((Client.ofHost "http://localhost" "8081").server matchOnSecond) 0
          ⟨.ofProse "main.txt" "ab\n \n😀x wrod".toList, shortChunks, false⟩ .empty).1 =
            .ok (report, cache) ∧
        diagnostic ∈ report.diagnostics ∧
        (diagnostic.locations.map fun location => Utf8.decode? (Slice.between
          (Utf8.encode "ab\n \n😀x wrod".toList) location.start location.stop)) =
            [some "wrod".toList] := by
  have named : ("main.txt" : FileId) ≠ "" := by decide
  have streams : (chunks shortChunks "main.txt" "ab\n \n😀x wrod".toList).map Chunk.stream =
      ["ab\n\n".toList, "😀x wrod".toList] := by
    rw [map_stream_chunks shortChunks named]
    decide
  have second := congrArg (fun streams => streams[1]?) streams
  rw [List.getElem?_map] at second
  obtain ⟨chunk, chunk_eq, stream_eq⟩ := Option.map_eq_some_iff.1 second
  have parts : chunk.stream = "😀x ".toList ++ "wrod".toList ++ [] := by
    rw [stream_eq]
    decide
  have solid : ∀ char ∈ "wrod".toList, Text.isBlank char = false := by
    have all_solid : ("wrod".toList.all fun char => !Text.isBlank char) = true := by decide
    intro char mem
    simpa using List.all_eq_true.1 all_solid char mem
  have reachable : (Client.ofHost "http://localhost" "8081").url? ≠ none := by decide +kernel
  obtain ⟨before, -, -, diagnostic, report, cache, -, -, -, -, run_eq, mem, -, located, decoded⟩ :=
    match_locates_word named chunk_eq parts (by decide) solid Prod.mk reachable
      (fun call _ => exists_matchOnSecond_brings call) (by decide) matchOnSecond_brings
      List.mem_cons_self rfl rfl
  refine ⟨chunk, chunk_eq, parts, reachable, diagnostic, report, cache, run_eq, mem, ?_⟩
  rw [located, List.map_singleton, decoded]

end Prose
end ProseCheck
