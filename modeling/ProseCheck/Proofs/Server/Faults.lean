import ProseCheck.Proofs.Server.Reply

/-!
# Errors that escape

Reading a reply ends with suggestions or with an error, and an error that is not reported as one of
the server escapes.  Whether one does is told by the reply: matches are read in order, so it is the
first one that cannot be read that decides.  It is reported if its offset or length is no number,
and it escapes if one of these is infinite or what the match says is not text.
-/

namespace ProseCheck

namespace Json

/-- A value that has items, characters or names to go through. -/
inductive IsListing : Json → Prop where
  | arr (items : List Json) : IsListing (.arr items)
  | str (value : String) : IsListing (.str value)
  | halved (codes : List Nat) : IsListing (.halved codes)
  | obj (members : Members) : IsListing (.obj members)

namespace Members

variable (members : Members) (name : String)

/-- A member that is a double beyond all integers. -/
def IsUnbounded : Prop :=
  ∃ value, members.get? name = some (.float value) ∧ Decimal.truncate? value = none ∧
    value.isNaN = false

end Members
end Json

namespace Reply

open Reading

/-! ## Readings that escape -/

section

variable {Source Item Value : Type}

/-- A reading that ends with an error that is not reported as one of the server. -/
def Escapes (read : Except ServerError Value) : Prop :=
  ∃ error, read = .error error ∧ error.isReported = false

@[simp]
theorem not_escapes_ok (value : Value) : ¬ Escapes (.ok value : Except ServerError Value) := by
  simp [Escapes]

@[simp]
theorem escapes_error_iff {error : ServerError} :
    Escapes (.error error : Except ServerError Value) ↔ error.isReported = false := by
  simp [Escapes]

/-- A reading of which no error is reported. -/
def Unreported (read : Except ServerError Value) : Prop :=
  ∀ error, read = .error error → error.isReported = false

namespace Unreported

/-- Without reported errors, a reading escapes if it does not succeed. -/
theorem escapes_iff {read : Except ServerError Value} (unreported : Unreported read) :
    Escapes read ↔ ¬ ∃ value, read = .ok value := by
  cases read with
  | error error => simp [unreported error rfl]
  | ok value => simp

theorem bind {read : Except ServerError Source} {next : Source → Except ServerError Value}
    (first : Unreported read) (second : ∀ source, Unreported (next source)) :
    Unreported (read >>= next) := by
  cases read with
  | error error => exact fun _ same => first _ (Except.error.inj same ▸ rfl)
  | ok source => exact second source

theorem mapM {read : Item → Except ServerError Value} (each : ∀ item, Unreported (read item))
    (items : List Item) : Unreported (items.mapM read) := by
  induction items with
  | nil => exact fun _ same => by contradiction
  | cons item rest induction =>
      rw [List.mapM_cons]
      refine (each item).bind fun value => induction.bind fun values => ?_
      intro _ same
      contradiction

end Unreported

/-- One reading after the other escapes if the first does, or the second on what the first read. -/
theorem escapes_bind_iff {read : Except ServerError Source}
    {next : Source → Except ServerError Value} :
    Escapes (read >>= next) ↔
      Escapes read ∨ ∃ source, read = .ok source ∧ Escapes (next source) := by
  cases read with
  | error error => simp [bind, Except.bind]
  | ok source => simp [bind, Except.bind]

theorem escapes_map_iff {change : Source → Value} {read : Except ServerError Source} :
    Escapes (change <$> read) ↔ Escapes read := by
  cases read with
  | error error => simp [Functor.map, Except.map]
  | ok source => simp [Functor.map, Except.map]

/-- Reading items in order escapes if the first one that cannot be read does. -/
theorem escapes_mapM_iff {read : Item → Except ServerError Value} {items : List Item} :
    Escapes (items.mapM read) ↔
      ∃ before item after, items = before ++ item :: after ∧
        (∀ earlier ∈ before, ∃ value, read earlier = .ok value) ∧ Escapes (read item) := by
  simp only [Escapes, mapM_eq_error_iff]
  constructor
  · rintro ⟨error, ⟨before, item, after, items_eq, readable, error_eq⟩, unreported⟩
    exact ⟨before, item, after, items_eq, readable, error, error_eq, unreported⟩
  · rintro ⟨before, item, after, items_eq, readable, error, error_eq, unreported⟩
    exact ⟨error, ⟨before, item, after, items_eq, readable, error_eq⟩, unreported⟩

end

/-! ## What escapes from a match -/

variable {members : Json.Members}

theorem escapes_number_iff {name : String} :
    Escapes (number members name) ↔ members.IsUnbounded name := by
  constructor
  · rintro ⟨error, read, unreported⟩
    unfold number at read
    split at read
    · contradiction
    · contradiction
    · rename_i value found
      split at read
      · contradiction
      · rename_i beyond
        refine ⟨value, found, beyond, ?_⟩
        by_contra is_nan
        rw [Bool.not_eq_false] at is_nan
        rw [if_pos is_nan] at read
        obtain rfl := Except.error.inj read
        contradiction
    · split at read
      · contradiction
      · obtain rfl := Except.error.inj read
        contradiction
    · obtain rfl := Except.error.inj read
      contradiction
  · rintro ⟨value, found, beyond, is_number⟩
    refine ⟨.unbounded, ?_, rfl⟩
    simp only [number, found, beyond, is_number]
    rfl

theorem unreported_rule (members : Json.Members) : Unreported (rule members) := by
  intro error read
  unfold rule at read
  split at read
  · contradiction
  · contradiction
  · split at read
    · contradiction
    · exact Except.error.inj read ▸ rfl

theorem unreported_replacement (item : Json) : Unreported (replacement item) := by
  intro error read
  unfold replacement at read
  split at read
  · contradiction
  · exact Except.error.inj read ▸ rfl

theorem unreported_replacements (members : Json.Members) : Unreported (replacements members) := by
  intro error read
  unfold replacements at read
  split at read
  · contradiction
  · exact Unreported.mapM unreported_replacement _ error read
  · split at read
    · contradiction
    · split at read <;> exact Except.error.inj read ▸ rfl

theorem unreported_suggestion (members : Json.Members) (start stop : Nat) :
    Unreported (suggestion members start stop) := by
  refine (unreported_rule members).bind fun rule => ?_
  refine (unreported_replacements members).bind fun replacements => ?_
  intro error made
  dsimp only at made
  split at made
  · contradiction
  · exact Except.error.inj made ▸ rfl

/-- What a match says escapes unless all of it is text. -/
theorem escapes_suggestion_iff {start stop : Nat} :
    Escapes (suggestion members start stop) ↔ ¬ Speaks members := by
  rw [(unreported_suggestion members start stop).escapes_iff, exists_suggestion_iff]

/-- A match that is read with an error that escapes: an infinite offset, an infinite length after an
offset that is a number, or a place with something said there that is not text. -/
inductive Faulty (allowed : List String) (text : Text) (members : Json.Members) : Prop where
  | offset (unbounded : members.IsUnbounded "offset")
  | length {offset : Int} (offset_eq : number members "offset" = .ok offset)
      (unbounded : members.IsUnbounded "length")
  | content {offset length : Int} (stands : Stands members offset length)
      (kept : isLeftOut allowed text offset length = false) (unspoken : ¬ Speaks members)

theorem escapes_ofMatch_obj_iff {allowed : List String} {text : Text} :
    Escapes (ofMatch allowed text (Units.offsets text) (.obj members)) ↔
      Faulty allowed text members := by
  constructor
  · intro escapes
    rw [ofMatch, escapes_bind_iff, escapes_number_iff] at escapes
    rcases escapes with unbounded | ⟨offset, offset_eq, escapes⟩
    · exact .offset unbounded
    · rw [escapes_bind_iff, escapes_number_iff] at escapes
      rcases escapes with unbounded | ⟨length, length_eq, escapes⟩
      · exact .length offset_eq unbounded
      · dsimp only at escapes
        split at escapes
        · exact absurd escapes (not_escapes_ok _)
        · rename_i kept
          rw [escapes_map_iff, escapes_suggestion_iff] at escapes
          exact .content ⟨offset_eq, length_eq⟩ (Bool.eq_false_iff.2 kept) escapes
  · rintro (unbounded | ⟨offset_eq, unbounded⟩ | ⟨stands, kept, unspoken⟩)
    · rw [ofMatch, escapes_bind_iff, escapes_number_iff]
      exact Or.inl unbounded
    · rw [ofMatch, escapes_bind_iff]
      refine Or.inr ⟨_, offset_eq, ?_⟩
      rw [escapes_bind_iff, escapes_number_iff]
      exact Or.inl unbounded
    · rw [ofMatch_of_stands stands, kept, if_neg Bool.false_ne_true, escapes_map_iff,
        escapes_suggestion_iff]
      exact unspoken

theorem escapes_ofMatch_iff {allowed : List String} {text : Text} {value : Json} :
    Escapes (ofMatch allowed text (Units.offsets text) value) ↔
      ∃ members, value = .obj members ∧ Faulty allowed text members := by
  cases value with
  | obj members => simp [escapes_ofMatch_obj_iff]
  | _ => simp [ofMatch, ServerError.isReported]

/-! ## What escapes from a reply -/

theorem escapes_listed_iff :
    Escapes (listed members) ↔
      ∃ value, members.get? "matches" = some value ∧ value.isBlank = false ∧ ¬ value.IsListing := by
  constructor
  · rintro ⟨error, read, unreported⟩
    unfold listed at read
    split at read
    · contradiction
    · contradiction
    · rename_i value no_list found
      split at read
      · contradiction
      · rename_i present
        refine ⟨value, found, Bool.eq_false_iff.2 present, ?_⟩
        rintro (items | written | codes | inner)
        · exact no_list items rfl
        · obtain rfl := Except.error.inj read
          contradiction
        · obtain rfl := Except.error.inj read
          contradiction
        · obtain rfl := Except.error.inj read
          contradiction
  · rintro ⟨value, found, present, unlisted⟩
    cases value with
    | arr items => exact absurd (.arr items) unlisted
    | str written => exact absurd (.str written) unlisted
    | halved codes => exact absurd (.halved codes) unlisted
    | obj inner => exact absurd (.obj inner) unlisted
    | _ => simp [listed, found, present, ServerError.isReported]

theorem get?_of_listed {items : List Json} (nonempty : items ≠ [])
    (read : listed members = .ok items) : members.get? "matches" = some (.arr items) := by
  unfold listed at read
  split at read
  · exact absurd (Except.ok.inj read).symm nonempty
  · rename_i found
    rw [found, Except.ok.inj read]
  · split at read
    · exact absurd (Except.ok.inj read).symm nonempty
    · split at read <;> contradiction

/-- A reply that is read with an error that escapes: what should list matches cannot be gone
through, or the first match that cannot be read is faulty. -/
inductive Unforeseen (allowed : List String) (text : Text) (members : Json.Members) : Prop where
  | listing {value : Json} (found : members.get? "matches" = some value)
      (present : value.isBlank = false) (unlisted : ¬ value.IsListing)
  | item {before after : List Json} {faulty : Json.Members}
      (found : members.get? "matches" = some (.arr (before ++ .obj faulty :: after)))
      (readable : ∀ earlier ∈ before,
        ∃ read, ofMatch allowed text (Units.offsets text) earlier = .ok read)
      (escapes : Faulty allowed text faulty)

theorem escapes_suggestions_obj_iff {allowed : List String} {text : Text} :
    Escapes (suggestions allowed text (.obj members)) ↔ Unforeseen allowed text members := by
  constructor
  · intro escapes
    rw [suggestions, escapes_bind_iff, escapes_listed_iff] at escapes
    rcases escapes with ⟨value, found, present, unlisted⟩ | ⟨items, items_eq, escapes⟩
    · exact .listing found present unlisted
    · rw [escapes_bind_iff] at escapes
      rcases escapes with escapes | ⟨found, -, escapes⟩
      · obtain ⟨before, value, after, rfl, readable, escapes⟩ := escapes_mapM_iff.1 escapes
        obtain ⟨faulty, rfl, is_faulty⟩ := escapes_ofMatch_iff.1 escapes
        exact .item (get?_of_listed (by simp) items_eq) readable is_faulty
      · exact absurd escapes (not_escapes_ok _)
  · rintro (⟨found, present, unlisted⟩ | @⟨before, after, faulty, found, readable, is_faulty⟩)
    · rw [suggestions, escapes_bind_iff, escapes_listed_iff]
      exact Or.inl ⟨_, found, present, unlisted⟩
    · have listed_eq : listed members = .ok (before ++ .obj faulty :: after) := by
        rw [listed, found]
      rw [suggestions, escapes_bind_iff]
      refine Or.inr ⟨_, listed_eq, ?_⟩
      rw [escapes_bind_iff, escapes_mapM_iff]
      exact Or.inl ⟨_, _, _, rfl, readable, escapes_ofMatch_obj_iff.2 is_faulty⟩

theorem escapes_suggestions_iff {allowed : List String} {text : Text} {payload : Json} :
    Escapes (suggestions allowed text payload) ↔
      ∃ members, payload = .obj members ∧ Unforeseen allowed text members := by
  cases payload with
  | obj members => simp [escapes_suggestions_obj_iff]
  | _ => simp [suggestions, ServerError.isReported]

end Reply

namespace Client

open Reply

theorem escapes_readBody_iff {body : List Nat} :
    Escapes (readBody body) ↔ readBody body = .error .tooDeep := by
  constructor
  · rintro ⟨error, read, unreported⟩
    unfold readBody at read ⊢
    split at read
    · obtain rfl := Except.error.inj read
      contradiction
    · split at read
      · contradiction
      · rfl
      all_goals
        obtain rfl := Except.error.inj read
        contradiction
  · intro deep
    rw [deep, escapes_error_iff]
    rfl

/-- A refused request is reported; of one that is served, the body decides. -/
theorem escapes_outcome_iff {client : Client} {request : Request} {status : Int}
    {body : List Nat} :
    Escapes (client.outcome request (.reply status body)) ↔
      200 ≤ status ∧ status < 300 ∧
        (readBody body = .error .tooDeep ∨
          ∃ members, readBody body = .ok (.obj members) ∧
            Unforeseen (client.allowed request) request.text members) := by
  by_cases accepted : 200 ≤ status ∧ status < 300
  · have not_refused : ¬ (status < 200 ∨ 300 ≤ status) := by omega
    rw [outcome, if_neg not_refused, escapes_bind_iff, escapes_readBody_iff]
    constructor
    · rintro (deep | ⟨payload, read, escapes⟩)
      · exact ⟨accepted.1, accepted.2, Or.inl deep⟩
      · obtain ⟨members, rfl, unforeseen⟩ := escapes_suggestions_iff.1 escapes
        exact ⟨accepted.1, accepted.2, Or.inr ⟨members, read, unforeseen⟩⟩
    · rintro ⟨-, -, deep | ⟨members, read, unforeseen⟩⟩
      · exact Or.inl deep
      · exact Or.inr ⟨_, read, escapes_suggestions_iff.2 ⟨members, rfl, unforeseen⟩⟩
  · have refused : status < 200 ∨ 300 ≤ status := by omega
    rw [outcome, if_pos refused, escapes_error_iff]
    constructor
    · intro unreported
      contradiction
    · rintro ⟨least, most, -⟩
      exact absurd ⟨least, most⟩ accepted

/-- The errors that escape, of reading a payload and of a request that is replied to.  All other
replies come to suggestions or to an error that is reported. -/
theorem escapes_iff_unforeseen (allowed : List String) (text : Text) (payload : Json)
    (client : Client) (request : Request) (status : Int) (body : List Nat) :
    (Escapes (suggestions allowed text payload) ↔
      ∃ members, payload = .obj members ∧ Unforeseen allowed text members) ∧
    (Escapes (client.outcome request (.reply status body)) ↔
      200 ≤ status ∧ status < 300 ∧
        (readBody body = .error .tooDeep ∨
          ∃ members, readBody body = .ok (.obj members) ∧
            Unforeseen (client.allowed request) request.text members)) :=
  ⟨escapes_suggestions_iff, escapes_outcome_iff⟩

/-- A message that is no text escapes, where the place of the match is read. -/
theorem escapes_nullMessage :
    Escapes (suggestions [] "Thiss is fine.".toList
      (.obj [("matches",
        .arr [.obj [("offset", .int 0), ("length", .int 5), ("message", .null)]])])) :=
  ⟨.invalidSuggestion [⟨.notString, [.field "message"]⟩], rfl, rfl⟩

end Client
end ProseCheck
