import Mathlib.Data.List.Destutter
import ProseCheck.Proofs.Layout.Runs
import ProseCheck.Proofs.Text.Octets

/-!
# What pages show

Pages show the runs of their items of text in the order of the document, and a group stands for the
items of its frame.  Of the glyphs of a run, one is left out exactly if its octets are among those
of the last glyph that is not.  Every other glyph shows what its octets of the text of the run
decode to.  Nothing of this asks where runs stand on a page.
-/

namespace ProseCheck
namespace Layout

/-! ## Runs of pages -/

/-- Items of a frame carry runs with glyphs, in this order. -/
inductive Carries : List FrameItem → List TextRun → Prop where
  | nil : Carries [] []
  /-- An item of text carries its run. -/
  | text {item : FrameItem} {run : TextRun} {rest : List FrameItem} {runs : List TextRun}
      (kind_eq : item.kind = "text") (run_eq : item.run = some run) (has_glyphs : run.glyphs ≠ [])
      (later : Carries rest runs) : Carries (item :: rest) (run :: runs)
  /-- A group carries what the items of its frame do. -/
  | group {item : FrameItem} {frame : Frame} {rest : List FrameItem} {inner runs : List TextRun}
      (kind_eq : item.kind = "group") (frame_eq : item.frame = some frame)
      (carries : Carries frame.items inner) (later : Carries rest runs) :
      Carries (item :: rest) (inner ++ runs)
  /-- Any other item carries nothing. -/
  | blank {item : FrameItem} {rest : List FrameItem} {runs : List TextRun}
      (no_text : ∀ run, item.kind = "text" → item.run = some run → run.glyphs = [])
      (no_group : ∀ frame, item.kind = "group" → item.frame ≠ some frame)
      (later : Carries rest runs) : Carries (item :: rest) runs

/-- Pages show runs with glyphs, in this order. -/
inductive Visits : List Page → List TextRun → Prop where
  | nil : Visits [] []
  | cons {page : Page} {rest : List Page} {runs later : List TextRun}
      (carries : Carries page.frame.items runs) (visits : Visits rest later) :
      Visits (page :: rest) (runs ++ later)

theorem runsOf_append (front back : List Step) :
    runsOf (front ++ back) = runsOf front ++ runsOf back := by
  simp [runsOf]

section Items

variable {item : FrameItem} (x y : Float)

theorem itemSteps_of_text (kind_eq : item.kind = "text") :
    itemSteps x y item = (item.run.map fun run => .run run (x + item.x) (y + item.y)).toList := by
  obtain ⟨dx, dy, kind, run, frame⟩ := item
  obtain rfl : kind = "text" := kind_eq
  cases frame <;> cases run <;> simp [itemSteps]

theorem itemSteps_of_group (kind_eq : item.kind = "group") :
    itemSteps x y item = item.frame.elim [] (frameSteps (x + item.x) (y + item.y)) := by
  obtain ⟨dx, dy, kind, run, frame⟩ := item
  obtain rfl : kind = "group" := kind_eq
  cases frame <;> cases run <;> simp [itemSteps]

theorem itemSteps_of_other (no_text : item.kind ≠ "text") (no_group : item.kind ≠ "group") :
    itemSteps x y item = [] := by
  obtain ⟨dx, dy, kind, run, frame⟩ := item
  cases frame <;> cases run <;> simp_all [itemSteps]

theorem runsOf_itemSteps_of_blank
    (no_text : ∀ run, item.kind = "text" → item.run = some run → run.glyphs = [])
    (no_group : ∀ frame, item.kind = "group" → item.frame ≠ some frame) :
    runsOf (itemSteps x y item) = [] := by
  by_cases text : item.kind = "text"
  · rw [itemSteps_of_text x y text]
    cases run_eq : item.run with
    | none => rfl
    | some run => simp [runsOf, Step.run?, no_text run text run_eq]
  · by_cases group : item.kind = "group"
    · have no_frame : item.frame = none :=
        Option.eq_none_iff_forall_ne_some.2 fun frame => no_group frame group
      rw [itemSteps_of_group x y group, no_frame]
      rfl
    · rw [itemSteps_of_other x y text group]
      rfl

/-- An item carries the runs of its steps, if its frame does. -/
theorem carries_cons {rest : List FrameItem} {runs : List TextRun} (later : Carries rest runs)
    (inner : ∀ frame, item.frame = some frame →
      Carries frame.items (runsOf (frameSteps (x + item.x) (y + item.y) frame))) :
    Carries (item :: rest) (runsOf (itemSteps x y item) ++ runs) := by
  by_cases text : ∃ run, item.kind = "text" ∧ item.run = some run ∧ run.glyphs ≠ []
  · obtain ⟨run, kind_eq, run_eq, has_glyphs⟩ := text
    have steps_eq : runsOf (itemSteps x y item) = [run] := by
      rw [itemSteps_of_text x y kind_eq, run_eq]
      exact runsOf_run_cons has_glyphs _ _ []
    rw [steps_eq]
    exact .text kind_eq run_eq has_glyphs later
  · by_cases group : ∃ frame, item.kind = "group" ∧ item.frame = some frame
    · obtain ⟨frame, kind_eq, frame_eq⟩ := group
      rw [itemSteps_of_group x y kind_eq, frame_eq]
      exact .group kind_eq frame_eq (inner frame frame_eq) later
    · have no_text : ∀ run, item.kind = "text" → item.run = some run → run.glyphs = [] := by
        intro run kind_eq run_eq
        by_contra has_glyphs
        exact text ⟨run, kind_eq, run_eq, has_glyphs⟩
      have no_group : ∀ frame, item.kind = "group" → item.frame ≠ some frame :=
        fun frame kind_eq frame_eq => group ⟨frame, kind_eq, frame_eq⟩
      rw [runsOf_itemSteps_of_blank x y no_text no_group]
      exact .blank no_text no_group later

end Items

mutual

theorem carries_frameSteps (x y : Float) :
    ∀ frame : Frame, Carries frame.items (runsOf (frameSteps x y frame))
  | ⟨_, _, items⟩ => by
    rw [frameSteps]
    exact carries_itemsSteps x y items

theorem carries_itemsSteps (x y : Float) :
    ∀ items : List FrameItem, Carries items (runsOf (itemsSteps x y items))
  | [] => .nil
  | item :: rest => by
    rw [itemsSteps, runsOf_append]
    exact carries_itemSteps x y item (carries_itemsSteps x y rest)

theorem carries_itemSteps (x y : Float) {rest : List FrameItem} {runs : List TextRun} :
    ∀ (item : FrameItem) (_ : Carries rest runs),
      Carries (item :: rest) (runsOf (itemSteps x y item) ++ runs)
  | ⟨_, _, _, _, none⟩, later => carries_cons x y later fun frame same => by contradiction
  | ⟨dx, dy, _, _, some frame⟩, later =>
    carries_cons x y later fun other same => by
      obtain rfl := Option.some.inj same
      exact carries_frameSteps (x + dx) (y + dy) frame

end

/-- Items show one list of runs. -/
theorem Carries.unique {items : List FrameItem} {drawn other : List TextRun}
    (carries : Carries items drawn) (carries_other : Carries items other) : drawn = other := by
  induction carries generalizing other with
  | nil =>
      cases carries_other
      rfl
  | text kind_eq run_eq has_glyphs _ unique =>
      cases carries_other with
      | text _ other_eq _ later =>
          obtain rfl := Option.some.inj (run_eq.symm.trans other_eq)
          rw [unique later]
      | group group _ _ _ => simp [kind_eq] at group
      | blank no_text _ _ => exact absurd (no_text _ kind_eq run_eq) has_glyphs
  | group kind_eq frame_eq _ _ inner_unique unique =>
      cases carries_other with
      | text text _ _ _ => simp [kind_eq] at text
      | group _ other_eq inner later =>
          obtain rfl := Option.some.inj (frame_eq.symm.trans other_eq)
          rw [inner_unique inner, unique later]
      | blank _ no_group _ => exact absurd frame_eq (no_group _ kind_eq)
  | blank no_text no_group _ unique =>
      cases carries_other with
      | text kind_eq run_eq has_glyphs _ => exact absurd (no_text _ kind_eq run_eq) has_glyphs
      | group kind_eq frame_eq _ _ => exact absurd frame_eq (no_group _ kind_eq)
      | blank _ _ later => exact unique later

theorem runs_cons (page : Page) (rest : List Page) :
    runs (page :: rest) = runsOf (frameSteps 0 0 page.frame) ++ runs rest := by
  cases rest with
  | nil => simp [runs, steps, runsOf]
  | cons next rest =>
      rw [runs, steps, runsOf_append]
      rfl

/-- The walk over pages meets the runs that they show. -/
theorem visits_runs (pages : List Page) : Visits pages (runs pages) := by
  induction pages with
  | nil => exact .nil
  | cons page rest induction =>
      rw [runs_cons]
      exact .cons (carries_frameSteps 0 0 page.frame) induction

/-- Pages show one list of runs. -/
theorem Visits.unique {pages : List Page} {visited other : List TextRun}
    (visits : Visits pages visited) (visits_other : Visits pages other) : visited = other := by
  induction visits generalizing other with
  | nil =>
      cases visits_other
      rfl
  | cons carries _ unique =>
      cases visits_other with
      | cons carries_other later => rw [carries.unique carries_other, unique later]

/-! ## Glyphs of a run -/

/-- The octets of a glyph are among those of another one. -/
def IsWithin (inner outer : Glyph) : Prop :=
  outer.range.1 ≤ inner.range.1 ∧ inner.range.2 ≤ outer.range.2

instance (inner outer : Glyph) : Decidable (IsWithin inner outer) :=
  inferInstanceAs (Decidable (_ ∧ _))

/-- Glyphs of a run that are not left out: each is not within the one before. -/
def kept (run : TextRun) : List Glyph :=
  run.glyphs.destutter fun last glyph => ¬ IsWithin glyph last

/-- What a glyph draws: its octets of the text of the run, decoded. -/
def drawn (run : TextRun) (glyph : Glyph) : Text :=
  Utf8.decodeLossy (Slice.between (Utf8.encode run.text) glyph.range.1 glyph.range.2)

/-- The piece of a glyph: what it draws, from an octet of its node on, if it has one in a file. -/
def pieceOf (run : TextRun) (glyph : Glyph) : Piece :=
  .plain (drawn run glyph) (glyph.span.filter fun span => span.file.isSome) glyph.offset

/-- A glyph that bounds characters of the text draws these. -/
theorem drawn_of_split {run : TextRun} {glyph : Glyph} {before part after : Text}
    (text_eq : run.text = before ++ part ++ after)
    (range_eq : glyph.range = (↑(Utf8.size before), ↑(Utf8.size before + Utf8.size part))) :
    drawn run glyph = part := by
  rw [drawn, range_eq, text_eq, ← Utf8.size_append, Utf8.between_encode_append,
    Utf8.decodeLossy_encode]

theorem cons_shownFrom (last : Glyph) (glyphs : List Glyph) :
    last :: shownFrom (some last.range) glyphs =
      glyphs.destutter' (fun last glyph => ¬ IsWithin glyph last) last := by
  induction glyphs generalizing last with
  | nil => rfl
  | cons glyph rest induction =>
      have within_iff : (Option.any (fun range : Int × Int =>
          decide (range.1 ≤ glyph.range.1) && decide (glyph.range.2 ≤ range.2))
            (some last.range)) = true ↔ IsWithin glyph last := by
        simp [IsWithin]
      by_cases within : IsWithin glyph last
      · rw [shownFrom, if_pos (within_iff.2 within), induction,
          List.destutter'_cons_neg _ (not_not_intro within)]
      · rw [shownFrom, if_neg (fun found => within (within_iff.1 found)), induction,
          List.destutter'_cons_pos _ within]

/-- The walk over the glyphs of a run shows those that are not left out. -/
theorem shown_eq_kept (run : TextRun) : shown run = kept run := by
  rw [shown, kept]
  cases run.glyphs with
  | nil => rfl
  | cons first rest =>
      rw [List.destutter_cons', ← cons_shownFrom]
      rfl

theorem glyphPiece_eq_pieceOf (run : TextRun) (glyph : Glyph) :
    glyphPiece run glyph = pieceOf run glyph := by
  have attached_eq : attached? glyph = glyph.span.filter fun span => span.file.isSome := by
    rw [attached?]
    congr 1
    funext span
    rw [Span.isDetached]
    cases span.file <;> rfl
  rw [glyphPiece, attached_eq]
  rfl

theorem runPieces_eq (run : TextRun) : runPieces run = (kept run).map (pieceOf run) := by
  rw [runPieces, shown_eq_kept]
  exact List.map_congr_left fun glyph _ => glyphPiece_eq_pieceOf run glyph

/-- A run with glyphs shows its first one. -/
theorem kept_ne_nil {run : TextRun} (has_glyphs : run.glyphs ≠ []) : kept run ≠ [] := by
  obtain ⟨first, rest, glyphs_eq⟩ := List.exists_cons_of_ne_nil has_glyphs
  rw [kept, glyphs_eq, List.destutter_cons']
  exact List.destutter'_ne_nil rest _

end Layout
end ProseCheck
