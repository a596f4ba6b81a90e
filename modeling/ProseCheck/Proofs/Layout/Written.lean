import ProseCheck.Layout.Interchange
import ProseCheck.Proofs.Node.Written

/-!
# Pages that are written and read back

Glyphs and runs are read back whatever they hold.  A frame that is written reads as itself exactly
if no more frames stand in each other than there are levels; for an item the items are counted.  No
frame that is nested deeper is ever read.
-/

namespace ProseCheck

open Validated

theorem Glyph.isFaithful : IsFaithful Glyph.read Glyph.toJson := by
  rintro ⟨range, span, offset, advance⟩
  simp [read, toJson, record, isFaithful_pair range, isFaithful_integer offset,
    isFaithful_number advance, Span.isFaithful.nullable (by simp [Span.toJson]) span]

theorem TextRun.isFaithful : IsFaithful TextRun.read TextRun.toJson := by
  rintro ⟨text, lang, region, size, capHeight, width, glyphs⟩
  simp [read, toJson, record, isFaithful_text text, isFaithful_string.nullable (by simp) region,
    isFaithful_number _, Glyph.isFaithful.list glyphs]

namespace Depth

variable {depth inner : Depth} {isItem : Bool}

/-- Levels that a frame or an item takes. -/
def cost (countsItems isItem : Bool) : Nat := if countsItems = isItem then 1 else 0

theorem below?_eq_some_iff : depth.below? isItem = some inner ↔
    inner.countsItems = depth.countsItems ∧
      inner.levels + cost depth.countsItems isItem = depth.levels := by
  obtain ⟨countsItems, levels⟩ := depth
  obtain ⟨counted, left⟩ := inner
  by_cases takes : countsItems = isItem
  · cases levels <;> simp [below?, cost, takes, eq_comm]
  · simp [below?, cost, takes, eq_comm]

/-- What takes levels in a frame or an item fits exactly if there is a depth below and it fits
there. -/
theorem add_cost_le_iff {taken : Nat} : taken + cost depth.countsItems isItem ≤ depth.levels ↔
    ∃ inner, depth.below? isItem = some inner ∧ taken ≤ inner.levels := by
  simp only [below?_eq_some_iff]
  constructor
  · intro fits
    exact ⟨⟨depth.countsItems, depth.levels - cost depth.countsItems isItem⟩,
      ⟨rfl, Nat.sub_add_cancel (by omega)⟩, Nat.le_sub_of_add_le fits⟩
  · rintro ⟨inner, ⟨-, levels_eq⟩, fits⟩
    omega

theorem countsItems_of_below? (below : depth.below? isItem = some inner) :
    inner.countsItems = depth.countsItems :=
  (below?_eq_some_iff.1 below).1

end Depth

namespace Frame

/-- What holds of a frame whenever it holds of its items, and of an item whenever it holds of its
frame, holds of all frames and items. -/
theorem nestedInduction {frames : Frame → Prop} {single : FrameItem → Prop}
    (ofItems : ∀ width height items, (∀ item ∈ items, single item) → frames ⟨width, height, items⟩)
    (ofFrame : ∀ x y kind run frame, (∀ inner ∈ frame, frames inner) →
      single ⟨x, y, kind, run, frame⟩) :
    (∀ frame, frames frame) ∧ ∀ item, single item := by
  have noFrame : ∀ inner ∈ (none : Option Frame), frames inner := by simp
  have oneFrame : ∀ frame, frames frame → ∀ inner ∈ some frame, frames inner := by simp
  have noItem : ∀ item ∈ ([] : List FrameItem), single item := by simp
  have oneItem : ∀ item rest, single item → (∀ item ∈ rest, single item) →
      ∀ other ∈ item :: rest, single other :=
    fun _ _ first others => List.forall_mem_cons.2 ⟨first, others⟩
  exact ⟨Frame.rec ofFrame ofItems noFrame oneFrame noItem oneItem,
    FrameItem.rec ofFrame ofItems noFrame oneFrame noItem oneItem⟩

theorem readEach_eq (depth : Depth) (index : Nat) (items : List Json) :
    readEach depth index items = each (readItemWithin depth) index items := by
  induction items generalizing index with
  | nil => rw [readEach, each]
  | cons item rest induction => rw [readEach, each, induction]

theorem readItems_eq (depth : Depth) : readItems depth = list (readItemWithin depth) := by
  funext json
  cases json with
  | arr items => rw [readItems, readEach_eq, list]
  | _ => simp [readItems, list]

variable {depth : Depth} {json : Json}

theorem readWithin_of_deep (deep : depth.below? false = none) :
    readWithin depth json = refuse .tooDeep := by
  rw [readWithin.eq_def, deep]

/-- A frame is a record whose items are read at the depth below. -/
theorem readWithin_of_below {inner : Depth} (below : depth.below? false = some inner) :
    readWithin depth = record fun members =>
      Frame.mk
        <$> Validated.optional members "width" 0 number
        <*> Validated.optional members "height" 0 number
        <*> Validated.optional members "items" [] (list (readItemWithin inner)) := by
  funext json
  rw [readWithin.eq_def, below, ← readItems_eq]
  cases json with
  | obj members =>
      rw [record]
      dsimp only
      congr 1
      rw [Validated.optional]
      split <;> simp [*]
  | _ => rfl

theorem readItemWithin_of_deep (deep : depth.below? true = none) :
    readItemWithin depth json = refuse .tooDeep := by
  rw [readItemWithin.eq_def, deep]

/-- An item is a record whose frame is read at the depth below. -/
theorem readItemWithin_of_below {inner : Depth} (below : depth.below? true = some inner) :
    readItemWithin depth = record fun members =>
      FrameItem.mk
        <$> Validated.optional members "x" 0 number
        <*> Validated.optional members "y" 0 number
        <*> Validated.optional members "kind" "text" string
        <*> Validated.optional members "text" none (nullable TextRun.read)
        <*> Validated.optional members "frame" none (nullable (readWithin inner)) := by
  funext json
  rw [readItemWithin.eq_def, below]
  cases json with
  | obj members =>
      rw [record]
      dsimp only
      congr 1
      rw [Validated.optional]
      split <;> simp [*, nullable, Validated.below]
  | _ => rfl

theorem readWithin_eq_valid_iff {frame : Frame} : readWithin depth json = .valid frame ↔
    ∃ inner members, depth.below? false = some inner ∧ json = .obj members ∧
      Validated.optional members "width" 0 number = .valid frame.width ∧
      Validated.optional members "height" 0 number = .valid frame.height ∧
      Validated.optional members "items" [] (list (readItemWithin inner)) = .valid frame.items := by
  obtain ⟨width, height, items⟩ := frame
  cases below : depth.below? false with
  | none => simp [readWithin_of_deep below, refuse]
  | some inner => simp [readWithin_of_below below, record_eq_valid_iff]

theorem readItemWithin_eq_valid_iff {item : FrameItem} : readItemWithin depth json = .valid item ↔
    ∃ inner members, depth.below? true = some inner ∧ json = .obj members ∧
      Validated.optional members "x" 0 number = .valid item.x ∧
      Validated.optional members "y" 0 number = .valid item.y ∧
      Validated.optional members "kind" "text" string = .valid item.kind ∧
      Validated.optional members "text" none (nullable TextRun.read) = .valid item.run ∧
      Validated.optional members "frame" none (nullable (readWithin inner)) =
        .valid item.frame := by
  obtain ⟨x, y, kind, run, frame⟩ := item
  cases below : depth.below? true with
  | none => simp [readItemWithin_of_deep below, refuse]
  | some inner => simp [readItemWithin_of_below below, record_eq_valid_iff, and_assoc]

/-! ## Nesting -/

mutual

/-- Levels that a frame takes with all that stands in it. -/
def nesting (countsItems : Bool) : Frame → Nat
  | ⟨_, _, items⟩ => nestingOfItems countsItems items + Depth.cost countsItems false

/-- Levels that items take. -/
def nestingOfItems (countsItems : Bool) : List FrameItem → Nat
  | [] => 0
  | item :: rest => max (nestingOfItem countsItems item) (nestingOfItems countsItems rest)

/-- Levels that an item takes with the frame in it. -/
def nestingOfItem (countsItems : Bool) : FrameItem → Nat
  | ⟨_, _, _, _, frame⟩ => nestingOf? countsItems frame + Depth.cost countsItems true

/-- Levels that a frame takes if there is one. -/
def nestingOf? (countsItems : Bool) : Option Frame → Nat
  | none => 0
  | some frame => frame.nesting countsItems

end

variable {countsItems : Bool} {levels : Nat}

theorem nestingOfItems_le_iff {items : List FrameItem} :
    nestingOfItems countsItems items ≤ levels ↔
      ∀ item ∈ items, nestingOfItem countsItems item ≤ levels := by
  induction items with
  | nil => simp [nestingOfItems]
  | cons item rest induction =>
      rw [nestingOfItems, Nat.max_le, induction, List.forall_mem_cons]

theorem nestingOf?_le_iff {frame : Option Frame} :
    nestingOf? countsItems frame ≤ levels ↔
      ∀ inner ∈ frame, inner.nesting countsItems ≤ levels := by
  cases frame <;> simp [nestingOf?]

theorem nesting_le_iff {frame : Frame} : frame.nesting depth.countsItems ≤ depth.levels ↔
    ∃ inner, depth.below? false = some inner ∧
      ∀ item ∈ frame.items, nestingOfItem depth.countsItems item ≤ inner.levels := by
  cases frame
  rw [nesting, Depth.add_cost_le_iff]
  simp only [nestingOfItems_le_iff]

theorem nestingOfItem_le_iff {item : FrameItem} :
    nestingOfItem depth.countsItems item ≤ depth.levels ↔
      ∃ inner, depth.below? true = some inner ∧
        ∀ frame ∈ item.frame, frame.nesting depth.countsItems ≤ inner.levels := by
  cases item
  rw [nestingOfItem, Depth.add_cost_le_iff]
  simp only [nestingOf?_le_iff]

/-- What is read takes no more levels than there are. -/
theorem nesting_le_of_reading :
    (∀ (frame : Frame) {depth json}, readWithin depth json = .valid frame →
      frame.nesting depth.countsItems ≤ depth.levels) ∧
    ∀ (item : FrameItem) {depth json}, readItemWithin depth json = .valid item →
      nestingOfItem depth.countsItems item ≤ depth.levels := by
  -- on what was read and not on the levels, of which only one of frame and item takes one
  apply nestedInduction
  · intro width height items each depth json read_eq
    obtain ⟨inner, members, below, -, -, -, items_eq⟩ := readWithin_eq_valid_iff.1 read_eq
    refine nesting_le_iff.2 ⟨inner, below, fun item mem => ?_⟩
    rcases optional_eq_valid_iff.1 items_eq with ⟨listed, -, listed_eq⟩ | ⟨-, rfl⟩
    · obtain ⟨_, item_eq⟩ := exists_of_mem_list listed_eq item mem
      exact Depth.countsItems_of_below? below ▸ each item mem item_eq
    · contradiction
  · intro x y kind run frame each depth json read_eq
    obtain ⟨inner, members, below, -, -, -, -, -, frame_eq⟩ := readItemWithin_eq_valid_iff.1 read_eq
    refine nestingOfItem_le_iff.2 ⟨inner, below, fun frame mem => ?_⟩
    rcases optional_eq_valid_iff.1 frame_eq with ⟨held, -, held_eq⟩ | ⟨-, rfl⟩
    · have inner_eq := exists_of_mem_nullable held_eq frame mem
      exact Depth.countsItems_of_below? below ▸ each frame mem inner_eq
    · contradiction

theorem itemsToJson_eq_map (items : List FrameItem) : itemsToJson items = items.map itemToJson := by
  induction items with
  | nil => rfl
  | cons item rest induction => rw [itemsToJson, induction, List.map_cons]

theorem frameToJson_eq_option (frame : Option Frame) :
    frameToJson frame = Json.option toJson frame := by
  cases frame <;> rfl

/-- What takes no more levels than there are is read back. -/
theorem reading_toJson :
    (∀ (frame : Frame) {depth : Depth}, frame.nesting depth.countsItems ≤ depth.levels →
      readWithin depth frame.toJson = .valid frame) ∧
    ∀ (item : FrameItem) {depth : Depth}, nestingOfItem depth.countsItems item ≤ depth.levels →
      readItemWithin depth (itemToJson item) = .valid item := by
  apply nestedInduction
  · intro width height items each depth fits
    obtain ⟨inner, below, fits⟩ := nesting_le_iff.1 fits
    have items_eq : list (readItemWithin inner) (.arr (items.map itemToJson)) = .valid items := by
      refine list_map_eq_valid fun item mem => each item mem ?_
      rw [Depth.countsItems_of_below? below]
      exact fits item mem
    rw [readWithin_eq_valid_iff, toJson, itemsToJson_eq_map]
    exact ⟨inner, _, below, rfl, by simp [items_eq, isFaithful_number _]⟩
  · intro x y kind run frame each depth fits
    obtain ⟨inner, below, fits⟩ := nestingOfItem_le_iff.1 fits
    have frame_eq : nullable (readWithin inner) (Json.option toJson frame) = .valid frame := by
      refine nullable_option_eq_valid ?_ fun held mem => each held mem ?_
      · rintro ⟨⟩
        simp [toJson]
      · rw [Depth.countsItems_of_below? below]
        exact fits held mem
    have run_eq := TextRun.isFaithful.nullable (by simp [TextRun.toJson]) run
    rw [readItemWithin_eq_valid_iff, itemToJson, frameToJson_eq_option]
    exact ⟨inner, _, below, rfl, by simp [frame_eq, run_eq, isFaithful_number _]⟩

/-- A frame that is written is read back exactly if it takes no more levels than there are. -/
theorem readWithin_toJson_iff {frame : Frame} :
    readWithin depth frame.toJson = .valid frame ↔
      frame.nesting depth.countsItems ≤ depth.levels :=
  ⟨nesting_le_of_reading.1 frame, reading_toJson.1 frame⟩

/-- An item that is written is read back exactly if it takes no more levels than there are. -/
theorem readItemWithin_itemToJson_iff {item : FrameItem} :
    readItemWithin depth (itemToJson item) = .valid item ↔
      nestingOfItem depth.countsItems item ≤ depth.levels :=
  ⟨nesting_le_of_reading.2 item, reading_toJson.2 item⟩

theorem isNormalForm : IsNormalForm (readWithin depth) toJson :=
  fun _ frame read_eq => reading_toJson.1 frame (nesting_le_of_reading.1 frame read_eq)

theorem isNormalForm_item : IsNormalForm (readItemWithin depth) itemToJson :=
  fun _ item read_eq => reading_toJson.2 item (nesting_le_of_reading.2 item read_eq)

end Frame

theorem Page.isNormalForm : IsNormalForm Page.read Page.toJson := by
  intro json page read_eq
  obtain ⟨members, rfl, members_eq⟩ := record_eq_valid_iff.1 read_eq
  simp only [seq_eq_valid_iff, map_eq_valid_iff] at members_eq
  obtain ⟨_, frame, ⟨number, -, rfl⟩, frame_eq, rfl⟩ := members_eq
  have blank_fits : Frame.readPart (Frame.toJson ⟨0, 0, []⟩) = .valid ⟨0, 0, []⟩ :=
    Frame.reading_toJson.1 _ (by decide)
  have frame_eq : Frame.readPart frame.toJson = .valid frame :=
    Frame.isNormalForm.of_optional blank_fits frame_eq
  simp [read, toJson, record, isFaithful_integer number, frame_eq]

end ProseCheck
