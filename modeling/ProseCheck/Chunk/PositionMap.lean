import ProseCheck.Bisect
import ProseCheck.Node.Basic
import ProseCheck.Slice
import ProseCheck.Text.Utf8

/-!
# Position maps

A position map says of every character of a stream which octets of which node it comes from.
Runs of characters of one origin share an entry.  In an exact run each character owns the octets
of its own width; every character of another run owns all octets of the run.
-/

namespace ProseCheck

/-- A run of stream characters of one origin. -/
structure Entry where
  /-- First character of the run. -/
  start : Int
  /-- Number of characters. -/
  length : Int
  /-- Node that the run comes from. -/
  span : Option Span
  /-- First octet in the node. -/
  offset : Int
  /-- Whether each character owns the octets of its own width. -/
  exact : Bool
  /-- Number of octets of the whole run. -/
  sourceLength : Int
deriving DecidableEq, Repr

namespace Entry

/-- Character after the last. -/
def stop (entry : Entry) : Int := entry.start + entry.length

/-- Whether the octets and characters of `next` follow those of `last` in one exact run. -/
def continues (last next : Entry) : Bool :=
  last.exact && next.exact && last.span.isSome && last.span == next.span
    && last.stop == next.start && last.offset + last.sourceLength == next.offset

/-- Both entries as one run. -/
def join (last next : Entry) : Entry :=
  ⟨last.start, last.length + next.length, last.span, last.offset, true,
    last.sourceLength + next.sourceLength⟩

/-- Entries with one more at the end, which joins the last one if it continues it; an entry of
no characters is left out. -/
def push (entry : Entry) (entries : List Entry) : List Entry :=
  if entry.length = 0 then entries
  else
    match entries.getLast? with
    | some last =>
      if last.continues entry then entries.dropLast ++ [last.join entry] else entries ++ [entry]
    | none => [entry]

end Entry

/-- Where a character comes from: octets of a node. -/
structure Origin where
  /-- The node. -/
  span : Span
  /-- First octet in the node. -/
  start : Int
  /-- Octet after the last. -/
  stop : Int
deriving DecidableEq, Repr

/-- Why a character cannot be looked up. -/
inductive LookupError where
  | beyondStream (index : Int)
deriving DecidableEq, Repr

/-- A stream and the origins of its characters. -/
structure PositionMap where
  /-- The stream. -/
  stream : Text
  /-- Runs in order. -/
  entries : List Entry
deriving DecidableEq, Repr

namespace PositionMap

/-- The run that holds a character; the starts of runs are searched by halves. -/
def entryAt? (map : PositionMap) (index : Int) : Option Entry :=
  let startsBy (place : Nat) : Bool := map.entries[place]?.any fun entry => entry.start ≤ index
  match Bisect.firstFailure startsBy 0 map.entries.length with
  | 0 => none
  | count + 1 => map.entries[count]?.filter fun entry => index < entry.stop

/-- Octets of the characters between two places of the stream. -/
def sizeBetween (map : PositionMap) (start stop : Int) : Nat :=
  Utf8.size (Slice.between map.stream start stop)

/-- Origin of a character.  In an exact run it must be a character of the stream. -/
def resolve (map : PositionMap) (index : Int) : Except LookupError (Option Origin) :=
  match map.entryAt? index with
  | none => .ok none
  | some entry =>
    match entry.span with
    | none => .ok none
    | some span =>
      if entry.exact then
        match Slice.item? map.stream index with
        | none => .error (.beyondStream index)
        | some char =>
          let start := entry.offset + map.sizeBetween entry.start index
          .ok (some ⟨span, start, start + Utf8.width char⟩)
      else .ok (some ⟨span, entry.offset, entry.offset + entry.sourceLength⟩)

/-- Origin of a character of the stream. -/
def origin? (map : PositionMap) (index : Nat) : Option Origin :=
  match map.resolve index with
  | .ok origin => origin
  | .error _ => none

theorem resolve_isOk (map : PositionMap) {index : Nat} (inside : index < map.stream.length) :
    map.resolve index = .ok (map.origin? index) := by
  have reads : ∃ origin, map.resolve index = .ok origin := by
    unfold resolve
    split
    · exact ⟨_, rfl⟩
    · split
      · exact ⟨_, rfl⟩
      · split
        · simp [Slice.item?_natCast, inside]
        · exact ⟨_, rfl⟩
  obtain ⟨origin, found⟩ := reads
  simp [origin?, found]

end PositionMap
end ProseCheck
