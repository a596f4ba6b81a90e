import ProseCheck.Cache.Key
import ProseCheck.Proofs.Json.Canonical
import ProseCheck.Proofs.Text.Utf8

/-!
# What keys are digests of

The key of a paragraph is the digest of octets that no other text and no other language has, since
canonical texts tell values apart but for the order of members.
-/

namespace ProseCheck

theorem Utf8.encode_injective : Function.Injective encode := by
  intro left right same
  have decoded_eq := congrArg decode? same
  rw [decode?_encode, decode?_encode] at decoded_eq
  exact Option.some.inj decoded_eq

/-- The order of members does not count for a digest. -/
theorem Digest.ofJson_eq_of_reordered {left right : Json} (payload : left.IsPayload)
    (reordered : left.Reordered right) : ofJson left = ofJson right := by
  rw [ofJson, ofJson, Json.canonical, Json.canonical,
    Json.canonical_eq_of_reordered payload reordered]

namespace Paragraph

/-- The octets that the key of a paragraph is the digest of. -/
def octets (text : Text) (language : String) : List Nat :=
  Utf8.encode (payload text language).canonical

theorem key_eq (text : Text) (language : String) :
    key text language = Digest.sha256 (octets text language) := rfl

theorem isPayload_payload (text : Text) (language : String) :
    (payload text language).IsPayload := by
  refine .obj (show ["stage", "text", "language"].Nodup by decide) fun member mem => ?_
  simp only [List.mem_cons, List.not_mem_nil, or_false] at mem
  rcases mem with rfl | rfl | rfl <;> exact .str _

/-- Two paragraphs that stand for one value have one text and one language. -/
theorem eq_of_reordered {text other : Text} {language tongue : String}
    (reordered : (payload text language).Reordered (payload other tongue)) :
    text = other ∧ language = tongue := by
  constructor
  · obtain ⟨_, mem, same⟩ := reordered.exists_mem (show ("text", Json.text other) ∈ _ by simp)
    cases same
    exact String.ofList_injective (by simpa [Json.text, eq_comm] using mem)
  · obtain ⟨_, mem, same⟩ := reordered.exists_mem (show ("language", Json.str tongue) ∈ _ by simp)
    cases same
    simpa [eq_comm] using mem

theorem octets_eq_iff {text other : Text} {language tongue : String} :
    octets text language = octets other tongue ↔ text = other ∧ language = tongue := by
  constructor
  · intro same
    exact eq_of_reordered ((Json.canonical_eq_iff (isPayload_payload text language)
      (isPayload_payload other tongue)).1 (Utf8.encode_injective same))
  · rintro ⟨rfl, rfl⟩
    rfl

/-- Canonical texts are equal exactly for values that are equal up to the order of members.  So the
octets that keys of paragraphs are digests of are equal for one text and one language only. -/
theorem keys_are_canonical :
    (∀ left right : Json, left.IsPayload → right.IsPayload →
      (left.canonical = right.canonical ↔ left.Reordered right)) ∧
    (∀ (text : Text) (language : String),
      key text language = Digest.sha256 (octets text language)) ∧
    ∀ (text other : Text) (language tongue : String),
      octets text language = octets other tongue ↔ text = other ∧ language = tongue :=
  ⟨fun _ _ => Json.canonical_eq_iff, key_eq, fun _ _ _ _ => octets_eq_iff⟩

/-- A value with a list of one object, with the members of both objects out of order. -/
def shuffled : Json :=
  .obj [("b", .arr [.obj [("d", .str "😀"), ("c", .bool true)]]), ("a", .int (-1))]

/-- The same value in order. -/
def inOrder : Json :=
  .obj [("a", .int (-1)), ("b", .arr [.obj [("c", .bool true), ("d", .str "😀")]])]

theorem keys_are_canonical_shuffled :
    shuffled.IsPayload ∧ inOrder.IsPayload ∧ shuffled.Reordered inOrder ∧
      shuffled.canonical = inOrder.canonical ∧
      octets "Same.".toList "en-US" ≠ octets "Same.".toList "de-DE" := by
  obtain ⟨canonical_eq_iff, -, octets_eq_iff⟩ := keys_are_canonical
  have shuffled_payload : shuffled.IsPayload := by
    refine .obj (by decide) (List.forall_mem_cons.2 ⟨.arr (List.forall_mem_singleton.2 ?_),
      List.forall_mem_singleton.2 (.int _)⟩)
    exact .obj (by decide) (List.forall_mem_cons.2 ⟨.str _, List.forall_mem_singleton.2 (.bool _)⟩)
  have inOrder_payload : inOrder.IsPayload := by
    refine .obj (by decide) (List.forall_mem_cons.2 ⟨.int _,
      List.forall_mem_singleton.2 (.arr (List.forall_mem_singleton.2 ?_))⟩)
    exact .obj (by decide) (List.forall_mem_cons.2 ⟨.bool _, List.forall_mem_singleton.2 (.str _)⟩)
  have inner : (Json.obj [("d", .str "😀"), ("c", .bool true)]).Reordered
      (.obj [("c", .bool true), ("d", .str "😀")]) :=
    .obj (.swap _ _ _) (.cons (.intro rfl (.bool _)) (.cons (.intro rfl (.str _)) .nil))
  have reordered : shuffled.Reordered inOrder :=
    .obj (.swap _ _ _) (.cons (.intro rfl (.int _))
      (.cons (.intro rfl (.arr (.cons inner .nil))) .nil))
  refine ⟨shuffled_payload, inOrder_payload, reordered,
    (canonical_eq_iff _ _ shuffled_payload inOrder_payload).2 reordered, fun same => ?_⟩
  exact absurd ((octets_eq_iff _ _ _ _).1 same).2 (by decide)

end Paragraph
end ProseCheck
