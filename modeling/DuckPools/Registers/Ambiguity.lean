import DuckPools.Sdk.ValueTree

/-!
# Which register values are determined by their text

No decoder can tell a pair of an empty option and a value in an option from a pair of
that option, made full, and the value: the texts are the same. The values that are
determined by their text are exactly those whose tree is unambiguous, which depends on
the options and pairs of a value and not on its data.
-/

namespace DuckPools.Sdk

open OptionTree

namespace SValue

/-- The options and pairs of a value. -/
def shape : SValue → OptionTree Unit
  | none => .none
  | some value => .some value.shape
  | pair left right => .pair left.shape right.shape
  | _ => .leaf ()

theorem shape_normal (v : SValue) : v.normal.shape = v.shape := by
  induction v with
  | some value ih => rw [normal, shape, shape, ih]
  | pair left right ihl ihr => rw [normal, shape, shape, ihl, ihr]
  | _ => rfl

theorem shape_ofTree (t : OptionTree Leaf) : (ofTree t).shape = t.map fun _ => () := by
  induction t with
  | leaf a => cases a <;> rfl
  | none => rfl
  | some t ih => rw [ofTree, shape, ih, OptionTree.map]
  | pair l r ihl ihr => rw [ofTree, shape, ihl, ihr, OptionTree.map]

/-- Two trees have one text exactly if they are spelled by the same tokens. -/
theorem text_eq_iff {s t : OptionTree Leaf} :
    (Except.ok (Hex.encode (treeBytes s)) : Except SdkError Text) =
      .ok (Hex.encode (treeBytes t)) ↔ s.tokens = t.tokens := by
  rw [Except.ok.injEq, Hex.encode_injective.eq_iff, treeBytes_eq_iff]

/-- A value is determined by its text, up to the spelling of its digits and the name of
its byte collections, exactly if its shape is unambiguous. -/
theorem determined_iff_unambiguous {u : SValue} (hu : u.WellFormed) :
    (∀ v : SValue, v.WellFormed → serializeSValue v = serializeSValue u → v.normal = u.normal) ↔
      u.shape.Unambiguous := by
  obtain ⟨t, ht, htext⟩ := exists_tree hu
  have hshape : u.shape.Unambiguous ↔ t.Unambiguous := by
    rw [← shape_normal, ht, shape_ofTree, unambiguous_map]
  rw [hshape, ← unique_iff_unambiguous, htext]
  constructor
  · intro h s hs
    obtain ⟨s', hs', hstext⟩ := exists_tree (wellFormed_ofTree s)
    obtain rfl : s = s' := ofTree_injective (by rw [← hs', normal_ofTree])
    have hnormal := h (ofTree s) (wellFormed_ofTree s)
      (by rw [hstext]; exact text_eq_iff.mpr hs)
    rw [normal_ofTree, ht] at hnormal
    exact ofTree_injective hnormal
  · intro h v hv heq
    obtain ⟨s, hs, hstext⟩ := exists_tree hv
    rw [hstext] at heq
    rw [hs, ht, h s (text_eq_iff.mp heq)]

/-- `(None, Some(true))`, whose text is also that of `(Some(None), true)`. -/
def emptyBesideFull : SValue := pair none (some (boolean true))

theorem not_determined_emptyBesideFull :
    ¬ ∀ v : SValue, v.WellFormed → serializeSValue v = serializeSValue emptyBesideFull →
      v.normal = emptyBesideFull.normal := by
  have hu : emptyBesideFull.WellFormed := ⟨trivial, trivial⟩
  intro h
  have hshape := (determined_iff_unambiguous hu).mp h
  exact absurd (hshape.1 Nat.one_pos).2 (by decide)

theorem serialization_collides :
    ¬ ∀ u v : SValue, u.WellFormed → v.WellFormed →
        serializeSValue u = serializeSValue v → u.normal = v.normal := by
  intro h
  have heq := h emptyBesideFull (pair (some none) (boolean true)) ⟨trivial, trivial⟩
    ⟨trivial, trivial⟩ rfl
  simp [emptyBesideFull, normal] at heq

end SValue
end DuckPools.Sdk
