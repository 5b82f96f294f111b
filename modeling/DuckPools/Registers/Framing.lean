import DuckPools.Registers.RoundTrip

/-!
# Where a register value ends

The reader of a pair finds its right component behind the length of the left one.
`getSerializedValueLength` knows the length of the values that end themselves. It takes every
option for the empty one, and a key or a pair to go on to the end of the buffer, which is
right only where nothing stands behind them.
-/

namespace DuckPools.Sdk

namespace SValue

/-- The length of the code of `v` is found with `rest` behind it. -/
def Framed (v : SValue) (rest : Bytes) : Prop :=
  ∃ text, serializeSValue v = .ok text ∧
    getSerializedValueLength (Js.bufferFromHex text).head? (Js.bufferFromHex text ++ rest) =
      (Js.bufferFromHex text).length

/-- `rightHex` of `deserializePair`. -/
def rightHex (hex : Text) : Text :=
  let leftHex := hex.drop 2
  let leftBuffer := Js.bufferFromHex leftHex
  let offset := 1 + getSerializedValueLength leftBuffer.head? leftBuffer
  hex.drop (offset * 2)

/-- In the text of a pair, the right component is looked for where it stands. -/
def SplitsAt (left right : SValue) : Prop :=
  ∃ text rightText, serializeSValue (pair left right) = .ok text ∧
    serializeSValue right = .ok rightText ∧ rightHex text = rightText

/-- The values whose length is found whatever stands behind them. -/
def EndsItself (v : SValue) : Prop := v.Scalar ∨ v = none

theorem scalar_normal_iff (v : SValue) : v.normal.Scalar ↔ v.Scalar := by
  cases v <;> exact Iff.rfl

theorem normal_eq_none_iff (v : SValue) : v.normal = none ↔ v = none := by
  cases v <;> simp [normal]

theorem normal_isSome_iff (v : SValue) :
    (∃ value, v.normal = some value) ↔ ∃ value, v = some value := by
  cases v <;> simp [normal]

theorem endsItself_normal_iff (v : SValue) : v.normal.EndsItself ↔ v.EndsItself :=
  or_congr (scalar_normal_iff v) (normal_eq_none_iff v)

end SValue

open SValue

section Trees

theorem length_append_eq_iff (bytes rest : Bytes) :
    (bytes ++ rest).length = bytes.length ↔ rest = [] := by
  rw [List.length_append, Nat.add_eq_left, List.length_eq_zero_iff]

theorem head_treeBytes_append (t : OptionTree Leaf) (rest : Bytes) :
    (treeBytes t ++ rest).head? = (treeBytes t).head? := by
  obtain ⟨b, bytes, cons⟩ := List.exists_cons_of_ne_nil (treeBytes_ne_nil t)
  rw [cons, List.cons_append, List.head?_cons, List.head?_cons]

theorem ofLeaf_ne_none (a : Leaf) : ofLeaf a ≠ SValue.none := by
  cases a <;> simp [ofLeaf]

theorem endsItself_leaf_iff (a : Leaf) : (ofLeaf a).EndsItself ↔ (ofLeaf a).Scalar :=
  or_iff_left (ofLeaf_ne_none a)

/-- The first byte of a key and of a pair says nothing about the length. -/
theorem length_of_other {tag : Byte} (h : tag = 0x08 ∨ tag = 0x0d) (data : Bytes) :
    getSerializedValueLength (Option.some tag) data = data.length := by
  obtain rfl | rfl := h <;> rfl

/-- The length of a tree is found, with `rest` behind it, unless it is a full option, or `rest`
is taken for a part of it. -/
theorem length_treeBytes_iff (t : OptionTree Leaf) (rest : Bytes) :
    getSerializedValueLength (treeBytes t ++ rest).head? (treeBytes t ++ rest) =
        (treeBytes t).length ↔
      (ofTree t).EndsItself ∨ (rest = [] ∧ ∀ value, ofTree t ≠ SValue.some value) := by
  cases t with
  | leaf a =>
      rw [treeBytes_leaf, ofTree, endsItself_leaf_iff]
      by_cases scalar : (ofLeaf a).Scalar
      · exact iff_of_true (length_leaf scalar rest) (.inl scalar)
      · cases a with
        | sigmaProp key =>
            have code : (Leaf.sigmaProp key).bytes ++ rest = 0x08 :: 0xcd :: (key.val ++ rest) :=
              rfl
            rw [or_iff_right scalar, and_iff_left (ofLeaf_ne_some _), code, List.head?_cons,
              length_of_other (.inl rfl), ← code, length_append_eq_iff]
        | _ => exact absurd trivial scalar
  | none => exact iff_of_true rfl (.inl (.inr rfl))
  | some t =>
      have full : ¬ (ofTree (.some t)).EndsItself := by
        rintro (scalar | empty)
        · exact scalar
        · cases empty
      have isOption : getSerializedValueLength (treeBytes (.some t) ++ rest).head?
          (treeBytes (.some t) ++ rest) = 1 := rfl
      have positive := List.length_pos_of_ne_nil (treeBytes_ne_nil t)
      rw [isOption, treeBytes_some, List.length_cons]
      refine iff_of_false (by omega) ?_
      rintro (ends | ⟨_, notSome⟩)
      · exact full ends
      · exact notSome (ofTree t) rfl
  | pair l r =>
      have notEnds : ¬ (ofTree (.pair l r)).EndsItself := by
        rintro (scalar | empty)
        · exact scalar
        · cases empty
      have notSome : ∀ value, ofTree (.pair l r) ≠ SValue.some value := by simp [ofTree]
      rw [or_iff_right notEnds, and_iff_left notSome, treeBytes_pair, List.cons_append,
        List.head?_cons, length_of_other (.inr rfl), ← List.cons_append, length_append_eq_iff]

theorem rightHex_encode (data : Bytes) :
    rightHex (Hex.encode (0x0d :: data)) =
      Hex.encode (data.drop (getSerializedValueLength data.head? data)) := by
  have behindTag : (Hex.encode (0x0d :: data)).drop 2 = Hex.encode data :=
    Hex.drop_encode (0x0d :: data) 1
  rw [rightHex]
  simp only [behindTag, Js.bufferFromHex_encode]
  rw [Nat.mul_comm, Hex.drop_encode, Nat.add_comm, List.drop_succ_cons]

/-- What is left behind the length is the right component only if the length is right. -/
theorem drop_eq_iff (bytes more : Bytes) (h : more ≠ []) (length : Nat) :
    (bytes ++ more).drop length = more ↔ length = bytes.length := by
  constructor
  · intro dropped
    have positive := List.length_pos_of_ne_nil h
    have lengths := congrArg List.length dropped
    rw [List.length_drop, List.length_append] at lengths
    omega
  · rintro rfl
    exact List.drop_left

theorem rightHex_treeBytes_iff (l r : OptionTree Leaf) :
    rightHex (Hex.encode (treeBytes (.pair l r))) = Hex.encode (treeBytes r) ↔
      (ofTree l).EndsItself := by
  rw [treeBytes_pair, rightHex_encode, Hex.encode_injective.eq_iff,
    drop_eq_iff _ _ (treeBytes_ne_nil r), length_treeBytes_iff]
  exact or_iff_left fun h => treeBytes_ne_nil r h.1

end Trees

section Values

theorem framed_iff {v : SValue} (hv : v.WellFormed) (rest : Bytes) :
    v.Framed rest ↔ v.EndsItself ∨ (rest = [] ∧ ∀ value, v ≠ SValue.some value) := by
  obtain ⟨t, ht, htext⟩ := exists_tree hv
  have notSome : (∀ value, v ≠ SValue.some value) ↔ ∀ value, v.normal ≠ SValue.some value := by
    have isSome := not_congr (normal_isSome_iff v)
    rw [not_exists, not_exists] at isSome
    exact isSome.symm
  rw [notSome, ← endsItself_normal_iff, ht, ← length_treeBytes_iff, head_treeBytes_append]
  constructor
  · rintro ⟨text, written, length⟩
    rw [htext] at written
    obtain rfl := Except.ok.inj written
    rw [Js.bufferFromHex_encode] at length
    exact length
  · intro length
    refine ⟨_, htext, ?_⟩
    rw [Js.bufferFromHex_encode]
    exact length

theorem splitsAt_iff {left right : SValue} (hleft : left.WellFormed) (hright : right.WellFormed) :
    SplitsAt left right ↔ left.EndsItself := by
  obtain ⟨l, hl, hltext⟩ := exists_tree hleft
  obtain ⟨r, _, hrtext⟩ := exists_tree hright
  have text : serializeSValue (pair left right) = .ok (Hex.encode (treeBytes (.pair l r))) := by
    rw [serializeSValue, hltext, hrtext, Exceptions.ok_bind, Exceptions.ok_bind,
      Js.bufferFromHex_encode, Js.bufferFromHex_encode, treeBytes_pair]
    rfl
  rw [← endsItself_normal_iff, hl, ← rightHex_treeBytes_iff l r]
  constructor
  · rintro ⟨pairText, rightText, written, writtenRight, same⟩
    rw [text] at written
    rw [hrtext] at writtenRight
    obtain rfl := Except.ok.inj written
    obtain rfl := Except.ok.inj writtenRight
    exact same
  · intro same
    exact ⟨_, _, text, hrtext, same⟩

/-- The length of a value is found behind its code exactly if it ends itself, or if it is no full
option and nothing follows; a pair is split where its right component starts exactly if its
left one ends itself. -/
theorem framing_iff {v : SValue} (hv : v.WellFormed) :
    (∀ rest, v.Framed rest ↔ v.EndsItself ∨ (rest = [] ∧ ∀ value, v ≠ SValue.some value)) ∧
    ∀ right, right.WellFormed → (SplitsAt v right ↔ v.EndsItself) :=
  ⟨framed_iff hv, fun _ hright => splitsAt_iff hv hright⟩

/-- `Some(true)` is `0b07`, and its length is given as 1. -/
theorem framing_iff_full_option :
    ¬ (SValue.some (boolean true)).Framed [] ∧
      ¬ SplitsAt (SValue.some (boolean true)) (boolean true) := by
  have full : ¬ (SValue.some (boolean true)).EndsItself := by
    rintro (scalar | empty)
    · exact scalar
    · cases empty
  obtain ⟨framed, splits⟩ := @framing_iff (SValue.some (boolean true)) trivial
  refine ⟨?_, (splits (boolean true) trivial).not.mpr full⟩
  rw [framed]
  rintro (ends | ⟨_, notSome⟩)
  · exact full ends
  · exact notSome _ rfl

theorem length_not_found :
    ¬ ∀ (v : SValue) (rest : Bytes), v.WellFormed → v.Framed rest := by
  intro h
  obtain ⟨text, written, length⟩ := h (SValue.some (boolean true)) [] trivial
  obtain rfl : Js.bytesToHex [0x0b, 0x07] = text := Except.ok.inj written
  exact absurd length (by decide)

end Values

end DuckPools.Sdk
