import DuckPools.Sdk.ValueTree

/-!
# Which register values the SDK reads back

The readers take no length: what stands behind a value belongs to the text they read.
A number, a byte collection or a flag ends itself and is read in any position. The empty
option is read as one only at the end of the text, because anything behind it is taken for
its value, and a key is returned with a byte of its tag in front. In a pair, the right
component is looked for behind the length of the left one; that length is 1 for every
option and the whole rest for a pair. `Decodable` follows these three effects.
-/

namespace DuckPools.Sdk

open OptionTree Exceptions

namespace SValue

/-- The values whose length `getSerializedValueLength` computes, but for `None`. -/
def Scalar : SValue → Prop
  | int _ | long _ | collByte _ | collSByte _ | boolean _ => True
  | _ => False

/-- `last` says that nothing follows the value in the text. -/
def Decodable : Bool → SValue → Prop
  | _, sigmaProp _ => False
  | last, none => last = true
  | last, some value => value.Decodable last
  -- The full option is read twice: its value is taken for the right component as well.
  | _, pair (some value) right => value.Decodable false ∧ value.normal = right.normal
  | last, pair left right => left.Scalar ∧ right.Decodable last
  | _, _ => True

theorem decodable_leaf_iff (a : Leaf) (last : Bool) :
    (ofLeaf a).Decodable last ↔ (ofLeaf a).Scalar := by
  cases a <;> exact Iff.rfl

theorem ofLeaf_ne_some (a : Leaf) (value : SValue) : ofLeaf a ≠ some value := by
  cases a <;> simp [ofLeaf]

/-- Only the pairs with a full option on the left are special. -/
theorem decodable_pair_iff {left right : SValue} {last : Bool}
    (h : ∀ value, left ≠ some value) :
    (pair left right).Decodable last ↔ left.Scalar ∧ right.Decodable last := by
  cases left with
  | some value => exact absurd rfl (h value)
  | _ => exact Iff.rfl

/-- The text of `v` is read as `v`, up to the spelling of its digits and the name of its
byte collections. -/
def RoundTrips (v : SValue) : Prop :=
  ∃ text, serializeSValue v = .ok text ∧ deserializeSValue text = .ok v.normal

end SValue

open SValue

section Readers

theorem deserialize_int (n : Int32) (rest : Bytes) :
    deserializeSValue (Hex.encode ((Leaf.int n).bytes ++ rest)) = .ok (.int n.toInt) := by
  rw [deserializeSValue, Leaf.bytes, List.cons_append, Js.bufferFromHex_encode,
    deserializeInt_encode n.le_toInt n.toInt_lt]
  rfl

theorem deserialize_long (n : Int64) (rest : Bytes) :
    deserializeSValue (Hex.encode ((Leaf.long n).bytes ++ rest)) = .ok (.long n.toInt) := by
  rw [deserializeSValue, Leaf.bytes, List.cons_append, Js.bufferFromHex_encode,
    deserializeLong_encode]
  rfl

theorem deserialize_coll (bytes rest : Bytes) :
    deserializeSValue (Hex.encode ((Leaf.coll bytes).bytes ++ rest)) =
      .ok (.collByte (Hex.encode bytes)) := by
  have data : (Leaf.coll bytes).bytes ++ rest =
      0x0e :: 0x01 :: (Vlq.encode bytes.length ++ (bytes ++ rest)) := by
    rw [Leaf.bytes, List.cons_append, List.cons_append, List.append_assoc]
  have read := deserializeCollByte_encode bytes rest
  rw [data, deserializeSValue, Js.bufferFromHex_encode, read]
  rfl

theorem deserialize_boolean (value : Bool) (rest : Bytes) :
    deserializeSValue (Hex.encode ((Leaf.boolean value).bytes ++ rest)) = .ok (.boolean value) := by
  rw [deserializeSValue, deserializeBoolean, Leaf.bytes, List.singleton_append,
    Js.bufferFromHex_encode]
  cases value <;> rfl

/-- A key comes back with the second byte of its tag. -/
theorem deserialize_sigmaProp (data : Bytes) :
    deserializeSValue (Hex.encode (0x08 :: data)) = .ok (.sigmaProp (Hex.encode data)) := by
  rw [deserializeSValue, Js.bufferFromHex_encode]
  exact congrArg (fun text => Except.ok (sigmaProp text)) (Hex.drop_encode (0x08 :: data) 1)

theorem deserialize_option (data : Bytes) :
    deserializeSValue (Hex.encode (0x0b :: data)) =
      if (0x0b :: data).length = 1 then .ok .none
      else (deserializeSValue (Hex.encode data)).map .some := by
  have behindTag : (Hex.encode (0x0b :: data)).drop 2 = Hex.encode data :=
    Hex.drop_encode (0x0b :: data) 1
  have unfolded : deserializeSValue (Hex.encode (0x0b :: data)) =
      deserializeOption (Hex.encode (0x0b :: data)) := by
    rw [deserializeSValue, Js.bufferFromHex_encode]
    rfl
  rw [unfolded, deserializeOption]
  simp only [Js.bufferFromHex_encode, List.head?_cons, dite_true, behindTag]
  rfl

theorem deserialize_none : deserializeSValue (Hex.encode [0x0b]) = .ok .none := by
  rw [deserialize_option]
  rfl

/-- Whatever follows the mark of an option is read as its value. -/
theorem deserialize_some {data : Bytes} (h : data ≠ []) :
    deserializeSValue (Hex.encode (0x0b :: data)) =
      (deserializeSValue (Hex.encode data)).map .some := by
  have hpos := List.length_pos_of_ne_nil h
  rw [deserialize_option, if_neg]
  rw [List.length_cons]
  omega

theorem deserialize_pair (data : Bytes) :
    deserializeSValue (Hex.encode (0x0d :: data)) = do
      let left ← deserializeSValue (Hex.encode data)
      let right ← deserializeSValue
        (Hex.encode (data.drop (getSerializedValueLength data.head? data)))
      return .pair left right := by
  have behindTag : (Hex.encode (0x0d :: data)).drop 2 = Hex.encode data :=
    Hex.drop_encode (0x0d :: data) 1
  have behindLeft : ∀ k, (Hex.encode (0x0d :: data)).drop ((1 + k) * 2) =
      Hex.encode (data.drop k) := by
    intro k
    rw [Nat.mul_comm, Hex.drop_encode, Nat.add_comm, List.drop_succ_cons]
  have unfolded : deserializeSValue (Hex.encode (0x0d :: data)) =
      deserializePair (Hex.encode (0x0d :: data)) := by
    rw [deserializeSValue, Js.bufferFromHex_encode]
    rfl
  rw [unfolded, deserializePair]
  simp only [Js.bufferFromHex_encode, List.head?_cons, dite_true, behindTag, behindLeft]

theorem deserialize_pair_eq_ok_iff {data : Bytes} {left right : SValue} :
    deserializeSValue (Hex.encode (0x0d :: data)) = .ok (.pair left right) ↔
      deserializeSValue (Hex.encode data) = .ok left ∧
        deserializeSValue (Hex.encode (data.drop (getSerializedValueLength data.head? data))) =
          .ok right := by
  rw [deserialize_pair]
  simp only [bind_eq_ok_iff, pure_eq_ok_iff, SValue.pair.injEq]
  constructor
  · rintro ⟨_, hleft, _, hright, rfl, rfl⟩
    exact ⟨hleft, hright⟩
  · rintro ⟨hleft, hright⟩
    exact ⟨left, hleft, right, hright, rfl, rfl⟩

end Readers

section Boundaries

/-- The scalar leaves, which are read in any position. -/
theorem deserialize_leaf {a : Leaf} (h : (ofLeaf a).Scalar) (rest : Bytes) :
    deserializeSValue (Hex.encode (a.bytes ++ rest)) = .ok (ofLeaf a) := by
  cases a with
  | int n => exact deserialize_int n rest
  | long n => exact deserialize_long n rest
  | coll bytes => exact deserialize_coll bytes rest
  | sigmaProp key => exact absurd h id
  | boolean value => exact deserialize_boolean value rest

theorem length_leaf {a : Leaf} (h : (ofLeaf a).Scalar) (rest : Bytes) :
    getSerializedValueLength (a.bytes ++ rest).head? (a.bytes ++ rest) = a.bytes.length := by
  cases a with
  | int n =>
      rw [Leaf.bytes, List.cons_append, List.head?_cons, getSerializedValueLength, decodeVLQ_tag]
      rfl
  | long n =>
      rw [Leaf.bytes, List.cons_append, List.head?_cons, getSerializedValueLength, decodeVLQ_tag]
      rfl
  | coll bytes =>
      have data : (Leaf.coll bytes).bytes ++ rest =
          0x0e :: 0x01 :: (Vlq.encode bytes.length ++ (bytes ++ rest)) := by
        rw [Leaf.bytes, List.cons_append, List.cons_append, List.append_assoc]
      rw [data, List.head?_cons, getSerializedValueLength]
      simp only [collOffset, List.getElem?_cons_succ, List.getElem?_cons_zero, if_true,
        decodeVLQ_element, Int.toNat_natCast]
      simp only [Leaf.bytes, List.length_cons, List.length_append]
      simp
      omega
  | sigmaProp key => exact absurd h id
  | boolean value => cases value <;> rfl

theorem length_pair (data : Bytes) :
    getSerializedValueLength (0x0d :: data).head? (0x0d :: data) = (0x0d :: data).length := rfl

theorem deserialize_nil_ne_ok (v : SValue) : deserializeSValue (Hex.encode []) ≠ .ok v := by
  rw [deserializeSValue]
  exact throw_ne_ok _ v

theorem treeBytes_ne_nil (t : OptionTree Leaf) : treeBytes t ≠ [] := by
  cases t with
  | leaf a =>
      rw [treeBytes_leaf]
      exact tokenBytes_ne_nil (.leaf a)
  | none => simp
  | some t => simp
  | pair l r => simp

end Boundaries

section Trees

theorem deserialize_leaf_iff (a : Leaf) (rest : Bytes) :
    deserializeSValue (Hex.encode (a.bytes ++ rest)) = .ok (ofLeaf a) ↔ (ofLeaf a).Scalar := by
  constructor
  · intro h
    cases a with
    | sigmaProp key =>
        rw [Leaf.bytes, List.cons_append, deserialize_sigmaProp] at h
        have htext := Hex.encode_injective (sigmaProp.inj (Except.ok.inj h))
        have hlen := congrArg List.length htext
        simp only [List.cons_append, List.length_cons, List.length_append] at hlen
        omega
    | _ => trivial
  · intro h
    exact deserialize_leaf h rest

theorem map_some_eq_ok_iff {x : Except SdkError SValue} {v : SValue} :
    x.map SValue.some = .ok (.some v) ↔ x = .ok v := by
  cases x <;> simp [Except.map]

theorem map_some_ne_ok_none (x : Except SdkError SValue) : x.map SValue.some ≠ .ok .none := by
  cases x <;> simp [Except.map]

/-- With `rest` behind it, a tree is read back exactly if it is decodable there. -/
theorem deserialize_treeBytes_iff (t : OptionTree Leaf) (rest : Bytes) :
    deserializeSValue (Hex.encode (treeBytes t ++ rest)) = .ok (ofTree t) ↔
      (ofTree t).Decodable rest.isEmpty := by
  induction t generalizing rest with
  | leaf a => rw [treeBytes_leaf, ofTree, deserialize_leaf_iff, decodable_leaf_iff]
  | none =>
      cases rest with
      | nil => exact iff_of_true deserialize_none rfl
      | cons b rest =>
          refine iff_of_false ?_ Bool.false_ne_true
          rw [treeBytes_none, List.singleton_append, deserialize_some (List.cons_ne_nil b rest)]
          exact map_some_ne_ok_none _
  | some t ih =>
      have hdata : treeBytes t ++ rest ≠ [] := by simp [treeBytes_ne_nil t]
      rw [treeBytes_some, List.cons_append, deserialize_some hdata, ofTree, Decodable, ← ih rest]
      exact map_some_eq_ok_iff
  | pair l r ihl ihr =>
      have hmore : (treeBytes r ++ rest).isEmpty = false := by simp [treeBytes_ne_nil r]
      have hleft := ihl (treeBytes r ++ rest)
      rw [hmore] at hleft
      rw [treeBytes_pair, List.cons_append, List.append_assoc, ofTree, deserialize_pair_eq_ok_iff,
        hleft]
      cases l with
      | leaf a =>
          rw [ofTree, decodable_pair_iff (ofLeaf_ne_some a), decodable_leaf_iff, treeBytes_leaf]
          apply and_congr_right
          intro hscalar
          rw [length_leaf hscalar, List.drop_left, ihr]
      | none => exact iff_of_false (fun h => Bool.false_ne_true h.1) (fun h => h.1)
      | some x =>
          -- Behind a length of 1, the right component is the value of the left one.
          apply and_congr_right
          intro hx
          have hvalue : deserializeSValue (Hex.encode (treeBytes x ++ (treeBytes r ++ rest))) =
              .ok (ofTree x) := by
            have hdata : treeBytes x ++ (treeBytes r ++ rest) ≠ [] := by simp [treeBytes_ne_nil x]
            have hread := hleft.mpr hx
            rw [treeBytes_some, List.cons_append, deserialize_some hdata, ofTree] at hread
            exact map_some_eq_ok_iff.mp hread
          have hdrop : (treeBytes (.some x) ++ (treeBytes r ++ rest)).drop
              (getSerializedValueLength (treeBytes (.some x) ++ (treeBytes r ++ rest)).head?
                (treeBytes (.some x) ++ (treeBytes r ++ rest))) =
                treeBytes x ++ (treeBytes r ++ rest) := rfl
          rw [hdrop, hvalue, normal_ofTree, normal_ofTree, Except.ok.injEq]
      | pair a b =>
          have hpair : ∀ value, ofTree (.pair a b) ≠ SValue.some value := by simp [ofTree]
          rw [decodable_pair_iff hpair, treeBytes_pair, List.cons_append, length_pair,
            List.drop_length]
          exact iff_of_false (fun h => deserialize_nil_ne_ok _ h.2) (fun h => h.1)

end Trees

section Values

theorem normal_normal {v : SValue} (h : v.WellFormed) : v.normal.normal = v.normal := by
  obtain ⟨t, ht, _⟩ := exists_tree h
  rw [ht, normal_ofTree]

/-- The condition does not depend on how the text of a value is spelled. -/
theorem decodable_normal {v : SValue} (h : v.WellFormed) (last : Bool) :
    v.normal.Decodable last ↔ v.Decodable last := by
  induction v generalizing last with
  | some value ih => exact ih h last
  | pair left right ihl ihr =>
      cases left with
      | some value =>
          have hvalue := ihl h.1 false
          rw [normal, normal, Decodable, Decodable, normal_normal h.2]
          rw [normal_normal (v := value) h.1]
          exact and_congr_left fun _ => hvalue
      | _ => exact and_congr_right fun _ => ihr h.2 last
  | _ => exact Iff.rfl

/-- The values that the SDK reads back are the decodable ones. -/
theorem roundTrips_iff_decodable {v : SValue} (hv : v.WellFormed) :
    v.RoundTrips ↔ v.Decodable true := by
  obtain ⟨t, ht, htext⟩ := exists_tree hv
  have hread := deserialize_treeBytes_iff t []
  rw [List.append_nil] at hread
  rw [← decodable_normal hv, ht, ← show ([] : Bytes).isEmpty = true from rfl, ← hread]
  constructor
  · rintro ⟨text, hwritten, hdecoded⟩
    rw [htext] at hwritten
    obtain rfl := Except.ok.inj hwritten
    rw [hdecoded, ht]
  · intro h
    exact ⟨_, htext, by rw [h, ht]⟩

/-- `(None, true)` is read as `(Some(true), true)`. -/
theorem not_roundTrips_none_pair : ¬ (pair none (boolean true)).RoundTrips := by
  have hv : (pair none (boolean true)).WellFormed := ⟨trivial, trivial⟩
  intro h
  exact ((roundTrips_iff_decodable hv).mp h).1

theorem round_trip_fails : ¬ ∀ v : SValue, v.WellFormed → v.RoundTrips := by
  intro h
  obtain ⟨text, hwritten, hread⟩ := h (pair none (boolean true)) ⟨trivial, trivial⟩
  obtain rfl : Hex.encode (treeBytes (.pair .none (.leaf (.boolean true)))) = text :=
    Except.ok.inj hwritten
  have hdecodable := (deserialize_treeBytes_iff (.pair .none (.leaf (.boolean true))) []).mp hread
  exact hdecodable.1

end Values

end DuckPools.Sdk
