import DuckPools.Codec.Hex
import Mathlib.Algebra.Group.Nat.Defs
import Mathlib.Data.List.Induction

/-!
# Big-endian numbers

The number that bytes are, first byte high. With a fixed number of bytes, bytes and numbers
below a power of 256 determine each other.
-/

namespace DuckPools

def ofBigEndian (bytes : Bytes) : Nat := bytes.foldl (fun n b => 256 * n + b.toNat) 0

@[simp] theorem ofBigEndian_concat (bytes : Bytes) (b : Byte) :
    ofBigEndian (bytes ++ [b]) = 256 * ofBigEndian bytes + b.toNat := by
  rw [ofBigEndian, List.foldl_append]
  rfl

theorem ofBigEndian_lt (bytes : Bytes) : ofBigEndian bytes < 256 ^ bytes.length := by
  induction bytes using List.reverseRecOn with
  | nil => exact Nat.one_pos
  | append_singleton bytes b ih =>
      have hb := b.isLt
      rw [ofBigEndian_concat, List.length_append, List.length_singleton, Nat.pow_succ]
      omega

theorem ofBigEndian_inj {as bs : Bytes} (length : as.length = bs.length)
    (same : ofBigEndian as = ofBigEndian bs) : as = bs := by
  induction as using List.reverseRecOn generalizing bs with
  | nil => exact (List.eq_nil_of_length_eq_zero length.symm).symm
  | append_singleton as a ih =>
      obtain rfl | ⟨bs, b, rfl⟩ := List.eq_nil_or_concat' bs
      · simp at length
      · have ha := a.isLt
        have hb := b.isLt
        rw [ofBigEndian_concat, ofBigEndian_concat] at same
        rw [List.length_append, List.length_append, List.length_singleton, List.length_singleton,
          Nat.add_right_cancel_iff] at length
        have last : a = b := BitVec.eq_of_toNat_eq (by omega)
        rw [ih length (by omega), last]

theorem exists_ofBigEndian {length n : Nat} (h : n < 256 ^ length) :
    ∃ bytes : Bytes, bytes.length = length ∧ ofBigEndian bytes = n := by
  induction length generalizing n with
  | zero =>
      obtain rfl := Nat.lt_one_iff.mp h
      exact ⟨[], rfl, rfl⟩
  | succ length ih =>
      rw [Nat.pow_succ] at h
      obtain ⟨bytes, hlength, front⟩ := ih (n := n / 256) (by omega)
      refine ⟨bytes ++ [BitVec.ofNat 8 n], by simp [hlength], ?_⟩
      rw [ofBigEndian_concat, front, BitVec.toNat_ofNat]
      omega

end DuckPools
