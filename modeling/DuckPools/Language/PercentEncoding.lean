import DuckPools.Language.JavaScript
import Mathlib.Data.List.TakeDrop
import Mathlib.Data.List.TakeWhile

/-!
# Percent encoding

`encodeURIComponent` and `URLSearchParams` write text into an address, `unquote` and
`parse_qsl` of Python read it. `none` stands for bytes that are no UTF-8, where Python puts
replacement characters; nothing that was written here decodes to them (`unquote_encode`,
`parseQsl_formPairs`).
-/

namespace DuckPools

/-- `bytes.decode()` -/
def utf8Text (bs : Bytes) : Option Text :=
  (bs.map UInt8.ofBitVec).toByteArray.utf8Decode?.map Array.toList

theorem utf8Text_bufferFromUtf8 (s : Text) : utf8Text (Js.bufferFromUtf8 s) = some s := by
  have bytes : ((Js.bufferFromUtf8 s).map UInt8.ofBitVec).toByteArray = s.utf8Encode := by
    rw [Js.bufferFromUtf8, List.utf8Encode, List.map_flatMap]
    congr 2
    funext c
    rw [List.map_map]
    exact List.map_id _
  rw [utf8Text, bytes, List.utf8Decode?_utf8Encode]
  rfl

namespace Percent

section Encoding

/-- `%XX`, with capital digits -/
def ofByte (b : Byte) : Text := '%' :: (Hex.ofByte b).map Char.toUpper

/-- Kept characters stand for themselves, the others for the bytes of their UTF-8. -/
def encode (keep : Char → Bool) (s : Text) : Text :=
  s.flatMap fun c => if keep c then [c] else (Js.bufferFromUtf8 [c]).flatMap ofByte

def isUnreserved (c : Char) : Bool := c.isAlphanum || "-_.!~*'()".toList.contains c

def encodeURIComponent (s : Text) : Text := encode isUnreserved s

/-- The characters that a form leaves alone; a space becomes `+` afterwards. -/
def isFormSafe (c : Char) : Bool := c.isAlphanum || "*-._ ".toList.contains c

def spaceToPlus (c : Char) : Char := if c = ' ' then '+' else c

def plusToSpace (c : Char) : Char := if c = '+' then ' ' else c

/-- A name or a value in `URLSearchParams.toString()`. -/
def formEncode (s : Text) : Text := (encode isFormSafe s).map spaceToPlus

def formPair (pair : Text × Text) : Text := formEncode pair.1 ++ '=' :: formEncode pair.2

/-- `new URLSearchParams(pairs).toString()` -/
def formPairs (pairs : List (Text × Text)) : Text := ['&'].intercalate (pairs.map formPair)

end Encoding

section Decoding

/-- `unquote_to_bytes` -/
def unquoteToBytes : Text → Bytes
  | [] => []
  | '%' :: hi :: lo :: rest =>
      match Hex.value hi, Hex.value lo with
      | some h, some l => Hex.pair h l :: unquoteToBytes rest
      | _, _ => Js.bufferFromUtf8 ['%'] ++ unquoteToBytes (hi :: lo :: rest)
  | c :: rest => Js.bufferFromUtf8 [c] ++ unquoteToBytes rest

def unquote (s : Text) : Option Text := utf8Text (unquoteToBytes s)

def unquotePlus (s : Text) : Option Text := unquote (s.map plusToSpace)

/-- `name_value.split('=', 1)`, decoded -/
def parsePair (part : Text) : Option (Text × Text) := do
  let name ← unquotePlus (part.takeWhile (· ≠ '='))
  let value ← unquotePlus ((part.dropWhile (· ≠ '=')).drop 1)
  return (name, value)

/-- `parse_qsl(query, keep_blank_values=True)` -/
def parseQsl (query : Text) : Option (List (Text × Text)) :=
  ((query.splitOn '&').filter (· ≠ [])).mapM parsePair

end Decoding

variable {keep : Char → Bool} {c : Char} {s rest : Text}

theorem encode_cons (keep : Char → Bool) (c : Char) (s : Text) :
    encode keep (c :: s) =
      (if keep c then [c] else (Js.bufferFromUtf8 [c]).flatMap ofByte) ++ encode keep s := rfl

theorem bufferFromUtf8_cons (c : Char) (s : Text) :
    Js.bufferFromUtf8 (c :: s) = Js.bufferFromUtf8 [c] ++ Js.bufferFromUtf8 s :=
  @List.flatMap_append _ _ [c] s _

theorem value_toUpper_digit {n : Nat} (h : n < 16) : Hex.value (Hex.digit n).toUpper = some n := by
  have all : ∀ n < 16, Hex.value (Hex.digit n).toUpper = some n := by decide
  exact all n h

theorem unquoteToBytes_ofByte (b : Byte) (rest : Text) :
    unquoteToBytes (ofByte b ++ rest) = b :: unquoteToBytes rest := by
  have hb := b.isLt
  have high := value_toUpper_digit (n := b.toNat / 16) (by omega)
  have low := value_toUpper_digit (n := b.toNat % 16) (by omega)
  show unquoteToBytes ('%' :: (Hex.digit (b.toNat / 16)).toUpper ::
    (Hex.digit (b.toNat % 16)).toUpper :: rest) = _
  rw [unquoteToBytes, high, low]
  simp only [Hex.pair_halves]

theorem unquoteToBytes_ofBytes (bs : Bytes) (rest : Text) :
    unquoteToBytes (bs.flatMap ofByte ++ rest) = bs ++ unquoteToBytes rest := by
  induction bs with
  | nil => rfl
  | cons b bs ih =>
      rw [List.flatMap_cons, List.append_assoc, unquoteToBytes_ofByte, ih, List.cons_append]

theorem unquoteToBytes_cons (h : c ≠ '%') (rest : Text) :
    unquoteToBytes (c :: rest) = Js.bufferFromUtf8 [c] ++ unquoteToBytes rest := by
  rw [unquoteToBytes.eq_def]
  split
  · next eq => cases eq
  · next eq => cases eq; exact absurd rfl h
  · next eq => cases eq; rfl

theorem unquoteToBytes_append (plain : '%' ∉ s) (rest : Text) :
    unquoteToBytes (s ++ rest) = Js.bufferFromUtf8 s ++ unquoteToBytes rest := by
  induction s with
  | nil => rfl
  | cons c s ih =>
      obtain ⟨hc, hs⟩ := not_or.mp (List.mem_cons.not.mp plain)
      rw [List.cons_append, unquoteToBytes_cons (Ne.symm hc), ih hs, bufferFromUtf8_cons c s,
        List.append_assoc]

/-- Induction on the text, one character at a time. -/
theorem unquoteToBytes_encode (hkeep : keep '%' = false) (s rest : Text) :
    unquoteToBytes (encode keep s ++ rest) = Js.bufferFromUtf8 s ++ unquoteToBytes rest := by
  induction s with
  | nil => rfl
  | cons c s ih =>
      rw [encode_cons, bufferFromUtf8_cons c s, List.append_assoc, List.append_assoc, ← ih]
      split
      · next kept =>
          apply unquoteToBytes_cons
          rintro rfl
          rw [hkeep] at kept
          cases kept
      · exact unquoteToBytes_ofBytes _ _

/-- Encoded text behind a part of the address that needs no encoding. -/
theorem unquote_append_encode {start : Text} (plain : '%' ∉ start) (hkeep : keep '%' = false)
    (s : Text) : unquote (start ++ encode keep s) = some (start ++ s) := by
  have bytes := unquoteToBytes_encode hkeep s []
  rw [List.append_nil, unquoteToBytes, List.append_nil] at bytes
  rw [unquote, unquoteToBytes_append plain, bytes, Js.bufferFromUtf8, Js.bufferFromUtf8,
    ← List.flatMap_append]
  exact utf8Text_bufferFromUtf8 _

theorem unquote_encode (hkeep : keep '%' = false) (s : Text) :
    unquote (encode keep s) = some s :=
  @unquote_append_encode keep [] List.not_mem_nil hkeep s

theorem unquote_plain (plain : '%' ∉ s) : unquote s = some s := by
  have whole := @unquote_append_encode isUnreserved s plain rfl []
  rwa [encode, List.flatMap_nil, List.append_nil] at whole

theorem formEncode_eq_self (h : ∀ c ∈ s, isFormSafe c = true ∧ c ≠ ' ') : formEncode s = s := by
  rw [formEncode]
  induction s with
  | nil => rfl
  | cons c s ih =>
      obtain ⟨safe, space⟩ := h c List.mem_cons_self
      rw [encode_cons, if_pos safe, List.map_append,
        ih fun d hd => h d (List.mem_cons_of_mem c hd), List.map_singleton, spaceToPlus,
        if_neg space, List.singleton_append]

/-- What is written are kept characters, percent signs and digits. -/
theorem notMem_encode (hkeep : keep c = false) (hpercent : c ≠ '%') (hdigit : Hex.value c = none)
    (s : Text) : c ∉ encode keep s := by
  intro hc
  obtain ⟨d, -, written⟩ := List.mem_flatMap.mp hc
  split at written
  · next kept =>
      obtain rfl := List.mem_singleton.mp written
      rw [hkeep] at kept
      cases kept
  · obtain ⟨b, -, inByte⟩ := List.mem_flatMap.mp written
    have hb := b.isLt
    have digit : ∀ n < 16, c ≠ (Hex.digit n).toUpper := by
      rintro n hn rfl
      rw [value_toUpper_digit hn] at hdigit
      cases hdigit
    have high := digit (b.toNat / 16) (by omega)
    have low := digit (b.toNat % 16) (by omega)
    simp [ofByte, Hex.ofByte, hpercent, high, low] at inByte

theorem notMem_formEncode (hkeep : isFormSafe c = false) (hplus : c ≠ '+') (hpercent : c ≠ '%')
    (hdigit : Hex.value c = none) (s : Text) : c ∉ formEncode s := by
  intro hc
  obtain ⟨d, hd, same⟩ := List.mem_map.mp hc
  rw [spaceToPlus] at same
  split at same
  · exact hplus same.symm
  · exact notMem_encode hkeep hpercent hdigit s (same ▸ hd)

theorem unquotePlus_formEncode (s : Text) : unquotePlus (formEncode s) = some s := by
  have back : (formEncode s).map plusToSpace = encode isFormSafe s := by
    have same : ∀ c ∈ encode isFormSafe s, (plusToSpace ∘ spaceToPlus) c = id c := by
      intro c hc
      rw [Function.comp_apply, spaceToPlus]
      split
      · next space => exact space.symm
      · have plus : c ≠ '+' := by
          rintro rfl
          exact notMem_encode rfl (by decide) rfl s hc
        exact if_neg plus
    rw [formEncode, List.map_map, List.map_congr_left same, List.map_id]
  rw [unquotePlus, back, unquote_encode rfl]

theorem decide_ne_of_notMem (h : c ∉ s) : ∀ d ∈ s, decide (d ≠ c) = true := by
  intro d hd
  apply decide_eq_true
  rintro rfl
  exact h hd

/-- Text is taken apart at its first separator. -/
theorem split_at (plain : c ∉ s) (rest : Text) :
    (s ++ c :: rest).takeWhile (· ≠ c) = s ∧ (s ++ c :: rest).dropWhile (· ≠ c) = c :: rest := by
  have stops := decide_ne_of_notMem plain
  rw [List.takeWhile_append_of_pos stops, List.dropWhile_append_of_pos stops]
  simp

theorem parsePair_formPair (pair : Text × Text) : parsePair (formPair pair) = some pair := by
  have plain : '=' ∉ formEncode pair.1 := notMem_formEncode rfl (by decide) (by decide) rfl _
  obtain ⟨before, after⟩ := split_at plain (formEncode pair.2)
  rw [parsePair, formPair, before, after, List.drop_one, List.tail_cons, unquotePlus_formEncode,
    unquotePlus_formEncode]
  rfl

/-- What `URLSearchParams` writes reads back. -/
theorem parseQsl_formPairs (pairs : List (Text × Text)) :
    parseQsl (formPairs pairs) = some pairs := by
  by_cases empty : pairs = []
  · subst empty
    rfl
  have joined : (formPairs pairs).splitOn '&' = pairs.map formPair := by
    apply List.splitOn_intercalate
    · intro part hpart amp
      obtain ⟨pair, -, rfl⟩ := List.mem_map.mp hpart
      rcases List.mem_append.mp amp with name | value
      · exact notMem_formEncode rfl (by decide) (by decide) rfl _ name
      · apply notMem_formEncode rfl (by decide) (by decide) rfl _
          ((List.mem_cons.mp value).resolve_left (by decide))
    · simpa using empty
  have nonempty : ∀ part ∈ pairs.map formPair, decide (part ≠ []) = true := by
    intro part hpart
    obtain ⟨pair, -, rfl⟩ := List.mem_map.mp hpart
    exact decide_eq_true (List.append_ne_nil_of_right_ne_nil _ (List.cons_ne_nil _ _))
  rw [parseQsl, joined, List.filter_eq_self.mpr nonempty]
  clear joined nonempty empty
  induction pairs with
  | nil => rfl
  | cons pair pairs ih =>
      rw [List.map_cons, List.mapM_cons, parsePair_formPair, ih]
      rfl

end Percent
end DuckPools
