import DuckPools.Sdk.Crypto

/-!
# What opens a commitment of the SDK

Eight bytes and a choice byte are hashed, so without collisions a commitment binds them. It
does not bind the text and the number they came from: other texts are padded, truncated or
cut off at the first bad digit until they are eight bytes, and the choice is masked.
-/

namespace DuckPools.Sdk

/-- The texts from which `generateCommit` makes these eight bytes. An empty text is replaced
by the next random secret. -/
inductive StandsFor (randomBytes : Vector Byte 8) : Text → Bytes → Prop
  | drawn : StandsFor randomBytes [] randomBytes.toList
  | hex {digits rest : Text} {secret : Bytes} (spelled : Hex.decode digits = some secret)
      (hlen : secret.length = 8) (stop : Js.bufferFromHex rest = []) :
      StandsFor randomBytes (digits ++ rest) secret
  | utf8 {s : Text} (given : s ≠ []) (notHex : (Js.bufferFromHex s).length ≠ 8) :
      StandsFor randomBytes s ((Js.bufferFromUtf8 s ++ List.replicate 8 0).take 8)

/-- The digits that `Buffer.from(s, 'hex')` reads, and the rest. -/
theorem bufferFromHex_split : ∀ s : Text, ∃ digits rest, s = digits ++ rest ∧
    Hex.decode digits = some (Js.bufferFromHex s) ∧ Js.bufferFromHex rest = []
  | [] => ⟨[], [], rfl, rfl, rfl⟩
  | [c] => ⟨[], [c], rfl, rfl, rfl⟩
  | hi :: lo :: rest => by
      cases hhi : Hex.value hi with
      | none => exact ⟨[], hi :: lo :: rest, rfl, by simp [Js.bufferFromHex, hhi, Hex.decode],
          by simp [Js.bufferFromHex, hhi]⟩
      | some h =>
          cases hlo : Hex.value lo with
          | none => exact ⟨[], hi :: lo :: rest, rfl,
              by simp [Js.bufferFromHex, hhi, hlo, Hex.decode],
              by simp [Js.bufferFromHex, hhi, hlo]⟩
          | some l =>
              obtain ⟨digits, stop, rfl, hdigits, hstop⟩ := bufferFromHex_split rest
              refine ⟨hi :: lo :: digits, stop, rfl, ?_, hstop⟩
              rw [Js.bufferFromHex, hhi, hlo]
              exact Hex.decode_cons_iff.mpr ⟨h, l, _, hhi, hlo, hdigits, rfl⟩

theorem bufferFromHex_append {digits rest : Text} {secret : Bytes}
    (hdigits : Hex.decode digits = some secret) (hrest : Js.bufferFromHex rest = []) :
    Js.bufferFromHex (digits ++ rest) = secret := by
  induction hdigits using Hex.decode_induction with
  | nil => exact hrest
  | byte hhi hlo htail ih =>
      rw [List.cons_append, List.cons_append, Js.bufferFromHex, hhi, hlo]
      exact congrArg _ ih

/-- The test for sixteen digits adds nothing to the one for eight bytes. -/
theorem length_bufferFromHex_of_digits : ∀ {n : Nat} {s : Text}, s.length = 2 * n →
    (∀ c ∈ s, (Hex.value c).isSome) → (Js.bufferFromHex s).length = n
  | 0, [], _, _ => rfl
  | n + 1, hi :: lo :: rest, hlen, hall => by
      obtain ⟨h, hhi⟩ := Option.isSome_iff_exists.mp (hall hi List.mem_cons_self)
      obtain ⟨l, hlo⟩ := Option.isSome_iff_exists.mp
        (hall lo (List.mem_cons_of_mem _ List.mem_cons_self))
      simp only [List.length_cons] at hlen
      have ih := @length_bufferFromHex_of_digits n rest (by omega)
        (fun c hc => hall c (List.mem_cons_of_mem _ (List.mem_cons_of_mem _ hc)))
      rw [Js.bufferFromHex, hhi, hlo, List.length_cons, ih]

theorem pad_eq_take (b : Bytes) : b.take 8 ++ List.replicate (8 - (b.take 8).length) 0 =
    (b ++ List.replicate 8 0).take 8 := by
  rw [List.take_append, List.length_take, List.take_replicate]
  congr 2
  omega

/-- Without eight bytes of hex, the text itself is taken. -/
theorem secretBytes_of_not_hex {s : Text} (h : (Js.bufferFromHex s).length ≠ 8) :
    secretBytes s = (Js.bufferFromUtf8 s ++ List.replicate 8 0).take 8 := by
  have notDigits : ¬ (s.length = 16 ∧ s.all (fun c => (Hex.value c).isSome)) := by
    rintro ⟨hlen, hall⟩
    exact h (length_bufferFromHex_of_digits hlen (List.all_eq_true.mp hall))
  rw [secretBytes, if_neg h, if_neg notDigits]
  exact pad_eq_take _

theorem length_secretBytes (s : Text) : (secretBytes s).length = 8 := by
  by_cases h : (Js.bufferFromHex s).length = 8
  · rw [secretBytes, if_pos h, h]
  · rw [secretBytes_of_not_hex h, List.length_take, List.length_append, List.length_replicate]
    omega

theorem secretBytes_drawn (randomBytes : Vector Byte 8) :
    secretBytes (actualSecret randomBytes (some [])) = randomBytes.toList :=
  secretBytes_of_decode (Hex.decode_encode _) randomBytes.length_toList

theorem actualSecret_of_ne_nil (randomBytes : Vector Byte 8) {s : Text} (h : s ≠ []) :
    actualSecret randomBytes (some s) = s := by
  cases s with
  | nil => exact absurd rfl h
  | cons => rfl

theorem secretBytes_eq_iff_standsFor {randomBytes : Vector Byte 8} {s : Text} {secret : Bytes} :
    secretBytes (actualSecret randomBytes (some s)) = secret ↔ StandsFor randomBytes s secret := by
  constructor
  · rintro rfl
    by_cases hs : s = []
    · rw [hs, secretBytes_drawn]
      exact .drawn
    rw [actualSecret_of_ne_nil randomBytes hs]
    by_cases hhex : (Js.bufferFromHex s).length = 8
    · obtain ⟨digits, rest, split, hdigits, hrest⟩ := bufferFromHex_split s
      rw [secretBytes, if_pos hhex]
      conv => arg 2; rw [split]
      exact .hex hdigits hhex hrest
    · rw [secretBytes_of_not_hex hhex]
      exact .utf8 hs hhex
  · intro h
    cases h with
    | drawn => exact secretBytes_drawn randomBytes
    | @hex digits rest _ spelled hlen stop =>
        have hne : digits ++ rest ≠ [] := by
          intro hnil
          obtain rfl := (List.append_eq_nil_iff.mp hnil).1
          obtain rfl : [] = secret := by simpa [Hex.decode] using spelled
          simp at hlen
        have hhex := bufferFromHex_append spelled stop
        rw [actualSecret_of_ne_nil randomBytes hne, secretBytes, hhex, if_pos hlen]
    | utf8 given notHex =>
        rw [actualSecret_of_ne_nil randomBytes given, secretBytes_of_not_hex notHex]

variable (H : Blake2b)

/-- No two of the messages that are committed to have the same hash. -/
def CollisionFree : Prop :=
  ∀ a b : Bytes, a.length = 9 → b.length = 9 →
    blake2b256 H (.buffer a) = blake2b256 H (.buffer b) → a = b

variable {H}

theorem choiceByte_eq_iff (choice other : Int) :
    BitVec.ofInt 8 choice = BitVec.ofInt 8 other ↔ choice % 256 = other % 256 := by
  rw [← BitVec.toNat_inj, BitVec.toNat_ofInt, BitVec.toNat_ofInt]
  omega

/-- A commitment determines the nine bytes. -/
theorem verifyCommit_eq_true_iff (hfree : CollisionFree H) (draw redraw : Vector Byte 8)
    (secret : Option Text) (choice : Int) (opening : Text) (other : Int) :
    verifyCommit H redraw (generateCommit H draw secret choice).commitment opening other = true ↔
      secretBytes (actualSecret redraw (some opening)) = secretBytes (actualSecret draw secret) ∧
        other % 256 = choice % 256 := by
  have lower : ∀ bytes, Js.toLowerCase (Js.bytesToHex bytes) = Js.bytesToHex bytes :=
    Hex.map_toLower_encode
  simp only [verifyCommit, generateCommit, lower, beq_iff_eq]
  constructor
  · intro h
    have hash := Vector.toList_inj.mp (Hex.encode_injective h)
    have buffer := hfree _ _ (by simp [length_secretBytes]) (by simp [length_secretBytes]) hash
    obtain ⟨bytes, byte⟩ := List.append_inj buffer (by simp only [length_secretBytes])
    exact ⟨bytes.symm, (choiceByte_eq_iff _ _).mp (List.cons.inj byte).1.symm⟩
  · rintro ⟨bytes, byte⟩
    rw [bytes, (choiceByte_eq_iff other choice).mpr byte]

/-- A commitment to eight bytes and a side is opened by the texts that stand for these bytes
and the numbers that are the side modulo 256. Among the spellings of eight bytes and the
numbers that fit a byte, only the committed ones open it. -/
theorem commitment_binds {s : Text} {secret : Bytes} {choice : Int} (hfree : CollisionFree H)
    (hsecret : Hex.decode s = some secret) (hlen : secret.length = 8)
    (hchoice : choice = 0 ∨ choice = 1) (draw redraw : Vector Byte 8) (opening : Text)
    (other : Int) :
    (verifyCommit H redraw (generateCommit H draw (some s) choice).commitment opening other = true ↔
        StandsFor redraw opening secret ∧ other % 256 = choice) ∧
      ∀ bytes, Hex.decode opening = some bytes → bytes.length = 8 → 0 ≤ other → other < 256 →
        verifyCommit H redraw (generateCommit H draw (some s) choice).commitment opening other =
          true → bytes = secret ∧ other = choice := by
  have committed : secretBytes (actualSecret draw (some s)) = secret := by
    rw [actualSecret_of_decode draw hsecret hlen, secretBytes_of_decode hsecret hlen]
  rw [verifyCommit_eq_true_iff hfree, committed]
  refine ⟨and_congr secretBytes_eq_iff_standsFor (by omega), ?_⟩
  rintro bytes hbytes hlength hlow hhigh ⟨same, byte⟩
  rw [actualSecret_of_decode redraw hbytes hlength, secretBytes_of_decode hbytes hlength] at same
  exact ⟨same, by omega⟩

def boundSecret : Text := "0011223344556677".toList

/-- The message that commits to this secret and heads. -/
def boundMessage : Bytes := [0x00, 0x11, 0x22, 0x33, 0x44, 0x55, 0x66, 0x77, 0x00]

/-- Its `blake2b512` digest. -/
def boundDigest : Bytes :=
  [0xb9, 0xc5, 0xbf, 0x0c, 0x21, 0x09, 0x74, 0xd9, 0x38, 0xcd, 0xf7, 0xc5, 0xa1, 0xf2, 0xde, 0x5c,
   0xd6, 0x76, 0x9c, 0xf0, 0xfa, 0x5a, 0x9a, 0x5b, 0xfd, 0x5e, 0xd6, 0xe3, 0xdc, 0x7a, 0x1a, 0xf1,
   0xfa, 0x28, 0x6c, 0xfc, 0x65, 0x0b, 0x1a, 0x0f, 0x17, 0xee, 0x8c, 0xa6, 0x58, 0x27, 0x6e, 0xda,
   0xa6, 0xfa, 0x89, 0x79, 0xee, 0xb2, 0xa0, 0xbe, 0x69, 0x5d, 0x82, 0x4f, 0xee, 0xb3, 0x6e, 0xa9]

/-- A hash without collisions that is `blake2b512` on the example. -/
def exampleBlake2b512 : Blake2b :=
  ⟨fun n message => Vector.ofFn fun (i : Fin n) =>
    (if message = boundMessage then boundDigest else message)[i.val]?.getD 0⟩

theorem blake2b256_example (message : Bytes) (i : Nat) (hi : i < 32) :
    (blake2b256 exampleBlake2b512 (.buffer message))[i] =
      (if message = boundMessage then boundDigest else message)[i]?.getD 0 := by
  simp only [blake2b256, exampleBlake2b512, HashInput.toBuffer, Vector.getElem_cast,
    Vector.getElem_take, Vector.getElem_ofFn]

theorem collisionFree_example : CollisionFree exampleBlake2b512 := by
  have other : ∀ a b : Bytes, b.length = 9 → a = boundMessage → b ≠ boundMessage →
      blake2b256 exampleBlake2b512 (.buffer a) ≠ blake2b256 exampleBlake2b512 (.buffer b) := by
    intro a b hb ha hne h
    have tenth := congrArg (fun digest => digest[9]) h
    simp only [blake2b256_example] at tenth
    rw [if_pos ha, if_neg hne, @List.getElem?_eq_none _ b 9 (by omega)] at tenth
    revert tenth
    decide
  intro a b ha hb h
  by_cases hma : a = boundMessage
  · by_cases hmb : b = boundMessage
    · rw [hma, hmb]
    · exact absurd h (other a b hb hma hmb)
  · by_cases hmb : b = boundMessage
    · exact absurd h.symm (other b a ha hmb hma)
    · apply List.ext_getElem (ha.trans hb.symm)
      intro i hia hib
      have digit : (blake2b256 exampleBlake2b512 (.buffer a))[i] =
          (blake2b256 exampleBlake2b512 (.buffer b))[i] := by rw [h]
      rw [blake2b256_example, blake2b256_example, if_neg hma, if_neg hmb,
        List.getElem?_eq_getElem hia, List.getElem?_eq_getElem hib] at digit
      exact digit

theorem commitment_binds_heads :
    verifyCommit exampleBlake2b512 (Vector.replicate 8 0)
        (generateCommit exampleBlake2b512 (Vector.replicate 8 0) (some boundSecret) 0).commitment
        boundSecret 0 = true ↔
      StandsFor (Vector.replicate 8 0) boundSecret (boundMessage.take 8) ∧ (0 : Int) % 256 = 0 :=
  (commitment_binds collisionFree_example rfl rfl (Or.inl rfl) _ _ boundSecret 0).1

/-- Sixteen digits and a blank, with a number that is heads modulo 256, open the commitment
to the digits and heads. -/
theorem commitment_opens_otherwise :
    CollisionFree exampleBlake2b512 ∧
      ¬ ∀ opening other, verifyCommit exampleBlake2b512 (Vector.replicate 8 0)
          (generateCommit exampleBlake2b512 (Vector.replicate 8 0) (some boundSecret) 0).commitment
          opening other = true →
        Hex.decode opening = some (boundMessage.take 8) ∧ other = 0 := by
  refine ⟨collisionFree_example, fun binds => ?_⟩
  have opened : verifyCommit exampleBlake2b512 (Vector.replicate 8 0)
      (generateCommit exampleBlake2b512 (Vector.replicate 8 0) (some boundSecret) 0).commitment
      (boundSecret ++ [' ']) 256 = true :=
    (verifyCommit_eq_true_iff collisionFree_example _ _ _ _ _ _).mpr (by decide)
  exact absurd (binds _ _ opened).2 (by decide)

end DuckPools.Sdk
