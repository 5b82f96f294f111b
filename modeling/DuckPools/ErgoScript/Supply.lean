import DuckPools.ErgoScript.Chain

/-!
# Tokens in runs of the ledger

A token is minted by a transaction whose first input gives it its name. Once the box of that
name is gone, the token is issued: whatever happens on the ledger, there is never more of it.
Of a token of which there is one piece, one box holds it.
-/

namespace DuckPools.ErgoScript

variable {Point : Type}

theorem Token.exists_of_quantity_pos {id : Bytes} {ts : List Token} (h : 0 < quantity id ts) :
    ∃ t ∈ ts, t.id = id := by
  induction ts with
  | nil => cases h
  | cons t ts ih =>
      by_cases same : t.id = id
      · exact ⟨t, List.mem_cons_self, same⟩
      · simp only [quantity, same, if_false, Nat.zero_add] at h
        obtain ⟨u, hu, hid⟩ := ih h
        exact ⟨u, List.mem_cons_of_mem t hu, hid⟩

theorem total_tokenPayment (id : Bytes) (bs : List (Box Point)) :
    Payment.total (bs.map (Box.tokenPayment id)) = (bs.map (Box.tokenAmount · id)).sum := by
  simp only [Payment.total, List.map_map]
  rfl

/-- What two boxes hold is part of what all hold. -/
theorem tokenAmount_add_le_total {id : Bytes} {bs : List (Box Point)} {b c : Box Point}
    (hb : b ∈ bs) (hc : c ∈ bs) (apart : b ≠ c) :
    b.tokenAmount id + c.tokenAmount id ≤ Payment.total (bs.map (Box.tokenPayment id)) := by
  obtain ⟨front, back, rfl⟩ := List.append_of_mem hb
  have others : c ∈ front ++ back := by
    simp only [List.mem_append, List.mem_cons] at hc ⊢
    obtain hc | rfl | hc := hc
    · exact .inl hc
    · exact absurd rfl apart
    · exact .inr hc
  have part := Payment.amount_le_total (@List.mem_map_of_mem _ _ _ _ (Box.tokenPayment id) others)
  simp only [List.map_append, List.map_cons, Payment.total_append, Payment.total_cons,
    Box.tokenPayment_amount] at part ⊢
  omega

namespace Chain

/-- How much of a token there is. -/
def supply (s : Chain Point) (id : Bytes) : Nat :=
  Payment.total (s.utxo.unspent.map (Box.tokenPayment id))

/-- The box that gave the token its name is gone. -/
def Issued (s : Chain Point) (id : Bytes) : Prop := s.utxo.Gone Box.id id

variable {lock : Lock Point} {s : Chain Point} {t : Tx Point} {b c : Box Point} {id : Bytes}
  {e : Event Point} {events : List (Event Point)}

theorem tokenAmount_le_supply (hb : b ∈ s.utxo.unspent) : b.tokenAmount id ≤ s.supply id :=
  Payment.amount_le_total (@List.mem_map_of_mem _ _ _ _ (Box.tokenPayment id) hb)

/-- The only piece of a token is in one box. -/
theorem eq_of_supply_eq_one (single : s.supply id = 1) (hb : b ∈ s.utxo.unspent)
    (hc : c ∈ s.utxo.unspent) (held : 0 < b.tokenAmount id) (held' : 0 < c.tokenAmount id) :
    b = c := by
  by_contra apart
  have both := @tokenAmount_add_le_total _ id _ b c hb hc apart
  rw [← supply, single] at both
  omega

theorem Issued.step (issued : s.Issued id) (sound : s.Sound) (accepted : AcceptsUnder lock s e) :
    (s.step e).Issued id := by
  cases e with
  | tx t => exact Utxo.Sound.gone_apply sound accepted.allowed issued
  | block headerId => exact issued

/-- A transaction does not add to an issued token. -/
theorem ValidUnder.tokens_le (valid : s.ValidUnder lock t) (issued : s.Issued id) :
    Payment.total (t.outputs.map (Box.tokenPayment id)) ≤
      Payment.total (t.inputs.map (Box.tokenPayment id)) := by
  by_contra more
  have some_output : ∃ out ∈ t.outputs, 0 < out.tokenAmount id := by
    by_contra none
    have zero : (t.outputs.map (Box.tokenAmount · id)).sum = 0 := by
      apply List.sum_eq_zero
      intro n hn
      obtain ⟨out, hout, rfl⟩ := List.mem_map.mp hn
      exact Nat.eq_zero_of_not_pos fun pos => none ⟨out, hout, pos⟩
    rw [total_tokenPayment, zero] at more
    exact more (Nat.zero_le _)
  obtain ⟨out, hout, held⟩ := some_output
  obtain ⟨token, htoken, rfl⟩ := Token.exists_of_quantity_pos held
  obtain minted | kept := valid.conserves.tokens out hout token htoken
  · obtain ⟨first, hfirst, named⟩ := Option.map_eq_some_iff.mp minted
    have taken := valid.allowed.inputs first (List.mem_of_head? hfirst)
    exact issued.2 (named ▸ List.mem_map_of_mem taken)
  · exact more kept

/-- What a transaction takes and puts in is the change. -/
theorem supply_tx (sound : s.Sound) (valid : s.ValidUnder lock t) :
    (s.step (.tx t)).supply id + Payment.total (t.inputs.map (Box.tokenPayment id)) =
      s.supply id + Payment.total (t.outputs.map (Box.tokenPayment id)) := by
  have change := Utxo.Sound.sum_apply sound valid.allowed (Box.tokenAmount · id)
  simp only [supply, total_tokenPayment]
  exact change

theorem supply_le_step (sound : s.Sound) (issued : s.Issued id)
    (accepted : AcceptsUnder lock s e) : (s.step e).supply id ≤ s.supply id := by
  cases e with
  | block headerId => exact Nat.le_refl _
  | tx t =>
      have change := @supply_tx _ _ _ _ id sound accepted
      have kept := ValidUnder.tokens_le accepted issued
      omega

end Chain

end DuckPools.ErgoScript
