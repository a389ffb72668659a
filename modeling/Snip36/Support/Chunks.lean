import Mathlib

/-!
# Support — a list in chunks

`chunks n xs` cuts `xs` into runs of `n`, the last one as long as what is left.  For `0 < n` the
chunks put together are the list (`flatten_chunks`), none is empty (`ne_nil_of_mem_chunks`),
none is longer than `n` (`length_le_of_mem_chunks`), and all but the last are as long
(`length_of_mem_dropLast_chunks`).

A list may come in blocks.  `forall₂_chunks`: when every block lies in one chunk, what relates the
blocks of two lists relates their chunks.  `exists_cut`: a block that does not lie in one chunk is
cut between two of its elements, and `chunks_at_cut` are the chunks then.
-/

namespace Support

variable {α : Type*}

/-- At most `fuel` chunks of `xs`. -/
def chunksAux (n : ℕ) : ℕ → List α → List (List α)
  | 0, _ => []
  | _ + 1, [] => []
  | fuel + 1, x :: xs => (x :: xs).take n :: chunksAux n fuel ((x :: xs).drop n)

/-- `xs` in runs of `n`.  There are at most as many chunks as elements. -/
def chunks (n : ℕ) (xs : List α) : List (List α) := chunksAux n xs.length xs

@[simp] theorem chunks_nil (n : ℕ) : chunks n ([] : List α) = [] := rfl

theorem flatten_chunksAux {n : ℕ} (hn : 0 < n) :
    ∀ (fuel : ℕ) (xs : List α), xs.length ≤ fuel → (chunksAux n fuel xs).flatten = xs
  | 0, xs, h => by simp [List.length_eq_zero_iff.mp (Nat.le_zero.mp h), chunksAux]
  | _ + 1, [], _ => rfl
  | fuel + 1, x :: xs, h => by
      have hdrop : ((x :: xs).drop n).length ≤ fuel := by
        simp only [List.length_drop, List.length_cons] at h ⊢; omega
      rw [chunksAux, List.flatten_cons, flatten_chunksAux hn fuel _ hdrop, List.take_append_drop]

theorem mem_chunksAux {n : ℕ} :
    ∀ {fuel : ℕ} {xs c : List α}, c ∈ chunksAux n fuel xs → ∃ x ys, c = (x :: ys).take n
  | 0, _, _, h => by simp [chunksAux] at h
  | _ + 1, [], _, h => by simp [chunksAux] at h
  | fuel + 1, x :: xs, c, h => by
      rcases List.mem_cons.mp h with rfl | h
      · exact ⟨x, xs, rfl⟩
      · exact mem_chunksAux h

/-- The chunks put together are the list. -/
theorem flatten_chunks {n : ℕ} (hn : 0 < n) (xs : List α) : (chunks n xs).flatten = xs :=
  flatten_chunksAux hn xs.length xs le_rfl

theorem ne_nil_of_mem_chunks {n : ℕ} (hn : 0 < n) {xs c : List α} (h : c ∈ chunks n xs) :
    c ≠ [] := by
  obtain ⟨x, ys, rfl⟩ := mem_chunksAux h
  obtain ⟨m, rfl⟩ := Nat.exists_eq_succ_of_ne_zero hn.ne'
  simp

theorem length_le_of_mem_chunks {n : ℕ} {xs c : List α} (h : c ∈ chunks n xs) :
    c.length ≤ n := by
  obtain ⟨x, ys, rfl⟩ := mem_chunksAux h
  exact List.length_take_le n _

/-- Only the empty list has no chunk. -/
theorem chunks_eq_nil_iff {n : ℕ} {xs : List α} : chunks n xs = [] ↔ xs = [] := by
  cases xs <;> simp [chunks, chunksAux]

/-! ### Chunks one by one -/

/-- Fuel that is enough is enough. -/
theorem chunksAux_congr {n : ℕ} (hn : 0 < n) :
    ∀ {fuel fuel' : ℕ} {xs : List α}, xs.length ≤ fuel → xs.length ≤ fuel' →
      chunksAux n fuel xs = chunksAux n fuel' xs
  | 0, 0, _, _, _ => rfl
  | 0, _ + 1, [], _, _ => rfl
  | _ + 1, 0, [], _, _ => rfl
  | _ + 1, _ + 1, [], _, _ => rfl
  | fuel + 1, fuel' + 1, x :: xs, h, h' => by
      have hdrop : ((x :: xs).drop n).length ≤ xs.length := by
        simp only [List.length_drop, List.length_cons]; omega
      rw [chunksAux, chunksAux, chunksAux_congr hn (hdrop.trans (Nat.le_of_succ_le_succ h))
        (hdrop.trans (Nat.le_of_succ_le_succ h'))]

theorem chunks_of_ne_nil {n : ℕ} (hn : 0 < n) {xs : List α} (h : xs ≠ []) :
    chunks n xs = xs.take n :: chunks n (xs.drop n) := by
  obtain ⟨x, xs, rfl⟩ := List.exists_cons_of_ne_nil h
  have hdrop : ((x :: xs).drop n).length ≤ xs.length := by
    simp only [List.length_drop, List.length_cons]; omega
  rw [chunks, List.length_cons, chunksAux, chunksAux_congr hn hdrop le_rfl]
  rfl

/-- Every chunk but the last is full. -/
theorem length_of_mem_dropLast_chunks {n : ℕ} (hn : 0 < n) {xs c : List α}
    (h : c ∈ (chunks n xs).dropLast) : c.length = n := by
  induction hlen : xs.length using Nat.strong_induction_on generalizing xs with
  | _ len ih =>
      subst hlen
      rcases eq_or_ne xs [] with rfl | hne
      · simp at h
      · rw [chunks_of_ne_nil hn hne] at h
        rcases eq_or_ne (xs.drop n) [] with hrest | hrest
        · simp [hrest] at h
        · have hlt : n < xs.length := by
            by_contra hge
            exact hrest (List.drop_of_length_le (not_lt.mp hge))
          have hdrop : (xs.drop n).length < xs.length := by
            rw [List.length_drop]
            omega
          rw [List.dropLast_cons_of_ne_nil (mt chunks_eq_nil_iff.mp hrest)] at h
          rcases List.mem_cons.mp h with rfl | h
          · exact List.length_take_of_le hlt.le
          · exact ih _ hdrop h rfl

/-- Two lists, the first of which fills its chunks. -/
theorem chunks_append {n : ℕ} (hn : 0 < n) {xs : List α} (h : n ∣ xs.length) (ys : List α) :
    chunks n (xs ++ ys) = chunks n xs ++ chunks n ys := by
  induction hlen : xs.length using Nat.strong_induction_on generalizing xs with
  | _ len ih =>
      subst hlen
      rcases eq_or_ne xs [] with rfl | hne
      · rfl
      · have hle : n ≤ xs.length := Nat.le_of_dvd (List.length_pos_of_ne_nil hne) h
        have hdrop : (xs.drop n).length < xs.length := by rw [List.length_drop]; omega
        have hdvd : n ∣ (xs.drop n).length := by
          rw [List.length_drop]
          exact Nat.dvd_sub h (dvd_refl n)
        rw [chunks_of_ne_nil hn (List.append_ne_nil_of_left_ne_nil hne ys),
          chunks_of_ne_nil hn hne, List.take_append_of_le_length hle,
          List.drop_append_of_le_length hle, ih _ hdrop hdvd rfl, List.cons_append]

/-- **The chunks around a cut** between two elements. -/
theorem chunks_at_cut {n : ℕ} (hn : 0 < n) {xs : List α} (h : n ∣ xs.length + 1) (x y : α)
    (ys : List α) :
    chunks n (xs ++ x :: y :: ys) = chunks n (xs.take (xs.length + 1 - n))
      ++ (xs.drop (xs.length + 1 - n) ++ [x]) :: (y :: ys.take (n - 1))
        :: chunks n (ys.drop (n - 1)) := by
  obtain ⟨m, rfl⟩ := Nat.exists_eq_succ_of_ne_zero hn.ne'
  have hle : m + 1 ≤ xs.length + 1 := Nat.le_of_dvd (Nat.succ_pos _) h
  have hfirst : (xs.take (xs.length + 1 - (m + 1))).length = xs.length + 1 - (m + 1) := by
    rw [List.length_take]
    omega
  have hdvd : m + 1 ∣ (xs.take (xs.length + 1 - (m + 1))).length := by
    rw [hfirst]
    exact Nat.dvd_sub h (dvd_refl _)
  have hsecond : (xs.drop (xs.length + 1 - (m + 1)) ++ [x]).length = m + 1 := by
    rw [List.length_append, List.length_drop, List.length_singleton]
    omega
  have hsplit : xs ++ x :: y :: ys = xs.take (xs.length + 1 - (m + 1))
      ++ ((xs.drop (xs.length + 1 - (m + 1)) ++ [x]) ++ y :: ys) := by
    rw [List.append_assoc, List.singleton_append, ← List.append_assoc, List.take_append_drop]
  have hdvd' : m + 1 ∣ (xs.drop (xs.length + 1 - (m + 1)) ++ [x]).length := by
    rw [hsecond]
  rw [hsplit, chunks_append hn hdvd, chunks_append hn hdvd',
    chunks_of_ne_nil hn (List.append_ne_nil_of_right_ne_nil _ (List.cons_ne_nil _ _)),
    List.take_of_length_le hsecond.le, List.drop_of_length_le hsecond.le, chunks_nil,
    chunks_of_ne_nil hn (List.cons_ne_nil y ys), List.take_succ_cons, List.drop_succ_cons]
  rfl

/-! ### Blocks -/

/-- The elements from `start` on, `len` of them, lie in one chunk of `n`. -/
def InOneChunk (n start len : ℕ) : Prop := len = 0 ∨ (start + len - 1) / n = start / n

instance (n start len : ℕ) : Decidable (InOneChunk n start len) :=
  inferInstanceAs (Decidable (_ ∨ _))

/-- Blocks of some lengths, one after the other from `start` on, lie in one chunk each. -/
def AllInOneChunk (n : ℕ) : ℕ → List ℕ → Prop
  | _, [] => True
  | start, len :: lens => InOneChunk n start len ∧ AllInOneChunk n (start + len) lens

instance decidableAllInOneChunk (n : ℕ) :
    ∀ start lens, Decidable (AllInOneChunk n start lens)
  | _, [] => inferInstanceAs (Decidable True)
  | start, len :: lens =>
      have := decidableAllInOneChunk n (start + len) lens
      inferInstanceAs (Decidable (_ ∧ _))

theorem inOneChunk_one (n start : ℕ) : InOneChunk n start 1 := .inr rfl

/-- A block that lies in one chunk ends before the next. -/
theorem InOneChunk.le {n start len cut : ℕ} (h : InOneChunk n start len) (hcut : n ∣ cut)
    (hlt : start < cut) : start + len ≤ cut := by
  rcases h with rfl | h
  · exact hlt.le
  · by_contra hgt
    obtain ⟨k, rfl⟩ := hcut
    have hbefore : start / n < k := Nat.div_lt_of_lt_mul hlt
    have hn : 0 < n := Nat.pos_of_ne_zero fun hzero => by simp [hzero] at hlt
    have hafter : k ≤ (start + len - 1) / n := by
      rw [Nat.le_div_iff_mul_le hn, Nat.mul_comm]
      omega
    omega

/-- A block that does not lie in one chunk has a cut inside. -/
theorem exists_cut_of_not_inOneChunk {n start len : ℕ} (hn : 0 < n)
    (h : ¬ InOneChunk n start len) : ∃ cut, n ∣ cut ∧ start < cut ∧ cut < start + len := by
  obtain ⟨hlen, hne⟩ := not_or.mp h
  have hle : start / n ≤ (start + len - 1) / n := Nat.div_le_div_right (by omega)
  refine ⟨n * ((start + len - 1) / n), Nat.dvd_mul_right _ _, ?_, ?_⟩
  · rw [Nat.mul_comm]
    exact (Nat.div_lt_iff_lt_mul hn).mp (lt_of_le_of_ne hle (Ne.symm hne))
  · have := Nat.mul_div_le (start + len - 1) n
    omega

/-- Blocks that lie in one chunk each are split where a chunk ends. -/
theorem AllInOneChunk.split {n cut : ℕ} (hcut : n ∣ cut) :
    ∀ {start : ℕ} {lens : List ℕ}, AllInOneChunk n start lens → start ≤ cut →
      cut ≤ start + lens.sum →
      ∃ lens₁ lens₂, lens = lens₁ ++ lens₂ ∧ start + lens₁.sum = cut ∧ AllInOneChunk n cut lens₂
  | start, [], _, hle, hge => by
      rw [List.sum_nil] at hge
      obtain rfl : start = cut := by omega
      exact ⟨[], [], rfl, rfl, trivial⟩
  | start, len :: lens, h, hle, hge => by
      rcases hle.eq_or_lt with rfl | hlt
      · exact ⟨[], len :: lens, rfl, rfl, h⟩
      · rw [List.sum_cons, ← Nat.add_assoc] at hge
        obtain ⟨lens₁, lens₂, rfl, hsum, h₂⟩ := h.2.split hcut (h.1.le hcut hlt) hge
        refine ⟨len :: lens₁, lens₂, rfl, ?_, h₂⟩
        rw [List.sum_cons, ← Nat.add_assoc, hsum]

variable {R : List α → List α → Prop}

theorem length_flatten_of_forall₂ (hlen : ∀ xs ys, R xs ys → xs.length = ys.length)
    {blocks blocks' : List (List α)} (h : List.Forall₂ R blocks blocks') :
    blocks.flatten.length = blocks'.flatten.length := by
  induction h with
  | nil => rfl
  | cons hxs _ ih =>
      rw [List.flatten_cons, List.flatten_cons, List.length_append, List.length_append,
        hlen _ _ hxs, ih]

theorem flatten_of_forall₂ (hnil : R [] [])
    (happend : ∀ xs ys xs' ys', R xs ys → R xs' ys' → R (xs ++ xs') (ys ++ ys'))
    {blocks blocks' : List (List α)} (h : List.Forall₂ R blocks blocks') :
    R blocks.flatten blocks'.flatten := by
  induction h with
  | nil => exact hnil
  | cons hxs _ ih => exact happend _ _ _ _ hxs ih

/-- **What relates the blocks of two lists relates their chunks**, when every block lies in one
chunk. -/
theorem forall₂_chunks (hnil : R [] [])
    (happend : ∀ xs ys xs' ys', R xs ys → R xs' ys' → R (xs ++ xs') (ys ++ ys'))
    (hlen : ∀ xs ys, R xs ys → xs.length = ys.length) {n : ℕ} (hn : 0 < n) {start : ℕ}
    (hstart : n ∣ start) {blocks blocks' : List (List α)} (h : List.Forall₂ R blocks blocks')
    (hone : AllInOneChunk n start (blocks.map List.length)) :
    List.Forall₂ R (chunks n blocks.flatten) (chunks n blocks'.flatten) := by
  induction htotal : blocks.flatten.length using Nat.strong_induction_on
    generalizing start blocks blocks' with
  | _ total ih =>
      subst htotal
      have hlens := length_flatten_of_forall₂ hlen h
      rcases Nat.eq_zero_or_pos blocks.flatten.length with hzero | hpos
      · have hzero' : blocks'.flatten.length = 0 := hlens.symm.trans hzero
        rw [List.length_eq_zero_iff.mp hzero, List.length_eq_zero_iff.mp hzero']
        exact .nil
      · have hne : blocks.flatten ≠ [] := List.length_pos_iff.mp hpos
        have hne' : blocks'.flatten ≠ [] := List.length_pos_iff.mp (hlens ▸ hpos)
        rw [chunks_of_ne_nil hn hne, chunks_of_ne_nil hn hne']
        rcases Nat.lt_or_ge n blocks.flatten.length with hlt | hge
        · obtain ⟨lens₁, lens₂, heq, hsum, hone₂⟩ := hone.split
            ((Nat.dvd_add_right hstart).mpr (dvd_refl n)) (Nat.le_add_right start n)
            (by rw [← List.length_flatten]; omega)
          obtain ⟨blocks₁, blocks₂, rfl, rfl, rfl⟩ := List.map_eq_append_iff.mp heq
          have h₁ := List.forall₂_take blocks₁.length h
          have h₂ := List.forall₂_drop blocks₁.length h
          rw [List.take_left] at h₁
          rw [List.drop_left] at h₂
          have hsplit' := List.take_append_drop blocks₁.length blocks'
          generalize blocks'.take blocks₁.length = blocks₁' at h₁ hsplit'
          generalize blocks'.drop blocks₁.length = blocks₂' at h₂ hsplit'
          subst hsplit'
          have hn₁ : blocks₁.flatten.length = n := by
            rw [List.length_flatten]
            omega
          have hn₁' : blocks₁'.flatten.length = n :=
            (length_flatten_of_forall₂ hlen h₁).symm.trans hn₁
          rw [List.flatten_append, List.flatten_append, List.take_left' hn₁, List.take_left' hn₁',
            List.drop_left' hn₁, List.drop_left' hn₁']
          refine .cons (flatten_of_forall₂ hnil happend h₁) ?_
          refine ih _ ?_ ((Nat.dvd_add_right hstart).mpr (dvd_refl n)) h₂ hone₂ rfl
          rw [List.flatten_append, List.length_append]
          omega
        · rw [List.take_of_length_le hge, List.take_of_length_le (hlens ▸ hge),
            List.drop_of_length_le hge, List.drop_of_length_le (hlens ▸ hge)]
          exact .cons (flatten_of_forall₂ hnil happend h) .nil

/-- **A block that does not lie in one chunk is cut between two of its elements.** -/
theorem exists_cut {n : ℕ} (hn : 0 < n) :
    ∀ {start : ℕ} {blocks : List (List α)}, ¬ AllInOneChunk n start (blocks.map List.length) →
      ∃ blocks₁ xs x y ys blocks₂, blocks = blocks₁ ++ (xs ++ x :: y :: ys) :: blocks₂ ∧
        n ∣ start + (blocks₁.flatten ++ xs).length + 1
  | _, [], h => absurd trivial h
  | start, block :: blocks, h => by
      by_cases hblock : InOneChunk n start block.length
      · have hrest : ¬ AllInOneChunk n (start + block.length) (blocks.map List.length) :=
          fun hall => h ⟨hblock, hall⟩
        obtain ⟨blocks₁, xs, x, y, ys, blocks₂, rfl, hcut⟩ := exists_cut hn hrest
        refine ⟨block :: blocks₁, xs, x, y, ys, blocks₂, rfl, ?_⟩
        rw [List.flatten_cons, List.append_assoc, List.length_append, ← Nat.add_assoc]
        exact hcut
      · obtain ⟨cut, hcut, hlt, hgt⟩ := exists_cut_of_not_inOneChunk hn hblock
        have hx : cut - start - 1 < block.length := by omega
        have hy : cut - start < block.length := by omega
        refine ⟨[], block.take (cut - start - 1), block[cut - start - 1], block[cut - start],
          block.drop (cut - start + 1), blocks, ?_, ?_⟩
        · have hsucc : cut - start - 1 + 1 = cut - start := by omega
          rw [List.nil_append, ← List.drop_eq_getElem_cons hy]
          conv_lhs => rw [← List.take_append_drop (cut - start - 1) block,
            List.drop_eq_getElem_cons hx, hsucc]
        · have hlen : ([].flatten ++ block.take (cut - start - 1)).length = cut - start - 1 := by
            rw [List.flatten_nil, List.nil_append, List.length_take]
            omega
          rw [hlen]
          have heq : start + (cut - start - 1) + 1 = cut := by omega
          rwa [heq]

end Support
