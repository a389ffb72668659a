import Mathlib

/-!
# Support — numbered ledgers

A ledger is a list of blocks and a block that is still open.  An entry may carry a number; it then
stands at the position of its number, counted over all blocks.  A ledger carries this as a field,
so that no entry comes in at another place than its number's.

Ledgers grow: entries are appended to the open block, and the open block is closed
(`Ledger.Grows`).  What was counted once stays a prefix of everything.

* `Ledger.number_lt_of_mem`: the numbers of the entries in a prefix are below its length.
* `Ledger.eq_of_number_eq`: entries with one number are the same.
-/

namespace Support

/-- Blocks of entries and an open block, in which the numbered entries stand at their numbers. -/
structure Ledger {α : Type*} (number : α → Option ℕ) where
  blocks : List (List α)
  opened : List α
  numbered : ∀ k a n, (blocks.flatten ++ opened)[k]? = some a → number a = some n → k = n

namespace Ledger

variable {α : Type*} {number : α → Option ℕ}

/-- No blocks. -/
def new : Ledger number where
  blocks := []
  opened := []
  numbered := by
    intro k a n hk hn
    simp at hk

/-- The entries of the closed blocks. -/
def closed (l : Ledger number) : List α := l.blocks.flatten

/-- All entries. -/
def all (l : Ledger number) : List α := l.blocks.flatten ++ l.opened

/-- The entries of the blocks up to one that is closed. -/
def upTo? (l : Ledger number) (b : ℕ) : Option (List α) :=
  if b < l.blocks.length then some (l.blocks.take (b + 1)).flatten else none

/-- An entry may be appended when its number, if it has one, is the next. -/
def Fits (l : Ledger number) (a : α) : Prop := ∀ n ∈ number a, l.all.length = n

instance (l : Ledger number) (a : α) : Decidable (l.Fits a) := by
  unfold Fits
  exact inferInstance

/-- The ledger with one more entry in its open block. -/
def append (l : Ledger number) (a : α) (h : l.Fits a) : Ledger number where
  blocks := l.blocks
  opened := l.opened ++ [a]
  numbered := by
    intro k b n hk hn
    rw [← List.append_assoc] at hk
    change (l.all ++ [a])[k]? = some b at hk
    rcases Nat.lt_or_ge k l.all.length with hlt | hge
    · rw [List.getElem?_append_left hlt] at hk
      exact l.numbered k b n hk hn
    · rw [List.getElem?_append_right hge, List.getElem?_singleton] at hk
      split at hk
      next hzero =>
        obtain rfl := Option.some.inj hk
        have hnext : l.all.length = n := h n hn
        omega
      next => nomatch hk

/-- The ledger whose open block has been closed. -/
def closeBlock (l : Ledger number) : Ledger number where
  blocks := l.blocks ++ [l.opened]
  opened := []
  numbered := by
    intro k a n hk hn
    refine l.numbered k a n ?_ hn
    simpa using hk

/-! ### Growth -/

/-- The second ledger has the blocks and the entries of the first, in their places. -/
structure Grows (l l' : Ledger number) : Prop where
  blocks : l.blocks <+: l'.blocks
  all : l.all <+: l'.all

theorem Grows.refl (l : Ledger number) : l.Grows l :=
  ⟨List.prefix_refl _, List.prefix_refl _⟩

theorem Grows.trans {l l' l'' : Ledger number} (h : l.Grows l') (h' : l'.Grows l'') :
    l.Grows l'' :=
  ⟨h.blocks.trans h'.blocks, h.all.trans h'.all⟩

theorem grows_append {l : Ledger number} {a : α} (h : l.Fits a) : l.Grows (l.append a h) := by
  refine ⟨List.prefix_refl _, [a], ?_⟩
  rw [all, all, append, List.append_assoc]

theorem grows_closeBlock (l : Ledger number) : l.Grows l.closeBlock := by
  refine ⟨List.prefix_append _ _, ?_⟩
  have hall : l.closeBlock.all = l.all := by simp [all, closeBlock]
  rw [hall]

/-- A closed block stays as it is. -/
theorem Grows.upTo? {l l' : Ledger number} (h : l.Grows l') {b : ℕ} {entries : List α}
    (hb : l.upTo? b = some entries) : l'.upTo? b = some entries := by
  rw [Ledger.upTo?] at hb ⊢
  split at hb
  next hlt =>
    obtain ⟨more, hmore⟩ := h.blocks
    rw [← hmore, if_pos (by rw [List.length_append]; omega), List.take_append_of_le_length hlt]
    exact hb
  next => nomatch hb

/-- What is counted up to a block is a prefix of everything. -/
theorem upTo?_prefix {l : Ledger number} {b : ℕ} {entries : List α}
    (h : l.upTo? b = some entries) : entries <+: l.all := by
  rw [upTo?] at h
  split at h
  next =>
    obtain rfl := Option.some.inj h
    refine List.IsPrefix.trans ?_ (List.prefix_append _ _)
    exact (List.take_prefix (b + 1) l.blocks).flatten
  next => nomatch h

theorem closed_prefix (l : Ledger number) : l.closed <+: l.all := List.prefix_append _ _

/-! ### Numbers -/

/-- The numbers of the entries in a prefix are below its length. -/
theorem number_lt_of_mem {l : Ledger number} {entries : List α} (hpre : entries <+: l.all)
    {a : α} {n : ℕ} (ha : a ∈ entries) (hn : number a = some n) : n < entries.length := by
  obtain ⟨k, hk⟩ := List.mem_iff_getElem?.mp ha
  have hlt : k < entries.length := (List.getElem?_eq_some_iff.mp hk).1
  obtain ⟨more, hmore⟩ := hpre
  have hall : l.all[k]? = some a := by rw [← hmore, List.getElem?_append_left hlt, hk]
  rwa [← l.numbered k a n hall hn]

/-- Entries with one number are the same. -/
theorem eq_of_number_eq {l : Ledger number} {a b : α} {n : ℕ} (ha : a ∈ l.all) (hb : b ∈ l.all)
    (han : number a = some n) (hbn : number b = some n) : a = b := by
  obtain ⟨i, hi⟩ := List.mem_iff_getElem?.mp ha
  obtain ⟨j, hj⟩ := List.mem_iff_getElem?.mp hb
  have hin : i = n := l.numbered i a n hi han
  have hjn : j = n := l.numbered j b n hj hbn
  rw [hin] at hi
  rw [hjn, hi] at hj
  exact Option.some.inj hj

end Ledger

end Support
