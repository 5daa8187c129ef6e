import DeviceMetricsExporter.Lib.GoMap

/-!
This module contains loops that insert the first `n` elements of a list into a map, and when the map
does not depend on the order of the list. `range` over a Go map visits its entries in any order.
-/

universe u v w

namespace GoMap

variable {α : Type u} {κ : Type v} {β : Type w} [DecidableEq κ] (key : α → κ) (val : α → β)

def insertFirst (n : Nat) (xs : List α) : GoMap κ β :=
  insertEach ∅ (xs.take n) key val

/--
Elements with the same key have the same value, and every key is one of those of the first `n`
elements in any order.
-/
structure Unordered (n : Nat) (xs : List α) : Prop where
  val_eq : ∀ x ∈ xs, ∀ y ∈ xs, key x = key y → val x = val y
  countP_lt : ∀ x ∈ xs, xs.countP (key · ≠ key x) < n

variable {key val} {n : Nat} {xs ys : List α}

theorem exists_mem_take_of_countP_lt {k : κ} (hk : ∃ x ∈ xs, key x = k)
    (hlt : xs.countP (key · ≠ k) < n) : ∃ x ∈ xs.take n, key x = k := by
  by_contra hnone
  have hall : ∀ x ∈ xs.take n, decide (key x ≠ k) = true := by
    intro x hx
    rw [decide_eq_true_eq]
    intro hkey
    exact hnone ⟨x, hx, hkey⟩
  have hcount : (xs.take n).length ≤ xs.countP (key · ≠ k) := by
    rw [← List.countP_eq_length.mpr hall]
    exact (List.take_sublist n xs).countP_le
  rw [List.length_take] at hcount
  have htake : xs.take n = xs := List.take_of_length_le (by omega)
  rw [htake] at hnone
  exact hnone hk

theorem Unordered.lookup_insertFirst (h : Unordered key val n xs) (hperm : ys.Perm xs) (k : κ)
    : (insertFirst key val n ys).lookup k = (lastWith key xs k).map val := by
  rw [insertFirst, lookup_insertEach_empty]
  cases hlast : lastWith key xs k with
  | none =>
    rw [lastWith_eq_none] at hlast
    have hnone : lastWith key (ys.take n) k = none := by
      rw [lastWith_eq_none]
      intro y hy
      exact hlast y (hperm.mem_iff.mp (List.mem_of_mem_take hy))
    rw [hnone]
  | some x =>
    rcases mem_of_lastWith key hlast with ⟨hx, rfl⟩
    have hlt : ys.countP (key · ≠ key x) < n := by
      rw [hperm.countP_eq]
      exact h.countP_lt x hx
    rcases exists_mem_take_of_countP_lt ⟨x, hperm.mem_iff.mpr hx, rfl⟩ hlt with ⟨y, hy, hkey⟩
    cases hlast' : lastWith key (ys.take n) (key x) with
    | none =>
      rw [lastWith_eq_none] at hlast'
      exact absurd hkey (hlast' y hy)
    | some z =>
      rcases mem_of_lastWith key hlast' with ⟨hz, hkey⟩
      have hz := hperm.mem_iff.mp (List.mem_of_mem_take hz)
      simp [h.val_eq z hz x hx hkey]

theorem take_insert_eq (zs : List α) (x : α) (m : Nat)
    : (zs.take m ++ x :: zs.drop m).take (m + 1) = zs.take m ++ [x] := by
  rw [List.take_append, List.take_of_length_le (Nat.le_succ_of_le (List.length_take_le m zs))]
  congr 1
  rcases Nat.lt_or_ge zs.length m with hlt | hge
  . rw [List.drop_of_length_le (Nat.le_of_lt hlt)]
    apply List.take_of_length_le
    rw [List.length_singleton, List.length_take]
    omega
  . have hone : m + 1 - (zs.take m).length = 1 := by
      rw [List.length_take]
      omega
    rw [hone, List.take_succ_cons, List.take_zero]

variable (key val) in
theorem exists_perm_lookup_insertFirst (m : Nat) {x : α} (hx : x ∈ xs)
    : ∃ ys, ys.Perm xs ∧ (insertFirst key val (m + 1) ys).lookup (key x) = some (val x) := by
  rcases List.append_of_mem hx with ⟨l, l', rfl⟩
  refine ⟨(l ++ l').take m ++ x :: (l ++ l').drop m, ?_, ?_⟩
  . refine List.perm_middle.trans ?_
    rw [List.take_append_drop]
    exact List.perm_middle.symm
  . rw [insertFirst, take_insert_eq, lookup_insertEach_empty, lastWith]
    simp

variable (key val xs) in
theorem unordered_iff {m : Nat}
    : (∀ ys, ys.Perm xs → ∀ k,
        (insertFirst key val (m + 1) ys).lookup k = (insertFirst key val (m + 1) xs).lookup k) ↔
        Unordered key val (m + 1) xs := by
  constructor
  . intro h
    have hlookup {x : α} (hx : x ∈ xs)
        : (insertFirst key val (m + 1) xs).lookup (key x) = some (val x) := by
      rcases exists_perm_lookup_insertFirst key val m hx with ⟨ys, hperm, hlookup⟩
      rw [← h ys hperm, hlookup]
    constructor
    . intro x hx y hy hkey
      have hval : some (val x) = some (val y) := by
        rw [← hlookup hx, hkey, hlookup hy]
      exact Option.some.inj hval
    . intro x hx
      by_contra hge
      -- if enough elements with other keys come first, then none with this key is inserted
      have hlength : m + 1 ≤ (xs.filter (key · ≠ key x)).length := by
        rw [← List.countP_eq_length_filter]
        omega
      have hnone := h _ (List.filter_append_perm (fun y => decide (key y ≠ key x)) xs) (key x)
      rw [hlookup hx, insertFirst, lookup_insertEach_empty, List.take_append_of_le_length hlength]
        at hnone
      rcases Option.map_eq_some_iff.mp hnone with ⟨y, hy, -⟩
      rcases mem_of_lastWith key hy with ⟨hmem, hkey⟩
      have := List.of_mem_filter (List.mem_of_mem_take hmem)
      rw [decide_eq_true_eq] at this
      exact this hkey
  . intro h ys hperm k
    rw [h.lookup_insertFirst hperm, h.lookup_insertFirst (List.Perm.refl xs)]

/--
The entries that `p` selects can be visited in any order, those that are not selected come last.
-/
theorem exists_perm_filter {κ' : Type*} {β' : Type*} (p : (Sigma fun _ : κ' => β') → Bool)
    (m : GoMap κ' β') {ys : List (Sigma fun _ : κ' => β')} (hperm : ys.Perm (m.entries.filter p))
    : ∃ m' : GoMap κ' β', m'.entries.Perm m.entries ∧ m'.entries.filter p = ys := by
  have hentries : (ys ++ m.entries.filter fun e => !p e).Perm m.entries :=
    (hperm.append_right _).trans (List.filter_append_perm p m.entries)
  have hys : ys.filter p = ys := by
    rw [List.filter_eq_self]
    intro e he
    exact List.of_mem_filter (hperm.mem_iff.mp he)
  refine ⟨⟨_, (List.perm_nodupKeys hentries).mpr m.nodupKeys⟩, hentries, ?_⟩
  rw [List.filter_append, hys, List.filter_filter]
  simp

theorem unordered_filter_iff {κ' : Type*} {β' : Type*} (key : (Sigma fun _ : κ' => β') → κ)
    (val : (Sigma fun _ : κ' => β') → β) (m : Nat) (p : (Sigma fun _ : κ' => β') → Bool)
    (es : GoMap κ' β')
    : (∀ es' : GoMap κ' β', es'.entries.Perm es.entries → ∀ k,
        (insertFirst key val (m + 1) (es'.entries.filter p)).lookup k
          = (insertFirst key val (m + 1) (es.entries.filter p)).lookup k) ↔
        Unordered key val (m + 1) (es.entries.filter p) := by
  rw [← unordered_iff]
  constructor
  . intro h ys hperm k
    rcases exists_perm_filter p es hperm with ⟨es', hentries, rfl⟩
    exact h es' hentries k
  . intro h es' hperm k
    exact h _ (hperm.filter p) k

theorem exists_perm_last {κ' : Type*} {β' : Type*} (m : GoMap κ' β') {e : Sigma fun _ : κ' => β'}
    (he : e ∈ m.entries) : ∃ m' : GoMap κ' β', m'.entries.Perm m.entries ∧ ∃ es, m'.entries = es ++ [e] := by
  rcases List.append_of_mem he with ⟨es, es', hentries⟩
  have hperm : ((es ++ es') ++ [e]).Perm m.entries := by
    rw [hentries]
    exact (List.perm_append_singleton e (es ++ es')).trans List.perm_middle.symm
  exact ⟨⟨(es ++ es') ++ [e], (List.perm_nodupKeys hperm).mpr m.nodupKeys⟩, hperm, es ++ es', rfl⟩

end GoMap
