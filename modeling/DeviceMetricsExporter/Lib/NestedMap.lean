import DeviceMetricsExporter.Lib.GoMap
import Mathlib.Data.List.Forall2

/-!
This module contains maps of maps: a loop of assignments `m[k][k'] = v`, of which the last one for a
pair of keys counts, and maps with the same entries up to the order of a `range` over them.
-/

universe u v w u' v'

namespace GoMap

section Matches

variable {κ : Type u} {κ' : Type u'} {β : Type v} {β' : Type v'}

/--
The entries of the maps correspond to each other, in any order.
-/
def Matches (K : κ → κ' → Prop) (R : β → β' → Prop) (m : GoMap κ β) (m' : GoMap κ' β') : Prop :=
  ∃ es, es.Perm m.entries ∧ List.Forall₂ (fun e e' => K e.1 e'.1 ∧ R e.2 e'.2) es m'.entries

variable {K : κ → κ' → Prop} {R : β → β' → Prop} {m : GoMap κ β} {m' : GoMap κ' β'}

theorem Matches.refl {R : β → β → Prop} (hR : ∀ v, R v v) (m : GoMap κ β) : Matches Eq R m m :=
  ⟨m.entries, List.Perm.refl _, List.forall₂_same.mpr fun e _ => ⟨rfl, hR e.2⟩⟩

theorem Matches.of_perm {R : β → β → Prop} (hR : ∀ v, R v v) {m m' : GoMap κ β}
    (h : m'.entries.Perm m.entries) : Matches Eq R m m' :=
  ⟨m'.entries, h, List.forall₂_same.mpr fun e _ => ⟨rfl, hR e.2⟩⟩

theorem Matches.isEmpty_eq (h : Matches K R m m')
    : m'.entries.isEmpty = m.entries.isEmpty := by
  rcases h with ⟨es, hperm, hall⟩
  rw [Bool.eq_iff_iff, List.isEmpty_iff_length_eq_zero, List.isEmpty_iff_length_eq_zero,
    ← hall.length_eq, hperm.length_eq]

theorem exists_mem_of_forall₂ {α : Type*} {α' : Type*} {S : α → α' → Prop} {xs : List α}
    {ys : List α'} (h : List.Forall₂ S xs ys) {x : α} (hx : x ∈ xs) : ∃ y ∈ ys, S x y := by
  induction h with
  | nil => cases hx
  | cons hxy _ ih =>
    rcases List.mem_cons.mp hx with rfl | hx
    . exact ⟨_, List.mem_cons_self, hxy⟩
    . rcases ih hx with ⟨y, hy, hS⟩
      exact ⟨y, List.mem_cons_of_mem _ hy, hS⟩

theorem Matches.exists_right (h : Matches K R m m') {e : Sigma fun _ : κ => β}
    (he : e ∈ m.entries) : ∃ e' ∈ m'.entries, K e.1 e'.1 ∧ R e.2 e'.2 := by
  rcases h with ⟨es, hperm, hall⟩
  exact exists_mem_of_forall₂ hall (hperm.mem_iff.mpr he)

theorem Matches.exists_left (h : Matches K R m m') {e' : Sigma fun _ : κ' => β'}
    (he' : e' ∈ m'.entries) : ∃ e ∈ m.entries, K e.1 e'.1 ∧ R e.2 e'.2 := by
  rcases h with ⟨es, hperm, hall⟩
  rcases exists_mem_of_forall₂ hall.flip he' with ⟨e, he, hKR⟩
  exact ⟨e, hperm.mem_iff.mp he, hKR⟩

theorem Matches.exists_iff (h : Matches K R m m') {P : β → Prop} {P' : β' → Prop}
    (hP : ∀ v v', R v v' → (P v ↔ P' v'))
    : (∃ e ∈ m.entries, P e.2) ↔ ∃ e ∈ m'.entries, P' e.2 := by
  constructor
  . rintro ⟨e, he, hp⟩
    rcases h.exists_right he with ⟨e', he', -, hR⟩
    exact ⟨e', he', (hP _ _ hR).mp hp⟩
  . rintro ⟨e', he', hp⟩
    rcases h.exists_left he' with ⟨e, he, -, hR⟩
    exact ⟨e, he, (hP _ _ hR).mpr hp⟩

end Matches

section Assign

variable {κ : Type u} {κ' : Type u'} {β : Type v} [DecidableEq κ] [DecidableEq κ']

def cell (m : GoMap κ (GoMap κ' β)) (k : κ) (k' : κ') : Option β :=
  (m.lookup k).bind (·.lookup k')

def assign (m : GoMap κ (GoMap κ' β)) (k : κ) (k' : κ') (v : β) : GoMap κ (GoMap κ' β) :=
  m.insert k (((m.lookup k).getD ∅).insert k' v)

theorem cell_assign (m : GoMap κ (GoMap κ' β)) (i k : κ) (i' k' : κ') (v : β)
    : (m.assign i i' v).cell k k' = if (i, i') = (k, k') then some v else m.cell k k' := by
  rw [cell, assign, lookup_insert_eq_ite]
  by_cases hk : k = i
  . subst hk
    rw [if_pos rfl, Option.bind_some, lookup_insert_eq_ite, cell]
    by_cases hk' : k' = i'
    . subst hk'
      simp
    . cases m.lookup k with
      | none => simp [hk', Ne.symm hk']
      | some v => simp [hk', Ne.symm hk']
  . simp [hk, Ne.symm hk, cell]

def assignEach (m : GoMap κ (GoMap κ' β)) (ws : List ((κ × κ') × β)) : GoMap κ (GoMap κ' β) :=
  ws.foldl (fun m w => m.assign w.1.1 w.1.2 w.2) m

def lastAssigned (ws : List ((κ × κ') × β)) (k : κ) (k' : κ') : Option β :=
  (lastWith (·.1) ws (k, k')).map (·.2)

theorem lastAssigned_append (ws ws' : List ((κ × κ') × β)) (k : κ) (k' : κ')
    : lastAssigned (ws ++ ws') k k' = (lastAssigned ws' k k').or (lastAssigned ws k k') := by
  rw [lastAssigned, lastAssigned, lastAssigned, lastWith_append]
  cases lastWith (·.1) ws' (k, k') with
  | none => rfl
  | some w => rfl

theorem lastAssigned_eq_none {ws : List ((κ × κ') × β)} {k : κ} {k' : κ'}
    : lastAssigned ws k k' = none ↔ ∀ w ∈ ws, w.1 ≠ (k, k') := by
  rw [lastAssigned, Option.map_eq_none_iff, lastWith_eq_none]

theorem mem_of_lastAssigned {ws : List ((κ × κ') × β)} {k : κ} {k' : κ'} {v : β}
    (h : lastAssigned ws k k' = some v) : ((k, k'), v) ∈ ws := by
  rcases Option.map_eq_some_iff.mp h with ⟨w, hw, rfl⟩
  rcases mem_of_lastWith _ hw with ⟨hmem, hkey⟩
  rwa [← hkey]

theorem cell_assignEach (m : GoMap κ (GoMap κ' β)) (ws : List ((κ × κ') × β)) (k : κ) (k' : κ')
    : (m.assignEach ws).cell k k' = (lastAssigned ws k k').or (m.cell k k') := by
  induction ws generalizing m with
  | nil => rfl
  | cons w ws ih =>
    have := ih (m.assign w.1.1 w.1.2 w.2)
    simp only [assignEach, List.foldl_cons] at this ⊢
    rw [this, cell_assign, ← List.singleton_append, lastAssigned_append, Option.or_assoc]
    by_cases hkey : w.1 = (k, k')
    . simp [hkey, lastAssigned, lastWith]
    . simp [hkey, lastAssigned, lastWith]

section Orders

variable {α : Type w} {f : α → List ((κ × κ') × β)} {xs : List α} {k : κ} {k' : κ'} {v : β}

theorem exists_of_lastAssigned_flatMap (h : lastAssigned (xs.flatMap f) k k' = some v)
    : ∃ x ∈ xs, lastAssigned (f x) k k' = some v := by
  induction xs with
  | nil => cases h
  | cons x xs ih =>
    rw [List.flatMap_cons, lastAssigned_append, Option.or_eq_some_iff] at h
    rcases h with h | ⟨-, h⟩
    . rcases ih h with ⟨y, hy, hlast⟩
      exact ⟨y, List.mem_cons_of_mem _ hy, hlast⟩
    . exact ⟨x, List.mem_cons_self, h⟩

theorem lastAssigned_flatMap_of_forall (hex : ∃ x ∈ xs, lastAssigned (f x) k k' = some v)
    (hall : ∀ x ∈ xs, ∀ v', lastAssigned (f x) k k' = some v' → v' = v)
    : lastAssigned (xs.flatMap f) k k' = some v := by
  cases hlast : lastAssigned (xs.flatMap f) k k' with
  | some v' =>
    rcases exists_of_lastAssigned_flatMap hlast with ⟨x, hx, hlast⟩
    rw [hall x hx v' hlast]
  | none =>
    rcases hex with ⟨x, hx, hlast'⟩
    rw [lastAssigned_eq_none] at hlast
    exact absurd rfl (hlast _ (List.mem_flatMap.mpr ⟨x, hx, mem_of_lastAssigned hlast'⟩))

end Orders

end Assign

end GoMap
