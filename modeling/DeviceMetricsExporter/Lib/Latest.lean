import Mathlib.Data.List.Induction
import Mathlib.Data.List.Nodup
import Mathlib.Order.Lattice

/-!
This module contains the latest of a list of records, some of which have no time, and one pass over
the list that finds it.
-/

universe u v

namespace Latest

variable {α : Type u} {τ : Type v} [LinearOrder τ] (ts : α → Option τ)

/--
The first record with the greatest time, or the last record if no record has a time.
-/
def IsLatest (xs : List α) (x : α) : Prop :=
  (∃ before after t, xs = before ++ x :: after ∧ ts x = some t ∧
      (∀ y ∈ before, ∀ t', ts y = some t' → t' < t) ∧ ∀ y ∈ after, ∀ t', ts y = some t' → t' ≤ t)
    ∨ (∀ y ∈ xs, ts y = none) ∧ xs.getLast? = some x

def Supersedes (candidate existing : α) : Prop :=
  match ts candidate, ts existing with
  | some t, some t' => t' < t
  | some _, none => True
  | none, none => True
  | none, some _ => False

instance : DecidableRel (Supersedes ts) := fun candidate existing => by
  unfold Supersedes
  split
  . infer_instance
  . infer_instance
  . infer_instance
  . infer_instance

def keep (existing : Option α) (candidate : α) : Option α :=
  match existing with
  | none => some candidate
  | some existing => if Supersedes ts candidate existing then some candidate else some existing

def latest (xs : List α) : Option α :=
  xs.foldl (keep ts) none

section IsLatest

variable {ts} {xs ys : List α} {x y : α}

theorem IsLatest.mem (h : IsLatest ts xs x) : x ∈ xs := by
  rcases h with ⟨before, after, t, rfl, -⟩ | ⟨-, hlast⟩
  . simp
  . exact List.mem_of_getLast? hlast

theorem eq_of_append_eq {before after before' after' e : List α} {t t' : τ}
    (hbefore : before' = before ++ e) (hrest : x :: after = e ++ y :: after') (ht : ts x = some t)
    (ht' : ts y = some t') (hafter : ∀ z ∈ after, ∀ t', ts z = some t' → t' ≤ t)
    (hbefore' : ∀ z ∈ before', ∀ t, ts z = some t → t < t') : x = y := by
  cases e with
  | nil =>
    rw [List.nil_append, List.cons.injEq] at hrest
    exact hrest.1
  | cons z e =>
    rw [List.cons_append, List.cons.injEq] at hrest
    rcases hrest with ⟨rfl, rfl⟩
    have hlt := hbefore' x (by simp [hbefore]) t ht
    have hle := hafter y (by simp) t' ht'
    exact absurd hlt (not_lt.mpr hle)

theorem IsLatest.unique (h : IsLatest ts xs x) (h' : IsLatest ts xs y) : x = y := by
  rcases h with ⟨before, after, t, rfl, ht, hbefore, hafter⟩ | ⟨hnone, hlast⟩
  . rcases h' with ⟨before', after', t', hsplit, ht', hbefore', hafter'⟩ | ⟨hnone', -⟩
    . rcases List.append_eq_append_iff.mp hsplit with ⟨e, hprefix, hrest⟩ | ⟨e, hprefix, hrest⟩
      . exact eq_of_append_eq hprefix hrest ht ht' hafter hbefore'
      . exact (eq_of_append_eq hprefix hrest ht' ht hafter' hbefore).symm
    . rw [hnone' x (by simp)] at ht
      cases ht
  . rcases h' with ⟨before', after', t', rfl, ht', -⟩ | ⟨-, hlast'⟩
    . rw [hnone y (by simp)] at ht'
      cases ht'
    . rw [hlast, Option.some.injEq] at hlast'
      exact hlast'

theorem isLatest_singleton (x : α) : IsLatest ts [x] x := by
  cases ht : ts x with
  | some t => exact .inl ⟨[], [], t, rfl, ht, nofun, nofun⟩
  | none => exact .inr ⟨by simpa using ht, rfl⟩

theorem IsLatest.le (h : IsLatest ts xs x) {t t' : τ} (ht : ts x = some t) (hy : y ∈ xs)
    (ht' : ts y = some t') : t' ≤ t := by
  rcases h with ⟨before, after, s, rfl, hs, hbefore, hafter⟩ | ⟨hnone, hlast⟩
  . rw [ht, Option.some.injEq] at hs
    subst hs
    rcases List.mem_append.mp hy with hy | hy
    . exact le_of_lt (hbefore y hy t' ht')
    . rcases List.mem_cons.mp hy with rfl | hy
      . rw [ht, Option.some.injEq] at ht'
        rw [ht']
      . exact hafter y hy t' ht'
  . rw [hnone y hy] at ht'
    cases ht'

theorem IsLatest.ts_eq_none (h : IsLatest ts xs x) (ht : ts x = none) : ∀ z ∈ xs, ts z = none := by
  rcases h with ⟨before, after, t, -, ht', -⟩ | ⟨hnone, -⟩
  . rw [ht] at ht'
    cases ht'
  . exact hnone

theorem IsLatest.append_of_forall_le (h : IsLatest ts xs x) {t : τ} (ht : ts x = some t)
    (hle : ∀ t', ts y = some t' → t' ≤ t) : IsLatest ts (xs ++ [y]) x := by
  rcases h with ⟨before, after, s, rfl, hs, hbefore, hafter⟩ | ⟨hnone, hlast⟩
  . rw [ht, Option.some.injEq] at hs
    subst hs
    refine .inl ⟨before, after ++ [y], t, by simp, ht, hbefore, ?_⟩
    intro z hz t' ht'
    rcases List.mem_append.mp hz with hz | hz
    . exact hafter z hz t' ht'
    . rw [List.mem_singleton.mp hz] at ht'
      exact hle t' ht'
  . rw [hnone x (List.mem_of_getLast? hlast)] at ht
    cases ht

theorem isLatest_of_forall_lt {t : τ} (ht : ts y = some t)
    (hlt : ∀ z ∈ xs, ∀ t', ts z = some t' → t' < t) : IsLatest ts (xs ++ [y]) y :=
  .inl ⟨xs, [], t, rfl, ht, hlt, nofun⟩

theorem IsLatest.append_singleton (h : IsLatest ts xs x) (y : α)
    : IsLatest ts (xs ++ [y]) (if Supersedes ts y x then y else x) := by
  cases ht : ts x with
  | some t =>
    cases ht' : ts y with
    | some t' =>
      have hiff : Supersedes ts y x ↔ t < t' := by
        simp [Supersedes, ht, ht']
      split
      . next hlt =>
        rw [hiff] at hlt
        apply isLatest_of_forall_lt ht'
        intro z hz s hs
        exact lt_of_le_of_lt (h.le ht hz hs) hlt
      . next hle =>
        rw [hiff, not_lt] at hle
        apply h.append_of_forall_le ht
        intro s hs
        rw [ht', Option.some.injEq] at hs
        rwa [← hs]
    | none =>
      have hkeep : ¬Supersedes ts y x := by
        simp [Supersedes, ht, ht']
      rw [if_neg hkeep]
      apply h.append_of_forall_le ht
      intro s hs
      rw [ht'] at hs
      cases hs
  | none =>
    have hnone := h.ts_eq_none ht
    have hsupersedes : Supersedes ts y x := by
      cases ht' : ts y with
      | none => simp [Supersedes, ht, ht']
      | some t' => simp [Supersedes, ht, ht']
    rw [if_pos hsupersedes]
    cases ht' : ts y with
    | some t' =>
      apply isLatest_of_forall_lt ht'
      intro z hz s hs
      rw [hnone z hz] at hs
      cases hs
    | none =>
      refine .inr ⟨?_, List.getLast?_concat⟩
      intro z hz
      rcases List.mem_append.mp hz with hz | hz
      . exact hnone z hz
      . rw [List.mem_singleton.mp hz, ht']

end IsLatest

variable {ts} {xs ys : List α} {x : α}

theorem latest_append_singleton (y : α) : latest ts (xs ++ [y]) = keep ts (latest ts xs) y := by
  rw [latest, List.foldl_append]
  rfl

variable (ts xs) in
theorem latest_spec
    : (xs = [] ∧ latest ts xs = none) ∨ ∃ x, latest ts xs = some x ∧ IsLatest ts xs x := by
  induction xs using List.reverseRecOn with
  | nil => exact .inl ⟨rfl, rfl⟩
  | append_singleton xs y ih =>
    right
    rw [latest_append_singleton]
    rcases ih with ⟨rfl, hlatest⟩ | ⟨x, hlatest, hx⟩
    . rw [hlatest]
      exact ⟨y, rfl, isLatest_singleton y⟩
    . rw [hlatest]
      refine ⟨_, ?_, hx.append_singleton y⟩
      rw [keep, apply_ite some]

theorem latest_eq_some_iff : latest ts xs = some x ↔ IsLatest ts xs x := by
  constructor
  . intro h
    rcases latest_spec ts xs with ⟨-, hnone⟩ | ⟨x', hx', hlatest⟩
    . rw [h] at hnone
      cases hnone
    . rw [h, Option.some.injEq] at hx'
      rwa [hx']
  . intro h
    rcases latest_spec ts xs with ⟨rfl, -⟩ | ⟨x', hx', hlatest⟩
    . exact absurd h.mem List.not_mem_nil
    . rw [hx', h.unique hlatest]

theorem latest_eq_none_iff : latest ts xs = none ↔ xs = [] := by
  constructor
  . intro h
    rcases latest_spec ts xs with ⟨hnil, -⟩ | ⟨x', hx', -⟩
    . exact hnil
    . rw [h] at hx'
      cases hx'
  . rintro rfl
    rfl

theorem latest_map {β : Type*} (f : β → α) (xs : List β)
    : latest ts (xs.map f) = (latest (fun x => ts (f x)) xs).map f := by
  induction xs using List.reverseRecOn with
  | nil => rfl
  | append_singleton xs y ih =>
    rw [List.map_append, List.map_singleton, latest_append_singleton, latest_append_singleton, ih]
    cases latest (fun x => ts (f x)) xs with
    | none => rfl
    | some x =>
      rw [Option.map_some, keep, keep, apply_ite (Option.map f)]
      rfl

/--
Where some record has a time and no two have the same, the order makes no difference.
-/
theorem latest_perm (hperm : xs.Perm ys) (hsome : ∃ x ∈ xs, ts x ≠ none)
    (hnodup : (xs.filterMap ts).Nodup) : latest ts xs = latest ts ys := by
  have hnodup' : (ys.filterMap ts).Nodup :=
    (hperm.filterMap ts).nodup_iff.mp hnodup
  rcases latest_spec ts xs with ⟨rfl, -⟩ | ⟨x, hx, hlatest⟩
  . rcases hsome with ⟨x, hx, -⟩
    exact absurd hx List.not_mem_nil
  rw [hx, eq_comm, latest_eq_some_iff]
  cases ht : ts x with
  | some t =>
    have hmax : ∀ y ∈ ys, ∀ t', ts y = some t' → t' ≤ t := fun y hy _ ht' =>
      hlatest.le ht (hperm.mem_iff.mpr hy) ht'
    rcases List.append_of_mem (hperm.mem_iff.mp hlatest.mem) with ⟨before, after, rfl⟩
    refine .inl ⟨before, after, t, rfl, ht, ?_, ?_⟩
    . intro y hy t' ht'
      apply lt_of_le_of_ne (hmax y (by simp [hy]) t' ht')
      rintro rfl
      rw [List.filterMap_append, List.filterMap_cons_some ht, List.nodup_append'] at hnodup'
      exact hnodup'.2.2 (List.mem_filterMap.mpr ⟨y, hy, ht'⟩) List.mem_cons_self
    . intro y hy t' ht'
      exact hmax y (by simp [hy]) t' ht'
  | none =>
    rcases hsome with ⟨y, hy, hne⟩
    exact absurd (hlatest.ts_eq_none ht y hy) hne

end Latest
