import Mathlib.Algebra.BigOperators.Group.List.Basic
import Mathlib.Data.List.AList

/-!
This module contains maps that accumulate: every entry of a list is added to what the map has got for
its key.
-/

universe u v

namespace Accumulate

variable {κ : Type u} {α : Type v} [DecidableEq κ]

def add [Zero α] [Add α] (m : AList fun _ : κ => α) (entry : κ × α) : AList fun _ : κ => α :=
  m.insert entry.1 ((m.lookup entry.1).getD 0 + entry.2)

def addAll [Zero α] [Add α] (entries : List (κ × α)) : AList fun _ : κ => α :=
  entries.foldl add ∅

def valuesOf (entries : List (κ × α)) (k : κ) : List α :=
  (entries.filter fun entry => entry.1 = k).map Prod.snd

theorem valuesOf_append (xs ys : List (κ × α)) (k : κ)
    : valuesOf (xs ++ ys) k = valuesOf xs k ++ valuesOf ys k := by
  simp [valuesOf]

theorem valuesOf_perm {xs ys : List (κ × α)} (h : xs.Perm ys) (k : κ)
    : (valuesOf xs k).Perm (valuesOf ys k) :=
  (h.filter _).map _

theorem valuesOf_map (k : κ) (values : List α) (k' : κ)
    : valuesOf (values.map fun value => (k, value)) k' = if k = k' then values else [] := by
  by_cases h : k = k'
  . simp [valuesOf, List.filter_map, Function.comp_def, h]
  . simp [valuesOf, List.filter_map, Function.comp_def, h]

theorem valuesOf_flatMap (values : κ → List α) (ks : List κ) (k : κ)
    : valuesOf (ks.flatMap fun k' => (values k').map fun value => (k', value)) k
      = (List.replicate (ks.count k) (values k)).flatten := by
  induction ks with
  | nil => rfl
  | cons k' ks ih =>
    rw [List.flatMap_cons, valuesOf_append, valuesOf_map, ih, List.count_cons]
    by_cases h : k' = k
    . subst h
      simp [List.replicate_succ]
    . simp [h]

variable [AddCommMonoid α]

theorem lookup_foldl_add (entries : List (κ × α)) (m : AList fun _ : κ => α) (k : κ)
    : (entries.foldl add m).lookup k
      = if valuesOf entries k = [] then
          m.lookup k
        else
          some ((m.lookup k).getD 0 + (valuesOf entries k).sum) := by
  induction entries generalizing m with
  | nil => rfl
  | cons entry entries ih =>
    rw [List.foldl_cons, ih]
    by_cases h : entry.1 = k
    . have hlookup : (add m entry).lookup k = some ((m.lookup k).getD 0 + entry.2) := by
        rw [← h]
        apply AList.lookup_insert
      have hvalues : valuesOf (entry :: entries) k = entry.2 :: valuesOf entries k := by
        simp [valuesOf, h]
      rw [hlookup, hvalues]
      by_cases hnil : valuesOf entries k = []
      . simp [hnil]
      . simp [hnil, add_assoc]
    . have hlookup : (add m entry).lookup k = m.lookup k :=
        AList.lookup_insert_ne (Ne.symm h)
      have hvalues : valuesOf (entry :: entries) k = valuesOf entries k := by
        simp [valuesOf, h]
      rw [hlookup, hvalues]

theorem lookup_addAll (entries : List (κ × α)) (k : κ)
    : (addAll entries).lookup k
      = if valuesOf entries k = [] then none else some (valuesOf entries k).sum := by
  rw [addAll, lookup_foldl_add]
  by_cases h : valuesOf entries k = []
  . simp [h]
  . simp [h]

theorem lookup_addAll_of_perm {xs ys : List (κ × α)} (h : xs.Perm ys) (k : κ)
    : (addAll xs).lookup k = (addAll ys).lookup k := by
  have hvalues := valuesOf_perm h k
  rw [lookup_addAll, lookup_addAll, hvalues.sum_eq]
  have hnil : valuesOf xs k = [] ↔ valuesOf ys k = [] := by
    rw [← List.length_eq_zero_iff, ← List.length_eq_zero_iff, hvalues.length_eq]
  simp only [hnil]

theorem lookup_addAll_flatMap (values : κ → List α) (ks : List κ) (k : κ)
    : (addAll (ks.flatMap fun k' => (values k').map fun value => (k', value))).lookup k
      = if ks.count k = 0 ∨ values k = [] then none else some (ks.count k • (values k).sum) := by
  have hnil : (List.replicate (ks.count k) (values k)).flatten = []
      ↔ ks.count k = 0 ∨ values k = [] := by
    by_cases h : ks.count k = 0
    . simp [h]
    . simp [List.flatten_eq_nil_iff, h]
  rw [lookup_addAll, valuesOf_flatMap]
  simp only [hnil, List.sum_flatten, List.map_replicate, List.sum_replicate]

end Accumulate
