import Mathlib.Algebra.BigOperators.Group.List.Basic
import DeviceMetricsExporter.Lib.GoMap

/-!
This module contains loops over lists: those that put out their state after each element, and those that
may fail.
-/

universe u v

namespace Loop

variable {σ : Type u} {α : Type v} (f : σ → α → σ)

def trace (s : σ) : List α → List (α × σ)
  | [] => []
  | a :: as => (a, f s a) :: trace (f s a) as

theorem forall_mem_trace {R : α → σ → Prop} {s : σ} {as : List α}
    : (∀ p ∈ trace f s as, R p.1 p.2)
      ↔ ∀ before a after, as = before ++ a :: after → R a (f (before.foldl f s) a) := by
  induction as generalizing s with
  | nil => simp [trace]
  | cons b as ih =>
    rw [trace, List.forall_mem_cons, ih]
    constructor
    . rintro ⟨hhead, htail⟩ before a after heq
      rcases before with _ | ⟨c, before⟩
      . cases heq
        exact hhead
      . rw [List.cons_append, List.cons.injEq] at heq
        rcases heq with ⟨rfl, heq⟩
        exact htail before a after heq
    . intro h
      refine ⟨h [] b as rfl, ?_⟩
      intro before a after heq
      exact h (b :: before) a after (by rw [heq, List.cons_append])

theorem forall₂_trace {β : Type*} {R : α → β → Prop} (g : α × σ → β) {s : σ} {as : List α}
    : List.Forall₂ R as ((trace f s as).map g) ↔ ∀ p ∈ trace f s as, R p.1 (g p) := by
  induction as generalizing s with
  | nil => simp [trace]
  | cons a as ih => rw [trace, List.map_cons, List.forall₂_cons, ih, List.forall_mem_cons]

theorem mapM_eq_some_map {β : Type*} {g : α → Option β} {g' : α → β} {as : List α}
    (h : ∀ a ∈ as, g a = some (g' a)) : as.mapM g = some (as.map g') := by
  induction as with
  | nil => rfl
  | cons a as ih =>
    rw [List.forall_mem_cons] at h
    rw [List.mapM_cons, h.1, ih h.2]
    rfl

theorem foldlM_invariant {I : σ → Prop} {g : σ → α → Option σ} {as : List α}
    (hstep : ∀ s, ∀ a ∈ as, ∀ s', I s → g s a = some s' → I s') {s s' : σ} (hinv : I s)
    (hfold : as.foldlM g s = some s') : I s' := by
  induction as generalizing s with
  | nil =>
    cases hfold
    exact hinv
  | cons a as ih =>
    rw [List.foldlM_cons, Option.bind_eq_bind, Option.bind_eq_some_iff] at hfold
    rcases hfold with ⟨t, ht, hrest⟩
    apply ih _ (hstep s a List.mem_cons_self t hinv ht) hrest
    intro s a ha
    exact hstep s a (List.mem_cons_of_mem _ ha)

theorem foldlM_add {M : Type*} [AddMonoid M] (μ : σ → M) (w : α → M) {g : σ → α → Option σ}
    (hstep : ∀ s a s', g s a = some s' → μ s' = μ s + w a) {as : List α} {s s' : σ}
    (hfold : as.foldlM g s = some s') : μ s' = μ s + (as.map w).sum := by
  induction as generalizing s with
  | nil =>
    cases hfold
    simp
  | cons a as ih =>
    rw [List.foldlM_cons, Option.bind_eq_bind, Option.bind_eq_some_iff] at hfold
    rcases hfold with ⟨t, ht, hrest⟩
    rw [ih hrest, hstep s a t ht, List.map_cons, List.sum_cons, add_assoc]

theorem foldlM_isSome {p : α → Bool} {g : σ → α → Option σ} (hstep : ∀ s a, (g s a).isSome = p a)
    (as : List α) (s : σ) : (as.foldlM g s).isSome = as.all p := by
  induction as generalizing s with
  | nil => rfl
  | cons a as ih =>
    rw [List.foldlM_cons, List.all_cons, ← hstep s a]
    cases g s a with
    | none => rfl
    | some t => simpa using ih t

theorem mapM_map_eq {β γ : Type*} {f : α → Option β} {g : β → γ} {p : α → Bool} {r : α → γ}
    (hstep : ∀ a, (f a).map g = if p a then some (r a) else none) (as : List α)
    : (as.mapM f).map (List.map g) = if as.all p then some (as.map r) else none := by
  induction as with
  | nil => rfl
  | cons a as ih =>
    have hcons : ((a :: as).mapM f).map (List.map g)
        = ((f a).map g).bind fun c => ((as.mapM f).map (List.map g)).map (c :: ·) := by
      rw [List.mapM_cons]
      cases f a with
      | none => rfl
      | some b =>
        cases as.mapM f with
        | none => rfl
        | some bs => rfl
    rw [hcons, hstep, ih, List.all_cons, List.map_cons]
    cases p a with
    | false => rfl
    | true =>
      cases as.all p with
      | false => rfl
      | true => rfl

/--
A loop over elements with different keys that sets the entry of each key. When it is the turn of an
element, the entry of its key is still the one from before the loop.
-/
theorem foldlM_keyed {κ : Type*} {β : Type*} [DecidableEq κ] {key : α → κ} {R : α → β → Prop}
    {g : GoMap κ β → α → Option (GoMap κ β)} {as : List α} {m₀ : GoMap κ β}
    (hstep : ∀ a ∈ as, ∀ m : GoMap κ β, m.lookup (key a) = m₀.lookup (key a) →
      ∃ m' v, g m a = some m' ∧ R a v
        ∧ ∀ k, m'.lookup k = if k = key a then some v else m.lookup k)
    (hnodup : (as.map key).Nodup) {m : GoMap κ β}
    (hm : ∀ a ∈ as, m.lookup (key a) = m₀.lookup (key a))
    : ∃ m', as.foldlM g m = some m' ∧ (∀ a ∈ as, ∃ v, m'.lookup (key a) = some v ∧ R a v)
      ∧ ∀ k, k ∉ as.map key → m'.lookup k = m.lookup k := by
  induction as generalizing m with
  | nil => exact ⟨m, rfl, by simp, by simp⟩
  | cons a as ih =>
    rw [List.map_cons, List.nodup_cons] at hnodup
    rcases hstep a List.mem_cons_self m (hm a List.mem_cons_self) with ⟨m₁, v, hg, hR, hlookup⟩
    have hm₁ : ∀ b ∈ as, m₁.lookup (key b) = m₀.lookup (key b) := by
      intro b hb
      have hne : key b ≠ key a := by
        intro heq
        apply hnodup.1
        rw [← heq]
        exact List.mem_map_of_mem hb
      rw [hlookup, if_neg hne]
      exact hm b (List.mem_cons_of_mem a hb)
    rcases ih (fun b hb => hstep b (List.mem_cons_of_mem a hb)) hnodup.2 hm₁
      with ⟨m', hfold, hset, hframe⟩
    refine ⟨m', ?_, ?_, ?_⟩
    . rw [List.foldlM_cons, hg]
      exact hfold
    . intro b hb
      rcases List.mem_cons.mp hb with rfl | hb
      . refine ⟨v, ?_, hR⟩
        rw [hframe _ hnodup.1, hlookup, if_pos rfl]
      . exact hset b hb
    . intro k hk
      rw [List.map_cons, List.mem_cons, not_or] at hk
      rw [hframe k hk.2, hlookup, if_neg hk.1]

theorem pairwise_of_forall₂ {α β : Type*} {R : α → β → Prop} {S : α → α → Prop} {T : β → β → Prop}
    {as : List α} {bs : List β} (hR : List.Forall₂ R as bs) (hS : as.Pairwise S)
    (h : ∀ a a' b b', R a b → R a' b' → S a a' → T b b') : bs.Pairwise T := by
  rw [List.pairwise_iff_getElem] at hS ⊢
  intro i j hi hj hlt
  have hlength := hR.length_eq
  have hRi := hR.get (by omega) hi
  have hRj := hR.get (by omega) hj
  exact h _ _ _ _ hRi hRj (hS i j (by omega) (by omega) hlt)

end Loop
