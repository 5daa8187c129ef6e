import Mathlib.Logic.Basic

/-!
This module contains systems that take one labelled step at a time, their finite runs and the rule
that derives a property of every run from what a single step preserves.
-/

universe u v

/--
A system whose next state is determined by the label of the step. `none` means that the step is not
enabled.
-/
structure TransitionSystem (σ : Type u) (α : Type v) where
  step : σ → α → Option σ

namespace TransitionSystem

variable {σ : Type u} {α : Type v}

def exec (T : TransitionSystem σ α) : List α → σ → Option σ
  | [], s => some s
  | a :: as, s => (T.step s a).bind (T.exec as)

/--
Every step of the run is taken in a state where `ok` holds of it.
-/
def Respects (T : TransitionSystem σ α) (ok : σ → α → Prop) : List α → σ → Prop
  | [], _ => True
  | a :: as, s =>
    ok s a ∧
      match T.step s a with
      | some s' => T.Respects ok as s'
      | none => True

/--
Every step of the run is enabled, and `post` holds of its label and the state it leads to.
-/
def Achieves (T : TransitionSystem σ α) (post : α → σ → Prop) : List α → σ → Prop
  | [], _ => True
  | a :: as, s => ∃ s', T.step s a = some s' ∧ post a s' ∧ T.Achieves post as s'

def Reaches (T : TransitionSystem σ α) (s s' : σ) : Prop :=
  ∃ as, T.exec as s = some s'

instance Respects.decidable (T : TransitionSystem σ α) (ok : σ → α → Prop)
    [∀ s a, Decidable (ok s a)] : ∀ as s, Decidable (T.Respects ok as s)
  | [], _ => .isTrue trivial
  | a :: as, s =>
    match h : T.step s a with
    | some s' =>
      have := Respects.decidable T ok as s'
      decidable_of_iff (ok s a ∧ T.Respects ok as s') (by simp [Respects, h])
    | none => decidable_of_iff (ok s a) (by simp [Respects, h])

variable (T : TransitionSystem σ α)

@[simp]
theorem exec_nil (s : σ) : T.exec [] s = some s := rfl

theorem exec_cons_eq_some {a : α} {as : List α} {s s' : σ}
    : T.exec (a :: as) s = some s' ↔ ∃ t, T.step s a = some t ∧ T.exec as t = some s' := by
  simp [exec, Option.bind_eq_some_iff]

theorem exec_map {β : Type*} {T' : TransitionSystem σ β} {f : α → β}
    (hstep : ∀ s a, T'.step s (f a) = T.step s a) (as : List α) (s : σ)
    : T'.exec (as.map f) s = T.exec as s := by
  induction as generalizing s with
  | nil => rfl
  | cons a as ih => rw [List.map_cons, exec, exec, hstep, funext ih]

/--
A map of the states that every step commutes with takes runs to runs.
-/
theorem exec_semiconj {τ : Type*} {T' : TransitionSystem τ α} {f : σ → τ}
    (hstep : ∀ s a, T'.step (f s) a = (T.step s a).map f) (as : List α) (s : σ)
    : T'.exec as (f s) = (T.exec as s).map f := by
  induction as generalizing s with
  | nil => rfl
  | cons a as ih =>
    have hrest : T'.exec as ∘ f = Option.map f ∘ T.exec as := funext ih
    rw [exec, exec, hstep, Option.bind_map, Option.map_bind, hrest]

theorem exec_concat_eq_some {a : α} {as : List α} {s s' : σ}
    : T.exec (as ++ [a]) s = some s' ↔ ∃ t, T.exec as s = some t ∧ T.step t a = some s' := by
  induction as generalizing s with
  | nil => simp [exec]
  | cons b as ih =>
    simp only [List.cons_append, exec_cons_eq_some, ih]
    constructor
    . rintro ⟨t, ht, u, hu, hstep⟩
      exact ⟨u, ⟨t, ht, hu⟩, hstep⟩
    . rintro ⟨u, ⟨t, ht, hu⟩, hstep⟩
      exact ⟨t, ht, u, hu, hstep⟩

variable {T} in
theorem Reaches.refl (s : σ) : T.Reaches s s := ⟨[], rfl⟩

variable {T} in
theorem Reaches.head {a : α} {s t s' : σ} (hstep : T.step s a = some t) (h : T.Reaches t s')
    : T.Reaches s s' := by
  rcases h with ⟨as, has⟩
  exact ⟨a :: as, (exec_cons_eq_some T).mpr ⟨t, hstep, has⟩⟩

theorem Respects.of_step {ok : σ → α → Prop} {a : α} {as : List α} {s t : σ}
    (h : T.Respects ok (a :: as) s) (hstep : T.step s a = some t) : T.Respects ok as t := by
  have h2 := h.2
  rw [hstep] at h2
  exact h2

theorem Respects.append_left {ok : σ → α → Prop} {as bs : List α} {s : σ}
    (h : T.Respects ok (as ++ bs) s) : T.Respects ok as s := by
  induction as generalizing s with
  | nil => trivial
  | cons a as ih =>
    refine ⟨h.1, ?_⟩
    split
    . next t ht => exact ih (Respects.of_step T h ht)
    . trivial

theorem Respects.append_right {ok : σ → α → Prop} {as bs : List α} {s t : σ}
    (h : T.Respects ok (as ++ bs) s) (hexec : T.exec as s = some t) : T.Respects ok bs t := by
  induction as generalizing s with
  | nil =>
    simp only [exec_nil, Option.some.injEq] at hexec
    subst hexec
    exact h
  | cons a as ih =>
    rcases (exec_cons_eq_some T).mp hexec with ⟨u, hu, hrest⟩
    apply ih (Respects.of_step T h hu) hrest

theorem respects_true (as : List α) (s : σ) : T.Respects (fun _ _ => True) as s := by
  induction as generalizing s with
  | nil => trivial
  | cons a as ih =>
    refine ⟨trivial, ?_⟩
    split
    . next t _ => exact ih t
    . trivial

/--
Which steps are admitted does not have to depend on the state.
-/
theorem respects_of_forall_mem {adm : α → Prop} {as : List α} (h : ∀ a ∈ as, adm a) (s : σ)
    : T.Respects (fun _ a => adm a) as s := by
  induction as generalizing s with
  | nil => trivial
  | cons a as ih =>
    rw [List.forall_mem_cons] at h
    refine ⟨h.1, ?_⟩
    split
    . next t _ => exact ih h.2 t
    . trivial

theorem Respects.imp {ok ok' : σ → α → Prop} (himp : ∀ s a, ok s a → ok' s a) {as : List α} {s : σ}
    (h : T.Respects ok as s) : T.Respects ok' as s := by
  induction as generalizing s with
  | nil => trivial
  | cons a as ih =>
    refine ⟨himp s a h.1, ?_⟩
    split
    . next t ht => exact ih (Respects.of_step T h ht)
    . trivial

theorem respects_semiconj {τ : Type*} {T' : TransitionSystem τ α} {f : σ → τ}
    (hstep : ∀ s a, T'.step (f s) a = (T.step s a).map f) {ok : σ → α → Prop} {ok' : τ → α → Prop}
    (hok : ∀ s a, ok' (f s) a → ok s a) {as : List α} {s : σ} (h : T'.Respects ok' as (f s))
    : T.Respects ok as s := by
  induction as generalizing s with
  | nil => trivial
  | cons a as ih =>
    refine ⟨hok s a h.1, ?_⟩
    split
    . next t ht => exact ih (Respects.of_step T' h (by rw [hstep, ht]; rfl))
    . trivial

/--
What every step that `ok` admits preserves holds at the end of every run whose steps `ok` admits.
-/
theorem exec_invariant {ok : σ → α → Prop} {I : σ → Prop}
    (hstep : ∀ s a s', I s → ok s a → T.step s a = some s' → I s')
    (as : List α) (s s' : σ) (hinv : I s) (hok : T.Respects ok as s)
    (hexec : T.exec as s = some s') : I s' := by
  induction as generalizing s with
  | nil =>
    simp only [exec_nil, Option.some.injEq] at hexec
    subst hexec
    exact hinv
  | cons a as ih =>
    rcases (exec_cons_eq_some T).mp hexec with ⟨t, ht, hrest⟩
    apply ih t (hstep s a t hinv hok.1 ht) (Respects.of_step T hok ht) hrest

/--
As `exec_invariant`, for a property that also refers to the steps taken so far.
-/
theorem exec_history {ok : σ → α → Prop} {I : List α → σ → Prop}
    (hstep : ∀ hist s a s', I hist s → ok s a → T.step s a = some s' → I (hist ++ [a]) s')
    (as hist : List α) (s s' : σ) (hinv : I hist s) (hok : T.Respects ok as s)
    (hexec : T.exec as s = some s') : I (hist ++ as) s' := by
  induction as generalizing hist s with
  | nil =>
    simp only [exec_nil, Option.some.injEq] at hexec
    subst hexec
    simpa using hinv
  | cons a as ih =>
    rcases (exec_cons_eq_some T).mp hexec with ⟨t, ht, hrest⟩
    have := ih (hist ++ [a]) t (hstep hist s a t hinv hok.1 ht) (Respects.of_step T hok ht) hrest
    simpa using this

/--
If the admitted steps are stuck exactly where `ok` does not hold of them, and keep the invariant, a run of
them is stuck exactly if `ok` does not hold of one of its steps.
-/
theorem exec_isSome_iff_respects {adm : α → Prop} {ok : σ → α → Prop} {I : σ → Prop}
    (hstep : ∀ s a, I s → adm a → ok s a → ∃ s', T.step s a = some s' ∧ I s')
    (hstuck : ∀ s a, I s → adm a → ¬ok s a → T.step s a = none)
    (as : List α) (s : σ) (hinv : I s) (hadm : ∀ a ∈ as, adm a)
    : (T.exec as s).isSome = true ↔ T.Respects ok as s := by
  induction as generalizing s with
  | nil => exact ⟨fun _ => trivial, fun _ => rfl⟩
  | cons a as ih =>
    rw [List.forall_mem_cons] at hadm
    by_cases hok : ok s a
    . rcases hstep s a hinv hadm.1 hok with ⟨t, ht, hinv'⟩
      have hrest := ih t hinv' hadm.2
      simp only [exec, ht, Option.bind_some, Respects, hok, true_and, hrest]
    . simp [exec, hstuck s a hinv hadm.1 hok, Respects, hok]

end TransitionSystem
