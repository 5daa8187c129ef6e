import Mathlib.Data.List.Basic
import Mathlib.Data.List.Perm.Basic
import DeviceMetricsExporter.Lib.TransitionSystem

/-!
This module contains pools of concurrent calls: each call is at some point of its program, and its
next step reads and writes a state that all calls share. What a step depends on besides this state,
such as the outcome of a command, is part of the label of the step.
-/

universe u v

structure CallPool (σ : Type u) (γ : Type v) where
  shared : σ
  calls : List γ
  deriving DecidableEq

/--
`start r` is a new call for the request `r`, `call i x` the next step of the call `i` on the input
`x`, and `env e` a step of the environment.
-/
inductive CallPool.Action (ρ ι ε : Type*) where
  | start (r : ρ)
  | call (i : Nat) (x : ι)
  | env (e : ε)

structure CallProgram (σ : Type u) (γ : Type v) (ρ ι ε : Type*) where
  init : ρ → γ
  step : σ → γ → ι → Option (σ × γ)
  env : σ → ε → Option σ

namespace CallPool

variable {σ : Type u} {γ : Type v} {ρ ι ε : Type*}

def step (P : CallProgram σ γ ρ ι ε) (s : CallPool σ γ) (a : Action ρ ι ε)
    : Option (CallPool σ γ) :=
  match a with
  | .start r => some { s with calls := s.calls ++ [P.init r] }
  | .call i x =>
    match s.calls[i]? with
    | none => none
    | some c => (P.step s.shared c x).map fun (shared, c') => ⟨shared, s.calls.set i c'⟩
  | .env e => (P.env s.shared e).map fun shared => { s with shared }

def system (P : CallProgram σ γ ρ ι ε) : TransitionSystem (CallPool σ γ) (Action ρ ι ε) where
  step := CallPool.step P

/--
The condition `ok` on the call that takes the step, which may also ask for the other calls of the
pool.
-/
def OnCall (ok : σ → List γ → γ → ι → Prop) (s : CallPool σ γ) (a : Action ρ ι ε) : Prop :=
  match a with
  | .call i x =>
    match s.calls[i]? with
    | none => True
    | some c => ok s.shared (s.calls.eraseIdx i) c x
  | _ => True

instance OnCall.decidable {ok : σ → List γ → γ → ι → Prop} [∀ s cs c x, Decidable (ok s cs c x)]
    (s : CallPool σ γ) (a : Action ρ ι ε) : Decidable (s.OnCall ok a) :=
  match a with
  | .start _ => .isTrue trivial
  | .env _ => .isTrue trivial
  | .call i x =>
    match h : s.calls[i]? with
    | none => .isTrue (by simp [OnCall, h])
    | some c => decidable_of_iff (ok s.shared (s.calls.eraseIdx i) c x) (by simp [OnCall, h])

theorem step_cases {P : CallProgram σ γ ρ ι ε} {s s' : CallPool σ γ} {a : Action ρ ι ε}
    (h : (system P).step s a = some s')
    : (∃ r, a = .start r ∧ s' = ⟨s.shared, s.calls ++ [P.init r]⟩) ∨
      (∃ i x c shared c', a = .call i x ∧ s.calls[i]? = some c
        ∧ P.step s.shared c x = some (shared, c') ∧ s' = ⟨shared, s.calls.set i c'⟩) ∨
      ∃ e shared, a = .env e ∧ P.env s.shared e = some shared ∧ s' = ⟨shared, s.calls⟩ := by
  cases a with
  | start r =>
    cases h
    exact .inl ⟨r, rfl, rfl⟩
  | call i x =>
    simp only [system, CallPool.step] at h
    split at h
    . cases h
    . next c hc =>
      rcases Option.map_eq_some_iff.mp h with ⟨⟨shared, c'⟩, hcall, hpair⟩
      exact .inr (.inl ⟨i, x, c, shared, c', rfl, hc, hcall, hpair.symm⟩)
  | env e =>
    simp only [system, CallPool.step] at h
    rcases Option.map_eq_some_iff.mp h with ⟨shared, henv, hpair⟩
    exact .inr (.inr ⟨e, shared, rfl, henv, hpair.symm⟩)

def map {τ δ : Type*} (f : σ → τ) (g : γ → δ) (s : CallPool σ γ) : CallPool τ δ where
  shared := f s.shared
  calls := s.calls.map g

/--
The maps of the shared states and of the calls commute with every step of the programs.
-/
structure ProgramHom {τ δ : Type*} (P : CallProgram σ γ ρ ι ε) (P' : CallProgram τ δ ρ ι ε) (f : σ → τ)
    (g : γ → δ) : Prop where
  init : ∀ r, P'.init r = g (P.init r)
  step : ∀ s c x, P'.step (f s) (g c) x = (P.step s c x).map (Prod.map f g)
  env : ∀ s e, P'.env (f s) e = (P.env s e).map f

theorem ProgramHom.step_map {τ δ : Type*} {P : CallProgram σ γ ρ ι ε} {P' : CallProgram τ δ ρ ι ε}
    {f : σ → τ} {g : γ → δ} (h : ProgramHom P P' f g) (s : CallPool σ γ) (a : Action ρ ι ε)
    : (system P').step (s.map f g) a = ((system P).step s a).map (CallPool.map f g) := by
  cases a with
  | start r => simp [system, CallPool.step, CallPool.map, h.init]
  | call i x =>
    simp only [system, CallPool.step, CallPool.map, List.getElem?_map]
    cases s.calls[i]? with
    | none => rfl
    | some c =>
      simp only [Option.map_some, h.step, Option.map_map, Function.comp_def, List.map_set, CallPool.map,
        Prod.map]
  | env e => simp [system, CallPool.step, CallPool.map, h.env, Function.comp_def]

theorem calls_perm {cs : List γ} {i : Nat} {c : γ} (h : cs[i]? = some c)
    : cs.Perm (c :: cs.eraseIdx i) := by
  rcases List.getElem?_eq_some_iff.mp h with ⟨hlt, rfl⟩
  exact (List.getElem_cons_eraseIdx_perm hlt).symm

theorem calls_set_perm {cs : List γ} {i : Nat} {c : γ} (h : cs[i]? = some c) (c' : γ)
    : (cs.set i c').Perm (c' :: cs.eraseIdx i) := by
  rcases List.getElem?_eq_some_iff.mp h with ⟨hlt, -⟩
  exact List.set_perm_cons_eraseIdx hlt c'

end CallPool
