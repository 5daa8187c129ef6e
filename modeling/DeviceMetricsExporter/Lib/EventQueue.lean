import Mathlib.Data.List.Basic

/-!
This module contains queues whose events depend on what is still to come behind them: `Answered P q`
says that `P e rest` holds of every event `e` of `q` and the events `rest` behind it.
-/

universe u

variable {ε : Type u}

def Answered (P : ε → List ε → Prop) : List ε → Prop
  | [] => True
  | e :: q => P e q ∧ Answered P q

namespace Answered

variable {P Q : ε → List ε → Prop} {q : List ε} {e : ε}

theorem head (h : Answered P (e :: q)) : P e q := h.1

theorem tail (h : Answered P (e :: q)) : Answered P q := h.2

theorem mono (h : Answered P q) (himp : ∀ e q, P e q → Q e q) : Answered Q q := by
  induction q with
  | nil => trivial
  | cons e q ih => exact ⟨himp e q h.1, ih h.2⟩

theorem snoc (h : Answered P q) (himp : ∀ d r, P d r → Q d (r ++ [e])) (hlast : Q e [])
    : Answered Q (q ++ [e]) := by
  induction q with
  | nil => exact ⟨hlast, trivial⟩
  | cons d q ih => exact ⟨himp d q h.1, ih h.2⟩

end Answered
