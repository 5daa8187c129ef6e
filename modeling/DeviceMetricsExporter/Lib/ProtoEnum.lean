import Mathlib.Data.List.Basic
import Mathlib.Data.List.Nodup

/-!
This module contains the enumerations of protocol buffers: every value has a name and no two values
share one, so that a value can be found by its name.
-/

theorem nodup_of_forall₂_ofList {β : Type} {names : List String} (f : List Char → β)
    (h : ∃ ls, List.Forall₂ (fun s l => s = String.ofList l) names ls ∧ (ls.map f).Nodup)
    : names.Nodup := by
  rcases h with ⟨ls, hls, hnodup⟩
  have hnames : names = ls.map String.ofList := by
    induction hls with
    | nil => rfl
    | cons hs _ ih => rw [List.map_cons, hs, ih (List.Nodup.of_cons hnodup)]
  rw [hnames]
  exact (List.Nodup.of_map f hnodup).map fun _ _ heq => String.ofList_injective heq

class ProtoEnum (α : Type) where
  name : α → String
  values : List α
  mem_values : ∀ a, a ∈ values
  nodup_names : (values.map name).Nodup

namespace ProtoEnum

variable (α : Type) [ProtoEnum α]

def names : List String :=
  (values : List α).map name

variable {α}

def ofName? (s : String) : Option α :=
  values.find? fun a => name a = s

theorem name_injective : Function.Injective (name : α → String) := by
  intro a b h
  apply List.inj_on_of_nodup_map nodup_names
  . apply mem_values
  . apply mem_values
  . exact h

theorem mem_names {s : String} : s ∈ names α ↔ ∃ a : α, name a = s := by
  rw [names, List.mem_map]
  constructor
  . intro h
    rcases h with ⟨a, -, ha⟩
    exact ⟨a, ha⟩
  . intro h
    rcases h with ⟨a, ha⟩
    exact ⟨a, mem_values a, ha⟩

theorem name_mem_names (a : α) : name a ∈ names α := by
  rw [mem_names]
  exact ⟨a, rfl⟩

@[simp]
theorem ofName?_name (a : α) : ofName? (name a) = some a := by
  have hfound : (ofName? (name a) : Option α).isSome := by
    rw [ofName?, List.find?_isSome]
    exact ⟨a, mem_values a, by simp⟩
  rw [Option.isSome_iff_exists] at hfound
  rcases hfound with ⟨b, hb⟩
  have hname : name b = name a := by
    simpa using List.find?_some hb
  rw [hb, name_injective hname]

end ProtoEnum
