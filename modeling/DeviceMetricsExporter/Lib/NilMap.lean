import DeviceMetricsExporter.Lib.GoMap

/-!
This module contains Go maps that may be nil. A nil map reads as an empty one, a write to it panics.
-/

universe u v

inductive GoPanic where
  | nilMapWrite
  deriving Repr, DecidableEq

abbrev NilMap (κ : Type u) (β : Type v) := Option (GoMap κ β)

namespace NilMap

variable {κ : Type u} {β : Type v}

def read (m : NilMap κ β) : GoMap κ β := m.getD ∅

@[simp]
theorem read_some (m : GoMap κ β) : read (some m) = m := rfl

@[simp]
theorem read_none : read (none : NilMap κ β) = ∅ := rfl

def filter (m : NilMap κ β) (p : κ → β → Bool) : NilMap κ β :=
  -- `delete` of every other key: no write, so that this is fine for a nil map too
  m.map (GoMap.filter · p)

/--
The map after it was sent as a field that is left out when empty.
-/
def omitEmpty (m : NilMap κ β) : NilMap κ β :=
  if m.read.entries.isEmpty then none else m

theorem read_omitEmpty (m : NilMap κ β) : m.omitEmpty.read = m.read := by
  unfold omitEmpty
  split
  . next h =>
    apply AList.ext
    rw [List.isEmpty_iff] at h
    exact h.symm
  . rfl

variable [DecidableEq κ]

def insert (m : NilMap κ β) (k : κ) (v : β) : Except GoPanic (NilMap κ β) :=
  match m with
  | none => .error .nilMapWrite
  | some m => .ok (some (m.insert k v))

def insertEach {α : Type*} (m : NilMap κ β) (xs : List α) (key : α → κ) (val : α → β)
    : Except GoPanic (NilMap κ β) :=
  xs.foldlM (fun m x => m.insert (key x) (val x)) m

def deepEqual [DecidableEq β] (m m' : NilMap κ β) : Bool :=
  match m, m' with
  | none, none => true
  | some m, some m' => GoMap.deepEqual m m'
  | _, _ => false

section InsertEach

variable {α : Type*} (key : α → κ) (val : α → β)

theorem insertEach_some (m : GoMap κ β) (xs : List α)
    : insertEach (some m) xs key val = .ok (some (m.insertEach xs key val)) := by
  induction xs generalizing m with
  | nil => rfl
  | cons x xs ih =>
    have := ih (m.insert (key x) (val x))
    simp only [insertEach, List.foldlM_cons] at this ⊢
    simp only [insert]
    exact this

theorem insertEach_none (xs : List α)
    : insertEach (none : NilMap κ β) xs key val
        = if xs = [] then .ok none else .error .nilMapWrite := by
  cases xs with
  | nil => rfl
  | cons x xs => rfl

end InsertEach

theorem deepEqual_some_eq_true [DecidableEq β] {m : GoMap κ β} {m' : NilMap κ β}
    : deepEqual (some m) m' = true ↔ m' ≠ none ∧ ∀ k, m.lookup k = m'.read.lookup k := by
  cases m' with
  | none => simp [deepEqual]
  | some m' => simp [deepEqual, GoMap.deepEqual_eq_true]

end NilMap
