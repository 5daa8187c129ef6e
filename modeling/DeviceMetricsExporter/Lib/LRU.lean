import DeviceMetricsExporter.Lib.GoMap

/-!
This module contains caches of a fixed capacity that evict the entry used least recently. The entries
are kept in the order of their use, the latest first.
-/

universe u v

structure LRU (κ : Type u) (β : Type v) (capacity : Nat) where
  entries : GoMap κ β
  length_le : entries.entries.length ≤ capacity

namespace LRU

variable {κ : Type u} {β : Type v} {capacity : Nat}

def empty : LRU κ β capacity :=
  ⟨∅, Nat.zero_le capacity⟩

variable [DecidableEq κ]

def lookup (c : LRU κ β capacity) (k : κ) : Option β :=
  c.entries.lookup k

def add (c : LRU κ β capacity) (k : κ) (v : β) : LRU κ β capacity where
  entries :=
    ⟨(c.entries.insert k v).entries.take capacity,
      (c.entries.insert k v).nodupKeys.sublist (List.take_sublist capacity _)⟩
  length_le := List.length_take_le capacity _

def get (c : LRU κ β capacity) (k : κ) : LRU κ β capacity × Option β :=
  match c.lookup k with
  | none => (c, none)
  | some v => (c.add k v, some v)

@[simp]
theorem get_snd (c : LRU κ β capacity) (k : κ) : (c.get k).2 = c.lookup k := by
  unfold get
  split
  . next h => rw [h]
  . next h => rw [h]

theorem get_of_lookup_eq_none {c : LRU κ β capacity} {k : κ} (h : c.lookup k = none)
    : c.get k = (c, none) := by
  unfold get
  rw [h]

theorem lookup_add_eq_some {c : LRU κ β capacity} {k k' : κ} {v w : β}
    (h : (c.add k v).lookup k' = some w) : k' = k ∧ w = v ∨ c.lookup k' = some w := by
  have hmem : ⟨k', w⟩ ∈ (c.add k v).entries.entries := AList.mem_lookup_iff.mp h
  have hinsert : (c.entries.insert k v).lookup k' = some w :=
    AList.mem_lookup_iff.mpr (List.mem_of_mem_take hmem)
  rw [GoMap.lookup_insert_eq_ite] at hinsert
  split at hinsert
  . next hk => exact .inl ⟨hk, (Option.some.inj hinsert).symm⟩
  . exact .inr hinsert

theorem add_entries_of_mem {c : LRU κ β capacity} {k : κ} (v : β) (h : k ∈ c.entries)
    : (c.add k v).entries = c.entries.insert k v := by
  -- an entry that is replaced leaves its place free, so that no other one is evicted
  rcases List.exists_of_kerase (AList.mem_keys.mp h) with ⟨w, l, l', _, hentries, herase⟩
  apply AList.ext
  apply List.take_of_length_le
  have hlength := c.length_le
  rw [hentries, List.length_append, List.length_cons] at hlength
  rw [AList.entries_insert, herase, List.length_cons, List.length_append]
  omega

@[simp]
theorem lookup_get (c : LRU κ β capacity) (k k' : κ) : (c.get k).1.lookup k' = c.lookup k' := by
  unfold get
  split
  . rfl
  . next v hv =>
    have hmem : k ∈ c.entries := AList.lookup_isSome.mp (by rw [← lookup, hv]; rfl)
    rw [lookup, add_entries_of_mem v hmem, GoMap.lookup_insert_eq_ite]
    split
    . next hk => rw [hk, hv]
    . rfl

end LRU
