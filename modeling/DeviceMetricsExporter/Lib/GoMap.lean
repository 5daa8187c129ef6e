import Mathlib.Data.List.AList

/-!
This module contains the loops over Go maps that the development needs on top of `AList`. The order
of the entries is the order in which one `range` over the map visits them.
-/

universe u v

abbrev GoMap (κ : Type u) (β : Type v) := AList fun _ : κ => β

namespace GoMap

variable {κ : Type u} {β : Type v}

def map {γ : Type*} (m : GoMap κ β) (f : κ → β → γ) : GoMap κ γ :=
  ⟨m.entries.map fun e => ⟨e.1, f e.1 e.2⟩, by
    have hkeys : (m.entries.map fun e => (⟨e.1, f e.1 e.2⟩ : Sigma fun _ : κ => γ)).keys
        = m.entries.keys := by
      simp [List.keys, Function.comp_def]
    rw [List.NodupKeys, hkeys]
    exact m.nodupKeys⟩

@[simp]
theorem keys_map {γ : Type*} (m : GoMap κ β) (f : κ → β → γ) : (m.map f).keys = m.keys := by
  simp [map, AList.keys, List.keys, Function.comp_def]

theorem mem_map_iff {γ : Type*} {m : GoMap κ β} {f : κ → β → γ} {k : κ} : k ∈ m.map f ↔ k ∈ m := by
  rw [AList.mem_keys, AList.mem_keys, keys_map]

@[simp]
theorem isEmpty_map {γ : Type*} (m : GoMap κ β) (f : κ → β → γ)
    : (m.map f).entries.isEmpty = m.entries.isEmpty := by
  simp [map]

def filter (m : GoMap κ β) (p : κ → β → Bool) : GoMap κ β :=
  ⟨m.entries.filter fun e => p e.1 e.2, m.nodupKeys.sublist List.filter_sublist⟩

variable [DecidableEq κ]

instance [DecidableEq β] : DecidableEq (GoMap κ β) := fun m m' =>
  -- unlike the instance of `AList` this one reduces, so that closed maps can be compared by `decide`
  decidable_of_iff (m.entries = m'.entries) AList.ext_iff.symm

theorem entries_eq_nil_iff (m : GoMap κ β) : m.entries = [] ↔ ∀ k, m.lookup k = none := by
  constructor
  . intro h k
    simp [AList.lookup, h]
  . intro h
    rw [List.eq_nil_iff_forall_not_mem]
    rintro ⟨k, v⟩ hmem
    have := AList.mem_lookup_iff.mpr hmem
    simp [h k] at this

omit [DecidableEq κ] in
theorem mem_iff_entries {m : GoMap κ β} {k : κ} : k ∈ m ↔ ∃ e ∈ m.entries, e.1 = k := by
  rw [AList.mem_keys, AList.keys, List.keys, List.mem_map]

theorem mem_iff_exists_lookup {m : GoMap κ β} {k : κ} : k ∈ m ↔ ∃ v, m.lookup k = some v := by
  rw [← AList.lookup_isSome, Option.isSome_iff_exists]

theorem lookup_insert_eq_ite (m : GoMap κ β) (k k' : κ) (v : β)
    : (m.insert k' v).lookup k = if k = k' then some v else m.lookup k := by
  split
  . next h =>
    subst h
    simp
  . next h => exact AList.lookup_insert_ne h

theorem lookup_erase_eq_ite (m : GoMap κ β) (k k' : κ)
    : (m.erase k').lookup k = if k = k' then none else m.lookup k := by
  split
  . next h =>
    subst h
    simp
  . next h => exact AList.lookup_erase_ne h

theorem erase_insert_self (m : GoMap κ β) (k : κ) (v : β) : (m.insert k v).erase k = m.erase k := by
  apply AList.ext
  show List.kerase k (AList.insert k v m).entries = List.kerase k m.entries
  simp

theorem lookup_filter_eq_some {m : GoMap κ β} {p : κ → β → Bool} {k : κ} {v : β}
    : (m.filter p).lookup k = some v ↔ m.lookup k = some v ∧ p k v = true := by
  have hmem {m : GoMap κ β} : m.lookup k = some v ↔ ⟨k, v⟩ ∈ m.entries := AList.mem_lookup_iff
  rw [hmem, hmem, filter, List.mem_filter]

def deepEqual [DecidableEq β] (m m' : GoMap κ β) : Bool :=
  m.entries.all (fun e => m'.lookup e.1 = some e.2) && m'.entries.all fun e => m.lookup e.1 = some e.2

theorem deepEqual_eq_true [DecidableEq β] {m m' : GoMap κ β}
    : deepEqual m m' = true ↔ ∀ k, m.lookup k = m'.lookup k := by
  have hmem {m : GoMap κ β} {k : κ} {v : β} : m.lookup k = some v ↔ ⟨k, v⟩ ∈ m.entries :=
    AList.mem_lookup_iff
  simp only [deepEqual, Bool.and_eq_true, List.all_eq_true, decide_eq_true_eq]
  constructor
  . rintro ⟨hle, hge⟩ k
    apply Option.ext
    intro v
    constructor
    . intro h
      apply hle ⟨k, v⟩ (hmem.mp h)
    . intro h
      apply hge ⟨k, v⟩ (hmem.mp h)
  . intro h
    constructor
    . rintro ⟨k, v⟩ he
      rw [← h, hmem]
      exact he
    . rintro ⟨k, v⟩ he
      rw [h, hmem]
      exact he

theorem lookup_map {γ : Type*} (m : GoMap κ β) (f : κ → β → γ) (k : κ)
    : (m.map f).lookup k = (m.lookup k).map (f k) := by
  simp only [map, AList.lookup]
  generalize m.entries = es
  induction es with
  | nil => rfl
  | cons e es ih =>
    rcases e with ⟨k', v⟩
    by_cases h : k = k'
    . subst h
      simp [List.dlookup_cons_eq]
    . simp only [List.map_cons]
      rw [List.dlookup_cons_ne es ⟨k', v⟩ h, ← ih]
      apply List.dlookup_cons_ne _ (⟨k', f k' v⟩ : Sigma fun _ : κ => γ) h

def setAll (m : GoMap κ β) (ks : List κ) (v : β) : GoMap κ β :=
  ks.foldl (fun m k => m.insert k v) m

theorem lookup_setAll (m : GoMap κ β) (ks : List κ) (v : β) (k : κ)
    : (m.setAll ks v).lookup k = if k ∈ ks then some v else m.lookup k := by
  induction ks generalizing m with
  | nil => simp [setAll]
  | cons k' ks ih =>
    have := ih (m.insert k' v)
    simp only [setAll, List.foldl_cons] at this ⊢
    rw [this, lookup_insert_eq_ite]
    by_cases hmem : k ∈ ks
    . simp [hmem]
    . simp [hmem]

theorem setAll_append (m : GoMap κ β) (ks ks' : List κ) (v : β)
    : m.setAll (ks ++ ks') v = (m.setAll ks v).setAll ks' v := by
  rw [setAll, List.foldl_append]
  rfl

/--
A loop that stores one value under several keys in each round keeps the value of the last round with
the key.
-/
theorem lookup_foldl_setAll {α : Type*} (keys : α → List κ) (val : α → β) (m : GoMap κ β) (xs : List α)
    (k : κ)
    : (xs.foldl (fun m x => m.setAll (keys x) (val x)) m).lookup k
        = ((xs.filter (k ∈ keys ·)).getLast?.map val).or (m.lookup k) := by
  induction xs generalizing m with
  | nil => rfl
  | cons x xs ih =>
    rw [List.foldl_cons, ih, lookup_setAll]
    by_cases hk : k ∈ keys x
    . rw [List.filter_cons_of_pos (by simpa using hk), List.getLast?_cons, if_pos hk]
      cases (xs.filter (k ∈ keys ·)).getLast? with
      | none => rfl
      | some y => rfl
    . rw [List.filter_cons_of_neg (by simpa using hk), if_neg hk]

def insertEach {α : Type*} (m : GoMap κ β) (xs : List α) (key : α → κ) (val : α → β) : GoMap κ β :=
  xs.foldl (fun m x => m.insert (key x) (val x)) m

def lastWith {α : Type*} (key : α → κ) (xs : List α) (k : κ) : Option α :=
  (xs.filter (key · = k)).getLast?

section InsertEach

variable {α : Type*} (key : α → κ) (val : α → β)

theorem mem_of_lastWith {xs : List α} {k : κ} {x : α} (h : lastWith key xs k = some x)
    : x ∈ xs ∧ key x = k := by
  have := List.mem_of_getLast? h
  rw [List.mem_filter] at this
  simpa using this

theorem lastWith_eq_none {xs : List α} {k : κ}
    : lastWith key xs k = none ↔ ∀ x ∈ xs, key x ≠ k := by
  rw [lastWith, List.getLast?_eq_none_iff, List.filter_eq_nil_iff]
  simp

theorem lastWith_append (xs ys : List α) (k : κ)
    : lastWith key (xs ++ ys) k = (lastWith key ys k).or (lastWith key xs k) := by
  rw [lastWith, List.filter_append, List.getLast?_append, ← lastWith, ← lastWith]

theorem lastWith_cons (x : α) (xs : List α) (k : κ)
    : lastWith key (x :: xs) k = (lastWith key xs k).or (if key x = k then some x else none) := by
  rw [← List.singleton_append, lastWith_append]
  by_cases h : key x = k
  . simp [lastWith, h]
  . simp [lastWith, h]

theorem lastWith_comp {κ' : Type*} [DecidableEq κ'] {f : κ → κ'} (hf : Function.Injective f)
    (xs : List α) (k : κ) : lastWith (fun x => f (key x)) xs (f k) = lastWith key xs k := by
  simp only [lastWith, hf.eq_iff]

theorem lastWith_map {α' : Type*} (f : α' → α) (xs : List α') (k : κ)
    : lastWith key (xs.map f) k = (lastWith (fun x => key (f x)) xs k).map f := by
  simp only [lastWith, List.filter_map, List.getLast?_map, Function.comp_def]

theorem lookup_insertEach (m : GoMap κ β) (xs : List α) (k : κ)
    : (m.insertEach xs key val).lookup k
        = match lastWith key xs k with
          | some x => some (val x)
          | none => m.lookup k := by
  unfold lastWith
  induction xs generalizing m with
  | nil => rfl
  | cons x xs ih =>
    have := ih (m.insert (key x) (val x))
    simp only [insertEach, List.foldl_cons] at this ⊢
    rw [this, lookup_insert_eq_ite]
    by_cases h : key x = k
    . simp only [h, if_true, decide_true, List.filter_cons_of_pos, List.getLast?_cons]
      cases (xs.filter (key · = k)).getLast? with
      | none => rfl
      | some y => rfl
    . simp [h, Ne.symm h]

theorem lookup_insertEach_empty (xs : List α) (k : κ)
    : (insertEach ∅ xs key val).lookup k = (lastWith key xs k).map val := by
  rw [lookup_insertEach]
  cases lastWith key xs k with
  | none => rfl
  | some x => rfl

theorem mem_insertEach {m : GoMap κ β} {xs : List α} {k : κ}
    : k ∈ m.insertEach xs key val ↔ k ∈ m ∨ ∃ x ∈ xs, key x = k := by
  induction xs generalizing m with
  | nil => simp [insertEach]
  | cons x xs ih =>
    have := ih (m := m.insert (key x) (val x))
    simp only [insertEach, List.foldl_cons] at this ⊢
    rw [this, AList.mem_insert]
    grind

theorem mem_insertEach_empty {xs : List α} {k : κ}
    : k ∈ insertEach ∅ xs key val ↔ ∃ x ∈ xs, key x = k := by
  simp [mem_insertEach]

theorem lastWith_of_nodup {xs : List α} (hnodup : (xs.map key).Nodup) {x : α} (hx : x ∈ xs)
    : lastWith key xs (key x) = some x := by
  have hfilter : xs.filter (key · = key x) = [x] := by
    induction xs with
    | nil => cases hx
    | cons y ys ih =>
      rw [List.map_cons, List.nodup_cons] at hnodup
      rcases List.mem_cons.mp hx with rfl | hx
      . have hrest : ys.filter (key · = key x) = [] := by
          rw [List.filter_eq_nil_iff]
          intro z hz hkey
          apply hnodup.1 (List.mem_map.mpr ⟨z, hz, by simpa using hkey⟩)
        simp [hrest]
      . have hne : key y ≠ key x := by
          intro h
          apply hnodup.1 (List.mem_map.mpr ⟨x, hx, h.symm⟩)
        simp [hne, ih hnodup.2 hx]
  rw [lastWith, hfilter]
  rfl

end InsertEach

theorem lookup_insertEach_entries {γ : Type*} (m : GoMap κ β) (m' : GoMap κ γ) (f : κ → γ → β) (k : κ)
    : (m.insertEach (m'.entries.map fun e => (e.1, e.2)) (·.1) fun e => f e.1 e.2).lookup k
        = ((m'.lookup k).map (f k)).or (m.lookup k) := by
  have hkeys : ((m'.entries.map fun e => (e.1, e.2)).map (·.1)).Nodup := by
    rw [List.map_map]
    exact m'.nodupKeys
  have hmem {v : γ} : m'.lookup k = some v ↔ ⟨k, v⟩ ∈ m'.entries := AList.mem_lookup_iff
  rw [lookup_insertEach]
  cases hlookup : m'.lookup k with
  | some v =>
    have hv : (k, v) ∈ m'.entries.map fun e => (e.1, e.2) :=
      List.mem_map.mpr ⟨⟨k, v⟩, hmem.mp hlookup, rfl⟩
    rw [lastWith_of_nodup (·.1) hkeys hv]
    rfl
  | none =>
    have hnone : lastWith (·.1) (m'.entries.map fun e => (e.1, e.2)) k = none := by
      rw [lastWith_eq_none]
      intro x hx hk
      rcases List.mem_map.mp hx with ⟨⟨k', v⟩, he, rfl⟩
      subst hk
      simp [hmem.mpr he] at hlookup
    rw [hnone]
    rfl

theorem lookup_insertEach_self {γ : Type*} (m : GoMap κ β) (m' : GoMap κ γ) (f : γ → β) (k : κ)
    : (m.insertEach m'.entries (·.1) fun e => f e.2).lookup k = ((m'.lookup k).map f).or (m.lookup k) := by
  rw [← lookup_insertEach_entries m m' (fun _ v => f v) k]
  simp only [insertEach, List.foldl_map]

def insertSome {α : Type*} (m : GoMap κ β) (xs : List α) (key : α → κ) (val : α → Option β)
    : GoMap κ β :=
  xs.foldl (fun m x => (val x).elim m (m.insert (key x))) m

theorem mem_insertSome {α : Type*} (key : α → κ) (val : α → Option β) {m : GoMap κ β} {xs : List α}
    {k : κ}
    : k ∈ m.insertSome xs key val ↔ k ∈ m ∨ ∃ x ∈ xs, key x = k ∧ (val x).isSome := by
  induction xs generalizing m with
  | nil => simp [insertSome]
  | cons x xs ih =>
    have := ih (m := (val x).elim m (m.insert (key x)))
    simp only [insertSome, List.foldl_cons] at this ⊢
    rw [this]
    cases hval : val x with
    | none => simp [hval]
    | some v =>
      rw [Option.elim_some, AList.mem_insert]
      grind

theorem insertSome_eq_insertEach {α : Type*} (key : α → κ) {val : α → Option β} {val' : α → β}
    {xs : List α} (h : ∀ x ∈ xs, val x = some (val' x)) (m : GoMap κ β)
    : m.insertSome xs key val = m.insertEach xs key val' := by
  rw [insertSome, insertEach]
  apply List.foldl_ext
  intro m x hx
  rw [h x hx, Option.elim_some]

theorem lookup_foldl {α : Type*} (key : α → κ) {f : GoMap κ β → α → GoMap κ β}
    {g : Option β → α → Option β}
    (hstep : ∀ m x k, (f m x).lookup k = if key x = k then g (m.lookup k) x else m.lookup k)
    (m : GoMap κ β) (xs : List α) (k : κ)
    : (xs.foldl f m).lookup k = (xs.filter (key · = k)).foldl g (m.lookup k) := by
  induction xs generalizing m with
  | nil => rfl
  | cons x xs ih =>
    rw [List.foldl_cons, ih, hstep]
    split
    . next h => simp [h]
    . next h => simp [h]

theorem lookup_foldl_or {α : Type*} {f : GoMap κ β → α → GoMap κ β} {g : α → Option β} {k : κ}
    (hstep : ∀ m x, (f m x).lookup k = (g x).or (m.lookup k)) (m : GoMap κ β) (xs : List α)
    : (xs.foldl f m).lookup k = ((xs.filterMap g).getLast?).or (m.lookup k) := by
  induction xs generalizing m with
  | nil => rfl
  | cons x xs ih =>
    rw [List.foldl_cons, ih, hstep]
    cases hx : g x with
    | none => rw [List.filterMap_cons_none hx, Option.none_or]
    | some v =>
      rw [List.filterMap_cons_some hx, List.getLast?_cons]
      cases (xs.filterMap g).getLast? with
      | none => rfl
      | some w => rfl

def eraseAll (m : GoMap κ β) (ks : List κ) : GoMap κ β :=
  ks.foldl (fun m k => m.erase k) m

theorem mem_eraseAll {m : GoMap κ β} {ks : List κ} {k : κ} : k ∈ m.eraseAll ks ↔ k ∈ m ∧ k ∉ ks := by
  induction ks generalizing m with
  | nil => simp [eraseAll]
  | cons k' ks ih =>
    have := ih (m := m.erase k')
    simp only [eraseAll, List.foldl_cons] at this ⊢
    rw [this, AList.mem_erase]
    grind

/--
The entries of `m` with a key in `S` have been changed by `g`, all others are as before.
-/
structure ModifiedOn (g : β → β) (S : κ → Prop) (m m' : GoMap κ β) : Prop where
  changed : ∀ k, S k → m'.lookup k = (m.lookup k).map g
  unchanged : ∀ k, ¬S k → m'.lookup k = m.lookup k

namespace ModifiedOn

variable {g : β → β} {S S' : κ → Prop} {m m' m'' : GoMap κ β}

theorem refl (g : β → β) (m : GoMap κ β) : ModifiedOn g (fun _ => False) m m where
  changed _ h := h.elim
  unchanged _ _ := rfl

theorem congr (h : ModifiedOn g S m m') (hS : ∀ k, S k ↔ S' k) : ModifiedOn g S' m m' where
  changed k hk := h.changed k ((hS k).mpr hk)
  unchanged k hk := h.unchanged k fun hk' => hk ((hS k).mp hk')

theorem mem_iff (h : ModifiedOn g S m m') (k : κ) : k ∈ m' ↔ k ∈ m := by
  rw [← AList.lookup_isSome, ← AList.lookup_isSome]
  by_cases hk : S k
  . simp [h.changed k hk]
  . rw [h.unchanged k hk]

theorem trans (hg : ∀ v, g (g v) = g v) (h : ModifiedOn g S m m') (h' : ModifiedOn g S' m' m'')
    : ModifiedOn g (fun k => S k ∨ S' k) m m'' where
  changed k hk := by
    by_cases hk' : S' k
    . rw [h'.changed k hk']
      by_cases hS : S k
      . rw [h.changed k hS]
        cases m.lookup k with
        | none => rfl
        | some v => simp [hg]
      . rw [h.unchanged k hS]
    . rw [h'.unchanged k hk']
      apply h.changed k (hk.resolve_right hk')
  unchanged k hk := by
    rw [not_or] at hk
    rw [h'.unchanged k hk.2, h.unchanged k hk.1]

theorem foldlM {α : Type*} {f : GoMap κ β → α → Option (GoMap κ β)} {S : α → κ → Prop}
    (hg : ∀ v, g (g v) = g v) (hf : ∀ m x m', f m x = some m' → ModifiedOn g (S x) m m')
    (xs : List α) {m m' : GoMap κ β} (h : xs.foldlM f m = some m')
    : ModifiedOn g (fun k => ∃ x ∈ xs, S x k) m m' := by
  induction xs generalizing m with
  | nil =>
    simp only [List.foldlM_nil, Option.pure_def, Option.some.injEq] at h
    subst h
    exact (refl g m).congr (by simp)
  | cons x xs ih =>
    rw [List.foldlM_cons, Option.bind_eq_bind, Option.bind_eq_some_iff] at h
    rcases h with ⟨m₁, hx, hxs⟩
    exact (trans hg (hf m x m₁ hx) (ih hxs)).congr (by simp)

end ModifiedOn

end GoMap
