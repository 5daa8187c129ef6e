import DeviceMetricsExporter.Lib.GoMap

/-!
This module contains a store of gauge vectors. A vector is split by labels: it is built with a list of
label names, and a series of it is identified by the values of these names.
-/

universe u v

/--
The values of the label names of a vector. `none` if the labels do not fit the names. The values are texts:
bytes that are not valid UTF-8, which a vector rejects as well, are none.
-/
def labelValues (names : List String) (labels : GoMap String String) : Option (List String) :=
  if labels.keys.length = names.length ∧ ∀ name ∈ names, name ∈ labels then
    some (names.map fun name => (labels.lookup name).getD "")
  else
    none

structure GaugeWrite (φ : Type u) (ν : Type v) where
  vec : φ
  labels : GoMap String String
  value : ν
  deriving DecidableEq

structure GaugeStore (φ : Type u) (ν : Type v) where
  labelNames : φ → List String
  series : GoMap (φ × List String) ν

section LabelValues

variable {names : List String} {labels : GoMap String String}

theorem labelValues_eq_some (hnodup : names.Nodup) (hmem : ∀ k, k ∈ labels ↔ k ∈ names)
    : labelValues names labels = some (names.map fun name => (labels.lookup name).getD "") := by
  have hperm : labels.keys.Perm names := by
    rw [List.perm_ext_iff_of_nodup labels.keys_nodup hnodup]
    exact hmem
  rw [labelValues, if_pos ⟨hperm.length_eq, fun name => (hmem name).mpr⟩]

end LabelValues

namespace GaugeStore

variable {φ : Type u} {ν : Type v} [DecidableEq φ] (s : GaugeStore φ ν)

def reset (vecs : List φ) : GaugeStore φ ν :=
  { s with series := s.series.filter fun k _ => k.1 ∉ vecs }

/--
`With(labels).Set(value)`. `none` is the panic of `With` on labels that do not fit.
-/
def write (w : GaugeWrite φ ν) : Option (GaugeStore φ ν) :=
  (labelValues (s.labelNames w.vec) w.labels).map fun values =>
    { s with series := s.series.insert (w.vec, values) w.value }

def Fits (labelNames : φ → List String) (w : GaugeWrite φ ν) : Prop :=
  (labelValues (labelNames w.vec) w.labels).isSome

def seriesKey (labelNames : φ → List String) (w : GaugeWrite φ ν) : φ × List String :=
  (w.vec, (labelValues (labelNames w.vec) w.labels).getD [])

def writeAll (ws : List (GaugeWrite φ ν)) : GaugeStore φ ν :=
  { s with series := s.series.insertEach ws (seriesKey s.labelNames) (·.value) }

variable {s}

omit [DecidableEq φ] in
theorem labelValues_of_fits {labelNames : φ → List String} {w : GaugeWrite φ ν}
    (h : Fits labelNames w)
    : labelValues (labelNames w.vec) w.labels = some (seriesKey labelNames w).2 := by
  rcases Option.isSome_iff_exists.mp h with ⟨values, hvalues⟩
  simp [seriesKey, hvalues]

theorem foldlM_write {ws : List (GaugeWrite φ ν)} (h : ∀ w ∈ ws, Fits s.labelNames w)
    : ws.foldlM write s = some (s.writeAll ws) := by
  induction ws generalizing s with
  | nil => rfl
  | cons w ws ih =>
    rw [List.forall_mem_cons] at h
    have hw : s.write w = some (s.writeAll [w]) := by
      rw [write, labelValues_of_fits h.1]
      rfl
    have hrest : ∀ w' ∈ ws, Fits (s.writeAll [w]).labelNames w' := h.2
    rw [List.foldlM_cons, hw, Option.bind_eq_bind, Option.bind_some, ih hrest]
    rfl

theorem exists_write {t s' : GaugeStore φ ν} {w : GaugeWrite φ ν} (h : s.write w = some s')
    (hnames : t.labelNames = s.labelNames)
    : ∃ t', t.write w = some t' ∧ t'.labelNames = s'.labelNames := by
  rcases Option.map_eq_some_iff.mp h with ⟨values, hvalues, rfl⟩
  rw [← hnames] at hvalues
  rw [write, hvalues]
  exact ⟨_, rfl, hnames⟩

theorem exists_foldlM_write {ws : List (GaugeWrite φ ν)} {t s' : GaugeStore φ ν}
    (h : ws.foldlM write s = some s') (hnames : t.labelNames = s.labelNames)
    : ∃ t', ws.foldlM write t = some t' ∧ t'.labelNames = s'.labelNames := by
  induction ws generalizing s t with
  | nil =>
    cases h
    exact ⟨t, rfl, hnames⟩
  | cons w ws ih =>
    rw [List.foldlM_cons, Option.bind_eq_bind, Option.bind_eq_some_iff] at h
    rcases h with ⟨u, hu, hrest⟩
    rcases exists_write hu hnames with ⟨v, hv, hnames'⟩
    rw [List.foldlM_cons, hv, Option.bind_eq_bind, Option.bind_some]
    exact ih hrest hnames'

theorem writeAll_append (ws ws' : List (GaugeWrite φ ν))
    : s.writeAll (ws ++ ws') = (s.writeAll ws).writeAll ws' := by
  simp only [writeAll, GoMap.insertEach, List.foldl_append]

theorem lookup_writeAll (ws : List (GaugeWrite φ ν)) (k : φ × List String)
    : (s.writeAll ws).series.lookup k
        = ((GoMap.lastWith (seriesKey s.labelNames) ws k).map (·.value)).or (s.series.lookup k) := by
  rw [writeAll, GoMap.lookup_insertEach]
  cases GoMap.lastWith (seriesKey s.labelNames) ws k with
  | none => rfl
  | some w => rfl

theorem lookup_reset (vecs : List φ) (k : φ × List String)
    : (s.reset vecs).series.lookup k = if k.1 ∈ vecs then none else s.series.lookup k := by
  apply Option.ext
  intro v
  rw [reset, GoMap.lookup_filter_eq_some]
  split
  . simp [*]
  . simp [*]

theorem reset_eq {vecs : List φ} (hvecs : ∀ vec, vec ∈ vecs)
    : s.reset vecs = { s with series := ∅ } := by
  have hempty : (s.series.filter fun k _ => k.1 ∉ vecs) = ∅ := by
    apply AList.ext
    rw [(GoMap.entries_eq_nil_iff _).mpr]
    . rfl
    . intro k
      have hlookup := lookup_reset (s := s) vecs k
      rw [if_pos (hvecs k.1)] at hlookup
      exact hlookup
  rw [reset, hempty]

/--
What a store holds after all its vectors have been reset and then written to depends on the writes only.
-/
theorem lookup_writeAll_reset {vecs : List φ} (hvecs : ∀ vec, vec ∈ vecs)
    (ws : List (GaugeWrite φ ν)) (k : φ × List String)
    : ((s.reset vecs).writeAll ws).series.lookup k
        = (GoMap.lastWith (seriesKey s.labelNames) ws k).map (·.value) := by
  rw [lookup_writeAll, lookup_reset, if_pos (hvecs k.1), Option.or_none]
  rfl

theorem lookup_writeAll_reset_eq_some {vecs : List φ} (hvecs : ∀ vec, vec ∈ vecs)
    {ws : List (GaugeWrite φ ν)} {k : φ × List String} {v : ν}
    (hagree : ∀ w ∈ ws, ∀ w' ∈ ws, seriesKey s.labelNames w = k → seriesKey s.labelNames w' = k →
      w.value = w'.value)
    : ((s.reset vecs).writeAll ws).series.lookup k = some v ↔
        ∃ w ∈ ws, seriesKey s.labelNames w = k ∧ w.value = v := by
  rw [lookup_writeAll_reset hvecs, Option.map_eq_some_iff]
  constructor
  . rintro ⟨w, hw, hv⟩
    exact ⟨w, (GoMap.mem_of_lastWith _ hw).1, (GoMap.mem_of_lastWith _ hw).2, hv⟩
  . rintro ⟨w, hw, hk, hv⟩
    cases hlast : GoMap.lastWith (seriesKey s.labelNames) ws k with
    | none => exact absurd hk ((GoMap.lastWith_eq_none _).mp hlast w hw)
    | some w' =>
      rcases GoMap.mem_of_lastWith _ hlast with ⟨hw', hk'⟩
      exact ⟨w', rfl, (hagree w' hw' w hw hk' hk).trans hv⟩

end GaugeStore
