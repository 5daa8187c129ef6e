import DeviceMetricsExporter.Exporter.Impl.Selector
import Mathlib.Algebra.Group.Int.Defs

/-!
This module contains which selectors are accepted and what they select. The loop over a range does not
end if the range ends with the largest machine integer.
-/

namespace Exporter

def maxInt : Int := 2 ^ 63 - 1

section Range

def intRange (start last : Int) : List Int :=
  (List.range (last + 1 - start).toNat).map fun n : Nat => start + n

theorem intRange_cons {start last : Int} (h : start ≤ last)
    : intRange start last = start :: intRange (start + 1) last := by
  have hlength : (last + 1 - start).toNat = (last + 1 - (start + 1)).toNat + 1 := by omega
  rw [intRange, intRange, hlength, List.range_succ_eq_map, List.map_cons, List.map_map]
  congr 1
  . simp
  . apply List.map_congr_left
    intro n _
    simp only [Function.comp_apply]
    omega

theorem intRange_nil {start last : Int} (h : last < start) : intRange start last = [] := by
  have hlength : (last + 1 - start).toNat = 0 := by omega
  rw [intRange, hlength]
  rfl

theorem succ_bmod {i : Int} (hmin : -2 ^ 63 ≤ i) (hmax : i < maxInt)
    : (i + 1).bmod (2 ^ 64) = i + 1 := by
  unfold maxInt at hmax
  apply Int.bmod_eq_of_le
  . omega
  . omega

theorem addRange_eq_some {last : Int} (hlast : last < maxInt) (n : Nat) (i : Int)
    (hmin : -2 ^ 63 ≤ i) (hfuel : last + 1 - i < n) (hn : 0 < n) (indices : List Int)
    : addRange last n i indices = some (indices ++ intRange i last) := by
  induction n generalizing i indices with
  | zero => omega
  | succ n ih =>
    rw [addRange]
    split
    . next hle =>
      have hsucc : (i + 1).bmod (2 ^ 64) = i + 1 := succ_bmod hmin (by omega)
      rw [hsucc, ih (i + 1) (by omega) (by omega) (by omega), intRange_cons hle]
      simp
    . next hgt =>
      rw [intRange_nil (by omega)]
      simp

theorem addRange_eq_none (n : Nat) {i : Int} (hi : i ≤ maxInt) (indices : List Int)
    : addRange maxInt n i indices = none := by
  induction n generalizing i indices with
  | zero => rfl
  | succ n ih =>
    -- whatever the next machine integer is, it is not larger than the last one
    have hnext : (i + 1).bmod (2 ^ 64) ≤ maxInt := by
      have := Int.bmod_le (x := i + 1) (m := 2 ^ 64) (by decide)
      unfold maxInt
      omega
    rw [addRange, if_pos hi]
    apply ih hnext

end Range

section Atoi

theorem natural_bounds {value : Option Nat} {n : Int}
    (h : (value.bind fun m => if m < 2 ^ 63 then some (m : Int) else none) = some n)
    : -2 ^ 63 ≤ n ∧ n ≤ maxInt := by
  unfold maxInt
  rcases Option.bind_eq_some_iff.mp h with ⟨m, -, hm⟩
  split at hm
  . cases hm
    omega
  . cases hm

theorem atoi_bounds {s : String} {n : Int} (h : atoi s = some n) : -2 ^ 63 ≤ n ∧ n ≤ maxInt := by
  unfold atoi at h
  split at h
  . unfold maxInt
    rcases Option.bind_eq_some_iff.mp h with ⟨m, -, hm⟩
    split at hm
    . cases hm
      omega
    . cases hm
  . exact natural_bounds h
  . exact natural_bounds h

end Atoi

section Tokens

/--
The integers that a token between two commas stands for, `none` if it is not accepted.
-/
def tokenIndices (numOrRange : String) : Option (List Int) :=
  match split numOrRange '-' with
  | [number] => (atoi number).map fun n => [n]
  | [min, max] =>
    match atoi min, atoi max with
    | some start, some last => if start ≤ last then some (intRange start last) else none
    | _, _ => none
  | _ => none

def EndsAtMaxInt (numOrRange : String) : Prop :=
  ∃ min max start, split numOrRange '-' = [min, max] ∧ atoi min = some start
    ∧ atoi max = some maxInt

/--
A range that ends with the largest machine integer comes before any token that is not accepted.
-/
inductive ReachesMaxInt : List String → Prop where
  | here {numOrRange : String} {numbers : List String} (h : EndsAtMaxInt numOrRange)
      : ReachesMaxInt (numOrRange :: numbers)
  | later {numOrRange : String} {numbers : List String} (h : (tokenIndices numOrRange).isSome)
      (h' : ReachesMaxInt numbers) : ReachesMaxInt (numOrRange :: numbers)

variable {numOrRange : String} (numbers : List String) (indices : List Int)

theorem go_endsAtMaxInt (h : EndsAtMaxInt numOrRange)
    : rangeStrToIntIndices.go indices (numOrRange :: numbers) = none := by
  rcases h with ⟨min, max, start, hsplit, hmin, hmax⟩
  have hstart : start ≤ maxInt := (atoi_bounds hmin).2
  rw [rangeStrToIntIndices.go, hsplit]
  simp only [hmin, hmax]
  rw [if_neg (by omega), addRange_eq_none _ hstart]

theorem go_rejected (h : tokenIndices numOrRange = none)
    : ∃ err, rangeStrToIntIndices.go indices (numOrRange :: numbers) = some (indices, some err) := by
  rw [rangeStrToIntIndices.go]
  unfold tokenIndices at h
  split
  . next token hsplit =>
    rw [hsplit] at h
    simp only [Option.map_eq_none_iff] at h
    rw [h]
    exact ⟨_, rfl⟩
  . next min max hsplit =>
    rw [hsplit] at h
    cases hmin : atoi min with
    | none => exact ⟨_, rfl⟩
    | some start =>
      cases hmax : atoi max with
      | none => exact ⟨_, rfl⟩
      | some last =>
        simp only [hmin, hmax, ite_eq_right_iff, reduceCtorEq, imp_false] at h
        simp only [gt_iff_lt, if_pos (Int.not_le.mp h)]
        exact ⟨_, rfl⟩
  . exact ⟨_, rfl⟩

theorem go_accepted {is : List Int} (h : tokenIndices numOrRange = some is)
    (hmaxInt : ¬EndsAtMaxInt numOrRange)
    : rangeStrToIntIndices.go indices (numOrRange :: numbers)
        = rangeStrToIntIndices.go (indices ++ is) numbers := by
  unfold tokenIndices at h
  split at h
  . next number hsplit =>
    rw [rangeStrToIntIndices.go, hsplit]
    rcases Option.map_eq_some_iff.mp h with ⟨n, hn, rfl⟩
    simp only [hn]
  . next min max hsplit =>
    split at h
    . next start last hmin hmax =>
      split at h
      . next hle =>
        cases h
        have hlast : last < maxInt := by
          refine Int.lt_iff_le_and_ne.mpr ⟨(atoi_bounds hmax).2, ?_⟩
          rintro rfl
          exact hmaxInt ⟨min, max, start, hsplit, hmin, hmax⟩
        have hstart := (atoi_bounds hmin).1
        have hrange : addRange last maxRounds start indices
            = some (indices ++ intRange start last) := by
          unfold maxInt at hlast
          apply addRange_eq_some hlast maxRounds start hstart
          . unfold maxRounds
            omega
          . unfold maxRounds
            omega
        rw [rangeStrToIntIndices.go, hsplit]
        simp only [hmin, hmax, gt_iff_lt, if_neg (Int.not_lt.mpr hle), hrange]
      . cases h
    . cases h
  . cases h

/--
The loop over the tokens returns, and its result is what the accepted tokens stand for.
-/
def ParsesTokens (numbers : List String) (indices : List Int)
    (result : Option (List Int × Option SelectorError)) : Prop :=
  ∃ is err, result = some (is, err)
    ∧ (err = none ↔ ∀ t ∈ numbers, (tokenIndices t).isSome)
    ∧ (err = none → is = indices ++ numbers.flatMap fun t => (tokenIndices t).getD [])

theorem go_of_reachesMaxInt {numbers : List String} (h : ReachesMaxInt numbers) (indices : List Int)
    : rangeStrToIntIndices.go indices numbers = none := by
  induction h generalizing indices with
  | here h => exact go_endsAtMaxInt _ _ h
  | @later numOrRange numbers hsome h ih =>
    by_cases hmaxInt : EndsAtMaxInt numOrRange
    . exact go_endsAtMaxInt _ _ hmaxInt
    . rcases Option.isSome_iff_exists.mp hsome with ⟨is, his⟩
      rw [go_accepted _ _ his hmaxInt]
      apply ih

theorem parsesTokens_go {numbers : List String} (h : ¬ReachesMaxInt numbers) (indices : List Int)
    : ParsesTokens numbers indices (rangeStrToIntIndices.go indices numbers) := by
  induction numbers generalizing indices with
  | nil => exact ⟨indices, none, rfl, by simp, by simp⟩
  | cons numOrRange numbers ih =>
    cases htoken : tokenIndices numOrRange with
    | none =>
      rcases go_rejected numbers indices htoken with ⟨err, hgo⟩
      exact ⟨indices, some err, hgo, by simp [htoken], by simp⟩
    | some is =>
      have hmaxInt : ¬EndsAtMaxInt numOrRange := fun hends => h (.here hends)
      have hrest : ¬ReachesMaxInt numbers := fun hlater => h (.later (by simp [htoken]) hlater)
      rcases ih hrest (indices ++ is) with ⟨result, err, hgo, haccepted, hresult⟩
      rw [go_accepted numbers indices htoken hmaxInt]
      refine ⟨result, err, hgo, ?_, ?_⟩
      . rw [haccepted]
        simp [htoken]
      . intro herr
        rw [hresult herr]
        simp [htoken]

end Tokens

section Instances

/--
A selector is read to its end and as its tokens say exactly if the loop never gets to a range that
ends with the largest machine integer.
-/
theorem rangeStrToIntIndices_iff (b : String)
    : ParsesTokens (split b ',') [] (rangeStrToIntIndices b) ↔ ¬ReachesMaxInt (split b ',') := by
  constructor
  . rintro ⟨is, err, hresult, -⟩ hreaches
    rw [rangeStrToIntIndices, go_of_reachesMaxInt hreaches] at hresult
    cases hresult
  . intro h
    exact parsesTokens_go h []

theorem not_rangeStrToIntIndices
    : ¬∀ b : String, ParsesTokens (split b ',') [] (rangeStrToIntIndices b) := by
  intro h
  have hends : EndsAtMaxInt "9223372036854775806-9223372036854775807" :=
    ⟨"9223372036854775806", "9223372036854775807", 9223372036854775806, by decide, by decide, by decide⟩
  have hsplit : split "9223372036854775806-9223372036854775807" ','
      = ["9223372036854775806-9223372036854775807"] := by
    decide
  rcases h "9223372036854775806-9223372036854775807" with ⟨is, err, hresult, -⟩
  rw [rangeStrToIntIndices, hsplit, go_of_reachesMaxInt (.here hends)] at hresult
  cases hresult

end Instances

end Exporter
