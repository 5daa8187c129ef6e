import Mathlib.Data.List.Basic

/-!
This module contains `strings.ToLower` and `strings.ToUpper`. Both map a string rune by rune, the
Unicode tables behind the map are left abstract.
-/

/--
The case tables: on ASCII they are the usual ones.
-/
class CaseMap where
  lower : Char → Char
  upper : Char → Char
  lower_ascii : ∀ c, c.toNat < 128 → lower c = c.toLower
  upper_ascii : ∀ c, c.toNat < 128 → upper c = c.toUpper
  lower_lower : ∀ c, lower (lower c) = lower c

namespace CaseMap

def asciiLower (c : Char) : Char :=
  if c.toNat < 128 then c.toLower else c

theorem asciiLower_asciiLower (c : Char) : asciiLower (asciiLower c) = asciiLower c := by
  have hascii : ∀ n : Fin 128, asciiLower (asciiLower (Char.ofNat n)) = asciiLower (Char.ofNat n) := by
    decide
  by_cases h : c.toNat < 128
  . have := hascii ⟨c.toNat, h⟩
    rw [Char.ofNat_toNat] at this
    exact this
  . simp [asciiLower, h]

@[reducible]
def ascii : CaseMap where
  lower := asciiLower
  upper := Char.toUpper
  lower_ascii _ h := if_pos h
  upper_ascii _ _ := rfl
  lower_lower := asciiLower_asciiLower

end CaseMap

variable [CaseMap]

def toLower (s : String) : String :=
  String.ofList (s.toList.map CaseMap.lower)

def toUpper (s : String) : String :=
  String.ofList (s.toList.map CaseMap.upper)

@[simp]
theorem toLower_toLower (s : String) : toLower (toLower s) = toLower s := by
  have hcomp : CaseMap.lower ∘ CaseMap.lower = CaseMap.lower := funext CaseMap.lower_lower
  simp [toLower, hcomp]

def isASCII (s : String) : Bool :=
  s.toList.all fun c => c.toNat < 128

theorem toLower_eq_of_ascii {s : String} (h : isASCII s)
    : toLower s = String.ofList (s.toList.map Char.toLower) := by
  rw [isASCII, List.all_eq_true] at h
  simp only [toLower]
  congr 1
  apply List.map_congr_left
  intro c hc
  apply CaseMap.lower_ascii
  simpa using h c hc
