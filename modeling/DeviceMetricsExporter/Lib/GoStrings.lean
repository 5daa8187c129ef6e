import Mathlib.Algebra.Group.Nat.Defs
import Mathlib.Data.List.Basic

/-!
This module contains `strings.Split` and `strings.Join` for a separator of one character,
`strings.Fields`, `strings.TrimSpace`, and `strconv.Atoi` on a machine with 64 bit integers.
-/

def split (s : String) (sep : Char) : List String :=
  (s.toList.splitOn sep).map String.ofList

def join (elems : List String) (sep : Char) : String :=
  String.ofList ([sep].intercalate (elems.map String.toList))

theorem split_join {elems : List String} {sep : Char} (h : ∀ s ∈ elems, sep ∉ s.toList)
    (hne : elems ≠ []) : split (join elems sep) sep = elems := by
  have hparts : ∀ l ∈ elems.map String.toList, sep ∉ l := by
    intro l hl
    rcases List.mem_map.mp hl with ⟨s, hs, rfl⟩
    exact h s hs
  have hne : elems.map String.toList ≠ [] := by
    simpa using hne
  rw [split, join, String.toList_ofList, List.splitOn_intercalate sep hparts hne, List.map_map]
  simp [Function.comp_def]

/--
`unicode.IsSpace`: the characters with the property White_Space.
-/
def isSpace (c : Char) : Bool :=
  let n := c.toNat
  9 ≤ n && n ≤ 13 || n = 0x20 || n = 0x85 || n = 0xa0 || n = 0x1680 || 0x2000 ≤ n && n ≤ 0x200a
    || n = 0x2028 || n = 0x2029 || n = 0x202f || n = 0x205f || n = 0x3000

def fields (s : String) : List String :=
  ((s.toList.splitOnP isSpace).filter (· ≠ [])).map String.ofList

def trimSpace (s : String) : String :=
  String.ofList (((s.toList.dropWhile isSpace).reverse.dropWhile isSpace).reverse)

def digitsValue (cs : List Char) : Option Nat :=
  if cs.isEmpty || !cs.all Char.isDigit then
    none
  else
    some (cs.foldl (fun n c => 10 * n + (c.toNat - '0'.toNat)) 0)

def atoi (s : String) : Option Int :=
  match s.toList with
  | '-' :: cs => (digitsValue cs).bind fun n => if n ≤ 2 ^ 63 then some (-n : Int) else none
  | '+' :: cs => (digitsValue cs).bind fun n => if n < 2 ^ 63 then some (n : Int) else none
  | cs => (digitsValue cs).bind fun n => if n < 2 ^ 63 then some (n : Int) else none

theorem natRepr_injective : Function.Injective Nat.repr := by
  intro m n h
  have hdigits : Nat.toDigits 10 m = Nat.toDigits 10 n := by
    rw [← Nat.toList_repr, ← Nat.toList_repr, h]
  rw [← Nat.ofDigitChars_ten_toDigits (n := m), hdigits, Nat.ofDigitChars_ten_toDigits]
