import Mathlib.Data.List.Basic

/-!
This module contains `strings.TrimSpace` on the bytes of a string, which need not be valid UTF-8. It
removes the encodings of the characters with the property White_Space.
-/

abbrev Bytes := List UInt8

namespace Bytes

def isSpace1 (a : UInt8) : Bool :=
  a = 0x09 || a = 0x0a || a = 0x0b || a = 0x0c || a = 0x0d || a = 0x20

def isSpace2 (a b : UInt8) : Bool :=
  a = 0xc2 && (b = 0x85 || b = 0xa0)

def isSpace3 (a b c : UInt8) : Bool :=
  a = 0xe1 && b = 0x9a && c = 0x80
    || a = 0xe2 && b = 0x80 && (0x80 ≤ c && c ≤ 0x8a || c = 0xa8 || c = 0xa9 || c = 0xaf)
    || a = 0xe2 && b = 0x81 && c = 0x9f
    || a = 0xe3 && b = 0x80 && c = 0x80

/--
How many bytes the space at the start has, zero if there is none.
-/
def spaceLength : Bytes → Nat
  | [] => 0
  | [a] => if isSpace1 a then 1 else 0
  | [a, b] => if isSpace1 a then 1 else if isSpace2 a b then 2 else 0
  | a :: b :: c :: _ =>
    if isSpace1 a then 1 else if isSpace2 a b then 2 else if isSpace3 a b c then 3 else 0

def lastSpaceLength : Bytes → Nat
  | [] => 0
  | [a] => if isSpace1 a then 1 else 0
  | [b, a] => if isSpace1 b then 1 else if isSpace2 a b then 2 else 0
  | c :: b :: a :: _ =>
    if isSpace1 c then 1 else if isSpace2 b c then 2 else if isSpace3 a b c then 3 else 0

section DropSpaces

variable (space : Bytes → Nat)

def dropSpaces (s : Bytes) : Bytes :=
  go s.length s
where
  go : Nat → Bytes → Bytes
    | 0, s => s
    | n + 1, s => if space s = 0 then s else go n (s.drop (space s))

variable {space}

theorem dropSpaces.go_nil (n : Nat) : go space n [] = [] := by
  induction n with
  | zero => rfl
  | succ n ih => simp [go, ih]

theorem dropSpaces.go_eq {m n : Nat} {s : Bytes} (hm : s.length ≤ m) (hn : s.length ≤ n)
    : go space m s = go space n s := by
  induction m generalizing n s with
  | zero =>
    have hs : s = [] := List.eq_nil_of_length_eq_zero (by omega)
    rw [hs, go_nil, go_nil]
  | succ m ih =>
    cases n with
    | zero =>
      have hs : s = [] := List.eq_nil_of_length_eq_zero (by omega)
      rw [hs, go_nil, go_nil]
    | succ n =>
      simp only [go]
      split
      . rfl
      . apply ih
        all_goals
          rw [List.length_drop]
          omega

theorem dropSpaces.space_go (hnil : space [] = 0) {n : Nat} {s : Bytes} (hn : s.length ≤ n)
    : space (go space n s) = 0 := by
  induction n generalizing s with
  | zero =>
    have hs : s = [] := List.eq_nil_of_length_eq_zero (by omega)
    rw [hs, go_nil, hnil]
  | succ n ih =>
    simp only [go]
    split
    . next h => exact h
    . apply ih
      rw [List.length_drop]
      omega

theorem dropSpaces_of_eq_zero {s : Bytes} (h : space s = 0) : dropSpaces space s = s := by
  unfold dropSpaces
  cases s with
  | nil => rfl
  | cons a s => simp [dropSpaces.go, h]

theorem dropSpaces_of_ne_zero {s : Bytes} (h : space s ≠ 0)
    : dropSpaces space s = dropSpaces space (s.drop (space s)) := by
  unfold dropSpaces
  cases s with
  | nil => simp
  | cons a s =>
    rw [List.length_cons, dropSpaces.go, if_neg h]
    apply dropSpaces.go_eq
    . rw [List.length_drop, List.length_cons]
      omega
    . exact Nat.le_refl _

variable (space) in
theorem exists_eq_append_dropSpaces (s : Bytes) : ∃ lead, s = lead ++ dropSpaces space s := by
  unfold dropSpaces
  generalize s.length = n
  induction n generalizing s with
  | zero => exact ⟨[], rfl⟩
  | succ n ih =>
    simp only [dropSpaces.go]
    split
    . exact ⟨[], rfl⟩
    . rcases ih (s.drop (space s)) with ⟨lead, hlead⟩
      refine ⟨s.take (space s) ++ lead, ?_⟩
      rw [List.append_assoc, ← hlead, List.take_append_drop]

variable (space) in
theorem space_dropSpaces (hnil : space [] = 0) (s : Bytes) : space (dropSpaces space s) = 0 :=
  dropSpaces.space_go hnil (Nat.le_refl _)

end DropSpaces

def trimSpace (s : Bytes) : Bytes :=
  (dropSpaces lastSpaceLength (dropSpaces spaceLength s).reverse).reverse

theorem exists_dropSpaces_eq_trimSpace_append (s : Bytes)
    : ∃ trail, dropSpaces spaceLength s = trimSpace s ++ trail := by
  rcases exists_eq_append_dropSpaces lastSpaceLength (dropSpaces spaceLength s).reverse with
    ⟨lead, hlead⟩
  refine ⟨lead.reverse, ?_⟩
  rw [trimSpace, ← List.reverse_append, ← hlead, List.reverse_reverse]

theorem spaceLength_of_append {s t : Bytes} (h : spaceLength (s ++ t) = 0) : spaceLength s = 0 := by
  match s with
  | [] => rfl
  | [a] =>
    have ha : isSpace1 a = false := by
      by_contra ha
      rw [Bool.not_eq_false] at ha
      rcases t with _ | ⟨b, _ | ⟨c, t⟩⟩
      all_goals simp [spaceLength, ha] at h
    simp [spaceLength, ha]
  | [a, b] =>
    cases t with
    | nil => exact h
    | cons c t =>
      simp only [List.cons_append, List.nil_append, spaceLength] at h ⊢
      split at h
      . exact absurd h (by decide)
      . next ha =>
        rw [if_neg ha]
        split at h
        . exact absurd h (by decide)
        . next hab => rw [if_neg hab]
  | a :: b :: c :: s => exact h

/--
The white space of JSON, a part of what `trimSpace` removes.
-/
def isJSONSpace (a : UInt8) : Bool :=
  a = 0x20 || a = 0x09 || a = 0x0d || a = 0x0a

theorem isSpace1_of_isJSONSpace {a : UInt8} (h : isJSONSpace a = true) : isSpace1 a = true := by
  simp only [isJSONSpace, isSpace1, Bool.or_eq_true, decide_eq_true_eq] at h ⊢
  tauto

theorem spaceLength_of_isSpace1 {a : UInt8} (h : isSpace1 a = true) (s : Bytes)
    : spaceLength (a :: s) = 1 := by
  rcases s with _ | ⟨b, _ | ⟨c, s⟩⟩
  all_goals simp [spaceLength, h]

theorem dropWhile_of_spaceLength {s : Bytes} (h : spaceLength s = 0)
    : s.dropWhile isJSONSpace = s := by
  cases s with
  | nil => rfl
  | cons a s =>
    rw [List.dropWhile_cons_of_neg]
    intro ha
    rw [spaceLength_of_isSpace1 (isSpace1_of_isJSONSpace ha)] at h
    cases h

theorem dropSpaces_of_dropWhile {s : Bytes} (h : spaceLength (s.dropWhile isJSONSpace) = 0)
    : dropSpaces spaceLength s = s.dropWhile isJSONSpace := by
  induction s with
  | nil => rfl
  | cons a s ih =>
    by_cases ha : isJSONSpace a = true
    . have hone := spaceLength_of_isSpace1 (isSpace1_of_isJSONSpace ha) s
      rw [List.dropWhile_cons_of_pos ha] at h ⊢
      rw [dropSpaces_of_ne_zero (by omega), hone, List.drop_one, List.tail_cons]
      exact ih h
    . rw [List.dropWhile_cons_of_neg ha] at h ⊢
      exact dropSpaces_of_eq_zero h

theorem isSpace_of_spaceLength {a : UInt8} {s : Bytes} (h : spaceLength (a :: s) ≠ 0)
    : isSpace1 a = true ∨ a = 0xc2 ∨ a = 0xe1 ∨ a = 0xe2 ∨ a = 0xe3 := by
  by_contra hnot
  rw [not_or, not_or, not_or, not_or, Bool.not_eq_true] at hnot
  rcases hnot with ⟨h1, hc2, he1, he2, he3⟩
  apply h
  rcases s with _ | ⟨b, _ | ⟨c, s⟩⟩
  all_goals simp [spaceLength, isSpace2, isSpace3, h1, hc2, he1, he2, he3]

end Bytes
