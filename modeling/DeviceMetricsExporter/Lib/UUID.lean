import Mathlib.Data.List.Basic

/-!
This module contains UUIDs as 16 bytes, how they are read from a byte slice and their canonical
text.
-/

structure UUID where
  bytes : List UInt8
  size : bytes.length = 16
  deriving DecidableEq

namespace UUID

protected def nil : UUID := ⟨List.replicate 16 0, rfl⟩

def fromBytes (input : List UInt8) : UUID × Bool :=
  -- `uuid.FromBytes`: the UUID is zero when there is an error.
  if h : input.length = 16 then (⟨input, h⟩, true) else (UUID.nil, false)

def hexDigit (n : Nat) : Char :=
  if n < 10 then Char.ofNat (48 + n) else Char.ofNat (87 + n)

def hexByte (b : UInt8) : List Char :=
  [hexDigit (b.toNat / 16), hexDigit (b.toNat % 16)]

def encodeCanonical (u : UUID) : List Char :=
  let hex (i n : Nat) : List Char := ((u.bytes.drop i).take n).flatMap hexByte
  hex 0 4 ++ '-' :: hex 4 2 ++ '-' :: hex 6 2 ++ '-' :: hex 8 2 ++ '-' :: hex 10 6

protected def toString (u : UUID) : String :=
  String.ofList u.encodeCanonical

theorem fromBytes_of_length_eq {input : List UInt8} (h : input.length = 16)
    : fromBytes input = (⟨input, h⟩, true) := by
  simp [fromBytes, h]

theorem fromBytes_of_length_ne {input : List UInt8} (h : input.length ≠ 16)
    : fromBytes input = (UUID.nil, false) := by
  simp [fromBytes, h]

def hexValue (c : Char) : Nat :=
  if c.toNat < 58 then c.toNat - 48 else c.toNat - 87

theorem hexValue_hexDigit : ∀ n : Fin 16, hexValue (hexDigit n) = n := by
  decide

theorem hexDigit_ne_dash : ∀ n : Fin 16, hexDigit n ≠ '-' := by
  decide

theorem hexByte_injective {b b' : UInt8} (h : hexByte b = hexByte b') : b = b' := by
  have hlt := b.toNat_lt
  have hlt' := b'.toNat_lt
  simp only [hexByte, List.cons.injEq, and_true] at h
  have hhigh : b.toNat / 16 = b'.toNat / 16 := by
    have := congrArg hexValue h.1
    rwa [hexValue_hexDigit ⟨b.toNat / 16, by omega⟩, hexValue_hexDigit ⟨b'.toNat / 16, by omega⟩]
      at this
  have hlow : b.toNat % 16 = b'.toNat % 16 := by
    have := congrArg hexValue h.2
    rwa [hexValue_hexDigit ⟨b.toNat % 16, by omega⟩, hexValue_hexDigit ⟨b'.toNat % 16, by omega⟩]
      at this
  apply UInt8.toNat_inj.mp
  omega

theorem flatMap_hexByte_injective {bs bs' : List UInt8}
    (h : bs.flatMap hexByte = bs'.flatMap hexByte) : bs = bs' := by
  induction bs generalizing bs' with
  | nil =>
    cases bs' with
    | nil => rfl
    | cons b' bs' => simp [hexByte] at h
  | cons b bs ih =>
    cases bs' with
    | nil => simp [hexByte] at h
    | cons b' bs' =>
      simp only [List.flatMap_cons] at h
      have hsplit := List.append_inj h rfl
      rw [hexByte_injective hsplit.1, ih hsplit.2]

theorem filter_flatMap_hexByte (bs : List UInt8)
    : (bs.flatMap hexByte).filter (· ≠ '-') = bs.flatMap hexByte := by
  rw [List.filter_eq_self]
  intro c hc
  rcases List.mem_flatMap.mp hc with ⟨b, -, hb⟩
  have hlt := b.toNat_lt
  simp only [hexByte, List.mem_cons, List.not_mem_nil, or_false] at hb
  rcases hb with hb | hb
  . simpa [hb] using hexDigit_ne_dash ⟨b.toNat / 16, by omega⟩
  . simpa [hb] using hexDigit_ne_dash ⟨b.toNat % 16, by omega⟩

theorem filter_encodeCanonical (u : UUID)
    : u.encodeCanonical.filter (· ≠ '-') = u.bytes.flatMap hexByte := by
  have hdash (cs : List Char) : ('-' :: cs).filter (· ≠ '-') = cs.filter (· ≠ '-') := by
    simp
  have hsplit (i j : Nat) : ((u.bytes.drop i).take j).flatMap hexByte
      ++ (u.bytes.drop (i + j)).flatMap hexByte = (u.bytes.drop i).flatMap hexByte := by
    rw [← List.flatMap_append, ← List.drop_drop, List.take_append_drop]
  have hlast : (u.bytes.drop 10).take 6 = u.bytes.drop 10 := by
    apply List.take_of_length_le
    simp [u.size]
  simp only [encodeCanonical, List.filter_append, List.cons_append, List.append_assoc, hdash,
    filter_flatMap_hexByte, hlast]
  rw [hsplit 8 2, hsplit 6 2, hsplit 4 2, hsplit 0 4, List.drop_zero]

theorem toString_injective {u u' : UUID} (h : u.toString = u'.toString) : u = u' := by
  have hchars : u.encodeCanonical = u'.encodeCanonical := String.ofList_injective h
  have hhex : u.bytes.flatMap hexByte = u'.bytes.flatMap hexByte := by
    rw [← filter_encodeCanonical, ← filter_encodeCanonical, hchars]
  cases u
  cases u'
  simpa using flatMap_hexByte_injective hhex

end UUID
