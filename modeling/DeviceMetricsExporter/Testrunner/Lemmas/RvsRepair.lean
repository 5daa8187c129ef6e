import DeviceMetricsExporter.Testrunner.Impl.Rvs
import Mathlib.Data.List.TakeWhile

/-!
This module contains which result files of RVS the loop of `parseRvsTestResult` accepts: it repairs
surplus closing braces and nothing else.
-/

namespace Testrunner

open Bytes

def startsValue (a : UInt8) : Bool :=
  a = 0x7b || a = 0x5b || a = 0x22 || a = 0x2d || (0x30 ≤ a && a ≤ 0x39) || a = 0x74 || a = 0x66
    || a = 0x6e

/--
What the loop relies on. A document is followed by the first surplus brace, which its error names. One
that ends too early is reported as such. White space of JSON may come before a document, and any other
byte that does not start a value is named by the error.
-/
structure LawfulUnmarshal (json : Unmarshal) : Prop where
  afterTopLevel : ∀ b m rest, json.rawMessages b = .ok m →
    ∃ err, json.rawMessages (b ++ closingBrace :: rest) = .error err ∧ namesBrace err = true
  endsEarly : ∀ b rest m err, json.rawMessages (b ++ rest) = .ok m →
    json.rawMessages b = .error err → namesBrace err = false
  leadingSpace : ∀ ws b m, (∀ a ∈ ws, isJSONSpace a = true) → json.rawMessages b = .ok m →
    ∃ m', json.rawMessages (ws ++ b) = .ok m'
  beginning : ∀ ws a rest, (∀ a ∈ ws, isJSONSpace a = true) → isJSONSpace a = false →
    startsValue a = false → a ≠ closingBrace →
    ∃ err, json.rawMessages (ws ++ a :: rest) = .error err ∧ namesBrace err = false

/--
`b` without `k` closing braces at its end, and without the space around what is left before each of
them is removed.
-/
def stripBraces : Nat → Bytes → Option Bytes
  | 0, b => some b
  | k + 1, b => (trimBrace b).bind (stripBraces k)

/--
No space in front but that of JSON.
-/
def LedByJSONSpace (b : Bytes) : Prop :=
  spaceLength (b.dropWhile isJSONSpace) = 0

instance (b : Bytes) : Decidable (LedByJSONSpace b) :=
  inferInstanceAs (Decidable (_ = _))

theorem ledByJSONSpace_of_spaceLength {b : Bytes} (h : spaceLength b = 0) : LedByJSONSpace b := by
  rw [LedByJSONSpace, dropWhile_of_spaceLength h]
  exact h

theorem dropSpaces_of_trimBrace {b d : Bytes} (h : trimBrace b = some d)
    : ∃ trail, dropSpaces spaceLength b = d ++ closingBrace :: trail := by
  simp only [trimBrace] at h
  split at h
  . next hlast =>
    cases h
    rcases exists_dropSpaces_eq_trimSpace_append b with ⟨trail, htrail⟩
    rcases List.getLast?_eq_some_iff.mp hlast with ⟨d, hd⟩
    refine ⟨trail, ?_⟩
    rw [htrail, hd]
    simp
  . cases h

theorem spaceLength_of_trimBrace {b d : Bytes} (h : trimBrace b = some d) : spaceLength d = 0 := by
  rcases dropSpaces_of_trimBrace h with ⟨trail, htrail⟩
  have := space_dropSpaces spaceLength rfl b
  rw [htrail] at this
  exact spaceLength_of_append this

theorem dropSpaces_of_stripBraces {k : Nat} {b d : Bytes} (h : stripBraces (k + 1) b = some d)
    : ∃ trail, dropSpaces spaceLength b = d ++ closingBrace :: trail := by
  induction k generalizing b with
  | zero =>
    rw [stripBraces, Option.bind_eq_some_iff] at h
    rcases h with ⟨b', hb', hd⟩
    cases hd
    exact dropSpaces_of_trimBrace hb'
  | succ k ih =>
    rw [stripBraces, Option.bind_eq_some_iff] at h
    rcases h with ⟨b', hb', hstrip⟩
    rcases dropSpaces_of_trimBrace hb' with ⟨trail, htrail⟩
    rcases ih hstrip with ⟨trail', htrail'⟩
    rw [dropSpaces_of_eq_zero (spaceLength_of_trimBrace hb')] at htrail'
    refine ⟨trail' ++ closingBrace :: trail, ?_⟩
    rw [htrail, htrail']
    simp

theorem stripBraces_add (j k : Nat) (b : Bytes)
    : stripBraces (j + k) b = (stripBraces j b).bind (stripBraces k) := by
  induction j generalizing b with
  | zero => rw [Nat.zero_add, stripBraces, Option.bind_some]
  | succ j ih =>
    rw [Nat.add_right_comm, stripBraces, stripBraces]
    cases trimBrace b with
    | none => rfl
    | some b' => exact ih b'

theorem rawMessages_of_unmarshalJSON {json : Unmarshal} {data r : RvsTestResult} {d : Bytes}
    (h : data.unmarshalJSON json d = (r, none)) : ∃ m, json.rawMessages d = .ok m := by
  unfold RvsTestResult.unmarshalJSON at h
  split at h
  . cases h
  . next m hm => exact ⟨m, hm⟩

theorem unmarshalJSON_of_rawMessages {json : Unmarshal} {d : Bytes} {err : String}
    (h : json.rawMessages d = .error err) (data : RvsTestResult)
    : data.unmarshalJSON json d = (data, some err) := by
  simp only [RvsTestResult.unmarshalJSON, h]

namespace LawfulUnmarshal

variable {json : Unmarshal} (hjson : LawfulUnmarshal json) {k : Nat} {b d : Bytes}
  {m : GoMap String Bytes}

include hjson

theorem rawMessages_of_led (hstrip : stripBraces (k + 1) b = some d)
    (hd : json.rawMessages d = .ok m) (hled : LedByJSONSpace b)
    : ∃ err, json.rawMessages b = .error err ∧ namesBrace err = true := by
  rcases dropSpaces_of_stripBraces hstrip with ⟨trail, htrail⟩
  rw [dropSpaces_of_dropWhile hled] at htrail
  have hws : ∀ a ∈ b.takeWhile isJSONSpace, isJSONSpace a = true := fun a ha => List.mem_takeWhile_imp ha
  rcases hjson.leadingSpace _ d m hws hd with ⟨m', hm'⟩
  rcases hjson.afterTopLevel _ m' trail hm' with ⟨err, herr, hnames⟩
  refine ⟨err, ?_, hnames⟩
  rw [← herr, List.append_assoc, ← htrail, List.takeWhile_append_dropWhile]

theorem rawMessages_of_not_led (hled : ¬LedByJSONSpace b)
    : ∃ err, json.rawMessages b = .error err ∧ namesBrace err = false := by
  cases hdrop : b.dropWhile isJSONSpace with
  | nil =>
    rw [LedByJSONSpace, hdrop] at hled
    exact absurd rfl hled
  | cons a rest =>
    have hws : ∀ a ∈ b.takeWhile isJSONSpace, isJSONSpace a = true := fun a ha =>
      List.mem_takeWhile_imp ha
    have ha : isJSONSpace a = false := by
      have := List.head?_dropWhile_not isJSONSpace b
      rw [hdrop] at this
      simpa using this
    rw [LedByJSONSpace, hdrop] at hled
    have hspace : startsValue a = false ∧ a ≠ closingBrace := by
      rcases isSpace_of_spaceLength hled with h | rfl | rfl | rfl | rfl
      . simp only [isSpace1, Bool.or_eq_true, decide_eq_true_eq] at h
        rcases h with ((((rfl | rfl) | rfl) | rfl) | rfl) | rfl
        all_goals decide
      all_goals decide
    rcases hjson.beginning _ a rest hws ha hspace.1 hspace.2 with ⟨err, herr, hnames⟩
    refine ⟨err, ?_, hnames⟩
    rw [← herr, ← hdrop, List.takeWhile_append_dropWhile]

theorem rawMessages_of_stripBraces (hstrip : stripBraces (k + 1) b = some d)
    (hd : json.rawMessages d = .ok m) : ∃ err, json.rawMessages b = .error err := by
  by_cases hled : LedByJSONSpace b
  . rcases hjson.rawMessages_of_led hstrip hd hled with ⟨err, herr, -⟩
    exact ⟨err, herr⟩
  . rcases hjson.rawMessages_of_not_led hled with ⟨err, herr, -⟩
    exact ⟨err, herr⟩

end LawfulUnmarshal

section Steps

variable {json : Unmarshal} (data r : RvsTestResult) (b : Bytes) (i n : Nat)

theorem unmarshalWithRetries.go_zero_eq_ok_iff
    : go json data b i 0 = .ok r ↔ data.unmarshalJSON json b = (r, none) := by
  unfold go
  constructor
  . intro h
    split at h
    . next hok =>
      cases h
      exact hok
    . cases h
  . intro hok
    simp only [hok]

theorem unmarshalWithRetries.go_succ_eq_ok_iff
    : go json data b i (n + 1) = .ok r ↔ data.unmarshalJSON json b = (r, none) ∨
        ∃ data' err b', data.unmarshalJSON json b = (data', some err) ∧ namesBrace err = true ∧
          trimBrace b = some b' ∧ go json data' b' (i + 1) n = .ok r := by
  constructor
  . intro h
    unfold go at h
    split at h
    . next hok =>
      cases h
      exact Or.inl hok
    . next data' err herr =>
      dsimp only at h
      split at h
      . next hnames =>
        split at h
        . next b' hb' => exact Or.inr ⟨data', err, b', herr, hnames, hb', h⟩
        . cases h
      . cases h
  . intro h
    unfold go
    rcases h with hok | ⟨data', err, b', herr, hnames, hb', hgo⟩
    . simp only [hok]
    . simp only [herr, hnames, if_true, hb', hgo]

end Steps

section Retries

variable {json : Unmarshal} (hjson : LawfulUnmarshal json)

include hjson

/--
A retry that is not in vain: the bytes do not start with white space that JSON does not have.
-/
theorem ledByJSONSpace_of_namesBrace {k : Nat} {data data' : RvsTestResult} {b d : Bytes}
    {m : GoMap String Bytes} {err : String} (hstrip : stripBraces (k + 1) b = some d)
    (hd : json.rawMessages d = .ok m) (herr : data.unmarshalJSON json b = (data', some err))
    (hnames : namesBrace err = true) : data' = data ∧ LedByJSONSpace b := by
  rcases hjson.rawMessages_of_stripBraces hstrip hd with ⟨err', hraw⟩
  rw [unmarshalJSON_of_rawMessages hraw] at herr
  cases herr
  refine ⟨rfl, ?_⟩
  by_contra hled
  rcases hjson.rawMessages_of_not_led hled with ⟨err', hraw', hnames'⟩
  rw [hraw] at hraw'
  cases hraw'
  rw [hnames] at hnames'
  cases hnames'

/--
The induction is on the retries that are left. Each of them starts with the record that the attempts
before it leave behind, which is the one the loop has started with.
-/
theorem unmarshalWithRetries.go_eq_ok_iff (data r : RvsTestResult) (b : Bytes) (i n : Nat)
    : go json data b i n = .ok r ↔ ∃ k ≤ n, ∃ d, stripBraces k b = some d ∧
        data.unmarshalJSON json d = (r, none) ∧ (k = 0 ∨ LedByJSONSpace b) := by
  induction n generalizing data b i with
  | zero =>
    rw [go_zero_eq_ok_iff]
    constructor
    . intro hok
      exact ⟨0, Nat.le_refl 0, b, rfl, hok, Or.inl rfl⟩
    . rintro ⟨k, hk, d, hstrip, hok, -⟩
      rw [Nat.le_zero] at hk
      subst hk
      cases hstrip
      exact hok
  | succ n ih =>
    rw [go_succ_eq_ok_iff]
    constructor
    . rintro (hok | ⟨data', err, b', herr, hnames, hb', hgo⟩)
      . exact ⟨0, Nat.zero_le _, b, rfl, hok, Or.inl rfl⟩
      . rcases (ih data' b' (i + 1)).mp hgo with ⟨k, hk, d, hstrip, hok, -⟩
        have hstrip : stripBraces (k + 1) b = some d := by
          rw [stripBraces, hb', Option.bind_some, hstrip]
        rcases rawMessages_of_unmarshalJSON hok with ⟨m, hm⟩
        rcases ledByJSONSpace_of_namesBrace hjson hstrip hm herr hnames with ⟨rfl, hled⟩
        exact ⟨k + 1, by omega, d, hstrip, hok, Or.inr hled⟩
    . rintro ⟨k, hk, d, hstrip, hok, hled⟩
      cases k with
      | zero =>
        cases hstrip
        exact Or.inl hok
      | succ k =>
        have hled : LedByJSONSpace b := hled.resolve_left (by omega)
        rcases rawMessages_of_unmarshalJSON hok with ⟨m, hm⟩
        rcases hjson.rawMessages_of_led hstrip hm hled with ⟨err, hraw, hnames⟩
        rw [stripBraces, Option.bind_eq_some_iff] at hstrip
        rcases hstrip with ⟨b', hb', hstrip⟩
        refine Or.inr ⟨data, err, b', unmarshalJSON_of_rawMessages hraw data, hnames, hb', ?_⟩
        apply (ih data b' (i + 1)).mpr
        exact ⟨k, by omega, d, hstrip, hok,
          Or.inr (ledByJSONSpace_of_spaceLength (spaceLength_of_trimBrace hb'))⟩

theorem stripBraces_unique {j k : Nat} {b d d' : Bytes} {m m' : GoMap String Bytes}
    (hj : stripBraces j b = some d) (hk : stripBraces k b = some d')
    (hd : json.rawMessages d = .ok m) (hd' : json.rawMessages d' = .ok m') : j = k := by
  have hlt {j k : Nat} {d d' : Bytes} {m m' : GoMap String Bytes} (hj : stripBraces j b = some d)
      (hk : stripBraces k b = some d') (hd : json.rawMessages d = .ok m)
      (hd' : json.rawMessages d' = .ok m') : ¬j < k := by
    intro hlt
    obtain ⟨n, rfl⟩ : ∃ n, k = j + (n + 1) := ⟨k - j - 1, by omega⟩
    rw [stripBraces_add, hj, Option.bind_some] at hk
    rcases hjson.rawMessages_of_stripBraces hk hd' with ⟨err, herr⟩
    rw [hd] at herr
    cases herr
  have := hlt hj hk hd hd'
  have := hlt hk hj hd' hd
  omega

end Retries

theorem unmarshalWithRetries.go_error {json : Unmarshal} {data : RvsTestResult} {b : Bytes}
    {i n i' : Nat} {err : String} (h : go json data b i n = .error (i', err)) : i' ≤ i + n := by
  induction n generalizing data b i with
  | zero =>
    unfold go at h
    split at h
    . cases h
    . cases h
      omega
  | succ n ih =>
    unfold go at h
    split at h
    . cases h
    . dsimp only at h
      split at h
      . split at h
        . have := ih h
          omega
        . cases h
          omega
      . cases h
        omega

/--
What the loop does with the bytes `b`: which documents it reads from them, that they determine the
document, how often it tries, and that it does not try again if they end too early.
-/
structure Repaired (json : Unmarshal) (b : Bytes) : Prop where
  accepted : ∀ r, unmarshalWithRetries json b = .ok r ↔
    ∃ k ≤ maxRVSParseRetries, ∃ d, stripBraces k b = some d ∧
      RvsTestResult.unmarshalJSON json {} d = (r, none) ∧ (k = 0 ∨ LedByJSONSpace b)
  determined : ∀ j k d d' r r', stripBraces j b = some d → stripBraces k b = some d' →
    RvsTestResult.unmarshalJSON json {} d = (r, none) →
    RvsTestResult.unmarshalJSON json {} d' = (r', none) → j = k
  bounded : ∀ i err, unmarshalWithRetries json b = .error (i, err) → i ≤ maxRVSParseRetries
  endsEarly : ∀ rest m err, json.rawMessages (b ++ rest) = .ok m →
    json.rawMessages b = .error err → unmarshalWithRetries json b = .error (0, err)

theorem unmarshalWithRetries_of_error {json : Unmarshal} {b : Bytes} {err : String}
    (h : json.rawMessages b = .error err) (hnames : namesBrace err = false)
    : unmarshalWithRetries json b = .error (0, err) := by
  rw [unmarshalWithRetries, maxRVSParseRetries, unmarshalWithRetries.go]
  simp [unmarshalJSON_of_rawMessages h, hnames]

section Instances

theorem repaired_of_lawful {json : Unmarshal} (hjson : LawfulUnmarshal json) (b : Bytes)
    : Repaired json b where
  accepted r := unmarshalWithRetries.go_eq_ok_iff hjson {} r b 0 maxRVSParseRetries
  determined j k d d' r r' hj hk hd hd' := by
    rcases rawMessages_of_unmarshalJSON hd with ⟨m, hm⟩
    rcases rawMessages_of_unmarshalJSON hd' with ⟨m', hm'⟩
    exact stripBraces_unique hjson hj hk hm hm'
  bounded i err h := by
    have := unmarshalWithRetries.go_error h
    omega
  endsEarly rest m err hrest hb := by
    apply unmarshalWithRetries_of_error hb
    exact hjson.endsEarly b rest m err hrest hb

def invalidCharacter (a : UInt8) (context : String) : String :=
  "invalid character '"
    ++ (if a = closingBrace then "\x7d" else if a = 0x0b then "\\v" else "\\ufffd") ++ "' " ++ context

theorem namesBrace_invalidCharacter {a : UInt8} (h : a ≠ closingBrace)
    : namesBrace (invalidCharacter a "looking for beginning of value") = false := by
  unfold invalidCharacter
  rw [if_neg h]
  by_cases hv : a = 0x0b
  . rw [if_pos hv]
    decide +kernel
  . rw [if_neg hv]
    decide +kernel

/--
The scanner of `encoding/json` on documents that are an empty object.
-/
def scanEmptyObject (b : Bytes) : Except String Unit :=
  match b.dropWhile isJSONSpace with
  | [] => .error "unexpected end of JSON input"
  | a :: b =>
    if a = 0x7b then
      match b.dropWhile isJSONSpace with
      | [] => .error "unexpected end of JSON input"
      | a :: b =>
        if a = closingBrace then
          match b.dropWhile isJSONSpace with
          | [] => .ok ()
          | a :: _ => .error (invalidCharacter a "after top-level value")
        else
          .error (invalidCharacter a "looking for beginning of object key string")
    else
      .error (invalidCharacter a "looking for beginning of value")

def emptyObjects : Unmarshal where
  rawMessages b := (scanEmptyObject b).map fun _ => ∅
  version _ := .ok ""
  testSuite _ := .ok ∅

theorem scanEmptyObject_eq_ok_iff {b : Bytes}
    : scanEmptyObject b = .ok () ↔ ∃ b₁ b₂, b.dropWhile isJSONSpace = 0x7b :: b₁ ∧
        b₁.dropWhile isJSONSpace = closingBrace :: b₂ ∧ b₂.dropWhile isJSONSpace = [] := by
  unfold scanEmptyObject
  constructor
  . intro h
    split at h
    . cases h
    . next a b₁ h₁ =>
      split at h
      . next ha =>
        subst ha
        split at h
        . cases h
        . next a b₂ h₂ =>
          split at h
          . next ha =>
            subst ha
            split at h
            . next h₃ => exact ⟨b₁, b₂, h₁, h₂, h₃⟩
            . cases h
          . cases h
      . cases h
  . rintro ⟨b₁, b₂, h₁, h₂, h₃⟩
    simp [h₁, h₂, h₃]

theorem rawMessages_emptyObjects {b : Bytes} {m : GoMap String Bytes}
    (h : emptyObjects.rawMessages b = .ok m) : scanEmptyObject b = .ok () := by
  simp only [emptyObjects] at h
  cases hscan : scanEmptyObject b with
  | error err =>
    rw [hscan] at h
    cases h
  | ok _ => rfl

theorem dropWhile_append_of_cons {b b' : Bytes} {a : UInt8}
    (h : b.dropWhile isJSONSpace = a :: b') (t : Bytes)
    : (b ++ t).dropWhile isJSONSpace = a :: (b' ++ t) := by
  rw [List.dropWhile_append, h]
  rfl

theorem dropWhile_append_of_nil {b : Bytes} (h : b.dropWhile isJSONSpace = []) (t : Bytes)
    : (b ++ t).dropWhile isJSONSpace = t.dropWhile isJSONSpace := by
  rw [List.dropWhile_append, h]
  rfl

theorem lawful_emptyObjects : LawfulUnmarshal emptyObjects where
  afterTopLevel b m rest h := by
    rcases scanEmptyObject_eq_ok_iff.mp (rawMessages_emptyObjects h) with ⟨b₁, b₂, h₁, h₂, h₃⟩
    refine ⟨invalidCharacter closingBrace "after top-level value", ?_, by decide⟩
    have hrest : (closingBrace :: rest).dropWhile isJSONSpace = closingBrace :: rest := rfl
    simp only [emptyObjects, scanEmptyObject, dropWhile_append_of_cons h₁,
      dropWhile_append_of_cons h₂, dropWhile_append_of_nil h₃, hrest]
    rfl
  endsEarly b rest m err h hb := by
    rcases scanEmptyObject_eq_ok_iff.mp (rawMessages_emptyObjects h) with ⟨b₁, b₂, h₁, h₂, h₃⟩
    have hend : namesBrace "unexpected end of JSON input" = false := by
      decide +kernel
    simp only [emptyObjects, scanEmptyObject] at hb
    cases hb₁ : b.dropWhile isJSONSpace with
    | nil =>
      rw [hb₁] at hb
      cases hb
      exact hend
    | cons a c₁ =>
      rw [dropWhile_append_of_cons hb₁, List.cons.injEq] at h₁
      rcases h₁ with ⟨rfl, rfl⟩
      cases hb₂ : c₁.dropWhile isJSONSpace with
      | nil =>
        simp only [hb₁, hb₂] at hb
        cases hb
        exact hend
      | cons a c₂ =>
        rw [dropWhile_append_of_cons hb₂, List.cons.injEq] at h₂
        rcases h₂ with ⟨rfl, rfl⟩
        cases hb₃ : c₂.dropWhile isJSONSpace with
        | nil =>
          simp only [hb₁, hb₂, hb₃] at hb
          cases hb
        | cons a c₃ =>
          rw [dropWhile_append_of_cons hb₃] at h₃
          cases h₃
  leadingSpace ws b m hws h := by
    refine ⟨m, ?_⟩
    rw [← h]
    simp only [emptyObjects, scanEmptyObject, List.dropWhile_append_of_pos hws]
  beginning ws a rest hws ha hstart hbrace := by
    refine ⟨invalidCharacter a "looking for beginning of value", ?_, namesBrace_invalidCharacter hbrace⟩
    have hne : a ≠ 0x7b := by
      rintro rfl
      exact absurd hstart (by decide)
    simp only [emptyObjects, scanEmptyObject, List.dropWhile_append_of_pos hws,
      List.dropWhile_cons_of_neg (Bool.eq_false_iff.mp ha), if_neg hne]
    rfl

theorem not_unmarshalWithRetries
    : ¬∀ json, LawfulUnmarshal json → ∀ b r, unmarshalWithRetries json b = .ok r ↔
        ∃ k ≤ maxRVSParseRetries, ∃ d, stripBraces k b = some d ∧
          RvsTestResult.unmarshalJSON json {} d = (r, none) := by
  -- a vertical tab, which is white space for `TrimSpace` only, an empty object and a surplus brace
  intro h
  have hstrip := (h emptyObjects lawful_emptyObjects [0x0b, 0x7b, closingBrace, closingBrace] {}).mpr
    ⟨1, by decide, [0x7b, closingBrace], by decide, rfl⟩
  have herr : unmarshalWithRetries emptyObjects [0x0b, 0x7b, closingBrace, closingBrace]
      = .error (0, "invalid character '\\v' looking for beginning of value") := by
    apply unmarshalWithRetries_of_error
    . rfl
    . decide +kernel
  rw [herr] at hstrip
  cases hstrip

theorem repaired_of_lawful_surplus
    : unmarshalWithRetries emptyObjects [0x7b, closingBrace, closingBrace, 0x0a] = .ok {} :=
  ((repaired_of_lawful lawful_emptyObjects [0x7b, closingBrace, closingBrace, 0x0a]).accepted {}).mpr
    ⟨1, by decide, [0x7b, closingBrace], by decide, rfl, Or.inr (by decide)⟩

end Instances

end Testrunner
