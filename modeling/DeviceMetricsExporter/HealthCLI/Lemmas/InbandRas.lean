import Mathlib.Data.List.ReduceOption
import DeviceMetricsExporter.HealthCLI.Impl.QueryMetric

/-!
This module contains when the exit code of the `inband-ras-errors` command is right. An answer that
cannot be decoded or has an error status ends in 0, as if it had no records.
-/

namespace HealthCLI

section Count

variable (afid : UInt64)

/--
The records that the filter lets through. A record that is nil has no AFIDs.
-/
def Counts (entry : Option CPEREntry) : Prop :=
  afid = 0 ∨ ∃ cper, entry = some cper ∧ afid ∈ cper.afId

instance (entry : Option CPEREntry) : Decidable (Counts afid entry) :=
  match entry with
  | none => decidable_of_iff (afid = 0) (by simp [Counts])
  | some cper => decidable_of_iff (afid = 0 ∨ afid ∈ cper.afId) (by simp [Counts])

def records (cper : List (Option GPUCPEREntry)) : List (Option CPEREntry) :=
  cper.reduceOption.flatMap (·.cperEntry)

def recordCount (cper : List (Option GPUCPEREntry)) : Nat :=
  (records cper).countP fun entry => Counts afid entry

def DereferencesNil (cper : List (Option GPUCPEREntry)) : Prop :=
  none ∈ cper ∨ (afid ≠ 0 ∧ none ∈ records cper)

instance (cper : List (Option GPUCPEREntry)) : Decidable (DereferencesNil afid cper) :=
  inferInstanceAs (Decidable (_ ∨ _))

theorem isAFIDPresentInCPER_iff (cper : CPEREntry)
    : isAFIDPresentInCPER cper afid = true ↔ afid ∈ cper.afId := by
  simp [isAFIDPresentInCPER]

theorem countEntry_eq (n : Nat) (entry : Option CPEREntry)
    : Environment.countEntry afid n entry
      = if afid ≠ 0 ∧ entry = none then none
        else some (n + if Counts afid entry then 1 else 0) := by
  unfold Environment.countEntry
  by_cases hafid : afid = 0
  . simp [hafid, Counts]
  . cases entry with
    | none => simp [hafid]
    | some cper =>
      by_cases hmem : afid ∈ cper.afId
      . simp [hafid, Counts, isAFIDPresentInCPER_iff, hmem]
      . simp [hafid, Counts, isAFIDPresentInCPER_iff, hmem]

theorem foldlM_countEntry (entries : List (Option CPEREntry)) (n : Nat)
    : entries.foldlM (Environment.countEntry afid) n
      = if afid ≠ 0 ∧ none ∈ entries then none
        else some (n + entries.countP fun entry => Counts afid entry) := by
  induction entries generalizing n with
  | nil => simp
  | cons entry entries ih =>
    rw [List.foldlM_cons, countEntry_eq]
    by_cases hnil : afid ≠ 0 ∧ entry = none
    . simp [hnil]
    . rw [if_neg hnil, Option.bind_eq_bind, Option.bind_some, ih]
      have hcons : (afid ≠ 0 ∧ none ∈ entry :: entries) ↔ (afid ≠ 0 ∧ none ∈ entries) := by
        rw [List.mem_cons, and_or_left]
        constructor
        . rintro (h | h)
          . exact absurd ⟨h.1, h.2.symm⟩ hnil
          . exact h
        . exact Or.inr
      simp only [hcons, List.countP_cons, decide_eq_true_eq]
      split
      . rfl
      . congr 1
        omega

theorem foldlM_countGPUEntries (cper : List (Option GPUCPEREntry)) (n : Nat)
    : cper.foldlM (Environment.countGPUEntries afid) n
      = if DereferencesNil afid cper then none else some (n + recordCount afid cper) := by
  induction cper generalizing n with
  | nil => simp [DereferencesNil, records, recordCount]
  | cons gpucperentry cper ih =>
    rw [List.foldlM_cons]
    cases gpucperentry with
    | none =>
      have hnil : DereferencesNil afid (none :: cper) := Or.inl List.mem_cons_self
      rw [if_pos hnil]
      rfl
    | some gpucperentry =>
      have hrecords : records (some gpucperentry :: cper) = gpucperentry.cperEntry ++ records cper :=
        rfl
      have hstep : Environment.countGPUEntries afid n (some gpucperentry)
          = gpucperentry.cperEntry.foldlM (Environment.countEntry afid) n := rfl
      have hcons : DereferencesNil afid (some gpucperentry :: cper)
          ↔ (afid ≠ 0 ∧ none ∈ gpucperentry.cperEntry) ∨ DereferencesNil afid cper := by
        simp only [DereferencesNil, hrecords, List.mem_append, List.mem_cons, reduceCtorEq,
          false_or]
        tauto
      rw [hstep, foldlM_countEntry]
      by_cases hnil : afid ≠ 0 ∧ none ∈ gpucperentry.cperEntry
      . rw [if_pos hnil, if_pos (hcons.mpr (Or.inl hnil))]
        rfl
      . rw [if_neg hnil, Option.bind_eq_bind, Option.bind_some, ih]
        simp only [hcons, hnil, false_or, recordCount, hrecords, List.countP_append, Nat.add_assoc]

end Count

namespace Environment

variable (env : Environment) (flags : Flags) (unmarshal : String → Option GPUCPERGetResponse)
  (response : String)

def WithinThreshold : Prop :=
  ∃ cperResponse, unmarshal response = some cperResponse ∧ cperResponse.apiStatus = 0
    ∧ recordCount flags.afid cperResponse.cper ≤ flags.threshold

def CrossedThreshold : Prop :=
  ∃ cperResponse, unmarshal response = some cperResponse ∧ cperResponse.apiStatus = 0
    ∧ flags.threshold < recordCount flags.afid cperResponse.cper

/--
The exit codes that the command promises for a body.
-/
structure RightExit (code : Nat) : Prop where
  healthy : code = 0 → WithinThreshold flags unmarshal response
  unhealthy : code = 1 ↔ CrossedThreshold flags unmarshal response
  other : code ≠ 0 → code ≠ 1 → code = 2

section Decoded

variable {cperResponse : GPUCPERGetResponse} (hdecoded : unmarshal response = some cperResponse)
  (hstatus : cperResponse.apiStatus = 0)

include hdecoded hstatus

theorem withinThreshold_iff
    : WithinThreshold flags unmarshal response
      ↔ recordCount flags.afid cperResponse.cper ≤ flags.threshold := by
  simp [WithinThreshold, hdecoded, hstatus]

theorem crossedThreshold_iff
    : CrossedThreshold flags unmarshal response
      ↔ flags.threshold < recordCount flags.afid cperResponse.cper := by
  simp [CrossedThreshold, hdecoded, hstatus]

theorem rightExit_decoded {code : Nat}
    : RightExit flags unmarshal response code
      ↔ if flags.threshold < recordCount flags.afid cperResponse.cper then code = 1
        else code = 0 ∨ code = 2 := by
  have hwithin := withinThreshold_iff flags unmarshal response hdecoded hstatus
  have hcrossed := crossedThreshold_iff flags unmarshal response hdecoded hstatus
  split
  . next hlt =>
    constructor
    . intro hright
      exact hright.unhealthy.mpr (hcrossed.mpr hlt)
    . intro hcode
      exact ⟨by omega, by simp [hcode, hcrossed, hlt], by omega⟩
  . next hle =>
    constructor
    . intro hright
      have hne : code ≠ 1 := fun hcode => hle (hcrossed.mp (hright.unhealthy.mp hcode))
      have hother := hright.other
      omega
    . intro hcode
      have hne : code ≠ 1 := by omega
      exact ⟨fun _ => hwithin.mpr (Int.not_lt.mp hle), by simp [hne, hcrossed, hle], by omega⟩

end Decoded

theorem inbandRasErrorsCmdHandler_eq (hresponse : env.inbandRasErrorsResponse flags = .ok response)
    : env.inbandRasErrorsCmdHandler flags unmarshal
      = if DereferencesNil flags.afid (parseInbandRasErrorsResponse unmarshal response) then
          none
        else
          some (env.checkEntryCount flags
            (recordCount flags.afid (parseInbandRasErrorsResponse unmarshal response))) := by
  simp only [inbandRasErrorsCmdHandler, hresponse, foldlM_countGPUEntries, Nat.zero_add]
  split
  . rfl
  . rfl

theorem exitStatus_of_decoded (hresponse : env.inbandRasErrorsResponse flags = .ok response)
    {cperResponse : GPUCPERGetResponse} (hdecoded : unmarshal response = some cperResponse)
    (hstatus : cperResponse.apiStatus = 0)
    : exitStatus (env.inbandRasErrorsCmdHandler flags unmarshal)
      = if DereferencesNil flags.afid cperResponse.cper then 2
        else if flags.threshold < recordCount flags.afid cperResponse.cper then 1
        else 0 := by
  have hparsed : parseInbandRasErrorsResponse unmarshal response = cperResponse.cper := by
    simp [parseInbandRasErrorsResponse, hdecoded, hstatus]
  rw [inbandRasErrorsCmdHandler_eq env flags unmarshal response hresponse, hparsed]
  split
  . rfl
  . simp only [checkEntryCount, gt_iff_lt]
    split
    . rfl
    . rfl

theorem exitStatus_of_not_decoded (hthreshold : 0 ≤ flags.threshold)
    (hresponse : env.inbandRasErrorsResponse flags = .ok response)
    (h : ¬∃ cperResponse, unmarshal response = some cperResponse ∧ cperResponse.apiStatus = 0)
    : exitStatus (env.inbandRasErrorsCmdHandler flags unmarshal) = 0 := by
  have hparsed : parseInbandRasErrorsResponse unmarshal response = [] := by
    unfold parseInbandRasErrorsResponse
    cases hdecoded : unmarshal response with
    | none => rfl
    | some cperResponse =>
      apply if_pos
      intro hstatus
      exact h ⟨cperResponse, hdecoded, hstatus⟩
  have hnil : ¬DereferencesNil flags.afid [] := by
    simp [DereferencesNil, records]
  rw [inbandRasErrorsCmdHandler_eq env flags unmarshal response hresponse, hparsed, if_neg hnil]
  have hcount : recordCount flags.afid [] = 0 := rfl
  have hle : ¬flags.threshold < ((0 : Nat) : Int) := Int.not_lt.mpr hthreshold
  simp only [exitStatus, checkEntryCount, hcount, gt_iff_lt, if_neg hle]

theorem code_of_checkInitialized {exit : Exit} (h : env.checkInitialized = .error exit)
    : exit.code = 2 := by
  unfold checkInitialized at h
  split at h
  . cases h
    rfl
  . cases h

theorem code_of_endpoint {handlerPrefix notFound : String} {discovered : Option String} {exit : Exit}
    (h : endpoint flags handlerPrefix discovered notFound = .error exit) : exit.code = 2 := by
  unfold endpoint at h
  split at h
  . split at h
    . cases h
      rfl
    . cases h
  . split at h
    . cases h
      rfl
    . split at h
      . cases h
        rfl
      . cases h

theorem code_of_query {url notReached : String} {exit : Exit}
    (h : env.query url notReached = .error exit) : exit.code = 2 := by
  unfold query at h
  split at h
  . cases h
    rfl
  . cases h

theorem exitStatus_of_error {exit : Exit} (h : env.inbandRasErrorsResponse flags = .error exit)
    : exitStatus (env.inbandRasErrorsCmdHandler flags unmarshal) = 2 := by
  have hexit : exitStatus (env.inbandRasErrorsCmdHandler flags unmarshal) = exit.code := by
    simp only [inbandRasErrorsCmdHandler, h, exitStatus]
  rw [hexit]
  unfold inbandRasErrorsResponse at h
  cases hinit : env.checkInitialized with
  | error exit' =>
    rw [hinit] at h
    cases h
    exact env.code_of_checkInitialized hinit
  | ok _ =>
    rw [hinit] at h
    cases hendpoint : endpoint flags amdGPUInbandRASHandlerPrefix env.getInbandRASErrorsEndpointURL
        "unable to get endpoint url" with
    | error exit' =>
      simp only [hendpoint] at h
      cases h
      exact code_of_endpoint flags hendpoint
    | ok url =>
      simp only [hendpoint] at h
      exact env.code_of_query h

section Instances

theorem rightExit_iff (hthreshold : 0 ≤ flags.threshold)
    (hresponse : env.inbandRasErrorsResponse flags = .ok response)
    : RightExit flags unmarshal response
        (exitStatus (env.inbandRasErrorsCmdHandler flags unmarshal))
      ↔ ∃ cperResponse, unmarshal response = some cperResponse ∧ cperResponse.apiStatus = 0
          ∧ ¬(DereferencesNil flags.afid cperResponse.cper
            ∧ flags.threshold < recordCount flags.afid cperResponse.cper) := by
  by_cases h : ∃ cperResponse, unmarshal response = some cperResponse ∧ cperResponse.apiStatus = 0
  . rcases h with ⟨cperResponse, hdecoded, hstatus⟩
    have hcondition : (∃ cperResponse, unmarshal response = some cperResponse
          ∧ cperResponse.apiStatus = 0 ∧ ¬(DereferencesNil flags.afid cperResponse.cper
            ∧ flags.threshold < recordCount flags.afid cperResponse.cper))
        ↔ ¬(DereferencesNil flags.afid cperResponse.cper
          ∧ flags.threshold < recordCount flags.afid cperResponse.cper) := by
      simp [hdecoded, hstatus]
    rw [hcondition, rightExit_decoded flags unmarshal response hdecoded hstatus,
      exitStatus_of_decoded env flags unmarshal response hresponse hdecoded hstatus]
    by_cases hnil : DereferencesNil flags.afid cperResponse.cper
    . by_cases hlt : flags.threshold < recordCount flags.afid cperResponse.cper
      . simp [hnil, hlt]
      . simp [hnil, hlt]
    . by_cases hlt : flags.threshold < recordCount flags.afid cperResponse.cper
      . simp [hnil, hlt]
      . simp [hnil, hlt]
  . have hexit := exitStatus_of_not_decoded env flags unmarshal response hthreshold hresponse h
    constructor
    . intro hright
      rcases hright.healthy hexit with ⟨cperResponse, hdecoded, hstatus, -⟩
      exact absurd ⟨cperResponse, hdecoded, hstatus⟩ h
    . rintro ⟨cperResponse, hdecoded, hstatus, -⟩
      exact absurd ⟨cperResponse, hdecoded, hstatus⟩ h

def recordBody : String :=
  "\x7b\"CPER\":[\x7b\"CPEREntry\":[\x7b\"AFId\":[24]\x7d]\x7d]\x7d"

def unmarshalRecord (body : String) : Option GPUCPERGetResponse :=
  if body = recordBody then some ⟨0, [some ⟨[some ⟨[24]⟩]⟩]⟩ else none

theorem rightExit_of_record
    : RightExit { afid := 24 } unmarshalRecord recordBody
        (exitStatus ((answering recordBody).inbandRasErrorsCmdHandler { afid := 24 }
          unmarshalRecord)) := by
  apply (rightExit_iff (answering recordBody) _ _ _ (by decide) rfl).mpr
  exact ⟨⟨0, [some ⟨[some ⟨[24]⟩]⟩]⟩, if_pos rfl, rfl, by decide⟩

theorem not_rightExit
    : ¬∀ (env : Environment) (flags : Flags) (unmarshal : String → Option GPUCPERGetResponse)
        (response : String), 0 ≤ flags.threshold →
        env.inbandRasErrorsResponse flags = .ok response →
        RightExit flags unmarshal response
          (exitStatus (env.inbandRasErrorsCmdHandler flags unmarshal)) := by
  -- What the exporter answers with status 500 is no JSON.
  intro h
  have hright := h
    (answering "an error occured while querying inband ras errors:\nunable to reach agent\n") {}
    (fun _ => none) _ (by decide) rfl
  rcases hright.healthy rfl with ⟨cperResponse, hdecoded, -, -⟩
  cases hdecoded

end Instances

end Environment

end HealthCLI
