import DeviceMetricsExporter.Lib.Latest
import DeviceMetricsExporter.GPUAgent.Impl.Health

/-!
This module contains which record `latestCPERPerGPU` selects for each GPU, and when the selection does
not depend on how the response is arranged.
-/

namespace GPUAgent

open Latest

section Selection

def recordsOf (gpuuid : String) (cper : List GPUCPEREntry) : List CPEREntry :=
  (cper.filter fun c => uuidToString c.gpu = gpuuid).flatMap (·.cperEntry)

variable (time : Time)

def cacheEntryOf (record : CPEREntry) : CperCacheEntry :=
  ⟨record, parseCPERRecordTimestamp time record⟩

theorem supersedes_eq_true (candidate existing : CPEREntry)
    : (cacheEntryOf time candidate).supersedes (some (cacheEntryOf time existing)) = true
        ↔ Supersedes (parseCPERRecordTimestamp time) candidate existing := by
  rw [CperCacheEntry.supersedes, Supersedes, cacheEntryOf, cacheEntryOf]
  cases parseCPERRecordTimestamp time candidate with
  | some currentTS =>
    cases parseCPERRecordTimestamp time existing with
    | some ts => exact decide_eq_true_iff
    | none => simp
  | none =>
    cases parseCPERRecordTimestamp time existing with
    | some ts => simp
    | none => simp

def cacheStep (latestCPER : GoMap String CperCacheEntry) (x : String × CPEREntry)
    : GoMap String CperCacheEntry :=
  if (cacheEntryOf time x.2).supersedes (latestCPER.lookup x.1) then
    latestCPER.insert x.1 (cacheEntryOf time x.2)
  else
    latestCPER

theorem latestCPERPerGPU_eq_foldl (gpuCpers : GPUCPERGetResponse)
    : latestCPERPerGPU time gpuCpers
        = ((gpuCpers.cper.flatMap fun c => c.cperEntry.map (uuidToString c.gpu, ·)).foldl
            (cacheStep time) ∅).map fun _ cacheEntry => cacheEntry.entry := by
  rw [latestCPERPerGPU, List.foldl_flatMap]
  simp only [List.foldl_map]
  rfl

def cacheKeep (existing : Option CperCacheEntry) (x : String × CPEREntry) : Option CperCacheEntry :=
  if (cacheEntryOf time x.2).supersedes existing then some (cacheEntryOf time x.2) else existing

theorem lookup_cacheStep (latestCPER : GoMap String CperCacheEntry) (x : String × CPEREntry)
    (gpuuid : String)
    : (cacheStep time latestCPER x).lookup gpuuid
        = if x.1 = gpuuid then cacheKeep time (latestCPER.lookup gpuuid) x
          else latestCPER.lookup gpuuid := by
  unfold cacheStep cacheKeep
  by_cases hkey : x.1 = gpuuid
  . subst hkey
    rw [if_pos rfl, apply_ite (AList.lookup x.1), AList.lookup_insert]
  . rw [if_neg hkey, apply_ite (AList.lookup gpuuid), AList.lookup_insert_ne (Ne.symm hkey), ite_self]

theorem cacheKeep_map (existing : Option CPEREntry) (x : String × CPEREntry)
    : cacheKeep time (existing.map (cacheEntryOf time)) x
        = (keep (parseCPERRecordTimestamp time) existing x.2).map (cacheEntryOf time) := by
  cases existing with
  | none => rfl
  | some existing =>
    rw [cacheKeep, keep, Option.map_some, apply_ite (Option.map (cacheEntryOf time)), Option.map_some,
      Option.map_some]
    exact if_congr (supersedes_eq_true time x.2 existing) rfl rfl

theorem foldl_cacheKeep (existing : Option CPEREntry) (xs : List (String × CPEREntry))
    : xs.foldl (cacheKeep time) (existing.map (cacheEntryOf time))
        = ((xs.map (·.2)).foldl (keep (parseCPERRecordTimestamp time)) existing).map
            (cacheEntryOf time) := by
  induction xs generalizing existing with
  | nil => rfl
  | cons x xs ih => rw [List.foldl_cons, cacheKeep_map, ih, List.map_cons, List.foldl_cons]

theorem filter_flatMap_records (gpuuid : String) (cper : List GPUCPEREntry)
    : ((cper.flatMap fun c => c.cperEntry.map (uuidToString c.gpu, ·)).filter (·.1 = gpuuid)).map
        (·.2) = recordsOf gpuuid cper := by
  induction cper with
  | nil => rfl
  | cons c cper ih =>
    rw [List.flatMap_cons, List.filter_append, List.map_append, ih, recordsOf, recordsOf,
      List.filter_cons]
    by_cases hkey : uuidToString c.gpu = gpuuid
    . simp [hkey, List.filter_map, Function.comp_def]
    . simp [hkey, List.filter_map, Function.comp_def]

theorem lookup_latestCPERPerGPU (gpuCpers : GPUCPERGetResponse) (gpuuid : String)
    : (latestCPERPerGPU time gpuCpers).lookup gpuuid
        = latest (parseCPERRecordTimestamp time) (recordsOf gpuuid gpuCpers.cper) := by
  rw [latestCPERPerGPU_eq_foldl, GoMap.lookup_map,
    GoMap.lookup_foldl (·.1) (lookup_cacheStep time)]
  have hfold := foldl_cacheKeep time none
    ((gpuCpers.cper.flatMap fun c => c.cperEntry.map (uuidToString c.gpu, ·)).filter (·.1 = gpuuid))
  rw [filter_flatMap_records] at hfold
  rw [AList.lookup_empty]
  rw [Option.map_none] at hfold
  rw [hfold, Option.map_map]
  exact Option.map_id'

theorem recordsOf_eq_nil_iff (gpuuid : String) (cper : List GPUCPEREntry)
    : recordsOf gpuuid cper = []
        ↔ ∀ c ∈ cper, uuidToString c.gpu = gpuuid → c.cperEntry = [] := by
  simp [recordsOf]

end Selection

section Arrangement

/--
Responses with the same records for each GPU: entries and the records of an entry are permuted, and
an entry is split into two of the same GPU.
-/
inductive Rearranged : List GPUCPEREntry → List GPUCPEREntry → Prop where
  | entries {cper cper' : List GPUCPEREntry} (h : cper.Perm cper') : Rearranged cper cper'
  | records (before after : List GPUCPEREntry) (gpu : List UInt8) {records records' : List CPEREntry}
      (h : records.Perm records')
      : Rearranged (before ++ ⟨gpu, records⟩ :: after) (before ++ ⟨gpu, records'⟩ :: after)
  | split (before after : List GPUCPEREntry) {c c₁ c₂ : GPUCPEREntry}
      (h₁ : uuidToString c₁.gpu = uuidToString c.gpu) (h₂ : uuidToString c₂.gpu = uuidToString c.gpu)
      (h : c.cperEntry = c₁.cperEntry ++ c₂.cperEntry)
      : Rearranged (before ++ c :: after) (before ++ c₁ :: c₂ :: after)
  | symm {cper cper' : List GPUCPEREntry} (h : Rearranged cper cper') : Rearranged cper' cper
  | trans {cper cper' cper'' : List GPUCPEREntry} (h : Rearranged cper cper')
      (h' : Rearranged cper' cper'') : Rearranged cper cper''

theorem recordsOf_append (gpuuid : String) (cper cper' : List GPUCPEREntry)
    : recordsOf gpuuid (cper ++ cper') = recordsOf gpuuid cper ++ recordsOf gpuuid cper' := by
  rw [recordsOf, List.filter_append, List.flatMap_append]
  rfl

theorem recordsOf_cons (gpuuid : String) (c : GPUCPEREntry) (cper : List GPUCPEREntry)
    : recordsOf gpuuid (c :: cper)
        = (if uuidToString c.gpu = gpuuid then c.cperEntry else []) ++ recordsOf gpuuid cper := by
  rw [recordsOf, recordsOf, List.filter_cons]
  by_cases hkey : uuidToString c.gpu = gpuuid
  . simp [hkey]
  . simp [hkey]

theorem Rearranged.perm {cper cper' : List GPUCPEREntry} (h : Rearranged cper cper')
    (gpuuid : String) : (recordsOf gpuuid cper).Perm (recordsOf gpuuid cper') := by
  induction h with
  | entries h => exact (h.filter _).flatMap_right _
  | records before after gpu h =>
    rw [recordsOf_append, recordsOf_append, recordsOf_cons, recordsOf_cons]
    refine (List.Perm.refl _).append (List.Perm.append ?_ (List.Perm.refl _))
    split
    . exact h
    . exact List.Perm.refl _
  | split before after h₁ h₂ h =>
    rw [recordsOf_append, recordsOf_append, recordsOf_cons, recordsOf_cons, recordsOf_cons, h₁, h₂, h]
    split
    . rw [List.append_assoc]
    . rfl
  | symm _ ih => exact ih.symm
  | trans _ _ ih ih' => exact ih.trans ih'

/--
Every GPU with records has one with a timestamp, and no two records of a GPU have the same.
-/
structure Stamped (time : Time) (cper : List GPUCPEREntry) : Prop where
  exists_timestamp : ∀ gpuuid, recordsOf gpuuid cper ≠ [] →
    ∃ record ∈ recordsOf gpuuid cper, parseCPERRecordTimestamp time record ≠ none
  distinct : ∀ gpuuid, ((recordsOf gpuuid cper).filterMap (parseCPERRecordTimestamp time)).Nodup

theorem Stamped.latest_eq {time : Time} {cper cper' : List GPUCPEREntry} (h : Stamped time cper)
    (hrearranged : Rearranged cper cper') (gpuuid : String)
    : latest (parseCPERRecordTimestamp time) (recordsOf gpuuid cper)
        = latest (parseCPERRecordTimestamp time) (recordsOf gpuuid cper') := by
  have hperm := hrearranged.perm gpuuid
  by_cases hnil : recordsOf gpuuid cper = []
  . rw [hnil] at hperm
    rw [hnil, List.nil_perm.mp hperm]
  . exact latest_perm hperm (h.exists_timestamp gpuuid hnil) (h.distinct gpuuid)

end Arrangement

section Instances

theorem latestCPERPerGPU_isLatest (time : Time) (gpuCpers : GPUCPERGetResponse)
    : (∀ gpuuid, gpuuid ∈ latestCPERPerGPU time gpuCpers ↔
          ∃ c ∈ gpuCpers.cper, uuidToString c.gpu = gpuuid ∧ c.cperEntry ≠ []) ∧
        (∀ gpuuid record, (latestCPERPerGPU time gpuCpers).lookup gpuuid = some record ↔
          IsLatest (parseCPERRecordTimestamp time) (recordsOf gpuuid gpuCpers.cper) record) ∧
        ∀ gpuCpers' : GPUCPERGetResponse, Rearranged gpuCpers.cper gpuCpers'.cper →
          Stamped time gpuCpers.cper → ∀ gpuuid,
            (latestCPERPerGPU time gpuCpers).lookup gpuuid
              = (latestCPERPerGPU time gpuCpers').lookup gpuuid := by
  refine ⟨?_, ?_, ?_⟩
  . intro gpuuid
    rw [← AList.lookup_isSome, lookup_latestCPERPerGPU, Option.isSome_iff_ne_none, ne_eq,
      latest_eq_none_iff, recordsOf_eq_nil_iff]
    push Not
    rfl
  . intro gpuuid record
    rw [lookup_latestCPERPerGPU, latest_eq_some_iff]
  . intro gpuCpers' hrearranged hstamped gpuuid
    rw [lookup_latestCPERPerGPU, lookup_latestCPERPerGPU, hstamped.latest_eq hrearranged]

def lengthTime : Time where
  parseDuration _ := none
  parseInLocation timestamp := some timestamp.length
  now _ := 0

def twoReports : GPUCPERGetResponse where
  apiStatus := 0
  cper :=
    [⟨[7], [⟨"old", .FATAL, "1"⟩, ⟨"new", .NONE, "10"⟩]⟩, ⟨[8], [⟨"other", .FATAL, "100"⟩]⟩]

theorem stamped_twoReports : Stamped lengthTime twoReports.cper where
  exists_timestamp gpuuid h := by
    rcases List.exists_mem_of_ne_nil _ h with ⟨record, hrecord⟩
    refine ⟨record, hrecord, ?_⟩
    rcases List.mem_flatMap.mp hrecord with ⟨c, hc, hmem⟩
    have hstamped : ∀ c ∈ twoReports.cper, ∀ record ∈ c.cperEntry,
        parseCPERRecordTimestamp lengthTime record ≠ none := by
      decide
    exact hstamped c (List.mem_filter.mp hc).1 record hmem
  distinct gpuuid := by
    by_cases h : uuidToString [7] = gpuuid
    . subst h
      decide
    . by_cases h' : uuidToString [8] = gpuuid
      . subst h'
        decide
      . simp [recordsOf, twoReports, h, h']

/--
The response in which the second GPU comes first.
-/
theorem latestCPERPerGPU_isLatest_twoReports
    : ∀ gpuuid, (latestCPERPerGPU lengthTime twoReports).lookup gpuuid
        = (latestCPERPerGPU lengthTime { twoReports with cper := twoReports.cper.reverse }).lookup gpuuid :=
  (latestCPERPerGPU_isLatest lengthTime twoReports).2.2 { twoReports with cper := twoReports.cper.reverse }
    (.entries (List.reverse_perm _).symm) stamped_twoReports

/--
A record without a timestamp does not replace one with a timestamp, in whichever entry it comes.
-/
example : (latestCPERPerGPU ⟨fun _ => none, fun ts => some ts.length, fun _ => 0⟩
    ⟨0, [⟨[7], [⟨"old", .FATAL, "1"⟩, ⟨"new", .NONE, "10"⟩]⟩, ⟨[7], [⟨"last", .FATAL, ""⟩]⟩]⟩).lookup
      (uuidToString [7]) = some ⟨"new", .NONE, "10"⟩ := by
  decide

end Instances

end GPUAgent
