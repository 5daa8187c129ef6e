import DeviceMetricsExporter.Lib.RangeOrder
import DeviceMetricsExporter.Testrunner.Impl.Recovery
import DeviceMetricsExporter.Testrunner.Lemmas.StatusDB

/-!
This module contains when the test runner recovers the status of every GPU after a restart, in whatever
order the loops visit the status DB.
-/

namespace Testrunner

open GoMap

/--
The maps that `generateKFDIDMapping` builds, if no two GPUs have the same KFD id.
-/
structure GPUMapping where
  gpuIndexToKFDID : GoMap String String
  kfdIDToIndex : GoMap String String
  inverse : ∀ index kfdID,
    gpuIndexToKFDID.lookup index = some kfdID ↔ kfdIDToIndex.lookup kfdID = some index

namespace GPUMapping

variable (mapping : GPUMapping)

def owner (id : String) : Option String :=
  match mapping.gpuIndexToKFDID.lookup id with
  | some _ => some id
  | none => mapping.kfdIDToIndex.lookup id

variable {mapping}

theorem owner_of_index {id : String} (h : (mapping.gpuIndexToKFDID.lookup id).isSome)
    : mapping.owner id = some id := by
  rcases Option.isSome_iff_exists.mp h with ⟨kfdID, hkfdID⟩
  simp only [owner, hkfdID]

theorem owner_eq_some {id index : String}
    : mapping.owner id = some index
        ↔ (id = index ∧ (mapping.gpuIndexToKFDID.lookup index).isSome)
          ∨ (mapping.gpuIndexToKFDID.lookup id = none
              ∧ mapping.gpuIndexToKFDID.lookup index = some id) := by
  rw [mapping.inverse]
  cases hid : mapping.gpuIndexToKFDID.lookup id with
  | some kfdID =>
    simp only [owner, hid, Option.some.injEq]
    constructor
    . rintro rfl
      simp [hid]
    . rintro (⟨hindex, -⟩ | ⟨hnone, -⟩)
      . exact hindex
      . cases hnone
  | none =>
    simp only [owner, hid, true_and]
    constructor
    . exact Or.inr
    . rintro (⟨rfl, hindex⟩ | hindex)
      . simp [hid] at hindex
      . exact hindex

theorem isSome_of_owner {id index : String} (h : mapping.owner id = some index)
    : (mapping.gpuIndexToKFDID.lookup index).isSome := by
  rcases owner_eq_some.mp h with ⟨-, hindex⟩ | ⟨-, hindex⟩
  . exact hindex
  . simp [hindex]

end GPUMapping

section Transform

variable (mapping : GPUMapping)

def ownedEntry (e : Sigma fun _ : String => String) : Option (String × String) :=
  (mapping.owner e.1).map fun index => (index, e.2)

theorem transformEntry_eq (newTestStatus : GoMap String String) (e : Sigma fun _ : String => String)
    : transformEntry mapping.kfdIDToIndex mapping.gpuIndexToKFDID newTestStatus e
        = (match mapping.owner e.1 with
          | some index => newTestStatus.insert index e.2
          | none => newTestStatus) := by
  unfold transformEntry GPUMapping.owner
  cases mapping.gpuIndexToKFDID.lookup e.1 with
  | some kfdID => rfl
  | none => rfl

theorem transformTestStatus_eq (testStatus : GoMap String String)
    : transformTestStatus mapping.kfdIDToIndex mapping.gpuIndexToKFDID testStatus
        = insertEach ∅ (testStatus.entries.filterMap (ownedEntry mapping)) (·.1) (·.2) := by
  rw [insertEach, List.foldl_filterMap]
  unfold transformTestStatus
  congr 1
  funext newTestStatus e
  rw [transformEntry_eq, ownedEntry]
  cases mapping.owner e.1 with
  | some index => rfl
  | none => rfl

variable {mapping} {testStatus : GoMap String String} {index : String}

theorem mem_ownedEntries {status : String}
    : (index, status) ∈ testStatus.entries.filterMap (ownedEntry mapping)
        ↔ ∃ id, testStatus.lookup id = some status ∧ mapping.owner id = some index := by
  rw [List.mem_filterMap]
  constructor
  . rintro ⟨e, he, howned⟩
    rcases Option.map_eq_some_iff.mp howned with ⟨index', howner, heq⟩
    cases heq
    exact ⟨e.1, AList.mem_lookup_iff.mpr he, howner⟩
  . rintro ⟨id, hid, howner⟩
    refine ⟨⟨id, status⟩, AList.mem_lookup_iff.mp hid, ?_⟩
    simp [ownedEntry, howner]

theorem exists_of_lookup_transformTestStatus {status : String}
    (h : (transformTestStatus mapping.kfdIDToIndex mapping.gpuIndexToKFDID testStatus).lookup index
      = some status)
    : ∃ id, testStatus.lookup id = some status ∧ mapping.owner id = some index := by
  rw [transformTestStatus_eq, lookup_insertEach_empty] at h
  rcases Option.map_eq_some_iff.mp h with ⟨⟨index', status'⟩, hlast, rfl⟩
  rcases mem_of_lastWith _ hlast with ⟨hmem, rfl⟩
  exact mem_ownedEntries.mp hmem

theorem isSome_lookup_transformTestStatus
    : ((transformTestStatus mapping.kfdIDToIndex mapping.gpuIndexToKFDID testStatus).lookup index).isSome
        ↔ ∃ id, (testStatus.lookup id).isSome ∧ mapping.owner id = some index := by
  constructor
  . intro h
    rcases Option.isSome_iff_exists.mp h with ⟨status, hstatus⟩
    rcases exists_of_lookup_transformTestStatus hstatus with ⟨id, hid, howner⟩
    exact ⟨id, Option.isSome_of_eq_some hid, howner⟩
  . rintro ⟨id, hid, howner⟩
    rcases Option.isSome_iff_exists.mp hid with ⟨status, hstatus⟩
    rw [AList.lookup_isSome, transformTestStatus_eq, mem_insertEach_empty]
    exact ⟨_, mem_ownedEntries.mpr ⟨id, hstatus, howner⟩, rfl⟩

theorem lookup_transformTestStatus_of_agree {id status : String}
    (hid : testStatus.lookup id = some status) (howner : mapping.owner id = some index)
    (hagree : ∀ id' status', testStatus.lookup id' = some status' → mapping.owner id' = some index
      → status' = status)
    : (transformTestStatus mapping.kfdIDToIndex mapping.gpuIndexToKFDID testStatus).lookup index
        = some status := by
  have hsome := isSome_lookup_transformTestStatus.mpr ⟨id, Option.isSome_of_eq_some hid, howner⟩
  rcases Option.isSome_iff_exists.mp hsome with ⟨status', hstatus'⟩
  rcases exists_of_lookup_transformTestStatus hstatus' with ⟨id', hid', howner'⟩
  rw [hstatus', hagree id' status' hid' howner']

theorem exists_perm_lookup_transformTestStatus {id status : String}
    (hid : testStatus.lookup id = some status) (howner : mapping.owner id = some index)
    : ∃ testStatus' : GoMap String String, testStatus'.entries.Perm testStatus.entries
        ∧ (transformTestStatus mapping.kfdIDToIndex mapping.gpuIndexToKFDID testStatus').lookup index
          = some status := by
  rcases exists_perm_last testStatus (AList.mem_lookup_iff.mp hid) with ⟨testStatus', hperm, es, hentries⟩
  refine ⟨testStatus', hperm, ?_⟩
  rw [transformTestStatus, hentries, List.foldl_append, List.foldl_cons, List.foldl_nil,
    transformEntry_eq]
  simp only [howner, AList.lookup_insert]

end Transform

section Scan

variable (mapping : GPUMapping)

/--
`watchGPUState` takes the id for one of a GPU that is no longer there.
-/
def GPUMapping.expired (id : String) : Bool :=
  (mapping.gpuIndexToKFDID.lookup id).isNone && (mapping.kfdIDToIndex.lookup id).isNone

theorem GPUMapping.not_expired_of_index {mapping : GPUMapping} {id : String}
    (h : (mapping.gpuIndexToKFDID.lookup id).isSome) : mapping.expired id = false := by
  rcases Option.isSome_iff_exists.mp h with ⟨kfdID, hkfdID⟩
  simp [expired, hkfdID]

theorem testStatus_visit (s : StartupScan) (e : Sigma fun _ : String => String)
    : (s.visit mapping.gpuIndexToKFDID mapping.kfdIDToIndex e).testStatus
        = if mapping.expired e.1 then s.testStatus.erase e.1 else s.testStatus := by
  unfold StartupScan.visit GPUMapping.expired
  split
  . rfl
  . split
    . rfl
    . rfl

theorem mem_ids_visit {s : StartupScan} {e : Sigma fun _ : String => String} {id : String}
    : id ∈ (s.visit mapping.gpuIndexToKFDID mapping.kfdIDToIndex e).ids
        ↔ id ∈ s.ids ∨ (mapping.expired id = false ∧ e = ⟨id, testRunning⟩) := by
  rcases e with ⟨id', status⟩
  unfold StartupScan.visit
  split
  . next hexpired => grind [GPUMapping.expired]
  . next hexpired =>
    split
    . next hrunning => grind [GPUMapping.expired]
    . next hrunning => grind

theorem updateStatusDB_visit (s : StartupScan) (e : Sigma fun _ : String => String)
    : (s.visit mapping.gpuIndexToKFDID mapping.kfdIDToIndex e).updateStatusDB
        = (mapping.expired e.1 || s.updateStatusDB) := by
  unfold StartupScan.visit GPUMapping.expired
  split
  . next hexpired => simp [hexpired]
  . next hexpired =>
    rw [Bool.not_eq_true] at hexpired
    rw [hexpired, Bool.false_or]
    split
    . rfl
    . rfl

def scan (s : StartupScan) (es : List (Sigma fun _ : String => String)) : StartupScan :=
  es.foldl (StartupScan.visit mapping.gpuIndexToKFDID mapping.kfdIDToIndex) s

variable {mapping} {s : StartupScan} {es : List (Sigma fun _ : String => String)}

theorem scan_cons (e : Sigma fun _ : String => String)
    : scan mapping s (e :: es)
        = scan mapping (s.visit mapping.gpuIndexToKFDID mapping.kfdIDToIndex e) es := by
  rfl

theorem mem_ids_scan {id : String}
    : id ∈ (scan mapping s es).ids
        ↔ id ∈ s.ids ∨ (mapping.expired id = false ∧ ⟨id, testRunning⟩ ∈ es) := by
  induction es generalizing s with
  | nil => simp [scan]
  | cons e es ih =>
    rw [scan_cons, ih, mem_ids_visit, List.mem_cons, eq_comm (a := e), or_assoc, ← and_or_left]

theorem lookup_scan (id : String)
    : (scan mapping s es).testStatus.lookup id
        = if mapping.expired id ∧ id ∈ es.keys then none else s.testStatus.lookup id := by
  induction es generalizing s with
  | nil => simp [scan]
  | cons e es ih =>
    rw [scan_cons, ih, testStatus_visit, List.keys_cons]
    by_cases hid : id = e.1
    . subst hid
      by_cases hexpired : mapping.expired e.1
      . simp [hexpired]
      . simp [hexpired]
    . by_cases hexpired : mapping.expired e.1
      . simp [hexpired, hid]
      . simp [hexpired, hid]

theorem not_expired_of_not_updateStatusDB (h : (scan mapping s es).updateStatusDB = false)
    : s.updateStatusDB = false ∧ ∀ id ∈ es.keys, mapping.expired id = false := by
  induction es generalizing s with
  | nil => simpa [scan] using h
  | cons e es ih =>
    rw [scan_cons] at h
    rcases ih h with ⟨hupdate, hrest⟩
    rw [updateStatusDB_visit, Bool.or_eq_false_iff] at hupdate
    refine ⟨hupdate.2, ?_⟩
    rw [List.keys_cons, List.forall_mem_cons]
    exact ⟨hupdate.1, hrest⟩

theorem startupScan_eq {db : StatusFile} {testStatus : GoMap String String}
    (h : (loadRunnerStatus db).1.testStatus = some testStatus)
    : startupScan mapping.gpuIndexToKFDID mapping.kfdIDToIndex db
        = (if (scan mapping { testStatus } testStatus.entries).updateStatusDB then
            saveRunnerStatus ⟨some (scan mapping { testStatus } testStatus.entries).testStatus⟩
          else
            db,
          (scan mapping { testStatus } testStatus.entries).ids) := by
  simp only [startupScan, h]
  rfl

theorem lookup_startupScan (db : StatusFile) (id : String)
    : (startupScan mapping.gpuIndexToKFDID mapping.kfdIDToIndex db).1.lookup id
        = if mapping.expired id then none else db.lookup id := by
  cases hload : (loadRunnerStatus db).1.testStatus with
  | none =>
    have hlookup : db.lookup id = none := by
      simp [StatusFile.lookup, TestRunnerStatus.lookup, hload]
    simp [startupScan, hload, hlookup]
  | some testStatus =>
    have hlookup : db.lookup id = testStatus.lookup id := by
      simp [StatusFile.lookup, TestRunnerStatus.lookup, hload]
    have hkeys : testStatus.lookup id ≠ none → id ∈ testStatus.entries.keys := by
      rw [ne_eq, AList.lookup_eq_none, not_not]
      exact AList.mem_keys.mp
    rw [startupScan_eq hload]
    dsimp only
    split
    . rw [lookup_saveRunnerStatus, TestRunnerStatus.lookup_some, lookup_scan, hlookup]
      grind
    . next hupdate =>
      rw [Bool.not_eq_true] at hupdate
      have hnot := (not_expired_of_not_updateStatusDB hupdate).2
      rw [hlookup]
      grind

theorem mem_startupScan {db : StatusFile} {id : String}
    : id ∈ (startupScan mapping.gpuIndexToKFDID mapping.kfdIDToIndex db).2
        ↔ mapping.expired id = false ∧ db.lookup id = some testRunning := by
  cases hload : (loadRunnerStatus db).1.testStatus with
  | none => simp [startupScan, StatusFile.lookup, TestRunnerStatus.lookup, hload]
  | some testStatus =>
    have hlookup : db.lookup id = testStatus.lookup id := by
      simp [StatusFile.lookup, TestRunnerStatus.lookup, hload]
    rw [startupScan_eq hload, mem_ids_scan, hlookup]
    have hmem : testStatus.lookup id = some testRunning ↔ ⟨id, testRunning⟩ ∈ testStatus.entries :=
      AList.mem_lookup_iff
    simp [hmem]

theorem mem_rerunInterrupted {tr : TestRunner} {db : StatusFile} {ids : List String} {id : String}
    : id ∈ rerunInterrupted tr db ids ↔ id ∈ ids := by
  cases ids with
  | nil => simp [rerunInterrupted]
  | cons id' ids => simp [rerunInterrupted, selectIDs]

end Scan

def TestRunnerStatus.SameEntries (statusObj statusObj' : TestRunnerStatus) : Prop :=
  (statusObj.testStatus.getD ∅).entries.Perm (statusObj'.testStatus.getD ∅).entries

theorem TestRunnerStatus.SameEntries.lookup_eq {statusObj statusObj' : TestRunnerStatus}
    (h : statusObj.SameEntries statusObj') (id : String)
    : statusObj.lookup id = statusObj'.lookup id := by
  rw [← lookup_getD, ← lookup_getD]
  exact AList.perm_lookup h

def StatusFile.SameContent (db db' : StatusFile) : Prop :=
  match db, db' with
  | .readable statusObj, .readable statusObj' => statusObj.SameEntries statusObj'
  | db, db' => db = db'

theorem StatusFile.SameContent.refl (db : StatusFile) : db.SameContent db := by
  cases db with
  | missing => rfl
  | unreadable decoded => rfl
  | readable statusObj => exact List.Perm.refl _

section Recovery

variable (tr : TestRunner) (mapping : GPUMapping)

/--
What the restarted test runner makes of the entries of the old status DB.
-/
structure Recovered (old : TestRunnerStatus) (new : StatusFile) (rerun : List String) : Prop where
  keys : ∀ index,
    (new.lookup index).isSome ↔ ∃ id, (old.lookup id).isSome ∧ mapping.owner id = some index
  running : ∀ id index, old.lookup id = some testRunning → mapping.owner id = some index
    → new.lookup index = some testRunning
  kept : ∀ index, (∀ id, mapping.owner id = some index → old.lookup id ≠ some testRunning)
    → ∀ id status, old.lookup id = some status → mapping.owner id = some index
      → new.lookup index = some status
  rerun : ∀ index, index ∈ rerun ↔ new.lookup index = some testRunning

/--
The loop of `transformRunnerStatus` visits the old entries in the order of `statusObj`, the scan of
`watchGPUState` and a second `transformRunnerStatus` the new ones in the order of `db'`.
-/
def RecoversAfterRestart (old : TestRunnerStatus) : Prop :=
  ∀ statusDBPath (statusObj : TestRunnerStatus), statusObj.SameEntries old →
    ∃ db, transformRunnerStatus statusDBPath mapping.kfdIDToIndex mapping.gpuIndexToKFDID
          (.readable statusObj) = (db, none)
      ∧ ∀ db' : StatusFile, db'.SameContent db →
          (∀ new ids, startupScan mapping.gpuIndexToKFDID mapping.kfdIDToIndex db' = (new, ids)
              → Recovered mapping old new (rerunInterrupted tr new ids))
            ∧ ∃ db'', transformRunnerStatus statusDBPath mapping.kfdIDToIndex mapping.gpuIndexToKFDID db'
                  = (db'', none)
                ∧ ∀ id, db''.lookup id = db.lookup id

/--
No GPU has one status under its index and another one under its KFD id.
-/
def Agree (old : TestRunnerStatus) : Prop :=
  ∀ index kfdID, mapping.gpuIndexToKFDID.lookup index = some kfdID
    → mapping.gpuIndexToKFDID.lookup kfdID = none
    → ∀ status status', old.lookup index = some status → old.lookup kfdID = some status'
      → status = status'

variable {tr mapping} {old statusObj : TestRunnerStatus}

theorem Agree.eq (h : Agree mapping old) {id id' index status status' : String}
    (hid : old.lookup id = some status) (hid' : old.lookup id' = some status')
    (howner : mapping.owner id = some index) (howner' : mapping.owner id' = some index)
    : status = status' := by
  rcases GPUMapping.owner_eq_some.mp howner with ⟨rfl, -⟩ | ⟨hnone, hkfd⟩
  . rcases GPUMapping.owner_eq_some.mp howner' with ⟨rfl, -⟩ | ⟨hnone', hkfd'⟩
    . exact Option.some.inj (hid.symm.trans hid')
    . exact h id id' hkfd' hnone' status status' hid hid'
  . rcases GPUMapping.owner_eq_some.mp howner' with ⟨rfl, -⟩ | ⟨hnone', hkfd'⟩
    . exact (h id' id hkfd hnone status' status hid' hid).symm
    . have hids : id = id' := Option.some.inj (hkfd.symm.trans hkfd')
      subst hids
      exact Option.some.inj (hid.symm.trans hid')

theorem transformRunnerStatus_readable (statusDBPath : String) (statusObj : TestRunnerStatus)
    : transformRunnerStatus statusDBPath mapping.kfdIDToIndex mapping.gpuIndexToKFDID
          (.readable statusObj)
        = (saveRunnerStatus ⟨some (transformTestStatus mapping.kfdIDToIndex mapping.gpuIndexToKFDID
            (statusObj.testStatus.getD ∅))⟩, none) := by
  rfl

theorem transformRunnerStatus_of_error {statusDBPath : String} {db db' : StatusFile}
    {err : TransformError}
    (h : transformRunnerStatus statusDBPath mapping.kfdIDToIndex mapping.gpuIndexToKFDID db
      = (db', some err))
    : db' = db ∧ ∃ loadErr, err = .load statusDBPath loadErr := by
  unfold transformRunnerStatus at h
  split at h
  . next loadErr _ =>
    rw [Prod.mk.injEq, Option.some.injEq] at h
    exact ⟨h.1.symm, loadErr, h.2.symm⟩
  . cases h

def transformedStatus (mapping : GPUMapping) (statusObj : TestRunnerStatus) (index : String)
    : Option String :=
  (transformTestStatus mapping.kfdIDToIndex mapping.gpuIndexToKFDID
    (statusObj.testStatus.getD ∅)).lookup index

theorem transformedStatus_of_agree (h : Agree mapping old) (horder : statusObj.SameEntries old)
    {id index status : String} (hid : old.lookup id = some status)
    (howner : mapping.owner id = some index)
    : transformedStatus mapping statusObj index = some status := by
  have hlookup := horder.lookup_eq
  refine lookup_transformTestStatus_of_agree ?_ howner ?_
  . rw [TestRunnerStatus.lookup_getD, hlookup, hid]
  . intro id' status' hid' howner'
    rw [TestRunnerStatus.lookup_getD, hlookup] at hid'
    exact h.eq hid' hid howner' howner

theorem isSome_transformedStatus (horder : statusObj.SameEntries old) {index : String}
    : (transformedStatus mapping statusObj index).isSome
        ↔ ∃ id, (old.lookup id).isSome ∧ mapping.owner id = some index := by
  unfold transformedStatus
  simp only [isSome_lookup_transformTestStatus, TestRunnerStatus.lookup_getD, horder.lookup_eq]

theorem owner_of_transformedStatus {index : String}
    (h : (transformedStatus mapping statusObj index).isSome) : mapping.owner index = some index := by
  rcases isSome_lookup_transformTestStatus.mp h with ⟨id, -, howner⟩
  exact GPUMapping.owner_of_index (GPUMapping.isSome_of_owner howner)

theorem transformedStatus_of_indexes
    (h : ∀ id, (statusObj.lookup id).isSome → mapping.owner id = some id) (index : String)
    : transformedStatus mapping statusObj index = statusObj.lookup index := by
  have hunique {id : String} (hid : (statusObj.lookup id).isSome)
      (howner : mapping.owner id = some index) : id = index := by
    exact Option.some.inj ((h id hid).symm.trans howner)
  unfold transformedStatus
  cases hstatus : statusObj.lookup index with
  | some status =>
    have howner := h index (Option.isSome_of_eq_some hstatus)
    refine lookup_transformTestStatus_of_agree ?_ howner ?_
    . rw [TestRunnerStatus.lookup_getD, hstatus]
    . intro id status' hid howner'
      rw [TestRunnerStatus.lookup_getD] at hid
      rw [hunique (Option.isSome_of_eq_some hid) howner', hstatus] at hid
      exact (Option.some.inj hid).symm
  | none =>
    rw [← Option.not_isSome_iff_eq_none, isSome_lookup_transformTestStatus]
    rintro ⟨id, hid, howner⟩
    rw [TestRunnerStatus.lookup_getD] at hid
    rw [hunique hid howner, hstatus] at hid
    cases hid

theorem exists_of_sameContent {db : StatusFile} {testStatus : GoMap String String}
    (h : db.SameContent (saveRunnerStatus ⟨some testStatus⟩))
    : ∃ statusObj, db = .readable statusObj ∧ ∀ id, statusObj.lookup id = testStatus.lookup id := by
  have hsave : ∃ statusObj, saveRunnerStatus ⟨some testStatus⟩ = .readable statusObj := by
    unfold saveRunnerStatus
    dsimp only
    split
    . exact ⟨_, rfl⟩
    . exact ⟨_, rfl⟩
  rcases hsave with ⟨saved, hsaved⟩
  have hlookup (id : String) : saved.lookup id = testStatus.lookup id := by
    have := lookup_saveRunnerStatus ⟨some testStatus⟩ id
    rw [hsaved] at this
    exact this
  rw [hsaved] at h
  cases db with
  | missing => cases h
  | unreadable decoded => cases h
  | readable statusObj => exact ⟨statusObj, rfl, fun id => (h.lookup_eq id).trans (hlookup id)⟩

variable (mapping statusObj) in
/--
No id of the transformed DB is expired, so that the scan only looks for interrupted tests.
-/
theorem startupScan_of_transformed (db : StatusFile)
    (h : ∀ id, db.lookup id = transformedStatus mapping statusObj id)
    : (∀ id, (startupScan mapping.gpuIndexToKFDID mapping.kfdIDToIndex db).1.lookup id
          = transformedStatus mapping statusObj id)
      ∧ ∀ id, id ∈ (startupScan mapping.gpuIndexToKFDID mapping.kfdIDToIndex db).2
          ↔ transformedStatus mapping statusObj id = some testRunning := by
  have hexpired {id : String} (hid : (transformedStatus mapping statusObj id).isSome)
      : mapping.expired id = false := by
    apply GPUMapping.not_expired_of_index
    exact GPUMapping.isSome_of_owner (owner_of_transformedStatus hid)
  constructor
  . intro id
    rw [lookup_startupScan, h]
    cases hid : transformedStatus mapping statusObj id with
    | none => simp
    | some status => simp [hexpired (Option.isSome_of_eq_some hid)]
  . intro id
    rw [mem_startupScan, h]
    constructor
    . exact And.right
    . intro hid
      exact ⟨hexpired (Option.isSome_of_eq_some hid), hid⟩

theorem recovered_of_agree {new : StatusFile} {ids : List String} (h : Agree mapping old)
    (horder : statusObj.SameEntries old)
    (hnew : ∀ id, new.lookup id = transformedStatus mapping statusObj id)
    (hids : ∀ id, id ∈ ids ↔ transformedStatus mapping statusObj id = some testRunning)
    : Recovered mapping old new (rerunInterrupted tr new ids) where
  keys index := by rw [hnew, isSome_transformedStatus horder]
  running id index hid howner := by rw [hnew, transformedStatus_of_agree h horder hid howner]
  kept index _ id status hid howner := by rw [hnew, transformedStatus_of_agree h horder hid howner]
  rerun index := by rw [mem_rerunInterrupted, hids, hnew]

theorem recoversAfterRestart_of_agree (h : Agree mapping old)
    : RecoversAfterRestart tr mapping old := by
  intro statusDBPath statusObj horder
  refine ⟨_, transformRunnerStatus_readable statusDBPath statusObj, ?_⟩
  intro db' hcontent
  rcases exists_of_sameContent hcontent with ⟨statusObj', rfl, hlookup⟩
  have hscan := startupScan_of_transformed mapping statusObj (.readable statusObj') hlookup
  refine ⟨?_, _, transformRunnerStatus_readable statusDBPath statusObj', ?_⟩
  . intro new ids hnew
    rw [hnew] at hscan
    apply recovered_of_agree h horder hscan.1 hscan.2
  . intro id
    rw [lookup_saveRunnerStatus, lookup_saveRunnerStatus, TestRunnerStatus.lookup_some,
      TestRunnerStatus.lookup_some, ← hlookup]
    apply transformedStatus_of_indexes
    intro id' hid'
    rw [hlookup] at hid'
    exact owner_of_transformedStatus hid'

theorem exists_recovered (h : RecoversAfterRestart tr mapping old) {id index status : String}
    (hid : old.lookup id = some status) (howner : mapping.owner id = some index)
    : ∃ new rerun, Recovered mapping old new rerun ∧ new.lookup index = some status := by
  -- the run in which the entry of `id` comes last
  rw [← TestRunnerStatus.lookup_getD] at hid
  rcases exists_perm_lookup_transformTestStatus hid howner with ⟨testStatus, hperm, hlookup⟩
  rcases h "" ⟨some testStatus⟩ hperm with ⟨db, hdb, hrest⟩
  have hdblookup (id : String) : db.lookup id = transformedStatus mapping ⟨some testStatus⟩ id := by
    rw [transformRunnerStatus_readable, Prod.mk.injEq] at hdb
    rw [← hdb.1]
    exact lookup_saveRunnerStatus _ id
  have hscan := startupScan_of_transformed mapping ⟨some testStatus⟩ db hdblookup
  have hrecovered := (hrest db (.refl db)).1
  cases hnew : startupScan mapping.gpuIndexToKFDID mapping.kfdIDToIndex db with
  | mk new ids =>
    refine ⟨new, _, hrecovered new ids hnew, ?_⟩
    rw [hnew] at hscan
    rw [hscan.1]
    exact hlookup

theorem agree_of_recoversAfterRestart (h : RecoversAfterRestart tr mapping old)
    : Agree mapping old := by
  intro index kfdID hkfd hnone status status' hindex hkfdID
  have howner : mapping.owner index = some index :=
    GPUMapping.owner_of_index (Option.isSome_of_eq_some hkfd)
  have howner' : mapping.owner kfdID = some index := GPUMapping.owner_eq_some.mpr (.inr ⟨hnone, hkfd⟩)
  rcases exists_recovered h hindex howner with ⟨new, rerun, hnew, hstatus⟩
  rcases exists_recovered h hkfdID howner' with ⟨new', rerun', hnew', hstatus'⟩
  by_cases hrunning : ∃ id, mapping.owner id = some index ∧ old.lookup id = some testRunning
  . -- the status is running in both runs, whichever entry comes last
    rcases hrunning with ⟨id, hid, hrunning⟩
    rw [hnew.running id index hrunning hid] at hstatus
    rw [hnew'.running id index hrunning hid] at hstatus'
    exact Option.some.inj (hstatus.symm.trans hstatus')
  . have hother : ∀ id, mapping.owner id = some index → old.lookup id ≠ some testRunning := by
      intro id hid hlookup
      apply hrunning ⟨id, hid, hlookup⟩
    have hkept := hnew.kept index hother kfdID status' hkfdID howner'
    exact Option.some.inj (hstatus.symm.trans hkept)

variable (tr mapping old) in
theorem recoversAfterRestart_iff : RecoversAfterRestart tr mapping old ↔ Agree mapping old := by
  constructor
  . exact agree_of_recoversAfterRestart
  . exact recoversAfterRestart_of_agree

end Recovery

section Instances

def twoGPUs : GPUMapping where
  gpuIndexToKFDID := AList.insert "0" "26371" (AList.insert "1" "51235" ∅)
  kfdIDToIndex := AList.insert "26371" "0" (AList.insert "51235" "1" ∅)
  inverse index kfdID := by
    simp only [lookup_insert_eq_ite, AList.lookup_empty]
    grind

theorem not_recoversAfterRestart : ¬∀ tr mapping old, RecoversAfterRestart tr mapping old := by
  -- the test of GPU 0 was interrupted, but there is also a completed test under its index
  intro h
  have := agree_of_recoversAfterRestart
    (h { testTrigger := .AUTO_UNHEALTHY_GPU_WATCH, gpuIndexes := ["0", "1"] } twoGPUs
      { testStatus := some (AList.insert "0" "completed" (AList.insert "26371" "running" ∅)) })
    "0" "26371" (by decide) (by decide) "completed" "running" (by decide) (by decide)
  revert this
  decide

end Instances

end Testrunner
