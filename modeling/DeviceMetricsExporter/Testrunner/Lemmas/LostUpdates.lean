import DeviceMetricsExporter.Testrunner.Lemmas.Calls

/-!
This module contains the comparison of interleaved calls on the status DB with the same calls run one
after another, for calls that work on disjoint sets of GPUs.
-/

namespace Testrunner

namespace Request

def Selects (tr : TestRunner) (r : Request) (cur : Option String) (id : String) : Prop :=
  match r with
  | .testGPU ids isRerun => id ∈ r.touched tr ∧ (ids.isEmpty ∨ isRerun ∨ cur = none)
  | .updateStatusDBAfterTestRun validIDs => id ∈ validIDs
  | .cleanupHealthyGPUTestStatus _ => False

instance (tr : TestRunner) (r : Request) (cur : Option String) (id : String)
    : Decidable (r.Selects tr cur id) :=
  match r with
  | .testGPU ids isRerun =>
    inferInstanceAs (Decidable (id ∈ (testGPU ids isRerun).touched tr ∧ (_ ∨ _ ∨ _)))
  | .updateStatusDBAfterTestRun validIDs => inferInstanceAs (Decidable (id ∈ validIDs))
  | .cleanupHealthyGPUTestStatus _ => inferInstanceAs (Decidable False)

def effect (tr : TestRunner) (r : Request) (cur : Option String) (id : String) : Option String :=
  match r with
  | .cleanupHealthyGPUTestStatus ids => cleanedUp ids cur id
  | _ => if r.Selects tr cur id then some testCompleted else cur

theorem mem_touched_of_selects {tr : TestRunner} {r : Request} {cur : Option String} {id : String}
    (h : r.Selects tr cur id) : id ∈ r.touched tr := by
  cases r with
  | testGPU => exact h.1
  | updateStatusDBAfterTestRun => exact h
  | cleanupHealthyGPUTestStatus => exact h.elim

theorem effect_of_not_mem_touched {tr : TestRunner} {r : Request} {id : String}
    (h : id ∉ r.touched tr) (cur : Option String) : r.effect tr cur id = cur := by
  have hsel : ¬ r.Selects tr cur id := fun hs => h (mem_touched_of_selects hs)
  cases r with
  | testGPU => simp [effect, hsel]
  | updateStatusDBAfterTestRun => simp [effect, hsel]
  | cleanupHealthyGPUTestStatus ids =>
    have : id ∉ ids := h
    simp [effect, cleanedUp, this]

theorem mem_selectIDs_iff_selects {tr : TestRunner} {statusObj : TestRunnerStatus}
    {ids validIDs : List String} {isRerun : Bool}
    (h : selectIDs tr statusObj ids isRerun = some validIDs) (cur : String → Option String)
    (hcur : ∀ id ∈ (testGPU ids isRerun).touched tr, statusObj.lookup id = cur id) (id : String)
    : id ∈ validIDs ↔ (testGPU ids isRerun).Selects tr (cur id) id := by
  have hmem := mem_of_selectIDs h id
  have hcur := hcur id
  simp only [Selects, touched] at hcur ⊢
  split at hmem
  . next hempty => simp [hempty, hmem]
  . next hne =>
    simp only [hne, Bool.false_eq_true, ↓reduceIte, false_or] at hcur ⊢
    rw [hmem]
    constructor
    . rintro ⟨hid, hor⟩
      rw [hcur hid] at hor
      exact ⟨hid, hor⟩
    . rintro ⟨hid, hor⟩
      rw [← hcur hid] at hor
      exact ⟨hid, hor⟩

theorem not_selects_of_selectIDs_eq_none {tr : TestRunner} {statusObj : TestRunnerStatus}
    {ids : List String} {isRerun : Bool} (h : selectIDs tr statusObj ids isRerun = none)
    {cur : Option String} {id : String} (hcur : statusObj.lookup id = cur)
    : ¬ (testGPU ids isRerun).Selects tr cur id := by
  rcases selectIDs_eq_none h with ⟨hids, rfl, hall⟩
  rintro ⟨htouched, hor⟩
  simp only [touched, hids, Bool.false_eq_true, ↓reduceIte] at htouched
  simp only [hids, Bool.false_eq_true, false_or] at hor
  apply hall id htouched (hcur.trans hor)

theorem lookup_run {tr : TestRunner} (htrigger : tr.testTrigger = .AUTO_UNHEALTHY_GPU_WATCH)
    {r : Request} {db db' : StatusFile} (h : r.run tr db = some db') (id : String)
    : db'.lookup id = r.effect tr (db.lookup id) id := by
  cases r with
  | testGPU ids isRerun =>
    simp only [run, Testrunner.testGPU] at h
    split at h
    . next hnone =>
      have hsel : ¬ (testGPU ids isRerun).Selects tr (db.lookup id) id :=
        not_selects_of_selectIDs_eq_none hnone rfl
      simp only [Option.some.injEq] at h
      subst h
      simp only [effect, hsel, ↓reduceIte]
      split
      . next hmissing => simp [loadRunnerStatus_of_notExist hmissing]
      . rfl
    . next validIDs hsome =>
      have hmem := mem_selectIDs_iff_selects hsome db.lookup (fun _ _ => rfl) id
      rcases Option.map_eq_some_iff.mp h with ⟨statusObj, hupdate, rfl⟩
      have hsaved := lookup_saveRunnerStatus (markRunning
        (removeIDsWithExistingTest (loadRunnerStatus db).1 ids isRerun).2 validIDs) id
      rw [lookup_saveRunnerStatus, lookup_updateStatusDBAfterTestRun htrigger hupdate]
      simp only [effect, hmem]
      split
      . rfl
      . next hnot =>
        rw [← hmem] at hnot
        simp only [lookup_markRunning, hnot, ↓reduceIte, removeIDsWithExistingTest,
          TestRunnerStatus.lookup_getD] at hsaved
        exact hsaved
  | updateStatusDBAfterTestRun validIDs =>
    rcases Option.map_eq_some_iff.mp h with ⟨statusObj, hupdate, rfl⟩
    rw [lookup_saveRunnerStatus, lookup_updateStatusDBAfterTestRun htrigger hupdate]
    rfl
  | cleanupHealthyGPUTestStatus ids =>
    simp only [run] at h
    split at h
    . next hclean =>
      cases h
      rw [lookup_saveRunnerStatus, lookup_cleanupHealthyGPUTestStatus hclean]
      rfl
    . next hclean =>
      cases h
      exact (cleanedUp_of_cleanupHealthyGPUTestStatus_eq_none hclean id).symm

def DisjointIDs (tr : TestRunner) (r r' : Request) : Prop :=
  ∀ id ∈ r.touched tr, id ∉ r'.touched tr

theorem lookup_runAll_of_not_mem_touched {tr : TestRunner}
    (htrigger : tr.testTrigger = .AUTO_UNHEALTHY_GPU_WATCH) {rs : List Request} {db db' : StatusFile}
    (h : runAll tr rs db = some db') {id : String} (hid : ∀ r ∈ rs, id ∉ r.touched tr)
    : db'.lookup id = db.lookup id := by
  induction rs generalizing db with
  | nil =>
    cases h
    rfl
  | cons r rs ih =>
    simp only [runAll, List.foldlM_cons, Option.bind_eq_bind, Option.bind_eq_some_iff] at h
    rcases h with ⟨db₁, hrun, hrest⟩
    rw [ih hrest (fun r' hr' => hid r' (List.mem_cons_of_mem r hr')), lookup_run htrigger hrun]
    apply effect_of_not_mem_touched (hid r List.mem_cons_self) _

theorem lookup_runAll_of_mem {tr : TestRunner}
    (htrigger : tr.testTrigger = .AUTO_UNHEALTHY_GPU_WATCH) {rs : List Request} {db db' : StatusFile}
    (hdisjoint : rs.Pairwise (DisjointIDs tr)) (h : runAll tr rs db = some db') {r : Request}
    (hr : r ∈ rs) {id : String} (hid : id ∈ r.touched tr)
    : db'.lookup id = r.effect tr (db.lookup id) id := by
  induction rs generalizing db with
  | nil => simp at hr
  | cons r' rs ih =>
    simp only [runAll, List.foldlM_cons, Option.bind_eq_bind, Option.bind_eq_some_iff] at h
    rcases h with ⟨db₁, hrun, hrest⟩
    rw [List.pairwise_cons] at hdisjoint
    rcases List.mem_cons.mp hr with rfl | hr
    . rw [lookup_runAll_of_not_mem_touched htrigger hrest, lookup_run htrigger hrun]
      intro r' hr' hid'
      apply hdisjoint.1 r' hr' id hid hid'
    . have hid' : id ∉ r'.touched tr := fun hid' => hdisjoint.1 r hr id hid' hid
      rw [ih hdisjoint.2 hrest hr, lookup_run htrigger hrun, effect_of_not_mem_touched hid']

theorem DisjointIDs.symm {tr : TestRunner} {r r' : Request} (h : DisjointIDs tr r r')
    : DisjointIDs tr r' r :=
  fun id hid hid' => h id hid' hid

end Request

def Call.updatesNilMap (db : StatusFile) (c : Call) : Bool :=
  match c.request, c.phase with
  | .updateStatusDBAfterTestRun _, .running validIDs =>
    !validIDs.isEmpty && (loadRunnerStatus db).1.testStatus.isNone
  | _, _ => false

/--
The step of a call that nobody disturbed between its load and its save.
-/
def Pool.Undisturbed (s : Pool) (a : Action) : Prop :=
  match a with
  | .call i =>
    match s.calls[i]? with
    | some c => c.Unraced s.db ∧ c.updatesNilMap s.db = false
    | none => True
  | _ => False

instance (s : Pool) (a : Action) : Decidable (s.Undisturbed a) :=
  match a with
  | .call i =>
    match h : s.calls[i]? with
    | some c =>
      decidable_of_iff (c.Unraced s.db ∧ c.updatesNilMap s.db = false) (by simp [Pool.Undisturbed, h])
    | none => .isTrue (by simp [Pool.Undisturbed, h])
  | .tick _ => .isFalse id
  | .signal _ => .isFalse id

namespace Call

def expected (tr : TestRunner) (c : Call) (init : Option String) (id : String) : Option String :=
  match c.phase, c.request with
  | .finished, r => r.effect tr init id
  | .running validIDs, .testGPU _ _ | .updating _ validIDs _, .testGPU _ _ =>
    if id ∈ validIDs then some testRunning else init
  | _, _ => init

/--
The ids a call has selected are those it selects from the DB at first, and the map it is about to
write them into is not nil.
-/
inductive Tracked (tr : TestRunner) (db₀ : StatusFile) : Call → Prop where
  | idle {r : Request} : Tracked tr db₀ ⟨r, .idle⟩
  | creating {r : Request} {statusObj : TestRunnerStatus} : Tracked tr db₀ ⟨r, .creating statusObj⟩
  | selected {r : Request} {loaded : StatusFile} {testStatus : GoMap String String}
    {validIDs : List String} (h : ∀ id, id ∈ validIDs ↔ r.Selects tr (db₀.lookup id) id)
    : Tracked tr db₀ ⟨r, .selected loaded testStatus validIDs⟩
  | started {r : Request} {loaded : StatusFile} {testStatus : GoMap String String}
    {validIDs : List String} (h : ∀ id, id ∈ validIDs ↔ r.Selects tr (db₀.lookup id) id)
    : Tracked tr db₀ ⟨r, .started loaded testStatus validIDs⟩
  | running {r : Request} {validIDs : List String}
    (h : ∀ id, id ∈ validIDs ↔ r.Selects tr (db₀.lookup id) id)
    : Tracked tr db₀ ⟨r, .running validIDs⟩
  | updating {r : Request} {loaded : StatusFile} {validIDs : List String}
    (h : ∀ id, id ∈ validIDs ↔ r.Selects tr (db₀.lookup id) id)
    (hmap : (loadRunnerStatus loaded).1.testStatus = none → validIDs = [])
    : Tracked tr db₀ ⟨r, .updating loaded validIDs testCompleted⟩
  | cleaning {r : Request} {loaded : StatusFile} {statusObj : TestRunnerStatus}
    : Tracked tr db₀ ⟨r, .cleaning loaded statusObj⟩
  | finished {r : Request} : Tracked tr db₀ ⟨r, .finished⟩

theorem tracked_ofRequest (tr : TestRunner) (db₀ : StatusFile) (r : Request)
    : (ofRequest r).Tracked tr db₀ := by
  cases r with
  | testGPU => exact .idle
  | updateStatusDBAfterTestRun => exact .running fun _ => Iff.rfl
  | cleanupHealthyGPUTestStatus => exact .idle

theorem Tracked.ne_panicked {tr : TestRunner} {db₀ : StatusFile} {c : Call} (h : c.Tracked tr db₀)
    : c.phase ≠ .panicked := by
  cases h <;> simp

theorem expected_ofRequest (tr : TestRunner) (r : Request) (init : Option String) (id : String)
    : (ofRequest r).expected tr init id = init := by
  cases r <;> rfl

theorem Tracked.written_of_not_mem_touched {tr : TestRunner} {db₀ : StatusFile} {c : Call}
    (h : c.Tracked tr db₀) {id : String} (hid : id ∉ c.request.touched tr) (cur : Option String)
    : c.written cur id = cur := by
  cases h with
  | @started r _ _ validIDs hsel =>
    have : id ∉ validIDs := fun hmem => hid (Request.mem_touched_of_selects ((hsel id).mp hmem))
    simp [written, this]
  | @updating r _ validIDs hsel =>
    have : id ∉ validIDs := fun hmem => hid (Request.mem_touched_of_selects ((hsel id).mp hmem))
    simp [written, this]
  | @cleaning r =>
    cases r with
    | cleanupHealthyGPUTestStatus ids => exact Request.effect_of_not_mem_touched hid cur
    | _ => rfl
  | _ => rfl

theorem tracked_select {tr : TestRunner} {db₀ : StatusFile} (db : StatusFile)
    {statusObj : TestRunnerStatus} {ids : List String} {isRerun : Bool}
    (hcur : ∀ id ∈ (Request.testGPU ids isRerun).touched tr, statusObj.lookup id = db₀.lookup id)
    : Tracked tr db₀ ⟨.testGPU ids isRerun, select tr db statusObj ids isRerun⟩
        ∧
      ∀ id ∈ (Request.testGPU ids isRerun).touched tr,
        expected tr ⟨.testGPU ids isRerun, select tr db statusObj ids isRerun⟩ (db₀.lookup id) id
          =
        db₀.lookup id := by
  unfold select
  split
  . next hnone =>
    refine ⟨.finished, ?_⟩
    intro id hid
    have := Request.not_selects_of_selectIDs_eq_none hnone (hcur id hid)
    simp [expected, Request.effect, this]
  . next validIDs hsome =>
    refine ⟨.selected (Request.mem_selectIDs_iff_selects hsome db₀.lookup hcur), ?_⟩
    intro id hid
    rfl

theorem validIDs_eq_nil_of_nilMap {tr : TestRunner} {db₀ db : StatusFile} {r : Request}
    {validIDs : List String} (hr : r.isTest)
    (hsel : ∀ id, id ∈ validIDs ↔ r.Selects tr (db₀.lookup id) id)
    (hnil : updatesNilMap db ⟨r, .running validIDs⟩ = false)
    (hcur : ∀ id ∈ r.touched tr,
      db.lookup id = expected tr ⟨r, .running validIDs⟩ (db₀.lookup id) id)
    (hnone : (loadRunnerStatus db).1.testStatus = none) : validIDs = [] := by
  cases r with
  | cleanupHealthyGPUTestStatus => exact hr.elim
  | updateStatusDBAfterTestRun => simpa [updatesNilMap, hnone] using hnil
  | testGPU ids isRerun =>
    -- the map holds the running mark of each selected GPU
    rw [List.eq_nil_iff_forall_not_mem]
    intro id hid
    have hlookup := hcur id (Request.mem_touched_of_selects ((hsel id).mp hid))
    simp only [expected, hid, ↓reduceIte] at hlookup
    apply TestRunnerStatus.testStatus_ne_none_of_lookup hlookup hnone

theorem written_updating_eq_effect {tr : TestRunner} {db₀ loaded : StatusFile} {r : Request}
    {validIDs : List String} (hr : r.isTest)
    (hsel : ∀ id, id ∈ validIDs ↔ r.Selects tr (db₀.lookup id) id) {cur : Option String} {id : String}
    (hcur : cur = expected tr ⟨r, .updating loaded validIDs testCompleted⟩ (db₀.lookup id) id)
    : written ⟨r, .updating loaded validIDs testCompleted⟩ cur id = r.effect tr (db₀.lookup id) id := by
  subst hcur
  cases r with
  | cleanupHealthyGPUTestStatus => exact hr.elim
  | updateStatusDBAfterTestRun => simp [written, hsel id, expected, Request.effect]
  | testGPU ids isRerun =>
    by_cases hmem : (Request.testGPU ids isRerun).Selects tr (db₀.lookup id) id
    . simp [written, hsel id, Request.effect, hmem]
    . simp [written, expected, Request.effect, hmem, hsel id]

theorem Tracked.step {tr : TestRunner} (htrigger : tr.testTrigger = .AUTO_UNHEALTHY_GPU_WATCH)
    {db₀ db db' : StatusFile} {c : Call} {phase : Phase} (h : c.Tracked tr db₀) (hwf : c.WF)
    (hraced : c.Unraced db) (hnil : c.updatesNilMap db = false)
    (hcur : ∀ id ∈ c.request.touched tr, db.lookup id = c.expected tr (db₀.lookup id) id)
    (hstep : c.step tr db = some (db', phase))
    : Tracked tr db₀ ⟨c.request, phase⟩
        ∧
      ∀ id ∈ c.request.touched tr,
        c.written (db.lookup id) id = expected tr ⟨c.request, phase⟩ (db₀.lookup id) id := by
  cases hwf with
  | @idle r =>
    cases r with
    | testGPU ids isRerun =>
      simp only [Call.step] at hstep
      split at hstep
      . cases hstep
        exact ⟨.creating, hcur⟩
      . cases hstep
        have hselect := tracked_select db hcur
        refine ⟨hselect.1, ?_⟩
        intro id hid
        rw [hselect.2 id hid]
        apply hcur id hid
    | updateStatusDBAfterTestRun => simp [Call.step] at hstep
    | cleanupHealthyGPUTestStatus ids =>
      simp only [Call.step] at hstep
      split at hstep
      . cases hstep
        exact ⟨.cleaning, hcur⟩
      . next hclean =>
        cases hstep
        refine ⟨.finished, ?_⟩
        intro id hid
        have hsame := cleanedUp_of_cleanupHealthyGPUTestStatus_eq_none hclean id
        have hinit : db.lookup id = db₀.lookup id := hcur id hid
        simp only [written, expected, Request.effect, ← hinit]
        exact hsame.symm
  | @creating ids isRerun =>
    cases hstep
    have hdb : db = .missing := hraced
    have hselect := @tracked_select tr db₀ .empty ⟨none⟩ ids isRerun (by
      intro id hid
      rw [← show db.lookup id = db₀.lookup id from hcur id hid, hdb]
      rfl)
    refine ⟨hselect.1, ?_⟩
    intro id hid
    rw [hselect.2 id hid]
    apply hcur id hid
  | selected =>
    cases hstep
    cases h with
    | selected hsel => exact ⟨.started hsel, hcur⟩
  | started =>
    cases hstep
    cases h with
    | started hsel =>
      refine ⟨.running hsel, ?_⟩
      intro id hid
      simp only [written, expected]
      rw [show db.lookup id = db₀.lookup id from hcur id hid]
  | @running r validIDs hr =>
    cases hstep
    cases h with
    | running hsel =>
      refine ⟨.updating hsel (validIDs_eq_nil_of_nilMap hr hsel hnil hcur), ?_⟩
      intro id hid
      rw [show written ⟨r, .running validIDs⟩ (db.lookup id) id = db.lookup id from rfl, hcur id hid]
      cases r <;> rfl
  | @updating r loaded validIDs status hr =>
    cases h with
    | updating hsel hmap =>
      simp only [Call.step] at hstep
      split at hstep
      . cases hstep
        refine ⟨.finished, ?_⟩
        intro id hid
        apply written_updating_eq_effect hr hsel (hcur id hid)
      . next hnone =>
        rw [updateStatusDBAfterTestRun_eq_none_iff htrigger] at hnone
        exact absurd (hmap hnone.1) hnone.2
  | cleaning =>
    cases hstep
    refine ⟨.finished, ?_⟩
    intro id hid
    simp only [written, expected, Request.effect]
    rw [show db.lookup id = db₀.lookup id from hcur id hid]
  | finished => simp [Call.step] at hstep
  | panicked => simp [Call.step] at hstep

end Call

structure Pool.Tracks (tr : TestRunner) (db₀ : StatusFile) (rs : List Request) (s : Pool) : Prop where
  requests : s.calls.map (·.request) = rs
  wf : ∀ c ∈ s.calls, c.WF
  tracked : ∀ c ∈ s.calls, c.Tracked tr db₀
  progress : ∀ c ∈ s.calls, ∀ id ∈ c.request.touched tr,
    s.db.lookup id = c.expected tr (db₀.lookup id) id
  untouched : ∀ id, (∀ r ∈ rs, id ∉ r.touched tr) → s.db.lookup id = db₀.lookup id

namespace Pool

theorem tracks_ofRequests (tr : TestRunner) (db : StatusFile) (rs : List Request)
    : (ofRequests db rs).Tracks tr db rs := by
  constructor
  . simp only [ofRequests, List.map_map]
    conv => rhs; rw [← List.map_id rs]
    apply List.map_congr_left
    intro r _
    cases r <;> rfl
  . intro c hc
    rcases List.mem_map.mp hc with ⟨r, -, rfl⟩
    apply Call.wf_ofRequest r
  . intro c hc
    rcases List.mem_map.mp hc with ⟨r, -, rfl⟩
    apply Call.tracked_ofRequest tr db r
  . intro c hc id _
    rcases List.mem_map.mp hc with ⟨r, -, rfl⟩
    exact (Call.expected_ofRequest tr r _ id).symm
  . intro id _
    rfl

theorem Tracks.disjoint {tr : TestRunner} {db₀ : StatusFile} {rs : List Request} {s : Pool}
    (h : s.Tracks tr db₀ rs) (hdisjoint : rs.Pairwise (Request.DisjointIDs tr)) {i j : Nat}
    {c d : Call} (hc : s.calls[i]? = some c) (hd : s.calls[j]? = some d) (hne : i ≠ j)
    : Request.DisjointIDs tr c.request d.request := by
  have hget : ∀ (k : Nat) (e : Call), s.calls[k]? = some e → rs[k]? = some e.request := by
    intro k e he
    rw [← h.requests, List.getElem?_map, he]
    rfl
  rcases List.getElem?_eq_some_iff.mp (hget i c hc) with ⟨hi, hci⟩
  rcases List.getElem?_eq_some_iff.mp (hget j d hd) with ⟨hj, hdj⟩
  rw [List.pairwise_iff_getElem] at hdisjoint
  rw [← hci, ← hdj]
  rcases Nat.lt_or_gt_of_ne hne with hlt | hlt
  . apply hdisjoint i j hi hj hlt
  . exact (hdisjoint j i hj hi hlt).symm

theorem tracks_step {tr : TestRunner} (htrigger : tr.testTrigger = .AUTO_UNHEALTHY_GPU_WATCH)
    {db₀ : StatusFile} {rs : List Request} (hdisjoint : rs.Pairwise (Request.DisjointIDs tr))
    (s : Pool) (a : Action) (s' : Pool) (h : s.Tracks tr db₀ rs) (hok : s.Undisturbed a)
    (hstep : (system tr).step s a = some s') : s'.Tracks tr db₀ rs := by
  cases a with
  | tick => exact hok.elim
  | signal => exact hok.elim
  | call i =>
    simp only [system, step] at hstep
    split at hstep
    . contradiction
    . split at hstep
      . contradiction
      . next c hc =>
        rcases Option.map_eq_some_iff.mp hstep with ⟨⟨db, phase⟩, hcall, rfl⟩
        simp only [Undisturbed, hc] at hok
        have hmem := List.mem_of_getElem? hc
        have hwf := h.wf c hmem
        rcases (h.tracked c hmem).step htrigger hwf hok.1 hok.2 (h.progress c hmem) hcall with
          ⟨htracked, hwritten⟩
        have hlookup := Call.lookup_step htrigger hwf hok.1 hcall htracked.ne_panicked
        constructor
        . rcases List.getElem?_eq_some_iff.mp hc with ⟨hi, rfl⟩
          rw [← h.requests, List.map_set]
          have hget := List.getElem_map (fun c : Call => c.request) (l := s.calls) (i := i)
            (h := by simpa using hi)
          rw [← hget, List.set_getElem_self]
        . intro d hd
          rcases List.mem_or_eq_of_mem_set hd with hd | rfl
          . apply h.wf d hd
          . apply Call.wf_step hwf hcall
        . intro d hd
          rcases List.mem_or_eq_of_mem_set hd with hd | rfl
          . apply h.tracked d hd
          . exact htracked
        . intro d hd id hid
          rcases List.mem_iff_getElem?.mp hd with ⟨j, hj⟩
          simp only [hlookup]
          rw [List.getElem?_set] at hj
          split at hj
          . split at hj
            . cases hj
              apply hwritten id hid
            . contradiction
          . next hne =>
            have hid' : id ∉ c.request.touched tr := h.disjoint hdisjoint hj hc (Ne.symm hne) id hid
            rw [(h.tracked c hmem).written_of_not_mem_touched hid']
            apply h.progress d (List.mem_of_getElem? hj) id hid
        . intro id hid
          simp only [hlookup]
          have hid' : id ∉ c.request.touched tr := by
            apply hid
            rw [← h.requests]
            apply List.mem_map_of_mem hmem
          rw [(h.tracked c hmem).written_of_not_mem_touched hid']
          apply h.untouched id hid

end Pool

/--
Calls on disjoint sets of GPUs, interleaved in any way in which no call is disturbed between its load
and its save: none of them writes into a nil map, and when they have finished the DB holds for every
GPU what the calls leave for it one after another, in any order.
-/
theorem no_lost_updates_of_undisturbed (tr : TestRunner)
    (htrigger : tr.testTrigger = .AUTO_UNHEALTHY_GPU_WATCH) (db : StatusFile) (rs : List Request)
    (hdisjoint : rs.Pairwise (Request.DisjointIDs tr)) (as : List Action) (s : Pool)
    (hok : (system tr).Respects Pool.Undisturbed as (.ofRequests db rs))
    (hrun : (system tr).exec as (.ofRequests db rs) = some s)
    : (∀ c ∈ s.calls, c.phase ≠ .panicked)
        ∧
      ((∀ c ∈ s.calls, c.phase = .finished) →
        (∀ r ∈ rs, ∀ id ∈ r.touched tr, s.db.lookup id = r.effect tr (db.lookup id) id)
          ∧
        (∀ id, (∀ r ∈ rs, id ∉ r.touched tr) → s.db.lookup id = db.lookup id)
          ∧
        ∀ rs' db', rs'.Perm rs → Request.runAll tr rs' db = some db' →
          ∀ id, s.db.lookup id = db'.lookup id) := by
  have htracks : s.Tracks tr db rs :=
    (system tr).exec_invariant (Pool.tracks_step htrigger hdisjoint) as _ s
      (Pool.tracks_ofRequests tr db rs) hok hrun
  refine ⟨fun c hc => (htracks.tracked c hc).ne_panicked, ?_⟩
  intro hfinished
  have heffect : ∀ r ∈ rs, ∀ id ∈ r.touched tr, s.db.lookup id = r.effect tr (db.lookup id) id := by
    intro r hr id hid
    rw [← htracks.requests] at hr
    rcases List.mem_map.mp hr with ⟨c, hc, rfl⟩
    rw [htracks.progress c hc id hid]
    simp [Call.expected, hfinished c hc]
  refine ⟨heffect, htracks.untouched, ?_⟩
  intro rs' db' hperm hall id
  by_cases hid : ∃ r ∈ rs, id ∈ r.touched tr
  . rcases hid with ⟨r, hr, hid⟩
    have hdisjoint' : rs'.Pairwise (Request.DisjointIDs tr) :=
      (hperm.pairwise_iff Request.DisjointIDs.symm).mpr hdisjoint
    rw [heffect r hr id hid]
    exact (Request.lookup_runAll_of_mem htrigger hdisjoint' hall (hperm.mem_iff.mpr hr) hid).symm
  . have hid' : ∀ r ∈ rs, id ∉ r.touched tr := fun r hr hmem => hid ⟨r, hr, hmem⟩
    rw [htracks.untouched id hid']
    refine (Request.lookup_runAll_of_not_mem_touched htrigger hall ?_).symm
    intro r hr
    apply hid' r (hperm.mem_iff.mp hr)

theorem no_lost_updates_of_undisturbed_overlap
    : ∃ s, (system ⟨.AUTO_UNHEALTHY_GPU_WATCH, ["0", "1", "2"]⟩).exec
          [.call 0, .call 0, .call 0, .call 1, .call 1, .call 2, .call 2, .call 0, .call 0]
          (.ofRequests (.readable ⟨some ((∅ : GoMap String String).setAll ["2"] testCompleted)⟩)
            [.testGPU ["0"] false, .updateStatusDBAfterTestRun ["1"], .cleanupHealthyGPUTestStatus ["2"]])
          = some s
        ∧ (∀ c ∈ s.calls, c.phase ≠ .panicked)
        ∧ s.db.lookup "0" = some testCompleted ∧ s.db.lookup "2" = none := by
  have h := no_lost_updates_of_undisturbed ⟨.AUTO_UNHEALTHY_GPU_WATCH, ["0", "1", "2"]⟩ rfl
    (.readable ⟨some ((∅ : GoMap String String).setAll ["2"] testCompleted)⟩)
    [.testGPU ["0"] false, .updateStatusDBAfterTestRun ["1"], .cleanupHealthyGPUTestStatus ["2"]]
    (by simp [Request.DisjointIDs, Request.touched])
    [.call 0, .call 0, .call 0, .call 1, .call 1, .call 2, .call 2, .call 0, .call 0] _
    (by decide) rfl
  have heffect := (h.2 (by decide)).1
  refine ⟨_, rfl, h.1, ?_, ?_⟩
  . apply heffect (.testGPU ["0"] false) (by decide) "0" (by decide)
  . apply heffect (.cleanupHealthyGPUTestStatus ["2"]) (by decide) "2" (by decide)

theorem not_no_lost_updates
    : ¬ ∀ (tr : TestRunner), tr.testTrigger = .AUTO_UNHEALTHY_GPU_WATCH →
        ∀ (db : StatusFile) (rs : List Request), rs.Pairwise (Request.DisjointIDs tr) →
          ∀ (as : List Action) (s : Pool), (∀ a ∈ as, ∃ i, a = .call i) →
            (system tr).exec as (.ofRequests db rs) = some s →
              (∀ c ∈ s.calls, c.phase ≠ .panicked)
                ∧
              ((∀ c ∈ s.calls, c.phase = .finished) →
                ∀ rs' db', rs'.Perm rs → Request.runAll tr rs' db = some db' →
                  ∀ id, s.db.lookup id = db'.lookup id) := by
  -- A cleanup that loads the DB while it is empty writes an empty object over the running mark of a
  -- test that saved in between. The end of that test then loads a nil map and writes into it.
  intro h
  have hrun := h ⟨.AUTO_UNHEALTHY_GPU_WATCH, ["0", "1"]⟩ rfl (.readable ⟨none⟩)
    [.testGPU ["0"] false, .cleanupHealthyGPUTestStatus ["1"]]
    (by simp [Request.DisjointIDs, Request.touched])
    [.call 1, .call 0, .call 0, .call 0, .call 1, .call 0, .call 0] _ (by simp) rfl
  apply hrun.1 ⟨.testGPU ["0"] false, .panicked⟩ (by decide) rfl

end Testrunner
