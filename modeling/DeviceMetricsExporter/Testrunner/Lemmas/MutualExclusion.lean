import DeviceMetricsExporter.Testrunner.Lemmas.Calls

/-!
This module contains the mutual exclusion of test runs: when it fails, and that it holds in every run
in which no call selects a GPU another call is about to save and no call overwrites a DB it has not
read.
-/

namespace Testrunner

namespace Phase

def heldIDs : Phase → List String
  | .selected _ _ validIDs | .started _ _ validIDs | .running validIDs | .updating _ validIDs _ => validIDs
  | _ => []

def savedIDs : Phase → List String
  | .running validIDs | .updating _ validIDs _ => validIDs
  | _ => []

theorem mem_heldIDs_of_activeIDs {phase : Phase} {id : String} (h : id ∈ phase.activeIDs)
    : id ∈ phase.heldIDs := by
  cases phase <;> simp_all [activeIDs, heldIDs]

theorem mem_pendingIDs_or_savedIDs {phase : Phase} {id : String} (h : id ∈ phase.heldIDs)
    : id ∈ phase.pendingIDs ∨ id ∈ phase.savedIDs := by
  cases phase <;> simp_all [pendingIDs, savedIDs, heldIDs]

theorem mem_heldIDs_of_savedIDs {phase : Phase} {id : String} (h : id ∈ phase.savedIDs)
    : id ∈ phase.heldIDs := by
  cases phase <;> simp_all [savedIDs, heldIDs]

end Phase

def Call.selectingIDs (c : Call) : List String :=
  match c.request, c.phase with
  | .testGPU ids _, .idle | .testGPU ids _, .creating _ => ids
  | _, _ => []

namespace Pool

def Exclusive (s : Pool) : Prop :=
  ∀ (i j : Nat) (c d : Call), s.calls[i]? = some c → s.calls[j]? = some d → i ≠ j →
    ∀ id ∈ c.phase.activeIDs, id ∉ d.phase.activeIDs

def Fresh (s : Pool) (c : Call) : Prop :=
  ∀ d ∈ s.calls, ∀ id ∈ c.selectingIDs, id ∉ d.phase.pendingIDs

instance (s : Pool) (c : Call) : Decidable (s.Fresh c) :=
  inferInstanceAs (Decidable (∀ d ∈ s.calls, ∀ id ∈ c.selectingIDs, id ∉ d.phase.pendingIDs))

/--
The step neither selects an id that another call has selected and not saved yet, nor writes a DB that
was written since the call loaded it.
-/
def Serialized (s : Pool) (a : Action) : Prop :=
  match a with
  | .call i =>
    match s.calls[i]? with
    | some c => c.Unraced s.db ∧ s.Fresh c
    | none => True
  | _ => True

instance (s : Pool) (a : Action) : Decidable (s.Serialized a) :=
  match a with
  | .call i =>
    match h : s.calls[i]? with
    | some c => decidable_of_iff (c.Unraced s.db ∧ s.Fresh c) (by simp [Serialized, h])
    | none => .isTrue (by simp [Serialized, h])
  | .tick _ => .isTrue trivial
  | .signal _ => .isTrue trivial

end Pool

def Request.Watched : Request → Prop
  | .testGPU ids isRerun => ids.isEmpty = false ∧ isRerun = false
  | .cleanupHealthyGPUTestStatus _ => True
  | .updateStatusDBAfterTestRun _ => False

theorem watched_of_mem_watchGPUState {states : List GPUState} {r : Request}
    (h : r ∈ watchGPUState states) : r.Watched := by
  unfold watchGPUState at h
  dsimp only at h
  split at h
  . simp only [List.nil_append, List.mem_singleton] at h
    subst h
    trivial
  . next hne =>
    simp only [List.cons_append, List.nil_append, List.mem_cons, List.not_mem_nil, or_false] at h
    rcases h with rfl | rfl
    . exact ⟨Bool.eq_false_iff.mpr hne, rfl⟩
    . trivial

theorem Call.mem_heldIDs_step {tr : TestRunner} {db db' : StatusFile} {c : Call} {phase : Phase}
    (hwf : c.WF) (hwatched : c.request.Watched) (hraced : c.Unraced db)
    (h : c.step tr db = some (db', phase)) {id : String} (hid : id ∈ phase.heldIDs)
    : id ∈ c.phase.heldIDs
        ∨
      db.lookup id = none ∧
        ∀ s : Pool, s.Fresh c → ∀ d ∈ s.calls, id ∉ d.phase.pendingIDs := by
  have hselect : ∀ (db : StatusFile) (statusObj : TestRunnerStatus) (ids : List String),
      ids.isEmpty = false → id ∈ (Call.select tr db statusObj ids false).heldIDs →
        id ∈ ids ∧ statusObj.lookup id = none := by
    intro db statusObj ids hids hmem
    unfold Call.select at hmem
    split at hmem
    . simp [Phase.heldIDs] at hmem
    . next hsel =>
      have := (mem_of_selectIDs hsel id).mp hmem
      simpa [hids] using this
  cases hwf with
  | @idle r =>
    cases r with
    | testGPU ids isRerun =>
      rcases hwatched with ⟨hids, rfl⟩
      simp only [Call.step] at h
      split at h
      . cases h
        simp [Phase.heldIDs] at hid
      . cases h
        rcases hselect db _ ids hids hid with ⟨hmem, hnone⟩
        right
        refine ⟨hnone, ?_⟩
        intro s hfresh d hd
        apply hfresh d hd id hmem
    | updateStatusDBAfterTestRun => simp [Call.step] at h
    | cleanupHealthyGPUTestStatus ids =>
      simp only [Call.step] at h
      split at h <;> cases h <;> simp [Phase.heldIDs] at hid
  | @creating ids isRerun =>
    rcases hwatched with ⟨hids, rfl⟩
    cases h
    have hdb : db = .missing := hraced
    rcases hselect .empty _ ids hids hid with ⟨hmem, hnone⟩
    right
    refine ⟨by simp [hdb], ?_⟩
    intro s hfresh d hd
    apply hfresh d hd id hmem
  | selected => cases h; exact .inl hid
  | started => cases h; exact .inl hid
  | running => cases h; exact .inl hid
  | updating =>
    simp only [Call.step] at h
    split at h <;> cases h <;> simp [Phase.heldIDs] at hid
  | cleaning =>
    cases h
    simp [Phase.heldIDs] at hid
  | finished => simp [Call.step] at h
  | panicked => simp [Call.step] at h

theorem Call.mem_savedIDs_step {tr : TestRunner} {db db' : StatusFile} {c : Call} {phase : Phase}
    (hwf : c.WF) (h : c.step tr db = some (db', phase)) {id : String} (hid : id ∈ phase.savedIDs)
    : (id ∈ c.phase.savedIDs ∧ db' = db) ∨ c.written (db.lookup id) id = some testRunning := by
  cases hwf with
  | @idle r =>
    cases r with
    | testGPU ids isRerun =>
      simp only [Call.step, Call.select] at h
      split at h
      . cases h
        simp [Phase.savedIDs] at hid
      . split at h <;> cases h <;> simp [Phase.savedIDs] at hid
    | updateStatusDBAfterTestRun => simp [Call.step] at h
    | cleanupHealthyGPUTestStatus ids =>
      simp only [Call.step] at h
      split at h <;> cases h <;> simp [Phase.savedIDs] at hid
  | creating =>
    simp only [Call.step, Call.select] at h
    split at h <;> cases h <;> simp [Phase.savedIDs] at hid
  | selected =>
    cases h
    simp [Phase.savedIDs] at hid
  | started =>
    cases h
    right
    apply if_pos hid
  | running =>
    cases h
    exact .inl ⟨hid, rfl⟩
  | updating =>
    simp only [Call.step] at h
    split at h <;> cases h <;> simp [Phase.savedIDs] at hid
  | cleaning =>
    cases h
    simp [Phase.savedIDs] at hid
  | finished => simp [Call.step] at h
  | panicked => simp [Call.step] at h

theorem Call.written_testRunning {c : Call} {id : String} (h : id ∉ c.phase.heldIDs)
    : c.written (some testRunning) id = some testRunning := by
  rcases c with ⟨r, phase⟩
  cases phase with
  | started => simp [Call.written]
  | updating _ validIDs status =>
    have : id ∉ validIDs := h
    simp [Call.written, this]
  | cleaning => cases r <;> simp [Call.written, cleanedUp]
  | _ => rfl

/--
The GPUs that calls have selected are pairwise different, and those of a run that has saved them are
marked as running in the DB.
-/
structure Pool.Inv (s : Pool) : Prop where
  watched : ∀ c ∈ s.calls, c.request.Watched
  wf : ∀ c ∈ s.calls, c.WF
  exclusive : ∀ (i j : Nat) (c d : Call), s.calls[i]? = some c → s.calls[j]? = some d → i ≠ j →
    ∀ id ∈ c.phase.heldIDs, id ∉ d.phase.heldIDs
  marked : ∀ c ∈ s.calls, ∀ id ∈ c.phase.savedIDs, s.db.lookup id = some testRunning

namespace Pool

theorem inv_empty (db : StatusFile) : (ofRequests db []).Inv := by
  constructor <;> simp [ofRequests]

theorem Inv.exclusive_active {s : Pool} (h : s.Inv) : s.Exclusive := by
  intro i j c d hc hd hne id hid hid'
  apply h.exclusive i j c d hc hd hne id
  . apply Phase.mem_heldIDs_of_activeIDs hid
  . apply Phase.mem_heldIDs_of_activeIDs hid'

theorem getElem?_set_cases {calls : List Call} {i j : Nat} {c d : Call}
    (h : (calls.set i c)[j]? = some d) : (j = i ∧ d = c) ∨ (j ≠ i ∧ calls[j]? = some d) := by
  rw [List.getElem?_set] at h
  split at h
  . next heq =>
    split at h
    . exact .inl ⟨heq.symm, by simpa using h.symm⟩
    . contradiction
  . next hne => exact .inr ⟨fun he => hne he.symm, h⟩

theorem Inv.set {s : Pool} (h : s.Inv) {i : Nat} {c : Call} {phase : Phase} {db : StatusFile}
    {alive : Bool} (hc : s.calls[i]? = some c) (hwf : Call.WF ⟨c.request, phase⟩)
    (hheld : ∀ id ∈ phase.heldIDs, ∀ j d, s.calls[j]? = some d → j ≠ i → id ∉ d.phase.heldIDs)
    (hmarked : ∀ id ∈ phase.savedIDs, db.lookup id = some testRunning)
    (hothers : ∀ j d, s.calls[j]? = some d → j ≠ i → ∀ id ∈ d.phase.savedIDs,
      db.lookup id = some testRunning)
    : Inv { db, calls := s.calls.set i ⟨c.request, phase⟩, alive } := by
  constructor
  . intro d hd
    rcases List.mem_or_eq_of_mem_set hd with hd | rfl
    . apply h.watched d hd
    . apply h.watched c (List.mem_of_getElem? hc)
  . intro d hd
    rcases List.mem_or_eq_of_mem_set hd with hd | rfl
    . apply h.wf d hd
    . exact hwf
  . intro j k d e hd he hne id hid hid'
    rcases getElem?_set_cases hd with ⟨rfl, rfl⟩ | ⟨hj, hd'⟩
    . rcases getElem?_set_cases he with ⟨rfl, rfl⟩ | ⟨hk, he'⟩
      . apply hne rfl
      . apply hheld id hid k e he' hk hid'
    . rcases getElem?_set_cases he with ⟨rfl, rfl⟩ | ⟨hk, he'⟩
      . apply hheld id hid' j d hd' hj hid
      . apply h.exclusive j k d e hd' he' hne id hid hid'
  . intro d hd id hid
    rcases List.mem_iff_getElem?.mp hd with ⟨j, hj⟩
    rcases getElem?_set_cases hj with ⟨rfl, rfl⟩ | ⟨hne, hd⟩
    . apply hmarked id hid
    . apply hothers j d hd hne id hid

theorem inv_tick {s : Pool} (h : s.Inv) (states : List GPUState)
    : Inv { s with calls := s.calls ++ (watchGPUState states).map Call.ofRequest } := by
  have hnew : ∀ c ∈ (watchGPUState states).map Call.ofRequest, c.request.Watched ∧ c.phase = .idle := by
    intro c hc
    rcases List.mem_map.mp hc with ⟨r, hr, rfl⟩
    have hwatched := watched_of_mem_watchGPUState hr
    cases r with
    | updateStatusDBAfterTestRun => exact hwatched.elim
    | testGPU => exact ⟨hwatched, rfl⟩
    | cleanupHealthyGPUTestStatus => exact ⟨hwatched, rfl⟩
  constructor
  . intro c hc
    rcases List.mem_append.mp hc with hc | hc
    . apply h.watched c hc
    . exact (hnew c hc).1
  . intro c hc
    rcases List.mem_append.mp hc with hc | hc
    . apply h.wf c hc
    . rcases List.mem_map.mp hc with ⟨r, -, rfl⟩
      apply Call.wf_ofRequest r
  . intro i j c d hc hd hne id hid hid'
    -- a call that holds an id is not one of the new ones
    have hold : ∀ (k : Nat) (e : Call),
        (s.calls ++ (watchGPUState states).map Call.ofRequest)[k]? = some e →
          id ∈ e.phase.heldIDs → s.calls[k]? = some e := by
      intro k e he hmem
      rw [List.getElem?_append] at he
      split at he
      . exact he
      . rw [(hnew e (List.mem_of_getElem? he)).2] at hmem
        simp [Phase.heldIDs] at hmem
    apply h.exclusive i j c d (hold i c hc hid) (hold j d hd hid') hne id hid hid'
  . intro c hc id hid
    rcases List.mem_append.mp hc with hc | hc
    . apply h.marked c hc id hid
    . rw [(hnew c hc).2] at hid
      simp [Phase.savedIDs] at hid

theorem inv_signal {s : Pool} (h : s.Inv) {i : Nat} {r : Request} {validIDs : List String}
    (hc : s.calls[i]? = some ⟨r, .running validIDs⟩)
    : Inv { s with calls := s.calls.set i ⟨r, .updating s.db validIDs testRunning⟩ } := by
  have hmem := List.mem_of_getElem? hc
  apply Inv.set h hc
  . cases h.wf _ hmem with
    | running hr => exact .updating hr
  . intro id hid j d hd hne
    apply h.exclusive i j _ d hc hd (Ne.symm hne) id hid
  . intro id hid
    apply h.marked _ hmem id hid
  . intro j d hd hne id hid
    apply h.marked d (List.mem_of_getElem? hd) id hid

theorem inv_call {tr : TestRunner} (htrigger : tr.testTrigger = .AUTO_UNHEALTHY_GPU_WATCH) {s : Pool}
    (h : s.Inv) {i : Nat} {c : Call} {db : StatusFile} {phase : Phase} {alive : Bool}
    (hc : s.calls[i]? = some c) (hraced : c.Unraced s.db) (hfresh : s.Fresh c)
    (hstep : c.step tr s.db = some (db, phase))
    : Inv { db, calls := s.calls.set i { c with phase }, alive } := by
  have hmem := List.mem_of_getElem? hc
  have hwf := h.wf c hmem
  -- what the step leaves for a GPU, whether or not it panics
  have hlookup : ∀ id, db.lookup id = s.db.lookup id ∨ db.lookup id = c.written (s.db.lookup id) id := by
    intro id
    by_cases hphase : phase = .panicked
    . subst hphase
      rw [Call.db_eq_of_panicked hwf hstep]
      exact .inl rfl
    . exact .inr (Call.lookup_step htrigger hwf hraced hstep hphase id)
  apply Inv.set h hc (Call.wf_step hwf hstep)
  . intro id hid j d hd hne hid'
    rcases Call.mem_heldIDs_step hwf (h.watched c hmem) hraced hstep hid with hold | ⟨hnone, hnew⟩
    . apply h.exclusive i j c d hc hd (Ne.symm hne) id hold hid'
    . have hd' := List.mem_of_getElem? hd
      rcases Phase.mem_pendingIDs_or_savedIDs hid' with hpending | hsaved
      . apply hnew s hfresh d hd' hpending
      . rw [h.marked d hd' id hsaved] at hnone
        contradiction
  . intro id hid
    rcases Call.mem_savedIDs_step hwf hstep hid with ⟨hsaved, rfl⟩ | hwritten
    . apply h.marked c hmem id hsaved
    . have hphase : phase ≠ .panicked := by
        intro hp
        simp [hp, Phase.savedIDs] at hid
      rw [Call.lookup_step htrigger hwf hraced hstep hphase id]
      exact hwritten
  . intro j d hd hne id hid
    have hrunning := h.marked d (List.mem_of_getElem? hd) id hid
    rcases hlookup id with hsame | hwritten
    . rw [hsame, hrunning]
    . rw [hwritten, hrunning]
      apply Call.written_testRunning
      apply h.exclusive j i d c hd hc hne id (Phase.mem_heldIDs_of_savedIDs hid)

theorem inv_step {tr : TestRunner} (htrigger : tr.testTrigger = .AUTO_UNHEALTHY_GPU_WATCH)
    (s : Pool) (a : Action) (s' : Pool) (h : s.Inv) (hok : s.Serialized a)
    (hstep : (system tr).step s a = some s') : s'.Inv := by
  simp only [system, step] at hstep
  split at hstep
  . contradiction
  . cases a with
    | tick states =>
      dsimp only at hstep
      split at hstep
      . cases hstep
        apply inv_tick h states
      . contradiction
    | call i =>
      dsimp only at hstep
      split at hstep
      . contradiction
      . next c hc =>
        rcases Option.map_eq_some_iff.mp hstep with ⟨⟨db, phase⟩, hcall, rfl⟩
        simp only [Serialized, hc] at hok
        apply inv_call htrigger h hc hok.1 hok.2 hcall
    | signal i =>
      dsimp only at hstep
      split at hstep
      . next hc =>
        cases hstep
        apply inv_signal h hc
      . contradiction

end Pool

/--
In every run that starts with any DB and no call, and whose steps are all serialized, no GPU belongs
to two test runs at a time.
-/
theorem exclusive_of_serialized (tr : TestRunner)
    (htrigger : tr.testTrigger = .AUTO_UNHEALTHY_GPU_WATCH) (db : StatusFile) (as : List Action)
    (s : Pool) (hok : (system tr).Respects Pool.Serialized as (.ofRequests db []))
    (hrun : (system tr).exec as (.ofRequests db []) = some s) : s.Exclusive := by
  apply Pool.Inv.exclusive_active
  exact (system tr).exec_invariant (Pool.inv_step htrigger) as _ s (Pool.inv_empty db) hok hrun

theorem exclusive_of_serialized_watch
    : (system ⟨.AUTO_UNHEALTHY_GPU_WATCH, ["0", "1"]⟩).Respects Pool.Serialized
        [.tick [⟨"0", "unhealthy", []⟩, ⟨"1", "healthy", []⟩], .call 0, .call 0, .call 0, .call 1,
          .tick [⟨"0", "unhealthy", []⟩, ⟨"1", "unhealthy", []⟩], .call 2, .call 2, .call 2, .call 0]
        (.ofRequests (.readable ⟨none⟩) [])
        ∧
      ∃ s, (system ⟨.AUTO_UNHEALTHY_GPU_WATCH, ["0", "1"]⟩).exec
          [.tick [⟨"0", "unhealthy", []⟩, ⟨"1", "healthy", []⟩], .call 0, .call 0, .call 0, .call 1,
            .tick [⟨"0", "unhealthy", []⟩, ⟨"1", "unhealthy", []⟩], .call 2, .call 2, .call 2, .call 0]
          (.ofRequests (.readable ⟨none⟩) []) = some s
        ∧ s.Exclusive := by
  have hok : (system ⟨.AUTO_UNHEALTHY_GPU_WATCH, ["0", "1"]⟩).Respects Pool.Serialized
      [.tick [⟨"0", "unhealthy", []⟩, ⟨"1", "healthy", []⟩], .call 0, .call 0, .call 0, .call 1,
        .tick [⟨"0", "unhealthy", []⟩, ⟨"1", "unhealthy", []⟩], .call 2, .call 2, .call 2, .call 0]
      (.ofRequests (.readable ⟨none⟩) []) := by decide
  exact ⟨hok, _, rfl, exclusive_of_serialized _ rfl _ _ _ hok rfl⟩

theorem not_exclusive
    : ¬ ∀ (tr : TestRunner), tr.testTrigger = .AUTO_UNHEALTHY_GPU_WATCH →
        ∀ (db : StatusFile) (as : List Action) (s : Pool),
          (system tr).exec as (.ofRequests db []) = some s → s.Exclusive := by
  -- Two ticks that find the same GPU unhealthy: the test of the second tick loads the DB before the
  -- test of the first one has saved it, and both tests are started.
  intro h
  have hrun := h ⟨.AUTO_UNHEALTHY_GPU_WATCH, ["0"]⟩ rfl (.readable ⟨none⟩)
    [.tick [⟨"0", "unhealthy", []⟩], .call 0, .call 1, .call 1, .tick [⟨"0", "unhealthy", []⟩],
      .call 2, .call 0, .call 2] _ rfl
  apply hrun 0 2 _ _ rfl rfl (by decide) "0" (by decide) (by decide)

end Testrunner
