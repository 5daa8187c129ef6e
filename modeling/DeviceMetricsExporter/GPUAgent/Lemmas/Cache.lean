import Mathlib.Data.List.Chain
import DeviceMetricsExporter.GPUAgent.Impl.Cache

/-!
This module contains what the cache in front of the hardware queries guarantees for every order of
the steps of its calls: how far apart successful queries are, how old a cached response may be, and
that a failed query empties the cache.
-/

universe u

namespace GPUAgent

open CallPool

variable {ρ : Type u}

namespace CacheEvent

def query? : CacheEvent ρ → Option (Int × Option ρ)
  | .queried time res => some (time, res)
  | _ => none

end CacheEvent

def queries (history : List (CacheEvent ρ)) : List (Int × Option ρ) :=
  history.filterMap CacheEvent.query?

def SpacedQueries (history : List (CacheEvent ρ)) : Prop :=
  (queries history).IsChain fun newer older =>
    newer.2.isSome → older.2.isSome → older.1 + cacheTimer ≤ newer.1

/--
Every response in an event `ev` was fetched, and less than `cacheTimer` before the clock value that
comes with it.
-/
def FetchedInTime (ev : Int → ρ → CacheEvent ρ) (history : List (CacheEvent ρ)) : Prop :=
  ∀ newer older now res, history = newer ++ ev now res :: older →
    ∃ time, .queried time (some res) ∈ older ∧ now < time + cacheTimer

/--
No response in an event `ev` was fetched before a query that has failed before the event.
-/
def DroppedOnFailure (ev : Int → ρ → CacheEvent ρ) (history : List (CacheEvent ρ)) : Prop :=
  ∀ newer mid older now res time,
    history = newer ++ ev now res :: (mid ++ .queried time none :: older) →
      ∃ time', .queried time' (some res) ∈ mid

structure CacheDiscipline (history : List (CacheEvent ρ)) : Prop where
  spaced : SpacedQueries history
  fetched : FetchedInTime .returned history
  taken : ∀ newer older now res, history = newer ++ .returned now res :: older →
    .read now res ∈ older
  dropped : DroppedOnFailure .read history

def LatestQuery (older : List (CacheEvent ρ)) (time : Int) (res : Option ρ) : Prop :=
  (queries older).head? = some (time, res)

def Justified : List (CacheEvent ρ) → Prop
  | [] => True
  | .queried time res :: older =>
    (res.isSome → ∀ time' res', LatestQuery older time' (some res') → time' + cacheTimer ≤ time)
      ∧ Justified older
  | .read now res :: older =>
    (∃ time, LatestQuery older time (some res) ∧ now < time + cacheTimer) ∧ Justified older
  | .returned now res :: older => .read now res ∈ older ∧ Justified older

theorem mem_of_latestQuery {older : List (CacheEvent ρ)} {time : Int} {res : Option ρ}
    (h : LatestQuery older time res) : .queried time res ∈ older := by
  rcases List.mem_filterMap.mp (List.mem_of_head? h) with ⟨e, hmem, he⟩
  cases e with
  | queried time' res' =>
    cases he
    exact hmem
  | read _ _ => cases he
  | returned _ _ => cases he

theorem mem_of_latestQuery_append {mid older : List (CacheEvent ρ)} {time time' : Int} {res : ρ}
    (h : LatestQuery (mid ++ .queried time' none :: older) time (some res))
    : .queried time (some res) ∈ mid := by
  unfold LatestQuery queries at h
  rw [List.filterMap_append, List.head?_append] at h
  cases hmid : (mid.filterMap CacheEvent.query?).head? with
  | none =>
    rw [hmid] at h
    cases h
  | some q =>
    rw [hmid] at h
    cases h
    exact mem_of_latestQuery hmid

namespace Justified

theorem tail {e : CacheEvent ρ} {older : List (CacheEvent ρ)} (h : Justified (e :: older))
    : Justified older := by
  cases e with
  | queried _ _ => exact h.2
  | read _ _ => exact h.2
  | returned _ _ => exact h.2

theorem suffix {newer older : List (CacheEvent ρ)} (h : Justified (newer ++ older))
    : Justified older := by
  induction newer with
  | nil => exact h
  | cons e newer ih => exact ih h.tail

theorem spaced {history : List (CacheEvent ρ)} (h : Justified history)
    : SpacedQueries history := by
  induction history with
  | nil => exact List.isChain_nil
  | cons e older ih =>
    cases e with
    | queried time res =>
      apply List.isChain_cons.mpr
      refine ⟨?_, ih h.tail⟩
      rintro ⟨time', res'⟩ hlatest hsome hsome'
      rcases Option.isSome_iff_exists.mp hsome' with ⟨r, rfl⟩
      exact h.1 hsome time' r hlatest
    | read _ _ => exact ih h.tail
    | returned _ _ => exact ih h.tail

theorem fetched_read {older : List (CacheEvent ρ)} (h : Justified older) {now : Int} {res : ρ}
    (hread : .read now res ∈ older)
    : ∃ time, .queried time (some res) ∈ older ∧ now < time + cacheTimer := by
  rcases List.append_of_mem hread with ⟨newer, rest, rfl⟩
  rcases h.suffix.1 with ⟨time, hlatest, hage⟩
  refine ⟨time, ?_, hage⟩
  exact List.mem_append_right newer (List.mem_cons_of_mem _ (mem_of_latestQuery hlatest))

theorem cacheDiscipline {history : List (CacheEvent ρ)} (h : Justified history)
    : CacheDiscipline history where
  spaced := h.spaced
  fetched newer older now res heq := by
    subst heq
    exact fetched_read h.suffix.tail h.suffix.1
  taken newer older now res heq := by
    subst heq
    exact h.suffix.1
  dropped newer mid older now res time heq := by
    subst heq
    rcases h.suffix.1 with ⟨time', hlatest, -⟩
    exact ⟨time', mem_of_latestQuery_append hlatest⟩

end Justified

theorem fresh?_eq_some {gCache : GPUCache ρ} {now : Int} {res : ρ}
    (h : gCache.fresh? now = some res)
    : gCache.lastResponse = some res ∧ now < gCache.lastTimestamp + cacheTimer := by
  unfold GPUCache.fresh? at h
  split at h
  . next hsince =>
    refine ⟨h, ?_⟩
    simp only [since, cacheTimer] at hsince ⊢
    omega
  . cases h

theorem fresh?_eq_none {gCache : GPUCache ρ} {now : Int} {res : ρ}
    (h : gCache.fresh? now = none) (hres : gCache.lastResponse = some res)
    : gCache.lastTimestamp + cacheTimer ≤ now := by
  unfold GPUCache.fresh? at h
  split at h
  . rw [hres] at h
    cases h
  . next hsince =>
    simp only [since, cacheTimer] at hsince ⊢
    omega

theorem cacheRead_cases {s s' : CacheState ρ} {c c' : CacheRead ρ} {x : Option (Option ρ)}
    (h : cacheRead s c x = some (s', c'))
    : (c = .called ∧ c' = .started s.now ∧ s' = s) ∨
      (∃ now res, c = .started now ∧ s.gCache.fresh? now = some res ∧ c' = .holding now res
        ∧ s' = s.record (.read now res)) ∨
      (∃ now, c = .started now ∧ c' = .waiting ∧ s' = s) ∨
      (c = .waiting ∧ s.locked = false ∧ c' = .locked ∧ s' = { s with locked := true }) ∨
      (∃ res, c = .locked ∧ s.gCache.fresh? s.now = some res ∧ c' = .holding s.now res
        ∧ s' = (s.record (.read s.now res)).unlock) ∨
      (c = .locked ∧ s.gCache.fresh? s.now = none ∧ c' = .querying ∧ s' = s) ∨
      (∃ res, c = .querying ∧ c' = .finished res
        ∧ s' = ((s.update res).record (.queried s.now res)).unlock) ∨
      ∃ now res, c = .holding now res ∧ c' = .finished (some res)
        ∧ s' = s.record (.returned now res) := by
  unfold cacheRead at h
  split at h
  . cases h
    exact .inl ⟨rfl, rfl, rfl⟩
  . next now =>
    split at h
    . cases h
    . split at h
      . next res hfresh =>
        cases h
        exact .inr (.inl ⟨now, res, rfl, hfresh, rfl, rfl⟩)
      . cases h
        exact .inr (.inr (.inl ⟨now, rfl, rfl, rfl⟩))
  . split at h
    . cases h
    . next hlocked =>
      cases h
      exact .inr (.inr (.inr (.inl ⟨rfl, Bool.eq_false_iff.mpr hlocked, rfl, rfl⟩)))
  . split at h
    . next res hfresh =>
      cases h
      exact .inr (.inr (.inr (.inr (.inl ⟨res, rfl, hfresh, rfl, rfl⟩))))
    . next hfresh =>
      cases h
      exact .inr (.inr (.inr (.inr (.inr (.inl ⟨rfl, hfresh, rfl, rfl⟩)))))
  . next res =>
    cases h
    exact .inr (.inr (.inr (.inr (.inr (.inr (.inl ⟨res, rfl, rfl, rfl⟩))))))
  . next now res =>
    cases h
    exact .inr (.inr (.inr (.inr (.inr (.inr (.inr ⟨now, res, rfl, rfl, rfl⟩))))))
  . cases h

def CacheRead.holdsLock : CacheRead ρ → Bool
  | .locked | .querying => true
  | _ => false

structure CacheInv (s : CallPool (CacheState ρ) (CacheRead ρ)) : Prop where
  lock : s.calls.countP CacheRead.holdsLock = s.shared.locked.toNat
  mirrors : ∀ time res,
    LatestQuery s.shared.history time (some res) ↔ s.shared.gCache = ⟨some res, time⟩
  stale : .querying ∈ s.calls → ∀ res, s.shared.gCache.lastResponse = some res →
    s.shared.gCache.lastTimestamp + cacheTimer ≤ s.shared.now
  held : ∀ now res, .holding now res ∈ s.calls → .read now res ∈ s.shared.history
  justified : Justified s.shared.history

theorem CacheInv.perm {s : CacheState ρ} {cs ds : List (CacheRead ρ)} (hinv : CacheInv ⟨s, cs⟩)
    (h : cs.Perm ds) : CacheInv ⟨s, ds⟩ where
  lock := by
    rw [← h.countP_eq]
    exact hinv.lock
  mirrors := hinv.mirrors
  stale hmem := hinv.stale (h.mem_iff.mpr hmem)
  held now res hmem := hinv.held now res (h.mem_iff.mpr hmem)
  justified := hinv.justified

section Call

variable {s s' : CacheState ρ} {others : List (CacheRead ρ)} {c c' : CacheRead ρ}

theorem latestQuery_of_lastResponse (hinv : CacheInv ⟨s, c :: others⟩) {res : ρ}
    (h : s.gCache.lastResponse = some res)
    : LatestQuery s.history s.gCache.lastTimestamp (some res) := by
  apply (hinv.mirrors _ res).mpr
  rw [← h]

theorem others_not_holdsLock (hinv : CacheInv ⟨s, c :: others⟩)
    (h : s.locked = c.holdsLock) : others.countP CacheRead.holdsLock = 0 := by
  have hlock := hinv.lock
  simp only [List.countP_cons, h] at hlock
  cases hc : c.holdsLock with
  | true =>
    simp only [hc, if_true, Bool.toNat_true] at hlock
    omega
  | false =>
    simp only [hc, Bool.false_eq_true, if_false, Bool.toNat_false] at hlock
    omega

theorem locked_of_holdsLock (hinv : CacheInv ⟨s, c :: others⟩) (h : c.holdsLock = true)
    : s.locked = true := by
  have hlock := hinv.lock
  simp only [List.countP_cons, h, if_true] at hlock
  cases hs : s.locked with
  | true => rfl
  | false =>
    rw [hs, Bool.toNat_false] at hlock
    omega

theorem cacheInv_silent (hinv : CacheInv ⟨s, c :: others⟩)
    (hlock : c'.holdsLock = c.holdsLock) (hhold : ∀ now res, c' ≠ .holding now res)
    (hquery : c' = .querying → ∀ res, s.gCache.lastResponse = some res →
      s.gCache.lastTimestamp + cacheTimer ≤ s.now)
    : CacheInv ⟨s, c' :: others⟩ where
  lock := by
    have h := hinv.lock
    simp only [List.countP_cons, hlock] at h ⊢
    exact h
  mirrors := hinv.mirrors
  stale hmem := by
    rcases List.mem_cons.mp hmem with heq | hmem
    . exact hquery heq.symm
    . exact hinv.stale (List.mem_cons_of_mem c hmem)
  held now res hmem := by
    rcases List.mem_cons.mp hmem with heq | hmem
    . exact absurd heq.symm (hhold now res)
    . exact hinv.held now res (List.mem_cons_of_mem c hmem)
  justified := hinv.justified

theorem cacheInv_lock (hinv : CacheInv ⟨s, .waiting :: others⟩) (hlocked : s.locked = false)
    : CacheInv ⟨{ s with locked := true }, .locked :: others⟩ where
  lock := by
    rw [List.countP_cons, others_not_holdsLock hinv hlocked]
    rfl
  mirrors := hinv.mirrors
  stale hmem := by
    rcases List.mem_cons.mp hmem with heq | hmem
    . cases heq
    . exact hinv.stale (List.mem_cons_of_mem _ hmem)
  held now res hmem := by
    rcases List.mem_cons.mp hmem with heq | hmem
    . cases heq
    . exact hinv.held now res (List.mem_cons_of_mem _ hmem)
  justified := hinv.justified

theorem cacheInv_read {now : Int} {res : ρ} (hinv : CacheInv ⟨s, c :: others⟩)
    (hfresh : s.gCache.fresh? now = some res)
    (hlock : others.countP CacheRead.holdsLock = s'.locked.toNat)
    (hhistory : s'.history = .read now res :: s.history) (hcache : s'.gCache = s.gCache)
    (hnow : s'.now = s.now)
    : CacheInv ⟨s', .holding now res :: others⟩ where
  lock := by
    rw [List.countP_cons, hlock]
    rfl
  mirrors time res' := by
    simp only [hhistory, hcache]
    exact hinv.mirrors time res'
  stale hmem := by
    simp only [hcache, hnow]
    rcases List.mem_cons.mp hmem with heq | hmem
    . cases heq
    . exact hinv.stale (List.mem_cons_of_mem c hmem)
  held now' res' hmem := by
    simp only [hhistory]
    rcases List.mem_cons.mp hmem with heq | hmem
    . cases heq
      exact List.mem_cons_self
    . exact List.mem_cons_of_mem _ (hinv.held now' res' (List.mem_cons_of_mem c hmem))
  justified := by
    rcases fresh?_eq_some hfresh with ⟨hres, hage⟩
    simp only [hhistory]
    exact ⟨⟨_, latestQuery_of_lastResponse hinv hres, hage⟩, hinv.justified⟩

theorem cacheInv_queried {res : Option ρ} (hinv : CacheInv ⟨s, .querying :: others⟩)
    : CacheInv ⟨((s.update res).record (.queried s.now res)).unlock, .finished res :: others⟩ where
  lock := by
    have hlocked := locked_of_holdsLock hinv rfl
    rw [List.countP_cons, others_not_holdsLock hinv hlocked]
    rfl
  mirrors time res' := by
    constructor
    . intro h
      cases h
      rfl
    . intro h
      cases h
      rfl
  stale hmem := by
    -- the call that queries is the one that holds the lock
    have hlocked := locked_of_holdsLock hinv rfl
    have hothers := List.countP_eq_zero.mp (others_not_holdsLock hinv hlocked)
    rcases List.mem_cons.mp hmem with heq | hmem
    . cases heq
    . exact absurd rfl (hothers _ hmem)
  held now res' hmem := by
    rcases List.mem_cons.mp hmem with heq | hmem
    . cases heq
    . exact List.mem_cons_of_mem _ (hinv.held now res' (List.mem_cons_of_mem _ hmem))
  justified := by
    refine ⟨?_, hinv.justified⟩
    intro _ time res' hlatest
    have hcache := (hinv.mirrors time res').mp hlatest
    have hstale := hinv.stale List.mem_cons_self res'
    dsimp only at hcache hstale
    rw [hcache] at hstale
    exact hstale rfl

theorem cacheInv_returned {now : Int} {res : ρ} (hinv : CacheInv ⟨s, .holding now res :: others⟩)
    : CacheInv ⟨s.record (.returned now res), .finished (some res) :: others⟩ where
  lock := hinv.lock
  mirrors := hinv.mirrors
  stale hmem := by
    rcases List.mem_cons.mp hmem with heq | hmem
    . cases heq
    . exact hinv.stale (List.mem_cons_of_mem _ hmem)
  held now' res' hmem := by
    rcases List.mem_cons.mp hmem with heq | hmem
    . cases heq
    . exact List.mem_cons_of_mem _ (hinv.held now' res' (List.mem_cons_of_mem _ hmem))
  justified := ⟨hinv.held now res List.mem_cons_self, hinv.justified⟩

theorem cacheInv_call {x : Option (Option ρ)} (hinv : CacheInv ⟨s, c :: others⟩)
    (hcall : cacheRead s c x = some (s', c')) : CacheInv ⟨s', c' :: others⟩ := by
  rcases cacheRead_cases hcall with ⟨rfl, rfl, rfl⟩ | ⟨now, res, rfl, hfresh, rfl, rfl⟩ |
    ⟨now, rfl, rfl, rfl⟩ | ⟨rfl, hlocked, rfl, rfl⟩ | ⟨res, rfl, hfresh, rfl, rfl⟩ |
    ⟨rfl, hfresh, rfl, rfl⟩ | ⟨res, rfl, rfl, rfl⟩ | ⟨now, res, rfl, rfl, rfl⟩
  . exact cacheInv_silent hinv rfl nofun nofun
  . exact cacheInv_read hinv hfresh hinv.lock rfl rfl rfl
  . exact cacheInv_silent hinv rfl nofun nofun
  . exact cacheInv_lock hinv hlocked
  . have hlocked := locked_of_holdsLock hinv rfl
    exact cacheInv_read hinv hfresh (others_not_holdsLock hinv hlocked) rfl rfl rfl
  . refine cacheInv_silent hinv rfl nofun ?_
    intro _ res hres
    exact fresh?_eq_none hfresh hres
  . exact cacheInv_queried hinv
  . exact cacheInv_returned hinv

end Call

theorem cacheInv_start {s : CacheState ρ} {cs : List (CacheRead ρ)} (hinv : CacheInv ⟨s, cs⟩)
    : CacheInv ⟨s, cs ++ [.called]⟩ where
  lock := by
    rw [List.countP_append]
    exact hinv.lock
  mirrors := hinv.mirrors
  stale hmem := by
    rcases List.mem_append.mp hmem with hmem | hmem
    . exact hinv.stale hmem
    . cases List.mem_singleton.mp hmem
  held now res hmem := by
    rcases List.mem_append.mp hmem with hmem | hmem
    . exact hinv.held now res hmem
    . cases List.mem_singleton.mp hmem
  justified := hinv.justified

theorem cacheInv_elapse {s s' : CacheState ρ} {cs : List (CacheRead ρ)} {d : Nat}
    (hinv : CacheInv ⟨s, cs⟩) (h : s.elapse d = some s') : CacheInv ⟨s', cs⟩ := by
  cases h
  refine ⟨hinv.lock, hinv.mirrors, ?_, hinv.held, hinv.justified⟩
  intro hmem res hres
  have hstale := hinv.stale hmem res hres
  dsimp only at hstale ⊢
  omega

theorem cacheInv_step (s : CallPool (CacheState ρ) (CacheRead ρ)) (a : CacheAction ρ)
    (s' : CallPool (CacheState ρ) (CacheRead ρ)) (hinv : CacheInv s) (_ : True)
    (hstep : gpuCacheSystem.step s a = some s') : CacheInv s' := by
  rcases step_cases hstep with ⟨r, -, rfl⟩ | ⟨i, x, c, shared, c', rfl, hc, hcall, rfl⟩ |
    ⟨d, shared, rfl, henv, rfl⟩
  . exact cacheInv_start hinv
  . have hfront : CacheInv ⟨s.shared, c :: s.calls.eraseIdx i⟩ := hinv.perm (calls_perm hc)
    exact (cacheInv_call hfront hcall).perm (calls_set_perm hc c').symm
  . exact cacheInv_elapse hinv henv

theorem cacheInv_new (now : Int) : CacheInv (newCachePool now : CallPool (CacheState ρ) (CacheRead ρ)) where
  lock := rfl
  mirrors _ _ := by
    constructor
    . intro h
      cases h
    . intro h
      cases h
  stale hmem := by cases hmem
  held _ _ hmem := by cases hmem
  justified := trivial

/--
Successful queries without a failed one in between complete at least `cacheTimer` apart, every
cached response that is returned was fetched less than `cacheTimer` before the clock value it was
compared with, and after a failed query no call takes an earlier response from the cache.
-/
theorem cacheDiscipline_of_run (now : Int) (as : List (CacheAction ρ))
    (s : CallPool (CacheState ρ) (CacheRead ρ))
    (hexec : gpuCacheSystem.exec as (newCachePool now) = some s)
    : CacheDiscipline s.shared.history := by
  have hinv := gpuCacheSystem.exec_invariant cacheInv_step as _ s (cacheInv_new now)
    (gpuCacheSystem.respects_true as _) hexec
  exact hinv.justified.cacheDiscipline

section Instances

def queryingCall (i : Nat) (res : Option String) : List (CacheAction String) :=
  .start () :: [none, none, none, none, some res].map (.call i)

def staleReturn : List (CacheAction String) :=
  queryingCall 0 (some "fetched")
    ++ [.start (), .call 1 none, .call 1 none, .env 20000000000]
    ++ queryingCall 2 none ++ [.call 1 none]

theorem cacheDiscipline_of_run_staleReturn
    : ∃ s, gpuCacheSystem.exec staleReturn (newCachePool 0) = some s
        ∧ s.shared.history = [.returned 0 "fetched", .queried 20000000000 none,
            .read 0 "fetched", .queried 0 (some "fetched")]
        ∧ CacheDiscipline s.shared.history :=
  ⟨_, rfl, rfl, cacheDiscipline_of_run 0 staleReturn _ rfl⟩

theorem not_dropped_before_return
    : ¬∀ (now : Int) (as : List (CacheAction String))
        (s : CallPool (CacheState String) (CacheRead String)),
        gpuCacheSystem.exec as (newCachePool now) = some s →
          DroppedOnFailure .returned s.shared.history := by
  -- a call has taken the response from the cache before the query that fails, and returns it after
  intro h
  rcases h 0 staleReturn _ rfl [] [] [.read 0 "fetched", .queried 0 (some "fetched")] 0 "fetched"
    20000000000 rfl with ⟨time, hmem⟩
  cases hmem

end Instances

end GPUAgent
