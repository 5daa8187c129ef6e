import DeviceMetricsExporter.Rocprofiler.Impl.Client

/-!
This module contains what the steps of a call can do, for the properties of whole runs.
-/

namespace Rocprofiler

theorem getMetrics_cases {rpc rpc' : ROCProfilerClient} {f f' : Fetch} {x : Option CmdResult}
    (h : getMetrics rpc f x = some (rpc', f'))
    : (f = .checking ∧ rpc' = rpc ∧ (f' = .ready ∨ ∃ metrics, f' = .returned metrics)) ∨
      (f = .ready ∧ rpc' = rpc.recordExecution (.started rpc.now) ∧ f' = .running) ∨
      (∃ result, f = .running ∧ f' = .exited result
        ∧ rpc' = rpc.recordExecution (.completed rpc.now result.success)) ∨
      ∃ result, f = .exited result ∧ f' = .returned (rpc.recordResult result).2
        ∧ rpc' = (rpc.recordResult result).1 := by
  unfold getMetrics at h
  split at h
  . left
    split at h
    . cases h
      exact ⟨rfl, rfl, .inr ⟨_, rfl⟩⟩
    . split at h
      . cases h
        exact ⟨rfl, rfl, .inr ⟨_, rfl⟩⟩
      . cases h
        exact ⟨rfl, rfl, .inl rfl⟩
  . cases h
    exact .inr (.inl ⟨rfl, rfl, rfl⟩)
  . next result =>
    cases h
    exact .inr (.inr (.inl ⟨result, rfl, rfl, rfl⟩))
  . next result =>
    cases h
    exact .inr (.inr (.inr ⟨result, rfl, rfl, rfl⟩))
  . cases h

theorem cacheMetrics_cases {rpc rpc' : ROCProfilerClient} {c c' : CacheCall} {x : Option CmdResult}
    (h : cacheMetrics rpc c x = some (rpc', c'))
    : (c = .idle ∧ rpc.pCache.isFresh rpc.now = true ∧ rpc' = rpc ∧ c' = .fresh) ∨
      (c = .idle ∧ rpc.pCache.isFresh rpc.now = false ∧ rpc' = rpc ∧ c' = .fetching .checking) ∨
      (c = .fresh ∧ rpc' = rpc ∧ c' = .finished rpc.pCache.cachedMetrics) ∨
      (∃ metrics, c = .fetching (.returned metrics) ∧ c' = .finished metrics
        ∧ rpc' = { rpc with pCache := rpc.pCache.update rpc.now metrics }) ∨
      ∃ f f', c = .fetching f ∧ c' = .fetching f' ∧ getMetrics rpc f x = some (rpc', f') := by
  unfold cacheMetrics at h
  split at h
  . split at h
    . next hfresh =>
      cases h
      exact .inl ⟨rfl, hfresh, rfl, rfl⟩
    . next hfresh =>
      cases h
      exact .inr (.inl ⟨rfl, by simpa using hfresh, rfl, rfl⟩)
  . cases h
    exact .inr (.inr (.inl ⟨rfl, rfl, rfl⟩))
  . next metrics =>
    cases h
    exact .inr (.inr (.inr (.inl ⟨metrics, rfl, rfl, rfl⟩)))
  . next f _ =>
    rcases Option.map_eq_some_iff.mp h with ⟨⟨rpc₂, f'⟩, hget, hpair⟩
    cases hpair
    exact .inr (.inr (.inr (.inr ⟨f, f', rfl, rfl, hget⟩)))
  . cases h

end Rocprofiler
