import DeviceMetricsExporter.Exporter.Lemmas.Recording

/-!
This module contains which steps of a client a response shows, and the theorem that the requests for the
metrics are isolated from each other: what a response shows of a client is what the client shows if it takes
these steps one after the other.
-/

universe u

namespace Exporter

section Logged

structure Logged (σ κ δ ε : Type u) where
  state : σ
  steps : List (ClientAction κ δ ε)
  scrape : List (ClientAction κ δ ε)

variable {σ κ δ ε ρ : Type u}

def newLogged (s : σ) : Logged σ κ δ ε where
  state := s
  steps := []
  scrape := []

/--
The client with a log of what the handler does to it. Nothing is read from the log.
-/
def MetricsInterface.logged (client : MetricsInterface σ κ δ ε ρ)
    : MetricsInterface (Logged σ κ δ ε) κ δ ε (ρ × List (ClientAction κ δ ε)) where
  initConfigs s config :=
    (client.initConfigs s.state config).map (⟨·, s.steps ++ [.initConfigs config], []⟩)
  updateStaticMetrics s config data :=
    (client.updateStaticMetrics s.state config data).map
      (⟨·, s.steps ++ [.updateStaticMetrics config data], s.scrape⟩)
  resetMetrics s := ⟨client.resetMetrics s.state, s.steps, []⟩
  updateMetricsStats s data :=
    (client.updateMetricsStats s.state data).map
      (⟨·, s.steps ++ [.updateMetrics data], s.steps ++ [.updateMetrics data]⟩)
  env s e := (client.env s.state e).map (⟨·, s.steps ++ [.env e], s.scrape⟩)
  gather s := (client.gather s.state, s.scrape)

variable {client : MetricsInterface σ κ δ ε ρ}

theorem logged_hom : client.logged.Hom client Logged.state Prod.fst where
  initConfigs s config := by simp [MetricsInterface.logged, Function.comp_def]
  updateStaticMetrics s config data := by simp [MetricsInterface.logged, Function.comp_def]
  resetMetrics _ := rfl
  updateMetricsStats s data := by simp [MetricsInterface.logged, Function.comp_def]
  env s e := by simp [MetricsInterface.logged, Function.comp_def]
  gather _ := rfl

theorem same_logged_iff {s t : Logged σ κ δ ε}
    : client.logged.Same s t ↔ client.Same s.state t.state ∧ s.steps = t.steps := by
  simp [MetricsInterface.Same, MetricsInterface.logged]

theorem lawful_logged (hlawful : client.Lawful) : client.logged.Lawful where
  reset_idem s := by simp [MetricsInterface.logged, hlawful.reset_idem]
  initConfigs_congr s t config h := by
    rcases same_logged_iff.mp h with ⟨hsame, hsteps⟩
    simp [MetricsInterface.logged, hlawful.initConfigs_congr s.state t.state config hsame, hsteps]
  updateStaticMetrics_congr s t config data s' h hstep := by
    rcases same_logged_iff.mp h with ⟨hsame, hsteps⟩
    exact exists_same_map hstep (hlawful.updateStaticMetrics_congr s.state t.state config data · hsame)
      fun _ _ huv => same_logged_iff.mpr ⟨huv, congrArg (· ++ [.updateStaticMetrics config data]) hsteps⟩
  updateMetricsStats_congr s t data s' h hstep := by
    rcases same_logged_iff.mp h with ⟨hsame, hsteps⟩
    exact exists_same_map hstep (hlawful.updateMetricsStats_congr s.state t.state data · hsame)
      fun _ _ huv => same_logged_iff.mpr ⟨huv, congrArg (· ++ [.updateMetrics data]) hsteps⟩
  env_congr s t e s' h hstep := by
    rcases same_logged_iff.mp h with ⟨hsame, hsteps⟩
    exact exists_same_map hstep (hlawful.env_congr s.state t.state e · hsame)
      fun _ _ huv => same_logged_iff.mpr ⟨huv, congrArg (· ++ [.env e]) hsteps⟩
  env_reset s e s' hstep := by
    rcases Option.map_eq_some_iff.mp hstep with ⟨u, hu, rfl⟩
    rcases hlawful.env_reset s.state e u hu with ⟨u', hu', rfl⟩
    exact ⟨_, Option.map_eq_some_iff.mpr ⟨u', hu', rfl⟩, rfl⟩
  gather_env s e s' hstep := by
    rcases Option.map_eq_some_iff.mp hstep with ⟨u, hu, rfl⟩
    simp [MetricsInterface.logged, hlawful.gather_env s.state e u hu]

theorem exec_logged {run : List (ClientAction κ δ ε)} {s₀ : σ} {s : Logged σ κ δ ε}
    (hexec : client.logged.system.exec run (newLogged s₀) = some s)
    : client.system.exec run s₀ = some s.state ∧ s.steps = run := by
  refine client.logged.system.exec_history
    (I := fun run s => client.system.exec run s₀ = some s.state ∧ s.steps = run)
    (fun run s a t h _ hstep => ?_) run [] (newLogged s₀) s ⟨rfl, rfl⟩
    (client.logged.system.respects_true _ _) hexec
  rw [TransitionSystem.exec_concat_eq_some]
  cases a with
  | initConfigs config =>
    rcases Option.map_eq_some_iff.mp hstep with ⟨u, hu, rfl⟩
    exact ⟨⟨s.state, h.1, hu⟩, by rw [← h.2]⟩
  | updateStaticMetrics config data =>
    rcases Option.map_eq_some_iff.mp hstep with ⟨u, hu, rfl⟩
    exact ⟨⟨s.state, h.1, hu⟩, by rw [← h.2]⟩
  | updateMetrics data =>
    rcases Option.map_eq_some_iff.mp hstep with ⟨u, hu, rfl⟩
    exact ⟨⟨s.state, h.1, hu⟩, congrArg (· ++ [ClientAction.updateMetrics data]) h.2⟩
  | env e =>
    rcases Option.map_eq_some_iff.mp hstep with ⟨u, hu, rfl⟩
    exact ⟨⟨s.state, h.1, hu⟩, by rw [← h.2]⟩

theorem gather_logged {run : List (ClientAction κ δ ε)} {data : δ} {s₀ : σ} {s : Logged σ κ δ ε}
    (hexec : client.logged.system.exec (run ++ [.updateMetrics data]) (newLogged s₀) = some s)
    : (client.system.exec (run ++ [.updateMetrics data]) s₀).map client.gather
          = some (client.logged.gather s).1
        ∧ (client.logged.gather s).2 = run ++ [.updateMetrics data] := by
  rw [(exec_logged hexec).1]
  rcases (client.logged.system.exec_concat_eq_some).mp hexec with ⟨t, ht, hstep⟩
  rcases Option.map_eq_some_iff.mp hstep with ⟨u, _, rfl⟩
  exact ⟨rfl, congrArg (· ++ [ClientAction.updateMetrics data]) (exec_logged ht).2⟩

end Logged

section Scraped

variable {σ κ δ ε ρ : Type u}

def shownSteps
    (s : CallPool (MetricsHandler (Logged σ κ δ ε)) (MetricsRequest δ (ρ × List (ClientAction κ δ ε))))
    (k i : Nat) : Option (List (ClientAction κ δ ε)) :=
  s.calls[k]?.bind fun r => r.phase.delivered.bind fun delivered => delivered.2[i]?.map Prod.snd

/--
What the server does to the client `i` in the run, up to the scrape that the response to the request `k`
shows.
-/
def scrapedSteps (client : MetricsInterface σ κ δ ε ρ) (clients : List σ)
    (as : List (CallPool.Action Nat (RequestStep δ) (HandlerEvent κ δ ε))) (k i : Nat)
    : Option (List (ClientAction κ δ ε)) :=
  ((CallPool.system (metricsProgram client.logged)).exec as
    (newMetricsHandler (clients.map newLogged))).bind (shownSteps · k i)

variable {client : MetricsInterface σ κ δ ε ρ} {clients : List σ}

theorem exists_delivered_logged
    {s : CallPool (MetricsHandler (Logged σ κ δ ε)) (MetricsRequest δ (ρ × List (ClientAction κ δ ε)))}
    {k : Nat} {r : MetricsRequest δ ρ}
    (hr : (s.map (MetricsHandler.map Logged.state) (MetricsRequest.map Prod.fst)).calls[k]? = some r)
    {read : List δ} {response : List ρ} (hdelivered : r.phase.delivered = some (read, response))
    : ∃ r' response', s.calls[k]? = some r' ∧ r'.server = r.server
        ∧ r'.phase.delivered = some (read, response') ∧ response'.map Prod.fst = response
        ∧ ∀ i, shownSteps s k i = response'[i]?.map Prod.snd := by
  rcases Option.map_eq_some_iff.mp ((List.getElem?_map ..).symm.trans hr) with ⟨r', hr', rfl⟩
  rw [show (r'.map Prod.fst).phase = r'.phase.map Prod.fst from rfl, RequestPhase.delivered_map,
    Option.map_eq_some_iff] at hdelivered
  rcases hdelivered with ⟨⟨read', response'⟩, hdelivered', hpair⟩
  cases hpair
  refine ⟨r', response', hr', rfl, hdelivered', rfl, fun i => ?_⟩
  rw [shownSteps, hr', Option.bind_some, hdelivered', Option.bind_some]

theorem shown_of_isolated {K : κ → Prop} {s₀ : σ} {data : δ} {x : ρ × List (ClientAction κ δ ε)}
    (h : Scraped client.logged K (newLogged s₀) data x)
    : ∃ run, x.2 = run ++ [.updateMetrics data] ∧ (∃ config, .initConfigs config ∈ run)
        ∧ (∀ config, .initConfigs config ∈ run → K config)
        ∧ (client.system.exec (run ++ [.updateMetrics data]) s₀).map client.gather = some x.1 := by
  rcases h with ⟨run, s, hK, hconfig, hexec, rfl⟩
  rcases gather_logged hexec with ⟨hgather, hsteps⟩
  exact ⟨run, hsteps, hconfig, hK, hgather⟩

theorem delivered_scrapedSteps (hlawful : client.Lawful) {K : κ → Prop}
    {as : List (CallPool.Action Nat (RequestStep δ) (HandlerEvent κ δ ε))}
    {s : CallPool (MetricsHandler σ) (MetricsRequest δ ρ)} (hK : ∀ a ∈ as, ConfigIn K a)
    (hexec : (CallPool.system (metricsProgram client)).exec as (newMetricsHandler clients) = some s)
    {k : Nat} {r : MetricsRequest δ ρ} (hr : s.calls[k]? = some r) {read : List δ} {response : List ρ}
    (hdelivered : r.phase.delivered = some (read, response)) {i : Nat} {s₀ : σ}
    (hs₀ : clients[i]? = some s₀)
    : ∃ data x run, read[i]? = some data ∧ response[i]? = some x
        ∧ scrapedSteps client clients as k i = some (run ++ [.updateMetrics data])
        ∧ (∃ config, .initConfigs config ∈ run) ∧ (∀ config, .initConfigs config ∈ run → K config)
        ∧ (client.system.exec (run ++ [.updateMetrics data]) s₀).map client.gather = some x := by
  have hinit : (newMetricsHandler clients : CallPool _ (MetricsRequest δ ρ))
      = (newMetricsHandler (clients.map newLogged)
        : CallPool (MetricsHandler (Logged σ κ δ ε))
          (MetricsRequest δ (ρ × List (ClientAction κ δ ε)))).map (MetricsHandler.map Logged.state)
            (MetricsRequest.map Prod.fst) := by
    simp [newMetricsHandler, CallPool.map, MetricsHandler.map, Function.comp_def, newLogged]
  -- the run is one of clients that keep a log as well
  rw [hinit, (CallPool.system (metricsProgram client.logged)).exec_semiconj
    (metricsProgram_hom logged_hom).step_map, Option.map_eq_some_iff] at hexec
  rcases hexec with ⟨t, ht, rfl⟩
  rcases exists_delivered_logged hr hdelivered with ⟨r', response', hr', -, hdelivered', rfl, hshown⟩
  have hs₀' : (clients.map newLogged)[i]? = some (newLogged s₀ : Logged σ κ δ ε) := by
    rw [List.getElem?_map, hs₀]
    rfl
  rcases isolated_of_exec (lawful_logged hlawful) hK ht (List.mem_of_getElem? hr') read response' hdelivered'
    i _ hs₀' with ⟨data, x, hread, hresponse, hscraped⟩
  rcases shown_of_isolated hscraped with ⟨run, hsteps, hconfig, hloaded, hgather⟩
  refine ⟨data, x.1, run, hread, by rw [List.getElem?_map, hresponse]; rfl, ?_, hconfig, hloaded, hgather⟩
  rw [scrapedSteps, ht, Option.bind_some, hshown, hresponse, Option.map_some, hsteps]

/--
In every interleaving of requests, restarts and other goroutines, a response that is delivered shows for
every client what the client shows after the steps that the server has taken on it up to the scrape of the
request. A configuration is among them, and the scrape is the last one.
-/
theorem delivered_of_exec (hlawful : client.Lawful)
    {as : List (CallPool.Action Nat (RequestStep δ) (HandlerEvent κ δ ε))}
    {s : CallPool (MetricsHandler σ) (MetricsRequest δ ρ)}
    (hexec : (CallPool.system (metricsProgram client)).exec as (newMetricsHandler clients) = some s)
    {k : Nat} {r : MetricsRequest δ ρ} (hr : s.calls[k]? = some r) {read : List δ} {response : List ρ}
    (hdelivered : r.phase.delivered = some (read, response)) {i : Nat} {s₀ : σ}
    (hs₀ : clients[i]? = some s₀)
    : ∃ data x run, read[i]? = some data ∧ response[i]? = some x
        ∧ scrapedSteps client clients as k i = some (run ++ [.updateMetrics data])
        ∧ (∃ config, .initConfigs config ∈ run)
        ∧ (∀ config, .initConfigs config ∈ run → ∃ j, .env (.initConfigs j config) ∈ as)
        ∧ (client.system.exec (run ++ [.updateMetrics data]) s₀).map client.gather = some x := by
  refine delivered_scrapedSteps (K := fun config => ∃ j, .env (.initConfigs j config) ∈ as) hlawful ?_ hexec hr
    hdelivered hs₀
  intro a ha
  cases a with
  | start server => trivial
  | call k x => trivial
  | env e =>
    cases e with
    | initConfigs j config => exact ⟨j, ha⟩
    | _ => trivial

end Scraped

section Instances

/--
A client that adds what it reads to its value, so that the passes of two requests could get mixed up.
-/
def sumClient : MetricsInterface (Nat × Nat) Nat Nat Nat Nat where
  initConfigs _ config := some (config, 0)
  updateStaticMetrics s _ data := some (s.1, s.2 + data)
  resetMetrics s := (s.1, 0)
  updateMetricsStats s data := some (s.1, s.2 + data)
  env s _ := some s
  gather s := s.1 + s.2

theorem same_sumClient_iff {s t : Nat × Nat} : sumClient.Same s t ↔ s.1 = t.1 := by
  simp [MetricsInterface.Same, sumClient]

theorem lawful_sumClient : sumClient.Lawful where
  reset_idem _ := rfl
  initConfigs_congr _ _ _ _ := rfl
  updateStaticMetrics_congr s t config data s' h hstep := by
    cases hstep
    exact ⟨_, rfl, same_sumClient_iff.mpr (same_sumClient_iff.mp h)⟩
  updateMetricsStats_congr s t data s' h hstep := by
    cases hstep
    exact ⟨_, rfl, same_sumClient_iff.mpr (same_sumClient_iff.mp h)⟩
  env_congr s t e s' h hstep := by
    cases hstep
    exact ⟨t, rfl, h⟩
  env_reset s e s' hstep := by
    cases hstep
    exact ⟨s, rfl, rfl⟩
  gather_env s e s' hstep := by
    cases hstep
    rfl

def overlappingRun : List (CallPool.Action Nat (RequestStep Nat) (HandlerEvent Nat Nat Nat)) :=
  [.env .initConfig, .env (.initConfigs 0 100), .env (.initConfigs 1 200),
    .env (.updateStaticMetrics 1 200 1), .env (.updateStaticMetrics 0 100 2), .env .startServer,
    .start 0, .start 0, .call 0 .next, .call 1 .next, .call 0 .next, .call 0 (.client 1 0),
    .call 0 (.client 0 0), .call 0 (.client 0 3), .call 0 (.client 1 4), .call 0 .next, .call 0 .next,
    .call 0 .next, .call 1 .next, .call 1 (.client 0 0), .call 1 (.client 0 5), .call 1 (.client 1 0),
    .call 1 (.client 1 6), .call 1 .next, .call 1 .next]

/--
The second request shows both scrapes of the second client, as they follow each other.
-/
theorem delivered_of_exec_overlappingRun
    : ∃ s r, (CallPool.system (metricsProgram sumClient)).exec overlappingRun
          (newMetricsHandler [(0, 0), (0, 0)]) = some s
        ∧ s.calls[1]? = some r ∧ r.phase.delivered = some ([5, 6], [105, 206])
        ∧ scrapedSteps sumClient [(0, 0), (0, 0)] overlappingRun 1 1
          = some [.initConfigs 200, .updateStaticMetrics 200 1, .updateMetrics 4, .updateMetrics 6]
        ∧ (sumClient.system.exec
            [.initConfigs 200, .updateStaticMetrics 200 1, .updateMetrics 4, .updateMetrics 6] (0, 0)).map
              sumClient.gather = some 206 := by
  have hsome : (((CallPool.system (metricsProgram sumClient)).exec overlappingRun
      (newMetricsHandler [(0, 0), (0, 0)])).bind fun s => s.calls[1]?.bind fun r => r.phase.delivered)
        = some ([5, 6], [105, 206]) := by
    decide +kernel
  have hsteps : scrapedSteps sumClient [(0, 0), (0, 0)] overlappingRun 1 1
      = some [.initConfigs 200, .updateStaticMetrics 200 1, .updateMetrics 4, .updateMetrics 6] := by
    decide +kernel
  simp only [Option.bind_eq_some_iff] at hsome
  rcases hsome with ⟨s, hs, r, hr, hdelivered⟩
  refine ⟨s, r, hs, hr, hdelivered, hsteps, ?_⟩
  rcases delivered_of_exec (i := 1) lawful_sumClient hs hr hdelivered rfl with
    ⟨data, x, run, _, hx, hrun, _, _, hgather⟩
  rw [hsteps, Option.some.injEq] at hrun
  cases hx
  rw [← hrun] at hgather
  exact hgather

end Instances

end Exporter
