import DeviceMetricsExporter.Exporter.Impl.Lifecycle
import DeviceMetricsExporter.Exporter.Lemmas.ClientRun
import DeviceMetricsExporter.Exporter.Lemmas.ConfigWatcher

/-!
This module contains the theorem that the exporter as a whole serves the configuration in the file: once
the watcher has nothing to do, the responses of its server are scrapes of clients that have read this
configuration last.
-/

universe u v w

namespace Exporter

inductive ServerPhase where
  | stopped
  | initializing
  | running
  deriving DecidableEq

def ServerState.phase : ServerState → ServerPhase
  | stopped => .stopped
  | initializing _ => .initializing
  | running _ => .running

theorem ServerState.exists_running {server : ServerState} (h : server.phase = .running)
    : ∃ n, server = .running n := by
  cases server with
  | running n => exact ⟨n, rfl⟩
  | stopped | initializing _ => cases h

def ConfigWatcher.serverPhase {φ κ : Type*} (s : ConfigWatcher φ κ) : ServerPhase :=
  match s.loop with
  | .notStarted => if s.main = .initConfig then .stopped else .initializing
  | .selecting | .stopServer => .running
  | .initConfig => .stopped
  | .startServer => .initializing

section Configured

variable {σ κ δ ε ρ : Type w} {client : MetricsInterface σ κ δ ε ρ} {K : κ → Prop}
  {clients₀ : List (σ × Option κ)} {config : κ}
  {s s' : CallPool (MetricsHandler (σ × Option κ)) (MetricsRequest δ (ρ × Option κ))}

/--
The clients that are initialized have read `config` last, and so had they for every response of the server
that runs.
-/
structure ConfiguredWith (config : κ)
    (s : CallPool (MetricsHandler (σ × Option κ)) (MetricsRequest δ (ρ × Option κ))) : Prop where
  clients : ∀ i t, s.shared.clients[i]? = some t → s.shared.server.initialized i = true →
    t.2 = some config
  delivered : ∀ r ∈ s.calls, s.shared.server = .running r.server → ∀ read response,
    r.phase.delivered = some (read, response) → ∀ x ∈ response, x.2 = some config

theorem configured_of_not_initialized (h : ∀ i, s.shared.server.initialized i = false)
    : ConfiguredWith config s where
  clients i t _ hinit := by
    rw [h i] at hinit
    cases hinit
  delivered r _ hserver := by
    have hfalse := h 0
    rw [hserver] at hfalse
    cases hfalse

theorem initialized_initConfigs (clients : List σ) (i : Nat)
    : (ServerState.initializing (clients.map fun _ => .initConfigs)).initialized i = false := by
  simp only [ServerState.initialized, List.getElem?_map]
  cases clients[i]? <;> rfl

theorem getElem?_set_recorded {clients : List (σ × Option κ)} {i j : Nat} {t t' u : σ × Option κ}
    (ht : clients[i]? = some t) (hu : (clients.set i t')[j]? = some u) (hrecorded : t'.2 = t.2)
    : ∃ u', clients[j]? = some u' ∧ u.2 = u'.2 := by
  rw [List.getElem?_set] at hu
  split at hu
  . next hij =>
    split at hu
    . cases hu
      exact ⟨t, hij ▸ ht, hrecorded⟩
    . cases hu
  . exact ⟨u, hu, rfl⟩

theorem ConfiguredWith.moves (h : ConfiguredWith config s) {server : Nat}
    {phase phase' : RequestPhase δ (ρ × Option κ)} {mh' : MetricsHandler (σ × Option κ)}
    (hmoves : Moves client.recording s.shared server phase mh' phase')
    : ∀ i t, mh'.clients[i]? = some t → mh'.server.initialized i = true → t.2 = some config := by
  cases hmoves with
  | accept hserver => exact h.clients
  | lock hmu => exact h.clients
  | reset hpass hs =>
    intro i t ht hinit
    rcases getElem?_set_recorded hs ht rfl with ⟨t', ht', heq⟩
    exact heq.trans (h.clients i t' ht' hinit)
  | update hpass hs hupdate =>
    intro i t ht hinit
    rcases Option.map_eq_some_iff.mp hupdate with ⟨u, _, rfl⟩
    rcases getElem?_set_recorded hs ht rfl with ⟨t', ht', heq⟩
    exact heq.trans (h.clients i t' ht' hinit)
  | wait hread => exact h.clients
  | serve read => exact h.clients
  | unlock read response => exact h.clients

theorem ConfiguredWith.moves_delivered (h : ConfiguredWith config s) {r : MetricsRequest δ (ρ × Option κ)}
    (hr : r ∈ s.calls) {phase' : RequestPhase δ (ρ × Option κ)} {mh' : MetricsHandler (σ × Option κ)}
    (hmoves : Moves client.recording s.shared r.server r.phase mh' phase')
    (hserver : s.shared.server = .running r.server) {read : List δ} {response : List (ρ × Option κ)}
    (hdelivered : phase'.delivered = some (read, response)) : ∀ x ∈ response, x.2 = some config := by
  have hbefore := h.delivered r hr hserver
  generalize r.phase = phase at hmoves hbefore
  cases hmoves with
  | serve read' =>
    rw [if_pos hserver] at hdelivered
    cases hdelivered
    intro x hx
    rcases List.mem_map.mp hx with ⟨t, ht, rfl⟩
    rcases List.getElem?_of_mem ht with ⟨i, hi⟩
    exact h.clients i t hi (by rw [hserver]; rfl)
  | unlock read' response' =>
    cases response' with
    | none => cases hdelivered
    | some response' =>
      cases hdelivered
      exact hbefore read response rfl
  | accept hserver => cases hdelivered
  | lock hmu => cases hdelivered
  | reset hpass hs => cases hdelivered
  | update hpass hs hupdate => cases hdelivered
  | wait hread => cases hdelivered

theorem ConfiguredWith.happens (h : ConfiguredWith config s) (hpool : PoolInv client.recording K clients₀ s)
    {e : HandlerEvent κ δ ε} {mh' : MetricsHandler (σ × Option κ)}
    (hconfig : ∀ i config', e = .initConfigs i config' → config' = config)
    (hhappens : Happens client.recording s.shared e mh') : ConfiguredWith config ⟨mh', s.calls⟩ := by
  cases hhappens with
  | stopServer hserver => exact configured_of_not_initialized fun _ => rfl
  | initConfig hserver => exact configured_of_not_initialized (initialized_initConfigs _)
  | @initConfigs passes i config' t t' hserver hpass hs hs' =>
    refine ⟨fun j u hu hinit => ?_, fun r _ hrunning => by cases hrunning⟩
    rcases Option.map_eq_some_iff.mp hs' with ⟨v, _, rfl⟩
    rw [List.getElem?_set] at hu
    split at hu
    . next hij =>
      split at hu
      . cases hu
        rw [hconfig i config' rfl]
      . cases hu
    . next hij =>
      refine h.clients j u hu ?_
      rw [hserver]
      simpa [ServerState.initialized, hij] using hinit
  | @updateStaticMetrics passes i config' data t t' hserver hpass hs hs' =>
    refine ⟨fun j u hu hinit => ?_, fun r _ hrunning => by cases hrunning⟩
    rcases Option.map_eq_some_iff.mp hs' with ⟨v, _, rfl⟩
    rcases getElem?_set_recorded hs hu rfl with ⟨u', hu', heq⟩
    refine heq.trans (h.clients j u' hu' ?_)
    rw [hserver]
    by_cases hij : i = j
    . subst hij
      simp [ServerState.initialized, hpass]
    . simpa [ServerState.initialized, hij] using hinit
  | @startServer passes hserver hpasses =>
    refine ⟨fun i t ht _ => h.clients i t ht ?_, fun r hr hrunning read response hdelivered => ?_⟩
    . have hlt : i < passes.length := by
        rw [hpool.handler.passes passes hserver, ← hpool.handler.length]
        exact (List.getElem?_eq_some_iff.mp ht).1
      have hpass : passes[i]? = some .finished := by
        rw [List.getElem?_eq_getElem hlt, hpasses _ (List.getElem_mem hlt)]
      rw [hserver]
      simp [ServerState.initialized, hpass]
    -- the server that starts has not accepted a request yet
    . have hserver' : s.shared.started = r.server := ServerState.running.inj hrunning
      have hphase : r.phase ≠ .accepting := by
        intro hphase
        rw [hphase] at hdelivered
        cases hdelivered
      have hlt := (hpool.requests r hr).started hphase
      omega
  | client hs hs' =>
    refine ⟨fun i t ht hinit => ?_, h.delivered⟩
    rcases Option.map_eq_some_iff.mp hs' with ⟨v, _, rfl⟩
    rcases getElem?_set_recorded hs ht rfl with ⟨t', ht', heq⟩
    exact heq.trans (h.clients i t' ht' hinit)

theorem ConfiguredWith.step (h : ConfiguredWith config s) (hpool : PoolInv client.recording K clients₀ s)
    {a : CallPool.Action Nat (RequestStep δ) (HandlerEvent κ δ ε)} (ha : ConfigIn (· = config) a)
    (hstep : (CallPool.system (metricsProgram client.recording)).step s a = some s')
    : ConfiguredWith config s' := by
  rcases CallPool.step_cases hstep with ⟨server, rfl, rfl⟩ | ⟨i, x, r, mh', r', rfl, hr, hcall, rfl⟩ |
    ⟨e, mh', rfl, hevent, rfl⟩
  . refine ⟨h.clients, fun r hr hserver read response hdelivered => ?_⟩
    rcases List.mem_append.mp hr with hr | hr
    . exact h.delivered r hr hserver read response hdelivered
    . cases List.mem_singleton.mp hr
      cases hdelivered
  . rcases moves_of_step client.recording hcall with ⟨hmoves, hserver⟩
    refine ⟨h.moves hmoves, fun r'' hr'' hrunning read response hdelivered => ?_⟩
    replace hrunning : s.shared.server = .running r''.server := hmoves.server_eq.1.symm.trans hrunning
    have hperm := CallPool.calls_perm hr
    have hperm' := CallPool.calls_set_perm hr r'
    rcases List.mem_cons.mp (hperm'.mem_iff.mp hr'') with rfl | hr''
    . rw [hserver] at hrunning
      exact h.moves_delivered (List.mem_of_getElem? hr) hmoves hrunning hdelivered
    . exact h.delivered r'' (hperm.mem_iff.mpr (List.mem_cons_of_mem _ hr'')) hrunning read response
        hdelivered
  . refine h.happens hpool (fun i config' he => ?_) (happens_of_event client.recording hevent)
    subst he
    exact ha

end Configured

namespace Lifecycle

variable {φ : Type u} {κ : Type v} {σ τ κ' δ ε ρ ρ' : Type w}

section Steps

variable {reader : ConfigReader φ κ} {view : Config κ → κ'} {client : MetricsInterface σ κ' δ ε ρ}

theorem step_cases {s s' : Lifecycle φ κ σ δ ρ} {a : LifecycleAction φ δ ε}
    (h : step reader view client s a = some s')
    : (∃ b watcher, a = .watcher b ∧ s.watcher.step reader b = some watcher
        ∧ (s.watcher.handlerEvent s.requests.shared.server b : Option (HandlerEvent κ' δ ε)) = none
        ∧ s' = ⟨watcher, s.requests⟩) ∨
      (∃ b watcher e requests, a = .watcher b ∧ s.watcher.step reader b = some watcher
        ∧ s.watcher.handlerEvent s.requests.shared.server b = some e
        ∧ (CallPool.system (metricsProgram client)).step s.requests (.env e) = some requests
        ∧ s' = ⟨watcher, requests⟩) ∨
      ∃ b requests, a.toRequests (view s.watcher.runConf) = some b
        ∧ (CallPool.system (metricsProgram client)).step s.requests b = some requests
        ∧ s' = ⟨s.watcher, requests⟩ := by
  cases a with
  | watcher b =>
    simp only [step, Option.bind_eq_some_iff] at h
    rcases h with ⟨watcher, hwatcher, h⟩
    split at h
    . next he =>
      cases h
      exact .inl ⟨b, watcher, rfl, hwatcher, he, rfl⟩
    . next e he =>
      rcases Option.map_eq_some_iff.mp h with ⟨requests, hrequests, rfl⟩
      exact .inr (.inl ⟨b, watcher, e, requests, rfl, hwatcher, he, hrequests, rfl⟩)
  | _ =>
    right
    right
    simp only [step, Option.bind_eq_some_iff, Option.map_eq_some_iff] at h
    rcases h with ⟨b, hb, requests, hrequests, rfl⟩
    exact ⟨b, requests, hb, hrequests, rfl⟩

def map (f : σ → τ) (g : ρ → ρ') (s : Lifecycle φ κ σ δ ρ) : Lifecycle φ κ τ δ ρ' where
  watcher := s.watcher
  requests := s.requests.map (MetricsHandler.map f) (MetricsRequest.map g)

theorem step_map {client' : MetricsInterface τ κ' δ ε ρ'} {f : σ → τ} {g : ρ → ρ'}
    (hom : client.Hom client' f g) (s : Lifecycle φ κ σ δ ρ) (a : LifecycleAction φ δ ε)
    : step reader view client' (s.map f g) a = (step reader view client s a).map (map f g) := by
  have hpool := fun a => (metricsProgram_hom hom).step_map s.requests a
  cases a with
  | watcher b =>
    simp only [step, map, CallPool.map, MetricsHandler.map] at hpool ⊢
    cases s.watcher.step reader b with
    | none => rfl
    | some watcher =>
      simp only [Option.bind_some]
      cases s.watcher.handlerEvent s.requests.shared.server b with
      | none => rfl
      | some e =>
        simp only [hpool, Option.map_map]
        rfl
  | _ =>
    simp only [step, map, LifecycleAction.toRequests, Option.bind_some, hpool, Option.map_map]
    rfl

end Steps

section Invariant

variable (reader : ConfigReader φ κ) (view : Config κ → κ') (K : κ' → Prop)

/--
The watcher works in order, and the clients accept the configuration of every file.
-/
def Orderly (s : Lifecycle φ κ σ δ ρ) (a : LifecycleAction φ δ ε) : Prop :=
  match a with
  | .watcher b =>
    s.watcher.Orderly b ∧
      match b with
      | .change file _ => K (view (reader.refreshConfig file))
      | _ => True
  | _ => True

instance Orderly.decidable [DecidablePred K] (s : Lifecycle φ κ σ δ ρ) (a : LifecycleAction φ δ ε)
    : Decidable (Orderly reader view K s a) :=
  match a with
  | .watcher (.change file op) =>
    inferInstanceAs (Decidable (s.watcher.Orderly (.change file op) ∧ K (view (reader.refreshConfig file))))
  | .watcher (.notify op) => inferInstanceAs (Decidable (s.watcher.Orderly (.notify op) ∧ True))
  | .watcher .main => inferInstanceAs (Decidable (s.watcher.Orderly .main ∧ True))
  | .watcher .receive => inferInstanceAs (Decidable (s.watcher.Orderly .receive ∧ True))
  | .watcher .expire => inferInstanceAs (Decidable (s.watcher.Orderly .expire ∧ True))
  | .watcher .timer => inferInstanceAs (Decidable (s.watcher.Orderly .timer ∧ True))
  | .watcher (.stopServer closed) =>
    inferInstanceAs (Decidable (s.watcher.Orderly (.stopServer closed) ∧ True))
  | .watcher .startServer => inferInstanceAs (Decidable (s.watcher.Orderly .startServer ∧ True))
  | .initConfigs _ | .updateStaticMetrics _ _ | .request _ | .serve _ _ | .client _ _ => .isTrue trivial

structure Inv (client : MetricsInterface σ κ' δ ε ρ) (clients₀ : List (σ × Option κ'))
    (s : Lifecycle φ κ (σ × Option κ') δ (ρ × Option κ')) : Prop where
  watcher : s.watcher.Inv reader
  pool : PoolInv client.recording K clients₀ s.requests
  phase : s.requests.shared.server.phase = s.watcher.serverPhase
  file : K (view (reader.refreshConfig s.watcher.file))
  runConf : s.watcher.main ≠ .initConfig → K (view s.watcher.runConf)
  configured : ConfiguredWith (view s.watcher.runConf) s.requests

variable {reader} {view} {K} {client : MetricsInterface σ κ' δ ε ρ} {clients₀ : List (σ × Option κ')}
  {s s' : Lifecycle φ κ (σ × Option κ') δ (ρ × Option κ')}

theorem inv_newLifecycle {maxQueuedEvents : Nat} {file : φ} (hfile : K (view (reader.refreshConfig file)))
    : Inv reader view K client clients₀ (newLifecycle maxQueuedEvents file clients₀) where
  watcher := ConfigWatcher.inv_newConfigWatcher reader maxQueuedEvents file
  pool := poolInv_newMetricsHandler
  phase := rfl
  file := hfile
  runConf h := absurd rfl h
  configured := configured_of_not_initialized fun _ => rfl

theorem phase_of_toRequests {config : κ'} {a : LifecycleAction φ δ ε}
    {b : CallPool.Action Nat (RequestStep δ) (HandlerEvent κ' δ ε)} (hb : a.toRequests config = some b)
    {t t' : CallPool (MetricsHandler σ) (MetricsRequest δ ρ)}
    (hstep : (CallPool.system (metricsProgram client)).step t b = some t')
    : t'.shared.server.phase = t.shared.server.phase := by
  rcases CallPool.step_cases hstep with ⟨server, rfl, rfl⟩ | ⟨i, x, r, mh', r', rfl, hr, hcall, rfl⟩ |
    ⟨e, mh', rfl, hevent, rfl⟩
  . rfl
  . exact congrArg ServerState.phase (moves_of_step client hcall).1.server_eq.1
  . have hhappens := happens_of_event client hevent
    cases hhappens with
    | initConfigs hserver hpass hs hs' => simp [hserver, ServerState.phase]
    | updateStaticMetrics hserver hpass hs hs' => simp [hserver, ServerState.phase]
    | client hs hs' => rfl
    | stopServer hserver => cases a <;> cases hb
    | initConfig hserver => cases a <;> cases hb
    | startServer hserver hpasses => cases a <;> cases hb

theorem config_of_toRequests {config : κ'} {a : LifecycleAction φ δ ε}
    {b : CallPool.Action Nat (RequestStep δ) (HandlerEvent κ' δ ε)} (hb : a.toRequests config = some b)
    : ConfigIn (· = config) b := by
  cases a <;> cases hb <;> trivial

theorem serverPhase_of_initConfig {w : ConfigWatcher φ κ} (h : w.Inv reader) (hmain : w.main = .initConfig)
    : w.serverPhase = .stopped := by
  simp [ConfigWatcher.serverPhase, (h.booting (.inl hmain)).1, hmain]

theorem Inv.requests (h : Inv reader view K client clients₀ s) (hlawful : client.Lawful)
    {a : LifecycleAction φ δ ε} {b : CallPool.Action Nat (RequestStep δ) (HandlerEvent κ' δ ε)}
    (hb : a.toRequests (view s.watcher.runConf) = some b)
    {requests : CallPool (MetricsHandler (σ × Option κ')) (MetricsRequest δ (ρ × Option κ'))}
    (hstep : (CallPool.system (metricsProgram client.recording)).step s.requests b = some requests)
    : Inv reader view K client clients₀ ⟨s.watcher, requests⟩ := by
  have hconfig := config_of_toRequests hb
  have hK : ConfigIn K b := by
    rcases CallPool.step_cases hstep with ⟨_, rfl, _⟩ | ⟨_, _, _, _, _, rfl, _⟩ | ⟨e, mh', rfl, hevent, _⟩
    . trivial
    . trivial
    cases happens_of_event client.recording hevent with
    | initConfigs hserver hpass hs hs' =>
      rw [show _ = view s.watcher.runConf from hconfig]
      refine h.runConf fun hmain => ?_
      have hphase := h.phase.trans (serverPhase_of_initConfig h.watcher hmain)
      rw [hserver] at hphase
      cases hphase
    | _ => trivial
  exact
    { watcher := h.watcher
      pool := h.pool.step (lawful_recording hlawful) hK hstep
      phase := (phase_of_toRequests hb hstep).trans h.phase
      file := h.file
      runConf := h.runConf
      configured := h.configured.step h.pool hconfig hstep }

theorem Inv.quiet (h : Inv reader view K client clients₀ s) {watcher : ConfigWatcher φ κ}
    (hwatcher : watcher.Inv reader) (hphase : watcher.serverPhase = s.watcher.serverPhase)
    (hfile : K (view (reader.refreshConfig watcher.file)))
    (hmain : watcher.main ≠ .initConfig → s.watcher.main ≠ .initConfig)
    (hrunConf : watcher.runConf = s.watcher.runConf)
    : Inv reader view K client clients₀ ⟨watcher, s.requests⟩ where
  watcher := hwatcher
  pool := h.pool
  phase := h.phase.trans hphase.symm
  file := hfile
  runConf hne := by
    rw [hrunConf]
    exact h.runConf (hmain hne)
  configured := by
    rw [hrunConf]
    exact h.configured

theorem serverPhase_push (w : ConfigWatcher φ κ) (op : FileOp)
    : (w.push op).serverPhase = w.serverPhase := by
  simp [ConfigWatcher.serverPhase]

theorem shared_of_env {e : HandlerEvent κ' δ ε} {t t' : CallPool (MetricsHandler σ) (MetricsRequest δ ρ)}
    (hstep : (CallPool.system (metricsProgram client)).step t (.env e) = some t')
    : Happens client t.shared e t'.shared := by
  rcases CallPool.step_cases hstep with ⟨_, ha, _⟩ | ⟨_, _, _, _, _, ha, _⟩ | ⟨_, _, ha, hevent, rfl⟩
  . cases ha
  . cases ha
  . cases ha
    exact happens_of_event client hevent

theorem server_of_initConfig {t t' : CallPool (MetricsHandler σ) (MetricsRequest δ ρ)}
    (hstep : (CallPool.system (metricsProgram client)).step t (.env .initConfig) = some t')
    : t'.shared.server = .initializing (t.shared.clients.map fun _ => .initConfigs) := by
  have hhappens := shared_of_env hstep
  generalize t'.shared = mh' at hhappens ⊢
  cases hhappens with
  | initConfig hserver => rfl

theorem phase_of_startServer {t t' : CallPool (MetricsHandler σ) (MetricsRequest δ ρ)}
    (hstep : (CallPool.system (metricsProgram client)).step t (.env .startServer) = some t')
    : t'.shared.server.phase = .running := by
  have hhappens := shared_of_env hstep
  generalize t'.shared = mh' at hhappens ⊢
  cases hhappens with
  | startServer hserver hpasses => rfl

theorem phase_of_stopServer {t t' : CallPool (MetricsHandler σ) (MetricsRequest δ ρ)}
    (hstep : (CallPool.system (metricsProgram client)).step t (.env .stopServer) = some t')
    : t'.shared.server.phase = .stopped := by
  have hhappens := shared_of_env hstep
  generalize t'.shared = mh' at hhappens ⊢
  cases hhappens with
  | stopServer hserver => rfl

theorem Inv.initConfig (h : Inv reader view K client clients₀ s) (hlawful : client.Lawful)
    {watcher : ConfigWatcher φ κ} (hwatcher : watcher.Inv reader)
    (hphase : watcher.serverPhase = .initializing) (hfile : watcher.file = s.watcher.file)
    (hrunConf : watcher.runConf = reader.refreshConfig s.watcher.file)
    {requests : CallPool (MetricsHandler (σ × Option κ')) (MetricsRequest δ (ρ × Option κ'))}
    (hstep : (CallPool.system (metricsProgram client.recording)).step s.requests (.env .initConfig)
      = some requests)
    : Inv reader view K client clients₀ ⟨watcher, requests⟩ where
  watcher := hwatcher
  pool := h.pool.step (a := .env .initConfig) (lawful_recording hlawful) trivial hstep
  phase := by
    rw [server_of_initConfig hstep]
    exact hphase.symm
  file := by
    rw [hfile]
    exact h.file
  runConf _ := by
    rw [hrunConf]
    exact h.file
  configured := by
    refine configured_of_not_initialized fun i => ?_
    rw [server_of_initConfig hstep]
    exact initialized_initConfigs _ i

theorem Inv.event (h : Inv reader view K client clients₀ s) (hlawful : client.Lawful)
    {watcher : ConfigWatcher φ κ} (hwatcher : watcher.Inv reader) (hfile : watcher.file = s.watcher.file)
    (hmain : watcher.main ≠ .initConfig → s.watcher.main ≠ .initConfig)
    (hrunConf : watcher.runConf = s.watcher.runConf) {e : HandlerEvent κ' δ ε}
    (he : ∀ K : κ' → Prop, ConfigIn K (.env e : CallPool.Action Nat (RequestStep δ) _))
    {requests : CallPool (MetricsHandler (σ × Option κ')) (MetricsRequest δ (ρ × Option κ'))}
    (hstep : (CallPool.system (metricsProgram client.recording)).step s.requests (.env e) = some requests)
    (hphase : requests.shared.server.phase = watcher.serverPhase)
    : Inv reader view K client clients₀ ⟨watcher, requests⟩ where
  watcher := hwatcher
  pool := h.pool.step (lawful_recording hlawful) (he K) hstep
  phase := hphase
  file := by
    rw [hfile]
    exact h.file
  runConf hne := by
    rw [hrunConf]
    exact h.runConf (hmain hne)
  configured := by
    rw [hrunConf]
    exact h.configured.step h.pool (he _) hstep

theorem Inv.watcherStep (h : Inv reader view K client clients₀ s) (hlawful : client.Lawful)
    {b : WatcherAction φ} {watcher : ConfigWatcher φ κ}
    (hok : Orderly reader view K s (.watcher b : LifecycleAction φ δ ε))
    (htakes : ConfigWatcher.Takes reader s.watcher b watcher)
    {requests : CallPool (MetricsHandler (σ × Option κ')) (MetricsRequest δ (ρ × Option κ'))}
    (hrequests : ((s.watcher.handlerEvent s.requests.shared.server b : Option (HandlerEvent κ' δ ε)) = none
        ∧ requests = s.requests) ∨
      ∃ e, s.watcher.handlerEvent s.requests.shared.server b = some e
        ∧ (CallPool.system (metricsProgram client.recording)).step s.requests (.env e) = some requests)
    : Inv reader view K client clients₀ ⟨watcher, requests⟩ := by
  have hwatcher := h.watcher.takes hok.1 htakes
  cases htakes with
  | change file op hop =>
    rcases hrequests with ⟨_, rfl⟩ | ⟨e, he, _⟩
    . exact h.quiet hwatcher (serverPhase_push _ op) (by simpa using hok.2) (by simp) (by simp)
    . cases he
  | notify op =>
    rcases hrequests with ⟨_, rfl⟩ | ⟨e, he, _⟩
    . exact h.quiet hwatcher (serverPhase_push _ op) (by simpa using h.file) (by simp) (by simp)
    . cases he
  | mainInitConfig hmain =>
    have hloop := (h.watcher.booting (.inl hmain)).1
    rcases hrequests with ⟨he, _⟩ | ⟨e, he, hstep⟩
    . simp [ConfigWatcher.handlerEvent, hmain] at he
    . simp only [ConfigWatcher.handlerEvent, hmain, Option.some.injEq] at he
      subst he
      exact h.initConfig hlawful hwatcher (by simp [ConfigWatcher.serverPhase, hloop]) rfl rfl hstep
  | mainStartServer hmain =>
    rcases hrequests with ⟨he, _⟩ | ⟨e, he, hstep⟩
    . simp [ConfigWatcher.handlerEvent, hmain] at he
    . simp only [ConfigWatcher.handlerEvent, hmain, Option.some.injEq] at he
      subst he
      exact h.event hlawful hwatcher rfl (by simp [hmain]) rfl (fun _ => by trivial) hstep
        (phase_of_startServer hstep)
  | addWatch hmain =>
    have hloop := (h.watcher.adding hmain).1
    rcases hrequests with ⟨_, rfl⟩ | ⟨e, he, _⟩
    . exact h.quiet hwatcher (by simp [ConfigWatcher.serverPhase, hloop]) h.file (by simp [hmain]) rfl
    . simp [ConfigWatcher.handlerEvent, hmain] at he
  | receive op queue hloop hqueue =>
    rcases hrequests with ⟨_, rfl⟩ | ⟨e, he, _⟩
    . exact h.quiet hwatcher rfl h.file id rfl
    . cases he
  | expire hdebounce =>
    rcases hrequests with ⟨_, rfl⟩ | ⟨e, he, _⟩
    . exact h.quiet hwatcher rfl h.file id rfl
    . cases he
  | timer hloop hdebounce =>
    rcases hrequests with ⟨_, rfl⟩ | ⟨e, he, _⟩
    . exact h.quiet hwatcher (by simp [ConfigWatcher.serverPhase, hloop]) h.file id rfl
    . cases he
  | stopServer closed hloop =>
    have hphase : s.requests.shared.server.phase = .running := by
      rw [h.phase]
      simp [ConfigWatcher.serverPhase, hloop]
    rcases ServerState.exists_running hphase with ⟨n, hserver⟩
    rcases hrequests with ⟨he, _⟩ | ⟨e, he, hstep⟩
    . simp [ConfigWatcher.handlerEvent, hserver] at he
    . simp only [ConfigWatcher.handlerEvent, hserver, Option.some.injEq] at he
      subst he
      exact h.event hlawful hwatcher rfl id rfl (fun _ => by trivial) hstep (phase_of_stopServer hstep)
  | keepServer hloop hserver =>
    rw [h.watcher.closed hloop] at hserver
    cases hserver
  | initConfig hloop hserver =>
    rcases hrequests with ⟨he, _⟩ | ⟨e, he, hstep⟩
    . simp [ConfigWatcher.handlerEvent, hloop, hserver] at he
    . simp only [ConfigWatcher.handlerEvent, hloop, hserver, Option.isSome_none, Bool.false_eq_true,
        if_false, Option.some.injEq] at he
      subst he
      exact h.initConfig hlawful hwatcher rfl rfl rfl hstep
  | startServer hloop =>
    rcases hrequests with ⟨he, _⟩ | ⟨e, he, hstep⟩
    . simp [ConfigWatcher.handlerEvent, hloop] at he
    . simp only [ConfigWatcher.handlerEvent, hloop, Option.some.injEq] at he
      subst he
      exact h.event hlawful hwatcher rfl id rfl (fun _ => by trivial) hstep (phase_of_startServer hstep)

theorem Inv.step (h : Inv reader view K client clients₀ s) (hlawful : client.Lawful)
    {a : LifecycleAction φ δ ε} (hok : Orderly reader view K s a)
    (hstep : step reader view client.recording s a = some s') : Inv reader view K client clients₀ s' := by
  rcases step_cases hstep with ⟨b, watcher, rfl, hwatcher, he, rfl⟩ |
    ⟨b, watcher, e, requests, rfl, hwatcher, he, hrequests, rfl⟩ | ⟨b, requests, hb, hrequests, rfl⟩
  . exact h.watcherStep hlawful hok (ConfigWatcher.takes_of_step hwatcher) (.inl ⟨he, rfl⟩)
  . exact h.watcherStep hlawful hok (ConfigWatcher.takes_of_step hwatcher) (.inr ⟨e, he, hrequests⟩)
  . exact h.requests hlawful hb hrequests

end Invariant

section Run

variable {reader : ConfigReader φ κ} {view : Config κ → κ'} {K : κ' → Prop}
  {client : MetricsInterface σ κ' δ ε ρ}

theorem exec_of_hom {client' : MetricsInterface τ κ' δ ε ρ'} {f : σ → τ} {g : ρ → ρ'}
    (hom : client.Hom client' f g) {maxQueuedEvents : Nat} {file : φ} {clients : List σ}
    {as : List (LifecycleAction φ δ ε)} {s : Lifecycle φ κ τ δ ρ'}
    (hexec : (system reader view client').exec as (newLifecycle maxQueuedEvents file (clients.map f)) = some s)
    (hok : (system reader view client').Respects (Orderly reader view K) as
      (newLifecycle maxQueuedEvents file (clients.map f)))
    : ∃ t, (system reader view client).exec as (newLifecycle maxQueuedEvents file clients) = some t
        ∧ s = t.map f g
        ∧ (system reader view client).Respects (Orderly reader view K) as
          (newLifecycle maxQueuedEvents file clients) := by
  have hmap (s : Lifecycle φ κ σ δ ρ) (a : LifecycleAction φ δ ε)
      : (system reader view client').step (s.map f g) a
        = ((system reader view client).step s a).map (map f g) :=
    step_map hom s a
  have hinit : newLifecycle maxQueuedEvents file (clients.map f)
      = (newLifecycle maxQueuedEvents file clients : Lifecycle φ κ σ δ ρ).map f g := by
    simp [newLifecycle, newMetricsHandler, map, CallPool.map, MetricsHandler.map]
  rw [hinit, (system reader view client).exec_semiconj hmap, Option.map_eq_some_iff] at hexec
  rcases hexec with ⟨t, ht, rfl⟩
  rw [hinit] at hok
  exact ⟨t, ht, rfl, (system reader view client).respects_semiconj hmap (fun _ _ h => h) hok⟩

theorem served_scrapedWith (hlawful : client.Lawful) {maxQueuedEvents : Nat} {file : φ}
    {clients : List σ} (hfile : K (view (reader.refreshConfig file))) {as : List (LifecycleAction φ δ ε)}
    {s : Lifecycle φ κ σ δ ρ}
    (hexec : (system reader view client).exec as (newLifecycle maxQueuedEvents file clients) = some s)
    (hok : (system reader view client).Respects (Orderly reader view K) as
      (newLifecycle maxQueuedEvents file clients))
    (hsettled : ∀ b, b.isInternal = true → s.watcher.step reader b = none)
    : ∃ server, s.requests.shared.server = .running server ∧
      ∀ r ∈ s.requests.calls, r.server = server →
        ∀ (read : List δ) (response : List ρ), r.phase.delivered = some (read, response) →
          ∀ (i : Nat) (s₀ : σ), clients[i]? = some s₀ →
            ∃ data x, read[i]? = some data ∧ response[i]? = some x
              ∧ ScrapedWith client K (view (reader.refreshConfig s.watcher.file)) s₀ data x := by
  have hclients : clients = (clients.map fun s₀ => (s₀, (none : Option κ'))).map Prod.fst := by
    simp [Function.comp_def]
  -- the run is one of clients that record their configuration as well
  rw [hclients] at hexec hok
  rcases exec_of_hom recording_hom hexec hok with ⟨t, ht, rfl, hok'⟩
  have hinv : Inv reader view K client _ t :=
    (system reader view client.recording).exec_invariant
      (fun _ _ _ h hok hstep => h.step hlawful hok hstep) as _ t (inv_newLifecycle hfile) hok' ht
  rcases hinv.watcher.settled hsettled with ⟨hmain, hloop, hnot⟩
  have hloaded : t.watcher.runConf = reader.refreshConfig t.watcher.file :=
    (hinv.watcher.waiting hmain).2.resolve_right hnot
  have hphase : t.requests.shared.server.phase = .running := by
    rw [hinv.phase]
    simp [ConfigWatcher.serverPhase, hloop]
  rcases ServerState.exists_running hphase with ⟨server, hserver⟩
  refine ⟨server, hserver, fun r' hr' heq read response hdelivered i s₀ hs₀ => ?_⟩
  rcases List.mem_map.mp hr' with ⟨r, hr, rfl⟩
  rw [show (r.map Prod.fst).phase = r.phase.map Prod.fst from rfl, RequestPhase.delivered_map,
    Option.map_eq_some_iff] at hdelivered
  rcases hdelivered with ⟨⟨read', response'⟩, hdelivered, hpair⟩
  cases hpair
  have hs₀' : (clients.map fun s₀ => (s₀, (none : Option κ')))[i]? = some (s₀, none) := by
    rw [List.getElem?_map, hs₀]
    rfl
  rcases (hinv.pool.requests r hr).isolated read response' hdelivered i _ hs₀' with
    ⟨data, x, hread, hresponse, hscraped⟩
  have hconfig := hinv.configured.delivered r hr (by rw [hserver, ← heq]; rfl) read response' hdelivered x
    (List.mem_of_getElem? hresponse)
  rw [hloaded] at hconfig
  exact ⟨data, x.1, hread, by rw [List.getElem?_map, hresponse]; rfl,
    scrapedWith_of_recording hscraped hconfig⟩

/--
What the exporter does to the client `i` in the run, up to the scrape that the response to the request `k`
shows.
-/
def scrapedSteps (reader : ConfigReader φ κ) (view : Config κ → κ') (client : MetricsInterface σ κ' δ ε ρ)
    (maxQueuedEvents : Nat) (file : φ) (clients : List σ) (as : List (LifecycleAction φ δ ε)) (k i : Nat)
    : Option (List (ClientAction κ' δ ε)) :=
  ((system reader view client.logged).exec as (newLifecycle maxQueuedEvents file (clients.map newLogged))).bind
    fun s => shownSteps s.requests k i

theorem shown_of_scrapedWith {s₀ : σ} {data : δ} {x : ρ × List (ClientAction κ' δ ε)} {config : κ'}
    (h : ScrapedWith client.logged K config (newLogged s₀) data x)
    : ∃ run, x.2 = run ++ [.updateMetrics data] ∧ (∀ config, .initConfigs config ∈ run → K config)
        ∧ lastConfig run = some config
        ∧ (client.system.exec (run ++ [.updateMetrics data]) s₀).map client.gather = some x.1 := by
  rcases h with ⟨run, s, hK, hlast, hexec, rfl⟩
  rcases gather_logged hexec with ⟨hgather, hsteps⟩
  exact ⟨run, hsteps, hK, hlast, hgather⟩

/--
When the watcher has nothing to do, a server runs, and each of its responses shows for every client what the
client shows after the steps that the exporter has taken on it. The last configuration among them is the one
in the file, and the scrape of the request is the last step.
-/
theorem serves_config_of_exec (hlawful : client.Lawful) {maxQueuedEvents : Nat} {file : φ}
    {clients : List σ} (hfile : K (view (reader.refreshConfig file))) {as : List (LifecycleAction φ δ ε)}
    {s : Lifecycle φ κ σ δ ρ}
    (hexec : (system reader view client).exec as (newLifecycle maxQueuedEvents file clients) = some s)
    (hok : (system reader view client).Respects (Orderly reader view K) as
      (newLifecycle maxQueuedEvents file clients))
    (hsettled : ∀ b, b.isInternal = true → s.watcher.step reader b = none)
    : ∃ server, s.requests.shared.server = .running server ∧
      ∀ (k : Nat) (r : MetricsRequest δ ρ), s.requests.calls[k]? = some r → r.server = server →
        ∀ (read : List δ) (response : List ρ), r.phase.delivered = some (read, response) →
          ∀ (i : Nat) (s₀ : σ), clients[i]? = some s₀ →
            ∃ data x run, read[i]? = some data ∧ response[i]? = some x
              ∧ scrapedSteps reader view client maxQueuedEvents file clients as k i
                = some (run ++ [.updateMetrics data])
              ∧ (∀ config, .initConfigs config ∈ run → K config)
              ∧ lastConfig run = some (view (reader.refreshConfig s.watcher.file))
              ∧ (client.system.exec (run ++ [.updateMetrics data]) s₀).map client.gather = some x := by
  have hclients : clients = (clients.map (newLogged : σ → Logged σ κ' δ ε)).map Logged.state := by
    simp [Function.comp_def, newLogged]
  rw [hclients] at hexec hok
  rcases exec_of_hom logged_hom hexec hok with ⟨t, ht, rfl, hok'⟩
  rcases served_scrapedWith (lawful_logged hlawful) hfile ht hok' hsettled with ⟨server, hserver, hserved⟩
  refine ⟨server, hserver, fun k r hr heq read response hdelivered i s₀ hs₀ => ?_⟩
  rcases exists_delivered_logged hr hdelivered with
    ⟨r', response', hr', hserver', hdelivered', rfl, hshown⟩
  have hs₀' : (clients.map newLogged)[i]? = some (newLogged s₀ : Logged σ κ' δ ε) := by
    rw [List.getElem?_map, hs₀]
    rfl
  rcases hserved r' (List.mem_of_getElem? hr') (hserver'.trans heq) read response' hdelivered' i _ hs₀' with
    ⟨data, x, hread, hresponse, hscraped⟩
  rcases shown_of_scrapedWith hscraped with ⟨run, hsteps, hK, hlast, hgather⟩
  refine ⟨data, x.1, run, hread, by rw [List.getElem?_map, hresponse]; rfl, ?_, hK, hlast, hgather⟩
  rw [scrapedSteps, ht, Option.bind_some, hshown, hresponse, Option.map_some, hsteps]

end Run

section Instances

/--
The file is written after the first start, and a request comes once it has been read again.
-/
def reloadedRun : List (LifecycleAction (Option UInt32) Nat Nat) :=
  [.watcher .main, .initConfigs 0, .updateStaticMetrics 0 1, .watcher .main, .watcher .main,
    .watcher (.change (some 6000) .write), .watcher .receive, .watcher .expire, .watcher .timer,
    .watcher (.stopServer true), .watcher .startServer, .initConfigs 0, .updateStaticMetrics 0 2,
    .watcher .startServer, .request 1, .serve 0 .next, .serve 0 .next, .serve 0 (.client 0 0),
    .serve 0 (.client 0 7), .serve 0 .next, .serve 0 .next]

def portOf (config : Config UInt32) : Nat :=
  config.serverPort.toNat

def reloadedWatcher : ConfigWatcher (Option UInt32) UInt32 where
  maxQueuedEvents := 16384
  file := some 6000
  runConf := ⟨6000, some 6000⟩
  server := some 6000
  main := .waiting
  loop := .selecting
  debounce := .stopped
  queue := []

def reloadedSteps : List (ClientAction Nat Nat Nat) :=
  [.initConfigs 5000, .updateStaticMetrics 5000 1, .initConfigs 6000, .updateStaticMetrics 6000 2]

theorem serves_config_of_exec_reloadedRun
    : ∃ s, (system ConfigWatcher.portReader portOf sumClient).exec reloadedRun
          (newLifecycle 16384 none [(0, 0)]) = some s
        ∧ (∃ r, s.requests.calls[0]? = some r ∧ r.phase.delivered = some ([7], [6007]))
        ∧ scrapedSteps ConfigWatcher.portReader portOf sumClient 16384 none [(0, 0)] reloadedRun 0 0
          = some (reloadedSteps ++ [.updateMetrics 7])
        ∧ lastConfig reloadedSteps = some (portOf (ConfigWatcher.portReader.refreshConfig s.watcher.file))
        ∧ (sumClient.system.exec (reloadedSteps ++ [.updateMetrics 7]) (0, 0)).map sumClient.gather
          = some 6007 := by
  have hsome : ((system ConfigWatcher.portReader portOf sumClient).exec reloadedRun
      (newLifecycle 16384 none [(0, 0)])).map (fun s => (s.watcher, s.requests.calls.map (·.phase.delivered)))
        = some (reloadedWatcher, [some ([7], [6007])]) := by
    decide +kernel
  have hrunning : ((system ConfigWatcher.portReader portOf sumClient).exec reloadedRun
      (newLifecycle 16384 none [(0, 0)])).map (fun s => (s.requests.shared.server,
        s.requests.calls.map (·.server))) = some (.running 1, [1]) := by
    decide +kernel
  have hsteps : scrapedSteps ConfigWatcher.portReader portOf sumClient 16384 none [(0, 0)] reloadedRun 0 0
      = some (reloadedSteps ++ [.updateMetrics 7]) := by
    decide +kernel
  rcases Option.map_eq_some_iff.mp hsome with ⟨s, hs, hstate⟩
  rw [hs, Option.map_some, Option.some.injEq, Prod.mk.injEq] at hrunning
  rcases Prod.mk.inj hstate with ⟨hwatcher, hcalls⟩
  rcases hrunning with ⟨hrunning, hnumbers⟩
  cases hlist : s.requests.calls with
  | nil => simp [hlist] at hcalls
  | cons r calls =>
  simp only [hlist, List.map_cons, List.cons.injEq] at hcalls hnumbers
  have hr : s.requests.calls[0]? = some r := by
    rw [hlist]
    rfl
  have hsettled : ∀ b, b.isInternal = true → s.watcher.step ConfigWatcher.portReader b = none := by
    rw [hwatcher]
    exact fun b hb => ConfigWatcher.step_eq_none_of_idle rfl rfl rfl rfl hb
  rcases serves_config_of_exec (K := fun port => port = 5000 ∨ port = 6000) lawful_sumClient (by decide) hs
    (by decide +kernel) hsettled with ⟨server, hserver, hserved⟩
  have heq : r.server = server := by
    rw [hrunning] at hserver
    cases hserver
    exact hnumbers.1
  rcases hserved 0 r hr heq [7] [6007] hcalls.1 0 (0, 0) rfl with
    ⟨data, x, run, hread, hresponse, hrun, _, hlast, hgather⟩
  cases hread
  cases hresponse
  rw [hsteps, Option.some.injEq] at hrun
  cases List.append_cancel_right hrun
  exact ⟨s, hs, ⟨r, hr, hcalls.1⟩, hsteps, hlast, hgather⟩

end Instances

end Lifecycle

end Exporter
