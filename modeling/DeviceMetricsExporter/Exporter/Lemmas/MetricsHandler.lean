import DeviceMetricsExporter.Exporter.Impl.MetricsHandler

/-!
This module contains the theorem that requests for the metrics are served as if they came one after the
other: in every interleaving of requests, restarts and other goroutines, a delivered response is what a
client would show after a single scrape with the data that the request has read.
-/

universe u

namespace Exporter

variable {σ κ δ ε ρ : Type*}

namespace MetricsInterface

variable (client : MetricsInterface σ κ δ ε ρ)

/--
The states differ in the collected values only, which are reset by a request before it reads them again.
-/
def Same (s t : σ) : Prop :=
  client.resetMetrics s = client.resetMetrics t

/--
Nothing but the passes over the device writes the collected values, and nothing reads them.
-/
structure Lawful : Prop where
  reset_idem : ∀ s, client.resetMetrics (client.resetMetrics s) = client.resetMetrics s
  initConfigs_congr : ∀ s t config, client.Same s t →
    client.initConfigs s config = client.initConfigs t config
  updateStaticMetrics_congr : ∀ s t config data s', client.Same s t →
    client.updateStaticMetrics s config data = some s' →
      ∃ t', client.updateStaticMetrics t config data = some t' ∧ client.Same s' t'
  updateMetricsStats_congr : ∀ s t data s', client.Same s t →
    client.updateMetricsStats s data = some s' →
      ∃ t', client.updateMetricsStats t data = some t' ∧ client.Same s' t'
  env_congr : ∀ s t e s', client.Same s t → client.env s e = some s' →
    ∃ t', client.env t e = some t' ∧ client.Same s' t'
  env_reset : ∀ s e s', client.env (client.resetMetrics s) e = some s' →
    ∃ t, client.env s e = some t ∧ s' = client.resetMetrics t
  gather_env : ∀ s e s', client.env s e = some s' → client.gather s' = client.gather s

end MetricsInterface

section Sequential

variable (client : MetricsInterface σ κ δ ε ρ) (K : κ → Prop)

/--
The client gets from `s₀` to `s` with configurations in `K`, at least one of them if `init` is set.
-/
def ReachedBy (init : Bool) (s₀ s : σ) : Prop :=
  ∃ run, (∀ config, .initConfigs config ∈ run → K config)
    ∧ (init = true → ∃ config, .initConfigs config ∈ run) ∧ client.system.exec run s₀ = some s

/--
A configured client shows `response` after a single scrape with the data.
-/
def Scraped (s₀ : σ) (data : δ) (response : ρ) : Prop :=
  ∃ run s, (∀ config, .initConfigs config ∈ run → K config) ∧ (∃ config, .initConfigs config ∈ run)
    ∧ client.system.exec (run ++ [.updateMetrics data]) s₀ = some s ∧ client.gather s = response

variable {client K} {init : Bool} {s₀ s t : σ}

theorem ReachedBy.step (h : ReachedBy client K init s₀ s) {a : ClientAction κ δ ε}
    (hstep : client.system.step s a = some t) (ha : ∀ config, a = .initConfigs config → K config)
    : ReachedBy client K init s₀ t := by
  rcases h with ⟨run, hK, hinit, hexec⟩
  refine ⟨run ++ [a], ?_, ?_, (client.system.exec_concat_eq_some).mpr ⟨s, hexec, hstep⟩⟩
  . intro config hconfig
    rcases List.mem_append.mp hconfig with hconfig | hconfig
    . exact hK config hconfig
    . exact ha config (List.mem_singleton.mp hconfig).symm
  . intro htrue
    rcases hinit htrue with ⟨config, hconfig⟩
    exact ⟨config, List.mem_append_left _ hconfig⟩

theorem ReachedBy.initConfigs (h : ReachedBy client K init s₀ s) {config : κ} (hconfig : K config)
    (hstep : client.initConfigs s config = some t) : ReachedBy client K true s₀ t := by
  rcases h with ⟨run, hK, _, hexec⟩
  have hstep : client.system.step s (.initConfigs config) = some t := hstep
  refine ⟨run ++ [.initConfigs config], ?_, fun _ => ⟨config, by simp⟩,
    (client.system.exec_concat_eq_some).mpr ⟨s, hexec, hstep⟩⟩
  intro config' hconfig'
  rcases List.mem_append.mp hconfig' with hconfig' | hconfig'
  . exact hK config' hconfig'
  . cases List.mem_singleton.mp hconfig'
    exact hconfig

theorem ReachedBy.weaken (h : ReachedBy client K true s₀ s) : ReachedBy client K init s₀ s := by
  rcases h with ⟨run, hK, hinit, hexec⟩
  exact ⟨run, hK, fun _ => hinit rfl, hexec⟩

theorem ReachedBy.forget (h : ReachedBy client K init s₀ s) : ReachedBy client K false s₀ s := by
  rcases h with ⟨run, hK, _, hexec⟩
  exact ⟨run, hK, nofun, hexec⟩

theorem ReachedBy.scraped (h : ReachedBy client K true s₀ s) {data : δ}
    (hupdate : client.updateMetricsStats (client.resetMetrics s) data = some t)
    : Scraped client K s₀ data (client.gather t) := by
  rcases h with ⟨run, hK, hinit, hexec⟩
  exact ⟨run, t, hK, hinit rfl, (client.system.exec_concat_eq_some).mpr ⟨s, hexec, hupdate⟩, rfl⟩

end Sequential

def ServerState.initialized (i : Nat) : ServerState → Bool
  | stopped => false
  | initializing passes => passes[i]? = some .updateStaticMetrics || passes[i]? = some .finished
  | running _ => true

section Invariant

variable (client : MetricsInterface σ κ δ ε ρ) (K : κ → Prop) (clients₀ : List σ)

/--
Up to the collected values, the client `i` is in a state that it can reach without other requests.
-/
def ClientInv (mh : MetricsHandler σ) (i : Nat) : Prop :=
  ∀ s₀ s, clients₀[i]? = some s₀ → mh.clients[i]? = some s →
    ∃ t, ReachedBy client K (mh.server.initialized i) s₀ t ∧ client.Same s t

def HoldInv (clients : List σ) : RequestPhase δ ρ → Prop
  | .updating passes =>
    passes.length = clients₀.length ∧
    ∀ (i : Nat) (s₀ s : σ), clients₀[i]? = some s₀ → clients[i]? = some s →
      (passes[i]? = some UpdatePass.update → ∃ t, ReachedBy client K true s₀ t ∧ s = client.resetMetrics t)
        ∧ ∀ data, passes[i]? = some (UpdatePass.finished data) → Scraped client K s₀ data (client.gather s)
  | .serving read =>
    read.length = clients₀.length ∧
    ∀ (i : Nat) (s₀ s : σ), clients₀[i]? = some s₀ → clients[i]? = some s →
      ∀ data : δ, read[i]? = some data → Scraped client K s₀ data (client.gather s)
  | _ => True

/--
A response that is delivered has the values of a single scrape of every client.
-/
def Isolated (phase : RequestPhase δ ρ) : Prop :=
  ∀ (read : List δ) (response : List ρ), phase.delivered = some (read, response) →
    ∀ (i : Nat) (s₀ : σ), clients₀[i]? = some s₀ →
      ∃ data x, read[i]? = some data ∧ response[i]? = some x ∧ Scraped client K s₀ data x

structure RequestInv (mh : MetricsHandler σ) (r : MetricsRequest δ ρ) : Prop where
  started : r.phase ≠ .accepting → r.server < mh.started
  hold : mh.server = .running r.server → HoldInv client K clients₀ mh.clients r.phase
  isolated : Isolated client K clients₀ r.phase

structure HandlerInv (mh : MetricsHandler σ) : Prop where
  length : mh.clients.length = clients₀.length
  passes : ∀ passes, mh.server = .initializing passes → passes.length = clients₀.length
  running : ∀ n, mh.server = .running n → n < mh.started
  clients : ∀ i, ClientInv client K clients₀ mh i

structure PoolInv (s : CallPool (MetricsHandler σ) (MetricsRequest δ ρ)) : Prop where
  handler : HandlerInv client K clients₀ s.shared
  mutex : s.calls.countP (·.phase.holds) = if s.shared.prometheusMiddlewareMu then 1 else 0
  requests : ∀ r ∈ s.calls, RequestInv client K clients₀ s.shared r

end Invariant

section Steps

variable (client : MetricsInterface σ κ δ ε ρ)

theorem updateClient_eq_some {mh mh' : MetricsHandler σ} {i : Nat} {f : σ → Option σ}
    : mh.updateClient i f = some mh' ↔
        ∃ s s', mh.clients[i]? = some s ∧ f s = some s'
          ∧ mh' = { mh with clients := mh.clients.set i s' } := by
  simp only [MetricsHandler.updateClient, Option.bind_eq_bind, Option.bind_eq_some_iff, Option.pure_def,
    Option.some.injEq]
  constructor
  . rintro ⟨s, hs, s', hs', rfl⟩
    exact ⟨s, s', hs, hs', rfl⟩
  . rintro ⟨s, s', hs, hs', rfl⟩
    exact ⟨s, hs, s', hs', rfl⟩

inductive Moves (mh : MetricsHandler σ) (server : Nat)
    : RequestPhase δ ρ → MetricsHandler σ → RequestPhase δ ρ → Prop where
  | accept (hserver : mh.server = .running server) : Moves mh server .accepting mh .locking
  | lock (hmu : mh.prometheusMiddlewareMu = false)
    : Moves mh server .locking { mh with prometheusMiddlewareMu := true }
        (.updating (mh.clients.map fun _ => .reset))
  | reset {passes : List (UpdatePass δ)} {i : Nat} {s : σ} (hpass : passes[i]? = some .reset)
    (hs : mh.clients[i]? = some s)
    : Moves mh server (.updating passes)
        { mh with clients := mh.clients.set i (client.resetMetrics s) } (.updating (passes.set i .update))
  | update {passes : List (UpdatePass δ)} {i : Nat} {data : δ} {s s' : σ}
    (hpass : passes[i]? = some .update) (hs : mh.clients[i]? = some s)
    (hupdate : client.updateMetricsStats s data = some s')
    : Moves mh server (.updating passes) { mh with clients := mh.clients.set i s' }
        (.updating (passes.set i (.finished data)))
  | wait {passes : List (UpdatePass δ)} {read : List δ} (hread : passes.mapM UpdatePass.read = some read)
    : Moves mh server (.updating passes) mh (.serving read)
  | serve (read : List δ)
    : Moves mh server (.serving read) mh
        (.served read
          (if mh.server = .running server then some (mh.clients.map client.gather) else none))
  | unlock (read : List δ) (response : Option (List ρ))
    : Moves mh server (.served read response) { mh with prometheusMiddlewareMu := false }
        (.finished read response)

theorem moves_of_step {mh mh' : MetricsHandler σ} {r r' : MetricsRequest δ ρ} {x : RequestStep δ}
    (h : MetricsRequest.step client mh r x = some (mh', r'))
    : Moves client mh r.server r.phase mh' r'.phase ∧ r'.server = r.server := by
  rcases r with ⟨server, phase⟩
  cases phase with
  | accepting =>
    cases x with
    | next =>
      simp only [MetricsRequest.step] at h
      split at h
      . next hserver =>
        cases h
        exact ⟨.accept hserver, rfl⟩
      . cases h
    | client i data => cases h
  | locking =>
    cases x with
    | next =>
      simp only [MetricsRequest.step] at h
      split at h
      . cases h
      . next hmu =>
        cases h
        exact ⟨.lock (Bool.eq_false_iff.mpr hmu), rfl⟩
    | client i data => cases h
  | updating passes =>
    cases x with
    | next =>
      simp only [MetricsRequest.step, Option.map_eq_some_iff] at h
      rcases h with ⟨read, hread, heq⟩
      cases heq
      exact ⟨.wait hread, rfl⟩
    | client i data =>
      simp only [MetricsRequest.step] at h
      split at h
      . next hpass =>
        simp only [Option.map_eq_some_iff, updateClient_eq_some] at h
        rcases h with ⟨_, ⟨s, s', hs, hs', rfl⟩, heq⟩
        cases heq
        cases hs'
        exact ⟨.reset hpass hs, rfl⟩
      . next hpass =>
        simp only [Option.map_eq_some_iff, updateClient_eq_some] at h
        rcases h with ⟨_, ⟨s, s', hs, hs', rfl⟩, heq⟩
        cases heq
        exact ⟨.update hpass hs hs', rfl⟩
      . cases h
  | serving read =>
    cases x with
    | next =>
      cases h
      exact ⟨.serve read, rfl⟩
    | client i data => cases h
  | served read response =>
    cases x with
    | next =>
      cases h
      exact ⟨.unlock read response, rfl⟩
    | client i data => cases h
  | finished read response =>
    cases x with
    | next => cases h
    | client i data => cases h

inductive Happens (mh : MetricsHandler σ) : HandlerEvent κ δ ε → MetricsHandler σ → Prop where
  | stopServer {server : Nat} (hserver : mh.server = .running server)
    : Happens mh .stopServer { mh with server := .stopped }
  | initConfig (hserver : mh.server = .stopped)
    : Happens mh .initConfig
        { mh with server := .initializing (mh.clients.map fun _ => .initConfigs) }
  | initConfigs {passes : List InitPass} {i : Nat} {config : κ} {s s' : σ}
    (hserver : mh.server = .initializing passes) (hpass : passes[i]? = some .initConfigs)
    (hs : mh.clients[i]? = some s) (hs' : client.initConfigs s config = some s')
    : Happens mh (.initConfigs i config)
        { mh with
          clients := mh.clients.set i s'
          server := .initializing (passes.set i .updateStaticMetrics) }
  | updateStaticMetrics {passes : List InitPass} {i : Nat} {config : κ} {data : δ} {s s' : σ}
    (hserver : mh.server = .initializing passes) (hpass : passes[i]? = some .updateStaticMetrics)
    (hs : mh.clients[i]? = some s) (hs' : client.updateStaticMetrics s config data = some s')
    : Happens mh (.updateStaticMetrics i config data)
        { mh with
          clients := mh.clients.set i s'
          server := .initializing (passes.set i .finished) }
  | startServer {passes : List InitPass} (hserver : mh.server = .initializing passes)
    (hpasses : ∀ pass ∈ passes, pass = .finished)
    : Happens mh .startServer { mh with server := .running mh.started, started := mh.started + 1 }
  | client {i : Nat} {e : ε} {s s' : σ} (hs : mh.clients[i]? = some s) (hs' : client.env s e = some s')
    : Happens mh (.client i e) { mh with clients := mh.clients.set i s' }

theorem happens_of_event {mh mh' : MetricsHandler σ} {e : HandlerEvent κ δ ε}
    (h : mh.event client e = some mh') : Happens client mh e mh' := by
  cases e with
  | client i e =>
    simp only [MetricsHandler.event, updateClient_eq_some] at h
    rcases h with ⟨s, s', hs, hs', rfl⟩
    exact .client hs hs'
  | stopServer =>
    cases hserver : mh.server with
    | running server =>
      simp only [MetricsHandler.event, hserver, Option.some.injEq] at h
      subst h
      exact .stopServer hserver
    | stopped => simp [MetricsHandler.event, hserver] at h
    | initializing passes => simp [MetricsHandler.event, hserver] at h
  | initConfig =>
    cases hserver : mh.server with
    | running server => simp [MetricsHandler.event, hserver] at h
    | stopped =>
      simp only [MetricsHandler.event, hserver, Option.some.injEq] at h
      subst h
      exact .initConfig hserver
    | initializing passes => simp [MetricsHandler.event, hserver] at h
  | initConfigs i config =>
    cases hserver : mh.server with
    | running server => simp [MetricsHandler.event, hserver] at h
    | stopped => simp [MetricsHandler.event, hserver] at h
    | initializing passes =>
      simp only [MetricsHandler.event, hserver] at h
      split at h
      . next hpass =>
        simp only [Option.map_eq_some_iff, updateClient_eq_some] at h
        rcases h with ⟨_, ⟨s, s', hs, hs', rfl⟩, rfl⟩
        exact .initConfigs hserver hpass hs hs'
      . cases h
  | updateStaticMetrics i config data =>
    cases hserver : mh.server with
    | running server => simp [MetricsHandler.event, hserver] at h
    | stopped => simp [MetricsHandler.event, hserver] at h
    | initializing passes =>
      simp only [MetricsHandler.event, hserver] at h
      split at h
      . next hpass =>
        simp only [Option.map_eq_some_iff, updateClient_eq_some] at h
        rcases h with ⟨_, ⟨s, s', hs, hs', rfl⟩, rfl⟩
        exact .updateStaticMetrics hserver hpass hs hs'
      . cases h
  | startServer =>
    cases hserver : mh.server with
    | running server => simp [MetricsHandler.event, hserver] at h
    | stopped => simp [MetricsHandler.event, hserver] at h
    | initializing passes =>
      simp only [MetricsHandler.event, hserver] at h
      split at h
      . next hpasses =>
        cases h
        exact .startServer hserver (by simpa using hpasses)
      . cases h

theorem read_of_mapM {passes : List (UpdatePass δ)} {read : List δ}
    (h : passes.mapM UpdatePass.read = some read) {i : Nat} {data : δ} (hdata : read[i]? = some data)
    : passes[i]? = some (.finished data) := by
  induction passes generalizing read i with
  | nil =>
    cases h
    cases hdata
  | cons pass passes ih =>
    simp only [List.mapM_cons, Option.bind_eq_bind, Option.bind_eq_some_iff, Option.pure_def,
      Option.some.injEq] at h
    rcases h with ⟨data₀, hpass, rest, hrest, rfl⟩
    cases i with
    | zero =>
      cases hdata
      cases pass <;> cases hpass
      rfl
    | succ i =>
      simp only [List.getElem?_cons_succ] at hdata ⊢
      exact ih hrest hdata

theorem length_of_mapM {passes : List (UpdatePass δ)} {read : List δ}
    (h : passes.mapM UpdatePass.read = some read) : read.length = passes.length := by
  induction passes generalizing read with
  | nil =>
    cases h
    rfl
  | cons pass passes ih =>
    simp only [List.mapM_cons, Option.bind_eq_bind, Option.bind_eq_some_iff, Option.pure_def,
      Option.some.injEq] at h
    rcases h with ⟨data₀, _, rest, hrest, rfl⟩
    rw [List.length_cons, List.length_cons, ih hrest]

end Steps

section Preserved

variable {client : MetricsInterface σ κ δ ε ρ} {K : κ → Prop}
  {clients₀ : List σ} {mh : MetricsHandler σ}

theorem HandlerInv.set (h : HandlerInv client K clients₀ mh) (server : ServerState) {i : Nat} {s s' : σ}
    (hs : mh.clients[i]? = some s)
    (hpasses : ∀ passes, server = .initializing passes → passes.length = clients₀.length)
    (hrunning : ∀ n, server = .running n → n < mh.started)
    (hothers : ∀ j, j ≠ i → server.initialized j = mh.server.initialized j)
    (hself : ∀ s₀ t, ReachedBy client K (mh.server.initialized i) s₀ t → client.Same s t →
      ∃ t', ReachedBy client K (server.initialized i) s₀ t' ∧ client.Same s' t')
    : HandlerInv client K clients₀ { mh with clients := mh.clients.set i s', server } where
  length := by rw [List.length_set, h.length]
  passes := hpasses
  running := hrunning
  clients j s₀ sj hs₀ hsj := by
    rw [List.getElem?_set] at hsj
    split at hsj
    . next hji =>
      subst hji
      split at hsj
      . cases hsj
        rcases h.clients i s₀ s hs₀ hs with ⟨t, ht, hsame⟩
        exact hself s₀ t ht hsame
      . cases hsj
    . next hji =>
      rcases h.clients j s₀ sj hs₀ hsj with ⟨t, ht, hsame⟩
      refine ⟨t, ?_, hsame⟩
      rw [hothers j (Ne.symm hji)]
      exact ht

theorem HoldInv.set {clients : List σ} {phase : RequestPhase δ ρ}
    (h : HoldInv client K clients₀ clients phase) {i : Nat} {s s' : σ} (hs : clients[i]? = some s)
    (hreset : ∀ s₀ t, ReachedBy client K true s₀ t → s = client.resetMetrics t →
      ∃ t', ReachedBy client K true s₀ t' ∧ s' = client.resetMetrics t')
    (hgather : client.gather s' = client.gather s)
    : HoldInv client K clients₀ (clients.set i s') phase := by
  have hcases {j : Nat} {sj : σ} (hsj : (clients.set i s')[j]? = some sj)
      : (j = i ∧ sj = s') ∨ clients[j]? = some sj := by
    rw [List.getElem?_set] at hsj
    split at hsj
    . next hji =>
      split at hsj
      . exact .inl ⟨hji.symm, (Option.some.inj hsj).symm⟩
      . cases hsj
    . exact .inr hsj
  cases phase with
  | updating passes =>
    refine ⟨h.1, fun j s₀ sj hs₀ hsj => ?_⟩
    rcases hcases hsj with ⟨rfl, rfl⟩ | hsj
    . rcases h.2 j s₀ s hs₀ hs with ⟨hupdate, hfinished⟩
      constructor
      . intro hpass
        rcases hupdate hpass with ⟨t, ht, heq⟩
        exact hreset s₀ t ht heq
      . intro data hpass
        rw [hgather]
        exact hfinished data hpass
    . exact h.2 j s₀ sj hs₀ hsj
  | serving read =>
    refine ⟨h.1, fun j s₀ sj hs₀ hsj data hdata => ?_⟩
    rcases hcases hsj with ⟨rfl, rfl⟩ | hsj
    . rw [hgather]
      exact h.2 j s₀ s hs₀ hs data hdata
    . exact h.2 j s₀ sj hs₀ hsj data hdata
  | accepting | locking | served _ _ | finished _ _ => trivial

theorem holdInv_of_not_holds {clients : List σ} {phase : RequestPhase δ ρ} (h : phase.holds = false)
    : HoldInv client K clients₀ clients phase := by
  cases phase with
  | updating passes => cases h
  | serving read => cases h
  | accepting | locking | served _ _ | finished _ _ => trivial

theorem Isolated.of_not_delivered {phase : RequestPhase δ ρ} (h : phase.delivered = none)
    : Isolated client K clients₀ phase := by
  intro read response hdelivered
  rw [h] at hdelivered
  cases hdelivered

end Preserved

section Moves

variable {client : MetricsInterface σ κ δ ε ρ} {K : κ → Prop}
  {clients₀ : List σ} {mh mh' : MetricsHandler σ} {server : Nat} {phase phase' : RequestPhase δ ρ}
  (hlawful : client.Lawful) (hmoves : Moves client mh server phase mh' phase')

include hmoves

omit hlawful in
theorem Moves.server_eq : mh'.server = mh.server ∧ mh'.started = mh.started := by
  cases hmoves <;> exact ⟨rfl, rfl⟩

omit hlawful in
theorem Moves.clients_eq (hphase : phase.holds = false) : mh'.clients = mh.clients := by
  cases hmoves with
  | accept hserver => rfl
  | lock hmu => rfl
  | reset hpass hs => cases hphase
  | update hpass hs hupdate => cases hphase
  | wait hread => rfl
  | serve read => rfl
  | unlock read response => rfl

omit hlawful in
theorem Moves.mutex {n : Nat}
    (h : n + (if phase.holds then 1 else 0) = if mh.prometheusMiddlewareMu then 1 else 0)
    : n + (if phase'.holds then 1 else 0) = if mh'.prometheusMiddlewareMu then 1 else 0 := by
  cases hmoves with
  | accept hserver => exact h
  | lock hmu =>
    rw [hmu] at h
    simp only [RequestPhase.holds, Bool.false_eq_true, if_false, Nat.add_zero] at h
    simp [RequestPhase.holds, h]
  | reset hpass hs => exact h
  | update hpass hs hupdate => exact h
  | wait hread => exact h
  | serve read => exact h
  | unlock read response =>
    simp only [RequestPhase.holds, if_true] at h
    split at h
    . simpa [RequestPhase.holds] using h
    . omega

include hlawful

theorem HandlerInv.moves (h : HandlerInv client K clients₀ mh)
    : HandlerInv client K clients₀ mh' := by
  cases hmoves with
  | accept hserver => exact h
  | lock hmu => exact ⟨h.length, h.passes, h.running, h.clients⟩
  | @reset passes i s hpass hs =>
    refine h.set mh.server hs h.passes h.running (fun _ _ => rfl) ?_
    intro s₀ t ht hsame
    exact ⟨t, ht, (hlawful.reset_idem s).trans hsame⟩
  | @update passes i data s s' hpass hs hupdate =>
    refine h.set mh.server hs h.passes h.running (fun _ _ => rfl) ?_
    intro s₀ t ht hsame
    -- a request whose server has been closed may update without a reset before it
    have hreset : client.Same s (client.resetMetrics t) := hsame.trans (hlawful.reset_idem t).symm
    rcases hlawful.updateMetricsStats_congr s _ data s' hreset hupdate with ⟨t', ht', hsame'⟩
    exact ⟨t', ht.step (a := .updateMetrics data) ht' nofun, hsame'⟩
  | wait hread => exact h
  | serve read => exact h
  | unlock read response => exact ⟨h.length, h.passes, h.running, h.clients⟩

omit hlawful in
theorem RequestInv.frame {r : MetricsRequest δ ρ} (h : RequestInv client K clients₀ mh r)
    (hothers : phase.holds = true → r.phase.holds = false) : RequestInv client K clients₀ mh' r where
  started hphase := by
    rw [hmoves.server_eq.2]
    exact h.started hphase
  hold hserver := by
    rw [hmoves.server_eq.1] at hserver
    cases hphase : phase.holds with
    | true => exact holdInv_of_not_holds (hothers hphase)
    | false =>
      rw [hmoves.clients_eq hphase]
      exact h.hold hserver
  isolated := h.isolated

omit hlawful in
theorem RequestInv.moves (hmh : HandlerInv client K clients₀ mh)
    (h : RequestInv client K clients₀ mh ⟨server, phase⟩)
    : RequestInv client K clients₀ mh' ⟨server, phase'⟩ := by
  cases hmoves with
  | accept hserver =>
    exact ⟨fun _ => hmh.running server hserver, fun _ => trivial, .of_not_delivered rfl⟩
  | lock hmu =>
    refine ⟨fun _ => h.started nofun, fun _ => ⟨?_, fun i s₀ s _ _ => ?_⟩, .of_not_delivered rfl⟩
    . rw [List.length_map, hmh.length]
    have hpass (pass : UpdatePass δ) (hpass : pass ≠ .reset)
        : (mh.clients.map fun _ => UpdatePass.reset)[i]? ≠ some pass := by
      rw [List.getElem?_map]
      intro heq
      rcases Option.map_eq_some_iff.mp heq with ⟨_, _, rfl⟩
      exact hpass rfl
    exact ⟨fun heq => absurd heq (hpass _ nofun), fun data heq => absurd heq (hpass _ nofun)⟩
  | @reset passes i s hpass hs =>
    refine ⟨fun _ => h.started nofun, fun hserver => ⟨?_, fun j s₀ sj hs₀ hsj => ?_⟩,
      .of_not_delivered rfl⟩
    . rw [List.length_set]
      exact (h.hold hserver).1
    have hrunning : mh.server.initialized i = true := by rw [hserver]; rfl
    have hhold := h.hold hserver
    rw [List.getElem?_set] at hsj ⊢
    split at hsj
    . next hij =>
      subst hij
      split at hsj
      . cases hsj
        rcases hmh.clients i s₀ s hs₀ hs with ⟨t, ht, hsame⟩
        rw [hrunning] at ht
        have hlt : i < passes.length := by
          rw [List.getElem?_eq_some_iff] at hpass
          exact hpass.1
        simp only [hlt, if_true]
        exact ⟨fun _ => ⟨t, ht, hsame⟩, nofun⟩
      . cases hsj
    . next hij =>
      simp only [hij, if_false]
      exact hhold.2 j s₀ sj hs₀ hsj
  | @update passes i data s s' hpass hs hupdate =>
    refine ⟨fun _ => h.started nofun, fun hserver => ⟨?_, fun j s₀ sj hs₀ hsj => ?_⟩,
      .of_not_delivered rfl⟩
    . rw [List.length_set]
      exact (h.hold hserver).1
    have hhold := h.hold hserver
    rw [List.getElem?_set] at hsj ⊢
    split at hsj
    . next hij =>
      subst hij
      split at hsj
      . cases hsj
        rcases (hhold.2 i s₀ s hs₀ hs).1 hpass with ⟨t, ht, rfl⟩
        have hlt : i < passes.length := by
          rw [List.getElem?_eq_some_iff] at hpass
          exact hpass.1
        simp only [hlt, if_true]
        refine ⟨nofun, fun data' heq => ?_⟩
        cases heq
        exact ht.scraped hupdate
      . cases hsj
    . next hij =>
      simp only [hij, if_false]
      exact hhold.2 j s₀ sj hs₀ hsj
  | @wait passes read hread =>
    refine ⟨fun _ => h.started nofun, fun hserver => ⟨?_, fun i s₀ s hs₀ hs data hdata => ?_⟩,
      .of_not_delivered rfl⟩
    . rw [length_of_mapM hread]
      exact (h.hold hserver).1
    . exact ((h.hold hserver).2 i s₀ s hs₀ hs).2 data (read_of_mapM hread hdata)
  | serve read =>
    refine ⟨fun _ => h.started nofun, fun _ => trivial, ?_⟩
    intro read' response hdelivered i s₀ hs₀
    split at hdelivered
    . next hserver =>
      cases hdelivered
      rcases h.hold hserver with ⟨hlength, hhold⟩
      have hltRead : i < read.length := by
        rw [hlength]
        exact (List.getElem?_eq_some_iff.mp hs₀).1
      have hread : read[i]? = some read[i] := List.getElem?_eq_getElem hltRead
      have hlt : i < mh.clients.length := by
        rw [hmh.length]
        exact (List.getElem?_eq_some_iff.mp hs₀).1
      have hs : mh.clients[i]? = some mh.clients[i] := List.getElem?_eq_getElem hlt
      exact ⟨_, _, hread, by rw [List.getElem?_map, hs]; rfl, hhold i s₀ _ hs₀ hs _ hread⟩
    . cases hdelivered
  | unlock read response =>
    refine ⟨fun _ => h.started nofun, fun _ => trivial, fun read' response' hdelivered => ?_⟩
    apply h.isolated read' response'
    cases response with
    | none => cases hdelivered
    | some response => exact hdelivered

end Moves

section Events

variable {client : MetricsInterface σ κ δ ε ρ} {K : κ → Prop}
  {clients₀ : List σ} {mh mh' : MetricsHandler σ} {e : HandlerEvent κ δ ε}
  (hlawful : client.Lawful) (hhappens : Happens client mh e mh')

include hhappens

omit hlawful in
theorem Happens.mutex : mh'.prometheusMiddlewareMu = mh.prometheusMiddlewareMu := by
  cases hhappens <;> rfl

include hlawful

theorem HandlerInv.happens (h : HandlerInv client K clients₀ mh)
    (hK : ∀ i config, e = .initConfigs i config → K config)
    : HandlerInv client K clients₀ mh' := by
  cases hhappens with
  | @stopServer server hserver =>
    refine ⟨h.length, nofun, nofun, fun i s₀ s hs₀ hs => ?_⟩
    rcases h.clients i s₀ s hs₀ hs with ⟨t, ht, hsame⟩
    exact ⟨t, ht.forget, hsame⟩
  | initConfig hserver =>
    refine ⟨h.length, ?_, nofun, fun i s₀ s hs₀ hs => ?_⟩
    . intro passes heq
      cases heq
      rw [List.length_map, h.length]
    . rcases h.clients i s₀ s hs₀ hs with ⟨t, ht, hsame⟩
      refine ⟨t, ?_, hsame⟩
      have hinit : (ServerState.initializing (mh.clients.map fun _ => .initConfigs)).initialized i
          = false := by
        simp only [ServerState.initialized, List.getElem?_map]
        cases mh.clients[i]? <;> rfl
      rw [hinit]
      exact ht.forget
  | @initConfigs passes i config s s' hserver hpass hs hs' =>
    have hlt : i < passes.length := (List.getElem?_eq_some_iff.mp hpass).1
    refine h.set _ hs ?_ nofun ?_ ?_
    . intro passes' heq
      cases heq
      rw [List.length_set, h.passes passes hserver]
    . intro j hj
      rw [hserver]
      simp [ServerState.initialized, Ne.symm hj]
    . intro s₀ t ht hsame
      rw [hlawful.initConfigs_congr s t config hsame] at hs'
      exact ⟨s', (ht.initConfigs (hK i config rfl) hs').weaken, rfl⟩
  | @updateStaticMetrics passes i config data s s' hserver hpass hs hs' =>
    have hlt : i < passes.length := (List.getElem?_eq_some_iff.mp hpass).1
    refine h.set _ hs ?_ nofun ?_ ?_
    . intro passes' heq
      cases heq
      rw [List.length_set, h.passes passes hserver]
    . intro j hj
      rw [hserver]
      simp [ServerState.initialized, Ne.symm hj]
    . intro s₀ t ht hsame
      have hinit : mh.server.initialized i = true := by
        rw [hserver]
        simp [ServerState.initialized, hpass]
      rw [hinit] at ht
      rcases hlawful.updateStaticMetrics_congr s t config data s' hsame hs' with ⟨t', ht', hsame'⟩
      exact ⟨t', (ht.step (a := .updateStaticMetrics config data) ht' nofun).weaken, hsame'⟩
  | @startServer passes hserver hpasses =>
    refine ⟨h.length, nofun, ?_, fun i s₀ s hs₀ hs => ?_⟩
    . intro n heq
      cases heq
      exact Nat.lt_succ_self _
    . rcases h.clients i s₀ s hs₀ hs with ⟨t, ht, hsame⟩
      have hlt : i < passes.length := by
        rw [h.passes passes hserver]
        exact (List.getElem?_eq_some_iff.mp hs₀).1
      have hpass : passes[i]? = some .finished := by
        rw [List.getElem?_eq_getElem hlt, hpasses _ (List.getElem_mem hlt)]
      have hinit : mh.server.initialized i = true := by
        rw [hserver]
        simp [ServerState.initialized, hpass]
      rw [hinit] at ht
      exact ⟨t, ht, hsame⟩
  | @client i e s s' hs hs' =>
    refine h.set mh.server hs h.passes h.running (fun _ _ => rfl) ?_
    intro s₀ t ht hsame
    rcases hlawful.env_congr s t e s' hsame hs' with ⟨t', ht', hsame'⟩
    exact ⟨t', ht.step (a := .env e) ht' nofun, hsame'⟩

theorem RequestInv.happens {r : MetricsRequest δ ρ} (h : RequestInv client K clients₀ mh r)
    : RequestInv client K clients₀ mh' r := by
  cases hhappens with
  | stopServer hserver => exact ⟨h.started, nofun, h.isolated⟩
  | initConfig hserver => exact ⟨h.started, nofun, h.isolated⟩
  | initConfigs hserver hpass hs hs' => exact ⟨h.started, nofun, h.isolated⟩
  | updateStaticMetrics hserver hpass hs hs' => exact ⟨h.started, nofun, h.isolated⟩
  | startServer hserver hpasses =>
    refine ⟨fun hphase => Nat.lt_succ_of_lt (h.started hphase), fun hrunning => ?_, h.isolated⟩
    -- no request has been accepted by the new server yet
    have hserver : mh.started = r.server := ServerState.running.inj hrunning
    cases hphase : r.phase with
    | accepting => trivial
    | locking => trivial
    | updating passes =>
      have := h.started (by simp [hphase])
      omega
    | serving read =>
      have := h.started (by simp [hphase])
      omega
    | served read response => trivial
    | finished read response => trivial
  | @client i e s s' hs hs' =>
    refine ⟨h.started, fun hserver => (h.hold hserver).set hs ?_ (hlawful.gather_env s e s' hs'), h.isolated⟩
    intro s₀ t ht heq
    rw [heq] at hs'
    rcases hlawful.env_reset t e s' hs' with ⟨t', ht', heq'⟩
    exact ⟨t', ht.step (a := .env e) ht' nofun, heq'⟩

end Events

section Run

variable {client : MetricsInterface σ κ δ ε ρ} {K : κ → Prop}
  {clients₀ : List σ}

def ConfigIn (K : κ → Prop) : CallPool.Action Nat (RequestStep δ) (HandlerEvent κ δ ε) → Prop
  | .env (.initConfigs _ config) => K config
  | _ => True

theorem poolInv_newMetricsHandler
    : PoolInv client K clients₀ (newMetricsHandler clients₀ : CallPool _ (MetricsRequest δ ρ)) where
  handler :=
    { length := rfl
      passes := nofun
      running := nofun
      clients := by
        intro i s₀ s hs₀ hs
        cases Option.some.inj (hs₀.symm.trans hs)
        exact ⟨s₀, ⟨[], nofun, nofun, rfl⟩, rfl⟩ }
  mutex := rfl
  requests := nofun

theorem PoolInv.step (hlawful : client.Lawful)
    {s s' : CallPool (MetricsHandler σ) (MetricsRequest δ ρ)} (h : PoolInv client K clients₀ s)
    {a : CallPool.Action Nat (RequestStep δ) (HandlerEvent κ δ ε)} (ha : ConfigIn K a)
    (hstep : (CallPool.system (metricsProgram client)).step s a = some s')
    : PoolInv client K clients₀ s' := by
  rcases CallPool.step_cases hstep with ⟨server, rfl, rfl⟩ | ⟨i, x, r, mh', r', rfl, hr, hcall, rfl⟩ |
    ⟨e, mh', rfl, hevent, rfl⟩
  . refine ⟨h.handler, ?_, fun r hr => ?_⟩
    . rw [List.countP_append, h.mutex]
      rfl
    . rcases List.mem_append.mp hr with hr | hr
      . exact h.requests r hr
      . cases List.mem_singleton.mp hr
        exact ⟨fun hphase => absurd rfl hphase, fun _ => trivial, .of_not_delivered rfl⟩
  . rcases moves_of_step client hcall with ⟨hmoves, hserver⟩
    have hperm := CallPool.calls_perm hr
    have hperm' := CallPool.calls_set_perm hr r'
    have hmutex := h.mutex
    rw [hperm.countP_eq, List.countP_cons] at hmutex
    refine ⟨h.handler.moves hlawful hmoves, ?_, fun r'' hr'' => ?_⟩
    . rw [hperm'.countP_eq, List.countP_cons]
      exact hmoves.mutex hmutex
    . rcases List.mem_cons.mp (hperm'.mem_iff.mp hr'') with rfl | hr''
      . have hrequest : RequestInv client K clients₀ s.shared ⟨r.server, r.phase⟩ :=
          h.requests r (List.mem_of_getElem? hr)
        have hmoved := hrequest.moves hmoves h.handler
        rw [← hserver] at hmoved
        exact hmoved
      . refine (h.requests r'' (hperm.mem_iff.mpr (List.mem_cons_of_mem _ hr''))).frame hmoves ?_
        intro hholds
        rw [if_pos hholds] at hmutex
        have hzero : (s.calls.eraseIdx i).countP (·.phase.holds) = 0 := by
          split at hmutex <;> omega
        rw [List.countP_eq_zero] at hzero
        simpa using hzero r'' hr''
  . have hhappens := happens_of_event client hevent
    refine ⟨h.handler.happens hlawful hhappens ?_, ?_, fun r hr => ?_⟩
    . rintro i config rfl
      exact ha
    . rw [hhappens.mutex]
      exact h.mutex
    . exact (h.requests r hr).happens hlawful hhappens

theorem isolated_of_exec (hlawful : client.Lawful)
    {as : List (CallPool.Action Nat (RequestStep δ) (HandlerEvent κ δ ε))}
    {s : CallPool (MetricsHandler σ) (MetricsRequest δ ρ)} (hK : ∀ a ∈ as, ConfigIn K a)
    (hexec : (CallPool.system (metricsProgram client)).exec as (newMetricsHandler clients₀) = some s)
    {r : MetricsRequest δ ρ} (hr : r ∈ s.calls) : Isolated client K clients₀ r.phase := by
  have hinv : PoolInv client K clients₀ s :=
    (CallPool.system (metricsProgram client)).exec_invariant
      (fun _ _ _ h ha hstep => PoolInv.step hlawful h ha hstep) as _ s poolInv_newMetricsHandler
      (TransitionSystem.respects_of_forall_mem _ hK _) hexec
  exact (hinv.requests r hr).isolated

end Run

end Exporter
