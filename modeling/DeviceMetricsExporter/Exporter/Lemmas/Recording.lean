import DeviceMetricsExporter.Exporter.Lemmas.MetricsHandler

/-!
This module contains maps between the clients of two handlers, and the client that also records which
configuration it has read last. Its runs are those of the client that does not.
-/

universe u

namespace Exporter

section Hom

variable {σ τ κ δ ε ρ ρ' : Type*}

/--
The map `f` of the states and the map `g` of what is collected commute with every operation.
-/
structure MetricsInterface.Hom (client : MetricsInterface σ κ δ ε ρ)
    (client' : MetricsInterface τ κ δ ε ρ') (f : σ → τ) (g : ρ → ρ') : Prop where
  initConfigs : ∀ s config, client'.initConfigs (f s) config = (client.initConfigs s config).map f
  updateStaticMetrics : ∀ s config data,
    client'.updateStaticMetrics (f s) config data = (client.updateStaticMetrics s config data).map f
  resetMetrics : ∀ s, client'.resetMetrics (f s) = f (client.resetMetrics s)
  updateMetricsStats : ∀ s data,
    client'.updateMetricsStats (f s) data = (client.updateMetricsStats s data).map f
  env : ∀ s e, client'.env (f s) e = (client.env s e).map f
  gather : ∀ s, client'.gather (f s) = g (client.gather s)

def MetricsHandler.map (f : σ → τ) (mh : MetricsHandler σ) : MetricsHandler τ :=
  { mh with clients := mh.clients.map f }

def RequestPhase.map (g : ρ → ρ') : RequestPhase δ ρ → RequestPhase δ ρ'
  | accepting => accepting
  | locking => locking
  | updating passes => updating passes
  | serving read => serving read
  | served read response => served read (response.map (·.map g))
  | finished read response => finished read (response.map (·.map g))

def MetricsRequest.map (g : ρ → ρ') (r : MetricsRequest δ ρ) : MetricsRequest δ ρ' where
  server := r.server
  phase := r.phase.map g

theorem RequestPhase.delivered_map (g : ρ → ρ') (phase : RequestPhase δ ρ)
    : (phase.map g).delivered = phase.delivered.map fun (read, response) => (read, response.map g) := by
  cases phase with
  | served read response => cases response <;> rfl
  | finished read response => cases response <;> rfl
  | accepting | locking | updating _ | serving _ => rfl

variable {client : MetricsInterface σ κ δ ε ρ} {client' : MetricsInterface τ κ δ ε ρ'} {f : σ → τ}
  {g : ρ → ρ'}

theorem exists_same_map {o p : Option σ} {h k : σ → τ} {s' : τ} (hstep : o.map h = some s')
    (hcongr : ∀ u, o = some u → ∃ v, p = some v ∧ client.Same u v)
    (hsame : ∀ u v, client.Same u v → client'.Same (h u) (k v))
    : ∃ t', p.map k = some t' ∧ client'.Same s' t' := by
  rcases Option.map_eq_some_iff.mp hstep with ⟨u, hu, rfl⟩
  rcases hcongr u hu with ⟨v, hv, huv⟩
  exact ⟨k v, Option.map_eq_some_iff.mpr ⟨v, hv, rfl⟩, hsame u v huv⟩

theorem updateClient_map (mh : MetricsHandler σ) (i : Nat) {h : σ → Option σ} {k : τ → Option τ}
    (hmap : ∀ s, k (f s) = (h s).map f)
    : (mh.map f).updateClient i k = (mh.updateClient i h).map (MetricsHandler.map f) := by
  simp only [MetricsHandler.updateClient, MetricsHandler.map, List.getElem?_map, Option.bind_eq_bind]
  cases mh.clients[i]? with
  | none => rfl
  | some s =>
    simp only [Option.map_some, Option.bind_some, hmap]
    cases h s with
    | none => rfl
    | some s' => simp [MetricsHandler.map, List.map_set]

theorem map_reset (f : σ → τ) (clients : List σ)
    : ((clients.map f).map fun _ => (UpdatePass.reset : UpdatePass δ)) = clients.map fun _ => .reset :=
  List.map_map

theorem request_step_map (hom : client.Hom client' f g) (mh : MetricsHandler σ) (r : MetricsRequest δ ρ)
    (x : RequestStep δ)
    : MetricsRequest.step client' (mh.map f) (r.map g) x
        = (MetricsRequest.step client mh r x).map
            (Prod.map (MetricsHandler.map f) (MetricsRequest.map g)) := by
  rcases r with ⟨server, phase⟩
  cases phase with
  | accepting =>
    cases x with
    | client i data => rfl
    | next =>
      by_cases hserver : mh.server = .running server <;>
        simp [MetricsRequest.step, MetricsRequest.map, RequestPhase.map, MetricsHandler.map, hserver]
  | locking =>
    cases x with
    | client i data => rfl
    | next =>
      simp only [MetricsRequest.step, MetricsRequest.map, RequestPhase.map, MetricsHandler.map, map_reset]
      cases mh.prometheusMiddlewareMu <;> rfl
  | updating passes =>
    cases x with
    | next =>
      simp only [MetricsRequest.step, MetricsRequest.map, RequestPhase.map, Option.map_map]
      rfl
    | client i data =>
      simp only [MetricsRequest.step, MetricsRequest.map, RequestPhase.map]
      split
      . rw [updateClient_map (h := fun s => some (client.resetMetrics s)) _ _ (by simp [hom.resetMetrics])]
        simp only [Option.map_map]
        rfl
      . rw [updateClient_map (h := fun s => client.updateMetricsStats s data) _ _ fun s =>
          hom.updateMetricsStats s data]
        simp only [Option.map_map]
        rfl
      . rfl
  | serving read =>
    cases x with
    | client i data => rfl
    | next =>
      by_cases hserver : mh.server = .running server <;>
        simp [MetricsRequest.step, MetricsRequest.map, RequestPhase.map, MetricsHandler.map, hserver,
          hom.gather]
  | served read response => cases x <;> rfl
  | finished read response => cases x <;> rfl

theorem event_map (hom : client.Hom client' f g) (mh : MetricsHandler σ) (e : HandlerEvent κ δ ε)
    : (mh.map f).event client' e = (mh.event client e).map (MetricsHandler.map f) := by
  rcases mh with ⟨clients, mu, server, started⟩
  cases e with
  | client i e => exact updateClient_map _ i fun s => hom.env s e
  | stopServer => cases server <;> rfl
  | initConfig =>
    cases server with
    | stopped => simp [MetricsHandler.event, MetricsHandler.map, Function.comp_def]
    | initializing passes => rfl
    | running server => rfl
  | startServer =>
    cases server with
    | stopped => rfl
    | running server => rfl
    | initializing passes =>
      simp only [MetricsHandler.event, MetricsHandler.map]
      cases passes.all (· = .finished) <;> rfl
  | initConfigs i config =>
    cases server with
    | stopped => rfl
    | running server => rfl
    | initializing passes =>
      simp only [MetricsHandler.event, MetricsHandler.map]
      by_cases hpass : passes[i]? = some .initConfigs
      . rw [if_pos hpass, if_pos hpass]
        have hclient := updateClient_map (k := fun s => client'.initConfigs s config)
          ⟨clients, mu, .initializing passes, started⟩ i fun s => hom.initConfigs s config
        exact (congrArg (Option.map _) hclient).trans (by simp only [Option.map_map]; rfl)
      . rw [if_neg hpass, if_neg hpass]
        rfl
  | updateStaticMetrics i config data =>
    cases server with
    | stopped => rfl
    | running server => rfl
    | initializing passes =>
      simp only [MetricsHandler.event, MetricsHandler.map]
      by_cases hpass : passes[i]? = some .updateStaticMetrics
      . rw [if_pos hpass, if_pos hpass]
        have hclient := updateClient_map (k := fun s => client'.updateStaticMetrics s config data)
          ⟨clients, mu, .initializing passes, started⟩ i fun s => hom.updateStaticMetrics s config data
        exact (congrArg (Option.map _) hclient).trans (by simp only [Option.map_map]; rfl)
      . rw [if_neg hpass, if_neg hpass]
        rfl

theorem metricsProgram_hom (hom : client.Hom client' f g)
    : CallPool.ProgramHom (metricsProgram client) (metricsProgram client') (MetricsHandler.map f)
        (MetricsRequest.map g) where
  init _ := rfl
  step := request_step_map hom
  env := event_map hom

end Hom

section Recording

variable {σ κ δ ε ρ : Type u}

/--
A client that records the configuration it has read last, and shows it.
-/
def MetricsInterface.recording (client : MetricsInterface σ κ δ ε ρ)
    : MetricsInterface (σ × Option κ) κ δ ε (ρ × Option κ) where
  initConfigs s config := (client.initConfigs s.1 config).map (·, some config)
  updateStaticMetrics s config data := (client.updateStaticMetrics s.1 config data).map (·, s.2)
  resetMetrics s := (client.resetMetrics s.1, s.2)
  updateMetricsStats s data := (client.updateMetricsStats s.1 data).map (·, s.2)
  env s e := (client.env s.1 e).map (·, s.2)
  gather s := (client.gather s.1, s.2)

variable {client : MetricsInterface σ κ δ ε ρ}

theorem recording_hom : client.recording.Hom client Prod.fst Prod.fst where
  initConfigs s config := by simp [MetricsInterface.recording, Function.comp_def]
  updateStaticMetrics s config data := by simp [MetricsInterface.recording, Function.comp_def]
  resetMetrics _ := rfl
  updateMetricsStats s data := by simp [MetricsInterface.recording, Function.comp_def]
  env s e := by simp [MetricsInterface.recording, Function.comp_def]
  gather _ := rfl

theorem same_recording_iff {s t : σ × Option κ}
    : client.recording.Same s t ↔ client.Same s.1 t.1 ∧ s.2 = t.2 := by
  simp [MetricsInterface.Same, MetricsInterface.recording]

theorem lawful_recording (hlawful : client.Lawful) : client.recording.Lawful where
  reset_idem s := by simp [MetricsInterface.recording, hlawful.reset_idem]
  initConfigs_congr s t config h := by
    have hsame := same_recording_iff.mp h
    simp [MetricsInterface.recording, hlawful.initConfigs_congr s.1 t.1 config hsame.1]
  updateStaticMetrics_congr s t config data s' h hstep := by
    rcases same_recording_iff.mp h with ⟨hsame, hlast⟩
    exact exists_same_map hstep (hlawful.updateStaticMetrics_congr s.1 t.1 config data · hsame)
      fun _ _ huv => same_recording_iff.mpr ⟨huv, hlast⟩
  updateMetricsStats_congr s t data s' h hstep := by
    rcases same_recording_iff.mp h with ⟨hsame, hlast⟩
    exact exists_same_map hstep (hlawful.updateMetricsStats_congr s.1 t.1 data · hsame)
      fun _ _ huv => same_recording_iff.mpr ⟨huv, hlast⟩
  env_congr s t e s' h hstep := by
    rcases same_recording_iff.mp h with ⟨hsame, hlast⟩
    exact exists_same_map hstep (hlawful.env_congr s.1 t.1 e · hsame)
      fun _ _ huv => same_recording_iff.mpr ⟨huv, hlast⟩
  env_reset s e s' hstep := by
    rcases Option.map_eq_some_iff.mp hstep with ⟨u, hu, rfl⟩
    rcases hlawful.env_reset s.1 e u hu with ⟨u', hu', rfl⟩
    exact ⟨(u', s.2), by simp [MetricsInterface.recording, hu'], rfl⟩
  gather_env s e s' hstep := by
    rcases Option.map_eq_some_iff.mp hstep with ⟨u, hu, rfl⟩
    simp [MetricsInterface.recording, hlawful.gather_env s.1 e u hu]

def ClientAction.config : ClientAction κ δ ε → Option κ
  | initConfigs config => some config
  | _ => none

def lastConfig (run : List (ClientAction κ δ ε)) : Option κ :=
  (run.filterMap ClientAction.config).getLast?

theorem lastConfig_concat (run : List (ClientAction κ δ ε)) (a : ClientAction κ δ ε)
    : lastConfig (run ++ [a]) = a.config.or (lastConfig run) := by
  cases h : a.config with
  | none => simp [lastConfig, h]
  | some config => simp [lastConfig, h]

theorem mem_of_lastConfig {run : List (ClientAction κ δ ε)} {config : κ}
    (h : lastConfig run = some config) : .initConfigs config ∈ run := by
  rcases List.mem_filterMap.mp (List.mem_of_getLast? h) with ⟨a, ha, hconfig⟩
  cases a with
  | initConfigs config' =>
    cases hconfig
    exact ha
  | updateStaticMetrics config' data => cases hconfig
  | updateMetrics data => cases hconfig
  | env e => cases hconfig

theorem exec_recording {run : List (ClientAction κ δ ε)} {s₀ : σ} {s : σ × Option κ}
    (hexec : client.recording.system.exec run (s₀, none) = some s)
    : client.system.exec run s₀ = some s.1 ∧ s.2 = lastConfig run := by
  refine client.recording.system.exec_history
    (I := fun run s => client.system.exec run s₀ = some s.1 ∧ s.2 = lastConfig run)
    (fun run s a t h _ hstep => ?_) run [] (s₀, none) s ⟨rfl, rfl⟩ (client.recording.system.respects_true _ _)
    hexec
  rw [TransitionSystem.exec_concat_eq_some]
  cases a with
  | initConfigs config =>
    rcases Option.map_eq_some_iff.mp hstep with ⟨u, hu, rfl⟩
    exact ⟨⟨s.1, h.1, hu⟩, (lastConfig_concat run (.initConfigs config)).symm⟩
  | updateStaticMetrics config data =>
    rcases Option.map_eq_some_iff.mp hstep with ⟨u, hu, rfl⟩
    exact ⟨⟨s.1, h.1, hu⟩, h.2.trans (lastConfig_concat run (.updateStaticMetrics config data)).symm⟩
  | updateMetrics data =>
    rcases Option.map_eq_some_iff.mp hstep with ⟨u, hu, rfl⟩
    exact ⟨⟨s.1, h.1, hu⟩, h.2.trans (lastConfig_concat run (.updateMetrics data)).symm⟩
  | env e =>
    rcases Option.map_eq_some_iff.mp hstep with ⟨u, hu, rfl⟩
    exact ⟨⟨s.1, h.1, hu⟩, h.2.trans (lastConfig_concat run (.env e)).symm⟩

/--
A client that has read `config` last, and configurations in `K` before, shows `response` after a single
scrape with the data.
-/
def ScrapedWith (client : MetricsInterface σ κ δ ε ρ) (K : κ → Prop) (config : κ) (s₀ : σ) (data : δ)
    (response : ρ) : Prop :=
  ∃ run s, (∀ config, .initConfigs config ∈ run → K config) ∧ lastConfig run = some config
    ∧ client.system.exec (run ++ [.updateMetrics data]) s₀ = some s ∧ client.gather s = response

theorem scrapedWith_of_recording {K : κ → Prop} {s₀ : σ} {data : δ} {response : ρ × Option κ} {config : κ}
    (h : Scraped client.recording K (s₀, none) data response) (hconfig : response.2 = some config)
    : ScrapedWith client K config s₀ data response.1 := by
  rcases h with ⟨run, s, hK, _, hexec, rfl⟩
  rcases exec_recording hexec with ⟨hrun, hlast⟩
  refine ⟨run, s.1, hK, ?_, hrun, rfl⟩
  have hlast' : lastConfig (run ++ [ClientAction.updateMetrics data]) = lastConfig run :=
    lastConfig_concat run (.updateMetrics data)
  rw [← hlast', ← hlast]
  exact hconfig

end Recording

end Exporter
