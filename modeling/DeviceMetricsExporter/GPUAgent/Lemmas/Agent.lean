import DeviceMetricsExporter.GPUAgent.Impl.Agent

/-!
This module contains which schedulers an agent lists workloads from after it has reconnected.
-/

namespace GPUAgent

namespace Agent

def usesKubernetes (ga : Agent) : Bool :=
  ga.isKubernetes && ga.k8sScheduler

/--
Both agents merge the workloads of the same schedulers, whatever these list.
-/
def SameSources (ga ga' : Agent) : Prop :=
  ∀ k8sWls slurmWls, ga'.listWorkloads k8sWls slurmWls = ga.listWorkloads k8sWls slurmWls

def configured (ga : Agent) : Agent :=
  { ga with slurmScheduler := ga.enableSlurmScl }

/--
After the reconnects `as`, the agent `s'` lists the workloads of the same schedulers as `s` did
before, and once it has reconnected these are the ones that `ga` was built with.
-/
def KeepsSources (ga s : Agent) (as : List InitErrors) (s' : Agent) : Prop :=
  match as with
  | [] => SameSources s s'
  | _ :: _ => SameSources ga.configured s'

theorem listWorkloads_congr {ga ga' : Agent} (hk8s : ga'.usesKubernetes = ga.usesKubernetes)
    (hslurm : ga'.slurmScheduler = ga.slurmScheduler) : SameSources ga ga' := by
  intro k8sWls slurmWls
  unfold listWorkloads
  unfold usesKubernetes at hk8s
  rw [hk8s, hslurm]

theorem usesKubernetes_of_sameSources {ga ga' : Agent} (h : SameSources ga ga')
    (huses : ga.usesKubernetes = true) : ga'.usesKubernetes = true := by
  -- an error of the Kubernetes scheduler only shows where it is asked
  have hlist := h (.error "") (.ok ∅)
  cases huses' : ga'.usesKubernetes with
  | true => rfl
  | false =>
    unfold usesKubernetes at huses huses'
    unfold listWorkloads at hlist
    rw [huses, huses'] at hlist
    cases hslurm : ga'.slurmScheduler with
    | true =>
      rw [hslurm] at hlist
      cases hlist
    | false =>
      rw [hslurm] at hlist
      cases hlist

theorem initclients_eq_none {ga ga' : Agent} {errs : InitErrors}
    (h : ga.initclients errs = (ga', none))
    : ga' = { ga with
        conn := true
        clients := ga.clients.map (AgentClient.initClients true) } := by
  unfold initclients at h
  split at h
  . cases h
  . cases h
    rfl

theorem initalizeScheduler_eq_none {ga ga' : Agent} {errs : InitErrors}
    (h : ga.initalizeScheduler errs = (ga', none))
    : ga' = { ga with slurmScheduler := ga.slurmScheduler || ga.enableSlurmScl } := by
  unfold initalizeScheduler at h
  split at h
  . next henable =>
    split at h
    . cases h
    . cases h
      rw [henable, Bool.or_true]
  . next henable =>
    cases h
    have hkeep : (ga.slurmScheduler || ga.enableSlurmScl) = ga.slurmScheduler := by
      rw [Bool.eq_false_iff.mpr henable, Bool.or_false]
    rw [hkeep]

theorem init_eq_none {ga ga' : Agent} {errs : InitErrors} (h : ga.init errs = (ga', none))
    : ga'.usesKubernetes = ga.usesKubernetes
        ∧ ga'.slurmScheduler = (ga.slurmScheduler || ga.enableSlurmScl)
        ∧ ga'.enableSlurmScl = ga.enableSlurmScl := by
  unfold init at h
  split at h
  . cases h
  . next t hclients =>
    rw [initalizeScheduler_eq_none h, initclients_eq_none hclients]
    exact ⟨rfl, rfl, rfl⟩

theorem init_enableSlurmScl (ga : Agent) (errs : InitErrors)
    : (ga.init errs).1.enableSlurmScl = ga.enableSlurmScl := by
  unfold init initclients initalizeScheduler initializeContext
  cases errs.grpc with
  | some err => rfl
  | none =>
    dsimp only
    split
    . split
      . rfl
      . rfl
    . rfl

theorem reconnect_eq_none {ga ga' : Agent} {errs : InitErrors}
    (h : ga.reconnect errs = (ga', none))
    : ga'.usesKubernetes = false ∧ ga'.slurmScheduler = ga.enableSlurmScl
        ∧ ga'.enableSlurmScl = ga.enableSlurmScl := by
  rcases init_eq_none h with ⟨hk8s, hslurm, henable⟩
  refine ⟨?_, ?_, henable⟩
  . rw [hk8s]
    exact Bool.and_false _
  . rw [hslurm]
    exact Bool.false_or _

end Agent

open Agent

theorem reconnectSystem_step {ga ga' : Agent} {errs : InitErrors}
    (h : reconnectSystem.step ga errs = some ga') : ga.reconnect errs = (ga', none) := by
  unfold reconnectSystem at h
  dsimp only at h
  split at h
  . next heq =>
    cases h
    exact heq
  . cases h

theorem applyOption_slurmScheduler (isKubernetes : Bool) (ga : Agent) (option : AgentOption)
    : (ga.applyOption isKubernetes option).slurmScheduler = ga.slurmScheduler := by
  cases option with
  | withK8sSchedulerClient k8sScheduler =>
    simp only [applyOption]
    split
    . rfl
    . rfl
  | _ => rfl

theorem foldl_applyOption_slurmScheduler (isKubernetes : Bool) (opts : List AgentOption)
    (ga : Agent)
    : (opts.foldl (applyOption isKubernetes) ga).slurmScheduler = ga.slurmScheduler := by
  induction opts generalizing ga with
  | nil => rfl
  | cons option opts ih =>
    rw [List.foldl_cons, ih]
    exact applyOption_slurmScheduler isKubernetes ga option

theorem newAgent_slurmScheduler {isKubernetes : Bool} {opts : List AgentOption} {ga : Agent}
    (h : newAgent isKubernetes opts = some ga) : ga.slurmScheduler = false := by
  unfold newAgent at h
  dsimp only at h
  split at h
  . cases h
  . cases h
    exact foldl_applyOption_slurmScheduler isKubernetes opts {}

/--
After a first reconnect only the scheduler of Slurm is left.
-/
structure OnlySlurm (enable : Bool) (ga : Agent) : Prop where
  k8s : ga.usesKubernetes = false
  slurm : ga.slurmScheduler = enable
  flag : ga.enableSlurmScl = enable

theorem onlySlurm_reconnect {enable : Bool} {ga ga' : Agent} {errs : InitErrors}
    (hflag : ga.enableSlurmScl = enable) (h : reconnectSystem.step ga errs = some ga')
    : OnlySlurm enable ga' := by
  rcases reconnect_eq_none (reconnectSystem_step h) with ⟨hk8s, hslurm, hflag'⟩
  exact ⟨hk8s, hslurm.trans hflag, hflag'.trans hflag⟩

theorem onlySlurm_of_exec {enable : Bool} {ga ga' : Agent} {errs : InitErrors}
    {as : List InitErrors} (hflag : ga.enableSlurmScl = enable)
    (hexec : reconnectSystem.exec (errs :: as) ga = some ga') : OnlySlurm enable ga' := by
  rcases (TransitionSystem.exec_cons_eq_some _).mp hexec with ⟨t, hstep, hrest⟩
  apply reconnectSystem.exec_invariant (I := OnlySlurm enable) ?_ as t ga'
    (onlySlurm_reconnect hflag hstep) (reconnectSystem.respects_true as t) hrest
  intro s a s' hs _ hstep
  exact onlySlurm_reconnect hs.flag hstep

theorem sameSources_init {isKubernetes : Bool} {opts : List AgentOption} {ga s : Agent}
    {errs : InitErrors} (hnew : newAgent isKubernetes opts = some ga)
    (hinit : ga.init errs = (s, none)) : SameSources ga.configured s := by
  rcases init_eq_none hinit with ⟨hk8s, hslurm, -⟩
  rw [newAgent_slurmScheduler hnew, Bool.false_or] at hslurm
  exact listWorkloads_congr hk8s hslurm

/--
Reconnecting keeps the sources of the workloads if and only if there is no Kubernetes scheduler among
them: the agent is given its client once, and `Close` drops it.
-/
theorem keepsSources_iff (ga : Agent) (errs : InitErrors) (as : List InitErrors) (s' : Agent)
    (hexec : reconnectSystem.exec as (ga.init errs).1 = some s')
    : KeepsSources ga (ga.init errs).1 as s' ↔ as = [] ∨ ga.usesKubernetes = false := by
  cases as with
  | nil =>
    cases hexec
    exact ⟨fun _ => .inl rfl, fun _ _ _ => rfl⟩
  | cons a as =>
    have honly := onlySlurm_of_exec (init_enableSlurmScl ga errs) hexec
    constructor
    . intro h
      apply Or.inr
      cases huses : ga.usesKubernetes with
      | false => rfl
      | true =>
        have huses' := usesKubernetes_of_sameSources h huses
        rw [honly.k8s] at huses'
        cases huses'
    . rintro (hnil | hnone)
      . cases hnil
      . apply listWorkloads_congr
        . rw [honly.k8s]
          exact hnone.symm
        . exact honly.slurm

section Instances

def schedulerOptions (k8sScheduler : Bool) : List AgentOption :=
  [.withK8sSchedulerClient k8sScheduler, .withSlurmClient true]

def unreachable : InitErrors where
  grpc := some "failed to exit idle mode"

theorem keepsSources_iff_slurmOnly
    : ∃ ga s', newAgent true (schedulerOptions false) = some ga
        ∧ reconnectSystem.exec [{}, {}] (ga.init unreachable).1 = some s'
        ∧ KeepsSources ga (ga.init unreachable).1 [{}, {}] s' :=
  ⟨_, _, rfl, rfl,
    (keepsSources_iff _ unreachable [{}, {}] _ rfl).mpr (.inr (by decide))⟩

theorem not_keepsSources
    : ¬∀ (isKubernetes : Bool) (opts : List AgentOption) (ga : Agent) (errs : InitErrors)
        (as : List InitErrors) (s' : Agent),
        newAgent isKubernetes opts = some ga →
          reconnectSystem.exec as (ga.init errs).1 = some s' →
            KeepsSources ga (ga.init errs).1 as s' := by
  intro h
  have hkeeps := h true (schedulerOptions true) _ unreachable [{}] _ rfl rfl
  have huses := usesKubernetes_of_sameSources hkeeps (by decide)
  revert huses
  decide

end Instances

end GPUAgent
