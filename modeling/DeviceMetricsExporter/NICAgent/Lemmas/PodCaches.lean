import DeviceMetricsExporter.NICAgent.Impl.PodCaches

/-!
This module contains when the caches of the NIC agent answer for the right pod. Both are keyed by the
name of the pod alone and nothing is ever removed when a pod ends.
-/

namespace NICAgent

open Exporter

section Caches

variable [CaseMap] (host : Host)

/--
Whatever is returned for a pod that runs is the pid, respectively the devices, of its instance.
-/
structure Answers (s : NICNode) : Prop where
  pid : ∀ criOk podInfo inst pid, s.running.lookup (podInfo.namespace, podInfo.pod) = some inst →
    (s.podnameToPidCacheGet criOk (some podInfo)).2 = some pid → pid = inst.pid
  netDevices : ∀ criOk podInfo inst netDevices,
    s.running.lookup (podInfo.namespace, podInfo.pod) = some inst →
    (s.getNetDevicesList host criOk (some podInfo)).2 = some netDevices →
      readNetDevices host inst.netns podInfo.pod = some netDevices

namespace NICNode

def onlyIn (s : NICNode) («namespace» podName : String) : Bool :=
  s.running.entries.all fun e => e.1.2 ≠ podName || e.1.1 = «namespace»

/--
The pid of a pod that is not cached is looked up only while no other namespace has a pod of this
name.
-/
def unambiguous (s : NICNode) («namespace» podName : String) : Bool :=
  (s.podnameToPidCache.lookup podName).isSome
    || (s.running.lookup («namespace», podName)).isNone || s.onlyIn «namespace» podName

end NICNode

/--
A pod is created only while its name is in neither cache, and pids are looked up only for names that
are unambiguous.
-/
def WellNamed (s : NICNode) (a : NICAction) : Bool :=
  match a with
  | .create _ podName _ =>
    (s.podnameToPidCache.lookup podName).isNone && (s.podnameToNetDeviceCache.lookup podName).isNone
  | .addPodPidIfAbsent _ podName «namespace» => s.unambiguous «namespace» podName
  | .podnameToPidCacheGet _ (some podInfo) => s.unambiguous podInfo.namespace podInfo.pod
  | .getNetDevicesList _ (some podInfo) =>
    (s.podnameToNetDeviceCache.lookup podInfo.pod).isSome
      || s.unambiguous podInfo.namespace podInfo.pod
  | _ => true

structure CachesInv (s : NICNode) : Prop where
  pids : ∀ ns ns' name name' inst inst', s.running.lookup (ns, name) = some inst →
    s.running.lookup (ns', name') = some inst' → inst.pid = inst'.pid → inst = inst'
  pidCache : ∀ ns name pid inst, s.podnameToPidCache.lookup name = some pid →
    s.running.lookup (ns, name) = some inst → pid = inst.pid
  netDeviceCache : ∀ ns name netDevices inst,
    s.podnameToNetDeviceCache.lookup name = some netDevices →
    s.running.lookup (ns, name) = some inst →
      readNetDevices host inst.netns name = some netDevices

end Caches

section Lookups

variable {s s' : NICNode} {ns podName : String}

/--
What a call that looks up the pid of a pod leaves. The pid it adds to the cache is the one of the pod
it was called for, and it adds it only if none was cached for the name.
-/
structure LooksUpPid (ns podName : String) (s s' : NICNode) : Prop where
  running : s'.running = s.running
  netDeviceCache : s'.podnameToNetDeviceCache = s.podnameToNetDeviceCache
  pidCache : ∀ name pid, s'.podnameToPidCache.lookup name = some pid →
    s.podnameToPidCache.lookup name = some pid ∨
      name = podName ∧ s.podnameToPidCache.lookup podName = none
        ∧ ∃ inst, s.running.lookup (ns, podName) = some inst ∧ pid = inst.pid

theorem looksUpPid_get {cache : LRU String Int podCacheSize}
    (h : cache = (s.podnameToPidCache.get podName).1)
    : LooksUpPid ns podName s { s with podnameToPidCache := cache } where
  running := rfl
  netDeviceCache := rfl
  pidCache name pid hlookup := by
    rw [h, LRU.lookup_get] at hlookup
    exact .inl hlookup

theorem LooksUpPid.of_get {cache : LRU String Int podCacheSize}
    (h : LooksUpPid ns podName { s with podnameToPidCache := cache } s')
    (hcache : cache = (s.podnameToPidCache.get podName).1) : LooksUpPid ns podName s s' where
  running := h.running
  netDeviceCache := h.netDeviceCache
  pidCache name pid hlookup := by
    have := h.pidCache name pid hlookup
    rwa [hcache, LRU.lookup_get, LRU.lookup_get] at this

theorem LooksUpPid.get (h : LooksUpPid ns podName s s')
    : LooksUpPid ns podName s
        { s' with podnameToPidCache := (s'.podnameToPidCache.get podName).1 } where
  running := h.running
  netDeviceCache := h.netDeviceCache
  pidCache name pid hlookup := by
    rw [LRU.lookup_get] at hlookup
    exact h.pidCache name pid hlookup

theorem getPidOfPod_eq_some {criOk : Bool} {pid : Int}
    (h : s.getPidOfPod criOk podName ns = some pid)
    : ∃ inst, s.running.lookup (ns, podName) = some inst ∧ pid = inst.pid := by
  unfold NICNode.getPidOfPod at h
  split at h
  . rcases Option.map_eq_some_iff.mp h with ⟨inst, hinst, hpid⟩
    exact ⟨inst, hinst, hpid.symm⟩
  . cases h

theorem addPodPidIfAbsent_looksUpPid (s : NICNode) (criOk : Bool) (podName ns : String)
    : LooksUpPid ns podName s (s.addPodPidIfAbsent criOk podName ns).1 := by
  unfold NICNode.addPodPidIfAbsent
  split
  . next cache v hget => exact looksUpPid_get (by rw [hget])
  . next cache hget =>
    have hcache : cache = (s.podnameToPidCache.get podName).1 := by rw [hget]
    dsimp only
    split
    . exact looksUpPid_get hcache
    . next processId hpid =>
      refine ⟨rfl, rfl, fun name pid hlookup => ?_⟩
      rcases LRU.lookup_add_eq_some hlookup with ⟨rfl, rfl⟩ | hold
      . have hnone : s.podnameToPidCache.lookup name = none := by rw [← LRU.get_snd, hget]
        exact .inr ⟨rfl, hnone, getPidOfPod_eq_some hpid⟩
      . rw [hcache, LRU.lookup_get] at hold
        exact .inl hold

theorem podnameToPidCacheGet_looksUpPid (s : NICNode) (criOk : Bool) (podInfo : PodResourceInfo)
    : LooksUpPid podInfo.namespace podInfo.pod s (s.podnameToPidCacheGet criOk (some podInfo)).1 := by
  unfold NICNode.podnameToPidCacheGet
  dsimp only
  split
  . next cache v hget => exact looksUpPid_get (by rw [hget])
  . next cache hget =>
    have hcache : cache = (s.podnameToPidCache.get podInfo.pod).1 := by rw [hget]
    have hadd := (addPodPidIfAbsent_looksUpPid { s with podnameToPidCache := cache } criOk
      podInfo.pod podInfo.namespace).of_get hcache
    split
    . next t ht =>
      rw [ht] at hadd
      exact hadd
    . next t ht =>
      rw [ht] at hadd
      exact hadd.get

theorem podnameToPidCacheGet_eq_some {criOk : Bool} {podInfo : PodResourceInfo} {pid : Int}
    (h : (s.podnameToPidCacheGet criOk (some podInfo)).2 = some pid)
    : s.podnameToPidCache.lookup podInfo.pod = some pid ∨
        s.podnameToPidCache.lookup podInfo.pod = none
          ∧ ∃ inst, s.running.lookup (podInfo.namespace, podInfo.pod) = some inst
            ∧ pid = inst.pid := by
  unfold NICNode.podnameToPidCacheGet at h
  dsimp only at h
  split at h
  . next cache v hget =>
    rw [← h, ← LRU.get_snd, hget]
    exact .inl rfl
  . next cache hget =>
    have hcache : cache = (s.podnameToPidCache.get podInfo.pod).1 := by rw [hget]
    have hadd := (addPodPidIfAbsent_looksUpPid { s with podnameToPidCache := cache } criOk
      podInfo.pod podInfo.namespace).of_get hcache
    split at h
    . cases h
    . next t ht =>
      rw [ht] at hadd
      rw [LRU.get_snd] at h
      rcases hadd.pidCache podInfo.pod pid h with hold | ⟨-, hnone, hinst⟩
      . exact .inl hold
      . exact .inr ⟨hnone, hinst⟩

theorem eq_of_unambiguous {ns' : String} {inst inst' : PodInstance}
    (h : s.unambiguous ns podName = true) (hnone : s.podnameToPidCache.lookup podName = none)
    (hinst : s.running.lookup (ns, podName) = some inst)
    (hinst' : s.running.lookup (ns', podName) = some inst') : inst' = inst := by
  have honly : s.onlyIn ns podName = true := by
    simpa [NICNode.unambiguous, hnone, hinst] using h
  rw [NICNode.onlyIn, List.all_eq_true] at honly
  have hns : ns' = ns := by
    simpa using honly ⟨(ns', podName), inst'⟩ (AList.mem_lookup_iff.mp hinst')
  rw [hns, hinst] at hinst'
  exact (Option.some.inj hinst').symm

end Lookups

section Calls

variable [CaseMap] {host : Host} {s s' : NICNode}

theorem CachesInv.of_caches (hinv : CachesInv host s) (hrunning : s'.running = s.running)
    (hpid : ∀ name pid, s'.podnameToPidCache.lookup name = some pid →
      s.podnameToPidCache.lookup name = some pid ∨
        ∀ ns inst, s.running.lookup (ns, name) = some inst → pid = inst.pid)
    (hnetDevices : ∀ name netDevices, s'.podnameToNetDeviceCache.lookup name = some netDevices →
      s.podnameToNetDeviceCache.lookup name = some netDevices ∨
        ∀ ns inst, s.running.lookup (ns, name) = some inst →
          readNetDevices host inst.netns name = some netDevices)
    : CachesInv host s' where
  pids := by
    rw [hrunning]
    exact hinv.pids
  pidCache ns name pid inst hlookup hinst := by
    rw [hrunning] at hinst
    rcases hpid name pid hlookup with hold | hright
    . exact hinv.pidCache ns name pid inst hold hinst
    . exact hright ns inst hinst
  netDeviceCache ns name netDevices inst hlookup hinst := by
    rw [hrunning] at hinst
    rcases hnetDevices name netDevices hlookup with hold | hright
    . exact hinv.netDeviceCache ns name netDevices inst hold hinst
    . exact hright ns inst hinst

theorem CachesInv.looksUpPid {ns podName : String} (hinv : CachesInv host s)
    (hun : s.unambiguous ns podName = true) (h : LooksUpPid ns podName s s')
    : CachesInv host s' := by
  apply hinv.of_caches h.running
  . intro name pid hlookup
    rcases h.pidCache name pid hlookup with hold | ⟨rfl, hnone, inst, hinst, rfl⟩
    . exact .inl hold
    . refine .inr fun ns' inst' hinst' => ?_
      rw [eq_of_unambiguous hun hnone hinst hinst']
  . intro name netDevices hlookup
    rw [h.netDeviceCache] at hlookup
    exact .inl hlookup

theorem CachesInv.netnsExec {ns podName : String} {inst : PodInstance} (hinv : CachesInv host s)
    (hinst : s.running.lookup (ns, podName) = some inst) : s.netnsExec inst.pid = inst.netns := by
  funext cmd
  unfold NICNode.netnsExec
  split
  . next e he =>
    have hpid : e.2.pid = inst.pid := by simpa using List.find?_some he
    have hlookup : s.running.lookup e.1 = some e.2 :=
      AList.mem_lookup_iff.mpr (List.mem_of_find?_eq_some he)
    rw [hinv.pids e.1.1 ns e.1.2 podName e.2 inst hlookup hinst hpid]
  . next he =>
    have := List.find?_eq_none.mp he _ (AList.mem_lookup_iff.mp hinst)
    simp at this

/--
`getNetDevicesList` returns what is cached, else it looks up the pid of the pod and caches what it
reads in the network namespace of this process.
-/
theorem getNetDevicesList_cases (host : Host) (s : NICNode) (criOk : Bool)
    (podInfo : PodResourceInfo)
    : (∃ netDevices, s.podnameToNetDeviceCache.lookup podInfo.pod = some netDevices
        ∧ s.getNetDevicesList host criOk (some podInfo)
          = ({ s with podnameToNetDeviceCache := (s.podnameToNetDeviceCache.get podInfo.pod).1 },
              some netDevices))
      ∨ s.podnameToNetDeviceCache.lookup podInfo.pod = none
        ∧ ∃ t, LooksUpPid podInfo.namespace podInfo.pod s t
          ∧ (s.getNetDevicesList host criOk (some podInfo) = (t, none)
            ∨ ∃ pid netDevices, (s.podnameToPidCacheGet criOk (some podInfo)).2 = some pid
              ∧ readNetDevices host (s.netnsExec pid) podInfo.pod = some netDevices
              ∧ s.getNetDevicesList host criOk (some podInfo)
                = ({ t with podnameToNetDeviceCache :=
                      t.podnameToNetDeviceCache.add podInfo.pod netDevices }, some netDevices)) := by
  cases hlookup : s.podnameToNetDeviceCache.lookup podInfo.pod with
  | some netDevices =>
    refine .inl ⟨netDevices, rfl, ?_⟩
    have hget : s.podnameToNetDeviceCache.get podInfo.pod
        = ((s.podnameToNetDeviceCache.get podInfo.pod).1, some netDevices) := by
      rw [← hlookup, ← LRU.get_snd]
    unfold NICNode.getNetDevicesList
    dsimp only
    rw [hget]
  | none =>
    refine .inr ⟨rfl, (s.podnameToPidCacheGet criOk (some podInfo)).1,
      podnameToPidCacheGet_looksUpPid s criOk podInfo, ?_⟩
    have hrunning := (podnameToPidCacheGet_looksUpPid s criOk podInfo).running
    unfold NICNode.getNetDevicesList
    dsimp only
    rw [LRU.get_of_lookup_eq_none hlookup]
    dsimp only
    split
    . next t ht =>
      rw [ht]
      exact .inl rfl
    . next t pid ht =>
      rw [ht] at hrunning ⊢
      have hexec : t.netnsExec pid = s.netnsExec pid := by
        unfold NICNode.netnsExec
        rw [hrunning]
      rw [hexec]
      split
      . exact .inl rfl
      . next netDevices hread => exact .inr ⟨pid, netDevices, rfl, hread, rfl⟩

theorem CachesInv.answers (hinv : CachesInv host s) : Answers host s := by
  have hpid : ∀ criOk podInfo inst pid,
      s.running.lookup (podInfo.namespace, podInfo.pod) = some inst →
      (s.podnameToPidCacheGet criOk (some podInfo)).2 = some pid → pid = inst.pid := by
    intro criOk podInfo inst pid hinst hget
    rcases podnameToPidCacheGet_eq_some hget with hlookup | ⟨-, inst', hinst', rfl⟩
    . exact hinv.pidCache podInfo.namespace podInfo.pod pid inst hlookup hinst
    . rw [hinst] at hinst'
      cases hinst'
      rfl
  refine ⟨hpid, ?_⟩
  intro criOk podInfo inst netDevices hinst hget
  rcases getNetDevicesList_cases host s criOk podInfo with
    ⟨_, hlookup, heq⟩ | ⟨-, t, -, heq | ⟨pid, read, hget', hread, heq⟩⟩
  . rw [heq] at hget
    cases hget
    exact hinv.netDeviceCache podInfo.namespace podInfo.pod _ inst hlookup hinst
  . rw [heq] at hget
    cases hget
  . rw [heq] at hget
    cases hget
    rwa [hpid criOk podInfo inst pid hinst hget', hinv.netnsExec hinst] at hread

theorem CachesInv.getNetDevicesList (hinv : CachesInv host s) (criOk : Bool)
    (podInfo : PodResourceInfo)
    (hun : ((s.podnameToNetDeviceCache.lookup podInfo.pod).isSome
      || s.unambiguous podInfo.namespace podInfo.pod) = true)
    : CachesInv host (s.getNetDevicesList host criOk (some podInfo)).1 := by
  rcases getNetDevicesList_cases host s criOk podInfo with
    ⟨_, hlookup, heq⟩ | ⟨hnone, t, ht, h⟩
  . rw [heq]
    refine hinv.of_caches rfl (fun _ _ h => .inl h) fun name netDevices h => .inl ?_
    rwa [LRU.lookup_get] at h
  . rw [hnone, Option.isSome_none, Bool.false_or] at hun
    have hinvt := hinv.looksUpPid hun ht
    rcases h with heq | ⟨pid, read, hget, hread, heq⟩
    . rw [heq]
      exact hinvt
    . rw [heq]
      refine hinvt.of_caches rfl (fun _ _ h => .inl h) fun name netDevices h => ?_
      rcases LRU.lookup_add_eq_some h with ⟨rfl, rfl⟩ | hold
      . -- the process whose namespace was read is the one of every running pod of the name
        refine .inr fun ns inst hinst => ?_
        rw [ht.running] at hinst
        have hpid : pid = inst.pid := by
          rcases podnameToPidCacheGet_eq_some hget with hlookup | ⟨hnone, inst', hinst', rfl⟩
          . exact hinv.pidCache ns podInfo.pod pid inst hlookup hinst
          . rw [eq_of_unambiguous hun hnone hinst' hinst]
        rwa [hpid, hinv.netnsExec hinst] at hread
      . exact .inl hold

theorem CachesInv.create {ns podName : String} {inst : PodInstance} (hinv : CachesInv host s)
    (hfresh : ∀ e ∈ s.running.entries, e.2.pid ≠ inst.pid)
    (hpid : s.podnameToPidCache.lookup podName = none)
    (hnetDevices : s.podnameToNetDeviceCache.lookup podName = none)
    : CachesInv host { s with running := s.running.insert (ns, podName) inst } := by
  have hfresh' {key : String × String} {inst' : PodInstance}
      (h : s.running.lookup key = some inst') : inst'.pid ≠ inst.pid :=
    hfresh ⟨key, inst'⟩ (AList.mem_lookup_iff.mp h)
  refine ⟨?_, ?_, ?_⟩
  . intro ns₁ ns₂ name₁ name₂ inst₁ inst₂ h₁ h₂ heq
    rw [GoMap.lookup_insert_eq_ite] at h₁ h₂
    split at h₁ <;> split at h₂
    . exact (Option.some.inj h₁).symm.trans (Option.some.inj h₂)
    . cases h₁
      exact absurd heq.symm (hfresh' h₂)
    . cases h₂
      exact absurd heq (hfresh' h₁)
    . exact hinv.pids ns₁ ns₂ name₁ name₂ inst₁ inst₂ h₁ h₂ heq
  . intro ns' name pid inst' hlookup hinst'
    rw [GoMap.lookup_insert_eq_ite] at hinst'
    split at hinst'
    . next hkey =>
      cases hkey
      rw [hpid] at hlookup
      cases hlookup
    . exact hinv.pidCache ns' name pid inst' hlookup hinst'
  . intro ns' name netDevices inst' hlookup hinst'
    rw [GoMap.lookup_insert_eq_ite] at hinst'
    split at hinst'
    . next hkey =>
      cases hkey
      rw [hnetDevices] at hlookup
      cases hlookup
    . exact hinv.netDeviceCache ns' name netDevices inst' hlookup hinst'

theorem CachesInv.delete (hinv : CachesInv host s) (ns podName : String)
    : CachesInv host { s with running := s.running.erase (ns, podName) } := by
  have hsub {key : String × String} {inst : PodInstance}
      (h : (s.running.erase (ns, podName)).lookup key = some inst)
      : s.running.lookup key = some inst := by
    rw [GoMap.lookup_erase_eq_ite] at h
    split at h
    . cases h
    . exact h
  refine ⟨?_, ?_, ?_⟩
  . intro ns₁ ns₂ name₁ name₂ inst₁ inst₂ h₁ h₂
    exact hinv.pids ns₁ ns₂ name₁ name₂ inst₁ inst₂ (hsub h₁) (hsub h₂)
  . intro ns' name pid inst hlookup hinst
    exact hinv.pidCache ns' name pid inst hlookup (hsub hinst)
  . intro ns' name netDevices inst hlookup hinst
    exact hinv.netDeviceCache ns' name netDevices inst hlookup (hsub hinst)

theorem CachesInv.step {a : NICAction} (hinv : CachesInv host s) (hok : WellNamed s a = true)
    (hstep : (nicSystem host).step s a = some s') : CachesInv host s' := by
  cases a with
  | create ns podName inst =>
    simp only [nicSystem, NICNode.step] at hstep
    split at hstep
    . next hguard =>
      cases hstep
      simp only [WellNamed, Bool.and_eq_true, Option.isNone_iff_eq_none] at hok
      rw [Bool.and_eq_true, List.all_eq_true] at hguard
      exact hinv.create (fun e he => by simpa using hguard.2 e he) hok.1 hok.2
    . cases hstep
  | delete ns podName =>
    cases hstep
    exact hinv.delete ns podName
  | addPodPidIfAbsent criOk podName ns =>
    cases hstep
    exact hinv.looksUpPid hok (addPodPidIfAbsent_looksUpPid s criOk podName ns)
  | podnameToPidCacheGet criOk podInfo =>
    cases hstep
    cases podInfo with
    | none => exact hinv
    | some podInfo => exact hinv.looksUpPid hok (podnameToPidCacheGet_looksUpPid s criOk podInfo)
  | getNetDevicesList criOk podInfo =>
    cases hstep
    cases podInfo with
    | none => exact hinv
    | some podInfo => exact hinv.getNetDevicesList criOk podInfo hok

theorem cachesInv_newNICNode (host : Host) : CachesInv host newNICNode where
  pids _ _ _ _ _ _ h := by cases h
  pidCache _ _ _ _ h := by cases h
  netDeviceCache _ _ _ _ h := by cases h

/--
In every state of a run that meets `WellNamed` both caches answer for the right pod.
-/
theorem answers_of_wellNamed (host : Host) (as : List NICAction) (s : NICNode)
    (hok : (nicSystem host).Respects (fun s a => WellNamed s a = true) as newNICNode)
    (hexec : (nicSystem host).exec as newNICNode = some s) : Answers host s := by
  have hinv : CachesInv host s := by
    refine (nicSystem host).exec_invariant ?_ as newNICNode s (cachesInv_newNICNode host) hok hexec
    intro s a s' hinv hok hstep
    exact hinv.step hok hstep
  exact hinv.answers

end Calls

section Instances

def quietHost : Host where
  run _ := none
  nonAMDMetricsEnabled := false

def podInstance (pid : Int) : PodInstance where
  pid := pid
  netns cmd := if cmd = showRdmaDevicesCmd then some "" else none

def podNamed («namespace» pod : String) : PodResourceInfo where
  pod := pod
  «namespace» := «namespace»
  container := "c"

def recreation : List NICAction :=
  [.create "a" "p" (podInstance 1), .delete "a" "p", .create "a" "p" (podInstance 2),
    .getNetDevicesList true (some (podNamed "a" "p"))]

theorem answers_of_wellNamed_recreation
    : ∃ s, (@nicSystem CaseMap.ascii quietHost).exec recreation newNICNode = some s
        ∧ s.podnameToPidCache.lookup "p" = some 2 ∧ @Answers CaseMap.ascii quietHost s :=
  ⟨_, rfl, by decide +kernel,
    @answers_of_wellNamed CaseMap.ascii quietHost recreation _ (by decide +kernel) rfl⟩

theorem not_answers
    : ¬∀ [CaseMap] (host : Host) (as : List NICAction) (s : NICNode),
        (nicSystem host).exec as newNICNode = some s → Answers host s := by
  -- the pid of `a/p` is cached under the name that `b/p` has too
  intro h
  have hanswers := @h CaseMap.ascii quietHost
    [.create "a" "p" (podInstance 1), .create "b" "p" (podInstance 2),
      .addPodPidIfAbsent true "p" "a"] _ rfl
  have hpid := @Answers.pid CaseMap.ascii _ _ hanswers true (podNamed "b" "p") (podInstance 2) 1
    rfl rfl
  revert hpid
  decide

end Instances

end NICAgent
