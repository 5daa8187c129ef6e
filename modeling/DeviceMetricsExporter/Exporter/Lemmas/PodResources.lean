import DeviceMetricsExporter.Exporter.Impl.PodResources

/-!
This module contains what the map of the allocated devices holds, and when it does not depend on the
order in which the kubelet lists pods and containers.
-/

namespace Exporter

namespace PodResourcesClient

section Allocations

structure Container where
  pod : String
  «namespace» : String
  resources : ContainerResources

def Container.workload (c : Container) : Workload :=
  .kubernetes
    { pod := c.pod
      «namespace» := c.namespace
      container := c.resources.name }

def containersOfPod (pod : PodResources) : List Container :=
  pod.containers.map fun container => ⟨pod.name, pod.namespace, container⟩

def containersOf (podResources : List PodResources) : List Container :=
  podResources.flatMap containersOfPod

def Container.amdDevices (c : Container) : List ContainerDevices :=
  c.resources.devices.filter ContainerDevices.isAMD

def Container.amdClaims (c : Container) : List ClaimResource :=
  (c.resources.dynamicResources.flatMap (·.claimResources)).filter ClaimResource.isAMD

/--
The modes of the AMD allocations of a container in the order in which they are met. An entry of the device
plugin is one even if it has no device.
-/
def Container.modes (c : Container) : List Mode :=
  c.amdDevices.map (fun _ => .plugin) ++ c.amdClaims.map fun _ => .dra

variable [CaseMap]

def Container.ids (c : Container) : Mode → List String
  | .unlocked => []
  | .plugin => c.amdDevices.flatMap fun devs => devs.deviceIds.map toLower
  | .dra => c.amdClaims.map fun claim => toLower claim.deviceName

end Allocations

section Listing

variable [CaseMap]

theorem foldl_listDevices (wl : Workload) (l : Listing) (devices : List ContainerDevices)
    : devices.foldl (listDevices wl) l
        = if devices.filter ContainerDevices.isAMD = [] then
            l
          else
            { mode := .plugin
              podInfo := l.podInfo.setAll ((devices.filter ContainerDevices.isAMD).flatMap
                fun devs => devs.deviceIds.map toLower) wl } := by
  induction devices generalizing l with
  | nil => rfl
  | cons devs devices ih =>
    rw [List.foldl_cons, ih, listDevices]
    by_cases hamd : devs.isAMD
    . rw [if_pos hamd, List.filter_cons_of_pos hamd, List.flatMap_cons, GoMap.setAll_append]
      split
      . next hnil =>
        rw [hnil]
        rfl
      . rfl
    . rw [if_neg hamd, List.filter_cons_of_neg hamd]

theorem foldl_listClaim (wl : Workload) (l : Listing) (claims : List ClaimResource)
    : claims.foldl (listClaim wl) l
        = if claims.filter ClaimResource.isAMD = [] then
            l
          else
            { mode := .dra
              podInfo := l.podInfo.setAll ((claims.filter ClaimResource.isAMD).map
                fun claim => toLower claim.deviceName) wl } := by
  induction claims generalizing l with
  | nil => rfl
  | cons claim claims ih =>
    rw [List.foldl_cons, ih, listClaim]
    by_cases hamd : claim.isAMD
    . rw [if_pos hamd, List.filter_cons_of_pos hamd, List.map_cons]
      split
      . next hnil =>
        rw [hnil]
        rfl
      . rfl
    . rw [if_neg hamd, List.filter_cons_of_neg hamd]

def Listing.set (l : Listing) (mode : Mode) (c : Container) : Listing where
  mode := mode
  podInfo := l.podInfo.setAll (c.ids mode) c.workload

theorem listPluginDevices_eq (l : Listing) (c : Container)
    : c.resources.devices.foldl (listDevices c.workload) l
        = if c.amdDevices = [] then l else l.set .plugin c :=
  foldl_listDevices c.workload l c.resources.devices

theorem listClaims_eq (l : Listing) (c : Container)
    : c.resources.dynamicResources.foldl (fun l dyn => dyn.claimResources.foldl (listClaim c.workload) l) l
        = if c.amdClaims = [] then l else l.set .dra c := by
  rw [← List.foldl_flatMap]
  apply foldl_listClaim

theorem set_of_ids_eq_nil {l : Listing} {c : Container} {mode : Mode} (hmode : l.mode = mode)
    (hids : c.ids mode = []) : l.set mode c = l := by
  rw [Listing.set, hids, ← hmode]
  rfl

/--
The first allocation that is met locks the mode, in a locked mode nothing else is examined.
-/
def Listing.add (l : Listing) (c : Container) : Listing :=
  if l.mode = .unlocked then
    match c.modes.head? with
    | none => l
    | some mode => l.set mode c
  else
    l.set l.mode c

theorem listContainer_eq_add (pod : PodResources) (l : Listing) (container : ContainerResources)
    : listContainer pod l container = l.add ⟨pod.name, pod.namespace, container⟩ := by
  generalize hc : (⟨pod.name, pod.namespace, container⟩ : Container) = c
  have hunfold : listContainer pod l container
      = (let l := if l.mode ≠ .dra then c.resources.devices.foldl (listDevices c.workload) l else l
        if l.mode ≠ .plugin then
          c.resources.dynamicResources.foldl
            (fun l dyn => dyn.claimResources.foldl (listClaim c.workload) l) l
        else l) := by
    subst hc
    rfl
  rw [hunfold, listPluginDevices_eq, Listing.add]
  simp only [listClaims_eq]
  cases hmode : l.mode with
  | plugin =>
    by_cases hdevices : c.amdDevices = []
    . have hids : c.ids .plugin = [] := by simp [Container.ids, hdevices]
      simp [hdevices, hmode, set_of_ids_eq_nil hmode hids]
    . simp [hdevices, Listing.set]
  | dra =>
    by_cases hclaims : c.amdClaims = []
    . have hids : c.ids .dra = [] := by simp [Container.ids, hclaims]
      simp [hclaims, hmode, set_of_ids_eq_nil hmode hids]
    . simp [hclaims, hmode, Listing.set]
  | unlocked =>
    cases hdevices : c.amdDevices with
    | cons devs devices => simp [Container.modes, hdevices, Listing.set]
    | nil =>
      cases hclaims : c.amdClaims with
      | cons claim claims => simp [Container.modes, hdevices, hclaims, hmode]
      | nil => simp [Container.modes, hdevices, hclaims, hmode]

theorem foldl_add_locked {mode : Mode} (hmode : mode ≠ .unlocked)
    (podInfo : GoMap String Workload) (cs : List Container)
    : cs.foldl Listing.add ⟨mode, podInfo⟩
        = ⟨mode, cs.foldl (fun m c => m.setAll (c.ids mode) c.workload) podInfo⟩ := by
  induction cs generalizing podInfo with
  | nil => rfl
  | cons c cs ih =>
    rw [List.foldl_cons, List.foldl_cons, Listing.add, if_neg hmode]
    apply ih

/--
The mode of the first AMD allocation that is met, in the order of the list.
-/
def firstMode (cs : List Container) : Mode :=
  (cs.flatMap Container.modes).head?.getD .unlocked

omit [CaseMap] in
theorem ne_unlocked_of_mem {c : Container} {mode : Mode} (h : mode ∈ c.modes) : mode ≠ .unlocked := by
  rcases List.mem_append.mp h with h | h
  . rcases List.mem_map.mp h with ⟨devs, -, rfl⟩
    decide
  . rcases List.mem_map.mp h with ⟨claim, -, rfl⟩
    decide

theorem ids_eq_nil {c : Container} {mode : Mode} (h : mode ∉ c.modes) : c.ids mode = [] := by
  cases mode with
  | unlocked => rfl
  | plugin =>
    cases hdevices : c.amdDevices with
    | nil => simp [Container.ids, hdevices]
    | cons devs devices => simp [Container.modes, hdevices] at h
  | dra =>
    cases hclaims : c.amdClaims with
    | nil => simp [Container.ids, hclaims]
    | cons claim claims => simp [Container.modes, hclaims] at h

theorem foldl_add_unlocked (podInfo : GoMap String Workload) (cs : List Container)
    : (cs.foldl Listing.add ⟨.unlocked, podInfo⟩).podInfo
        = cs.foldl (fun m c => m.setAll (c.ids (firstMode cs)) c.workload) podInfo := by
  induction cs generalizing podInfo with
  | nil => rfl
  | cons c cs ih =>
    rw [List.foldl_cons, List.foldl_cons, Listing.add, if_pos rfl]
    cases hmodes : c.modes with
    | nil =>
      have hids : c.ids (firstMode (c :: cs)) = [] := ids_eq_nil (by simp [hmodes])
      have hfirst : firstMode (c :: cs) = firstMode cs := by simp [firstMode, hmodes]
      rw [hids, hfirst]
      apply ih
    | cons mode modes =>
      have hfirst : firstMode (c :: cs) = mode := by simp [firstMode, hmodes]
      have hmode : mode ≠ .unlocked := ne_unlocked_of_mem (hmodes ▸ List.mem_cons_self)
      rw [hfirst]
      exact congrArg Listing.podInfo (foldl_add_locked hmode _ cs)

theorem listPods_eq (podResources : List PodResources)
    : listPods podResources
        = (containersOf podResources).foldl
          (fun m c => m.setAll (c.ids (firstMode (containersOf podResources))) c.workload) ∅ := by
  have hpods : listPods podResources
      = ((containersOf podResources).foldl Listing.add {}).podInfo := by
    have hcontainers (l : Listing) (pod : PodResources)
        : pod.containers.foldl (listContainer pod) l = (containersOfPod pod).foldl Listing.add l := by
      rw [containersOfPod, List.foldl_map]
      congr 1
      funext l container
      apply listContainer_eq_add
    simp only [listPods, hcontainers, containersOf, List.foldl_flatMap]
  rw [hpods]
  apply foldl_add_unlocked

end Listing

section Holders

variable [CaseMap]

/--
The last container in the order of the list that holds a device in the given mode.
-/
def lastHolder (mode : Mode) (cs : List Container) (k : String) : Option Container :=
  (cs.filter fun c => k ∈ c.ids mode).getLast?

def Held (mode : Mode) (cs : List Container) (k : String) : Prop :=
  ∃ c ∈ cs, k ∈ c.ids mode

theorem lastHolder_isSome {mode : Mode} {cs : List Container} {k : String}
    : (lastHolder mode cs k).isSome ↔ Held mode cs k := by
  rw [Option.isSome_iff_ne_none, lastHolder, ne_eq, List.getLast?_eq_none_iff, List.filter_eq_nil_iff]
  simp [Held]

theorem lookup_listPods (podResources : List PodResources) (k : String)
    : (listPods podResources).lookup k
        = (lastHolder (firstMode (containersOf podResources)) (containersOf podResources) k).map
          Container.workload := by
  rw [listPods_eq, GoMap.lookup_foldl_setAll, AList.lookup_empty, Option.or_none]
  rfl

theorem mem_listPods {podResources : List PodResources} {k : String}
    : k ∈ listPods podResources
        ↔ Held (firstMode (containersOf podResources)) (containersOf podResources) k := by
  rw [← AList.lookup_isSome, lookup_listPods, Option.isSome_map, lastHolder_isSome]

/--
All AMD allocations use the same mode, the device plugin or DRA.
-/
def AllIn (mode : Mode) (cs : List Container) : Prop :=
  ∀ c ∈ cs, ∀ mode' ∈ c.modes, mode' = mode

def Unshared (mode : Mode) (cs : List Container) : Prop :=
  cs.Pairwise fun c c' => ∀ k ∈ c.ids mode, k ∉ c'.ids mode

theorem AllIn.ids_firstMode {mode : Mode} {cs : List Container} (h : AllIn mode cs) {c : Container}
    (hc : c ∈ cs) : c.ids (firstMode cs) = c.ids mode := by
  cases hmodes : cs.flatMap Container.modes with
  | nil =>
    have hnone (mode' : Mode) : mode' ∉ c.modes := by
      rw [List.flatMap_eq_nil_iff.mp hmodes c hc]
      apply List.not_mem_nil
    rw [ids_eq_nil (hnone _), ids_eq_nil (hnone _)]
  | cons first modes =>
    have hfirst : firstMode cs = first := by simp [firstMode, hmodes]
    rcases List.mem_flatMap.mp (hmodes ▸ List.mem_cons_self) with ⟨c', hc', hmem⟩
    rw [hfirst, h c' hc' first hmem]

theorem AllIn.lastHolder_firstMode {mode : Mode} {cs : List Container} (h : AllIn mode cs) (k : String)
    : lastHolder (firstMode cs) cs k = lastHolder mode cs k := by
  rw [lastHolder, lastHolder]
  congr 1
  apply List.filter_congr
  intro c hc
  rw [h.ids_firstMode hc]

theorem Unshared.filter_eq {mode : Mode} {cs : List Container} (h : Unshared mode cs) (k : String)
    : (cs.filter fun c => k ∈ c.ids mode) = [] ∨ ∃ c, (cs.filter fun c => k ∈ c.ids mode) = [c] := by
  have hpairwise := h.filter fun c => decide (k ∈ c.ids mode)
  cases hcs : cs.filter fun c => k ∈ c.ids mode with
  | nil => exact Or.inl rfl
  | cons c rest =>
    cases rest with
    | nil => exact Or.inr ⟨c, rfl⟩
    | cons c' rest =>
      have hmem : ∀ c'' ∈ c :: c' :: rest, k ∈ c''.ids mode := by
        intro c'' hc''
        rw [← hcs, List.mem_filter] at hc''
        simpa using hc''.2
      rw [hcs, List.pairwise_cons] at hpairwise
      exact absurd (hmem c' (by simp)) (hpairwise.1 c' (by simp) k (hmem c (by simp)))

theorem Unshared.lastHolder_eq {mode : Mode} {cs cs' : List Container} (h : Unshared mode cs)
    (hperm : cs.Perm cs') (k : String) : lastHolder mode cs k = lastHolder mode cs' k := by
  have hfilter := hperm.filter fun c => decide (k ∈ c.ids mode)
  rw [lastHolder, lastHolder]
  rcases h.filter_eq k with hnil | ⟨c, hone⟩
  . rw [hnil, List.nil_perm] at hfilter
    rw [hnil, hfilter]
  . rw [hone, List.singleton_perm] at hfilter
    rw [hone, ← hfilter]

/--
The same pods with the same containers, both listed in another order.
-/
inductive Reordered : List PodResources → List PodResources → Prop where
  | pods {pods pods' : List PodResources} (h : pods.Perm pods') : Reordered pods pods'
  | containers (before after : List PodResources) (name : String) («namespace» : String)
      {containers containers' : List ContainerResources} (h : containers.Perm containers')
      : Reordered (before ++ ⟨name, «namespace», containers⟩ :: after)
        (before ++ ⟨name, «namespace», containers'⟩ :: after)
  | trans {pods pods' pods'' : List PodResources} (h : Reordered pods pods')
      (h' : Reordered pods' pods'') : Reordered pods pods''

omit [CaseMap] in
theorem Reordered.perm {pods pods' : List PodResources} (h : Reordered pods pods')
    : (containersOf pods).Perm (containersOf pods') := by
  induction h with
  | pods h => exact h.flatMap_right _
  | containers before after name «namespace» h =>
    simp only [containersOf, List.flatMap_append, List.flatMap_cons]
    exact (List.Perm.refl _).append ((h.map _).append (List.Perm.refl _))
  | trans _ _ ih ih' => exact ih.trans ih'

end Holders

section Instances

variable [CaseMap]

/--
The kubelet lists these pods, maybe only after the connection has been made again.
-/
def Kubelet.Lists (kubelet : Kubelet) (pods : List PodResources) : Prop :=
  kubelet.list = .ok pods ∨
    (∃ err, kubelet.list = .error err ∧ isConnectionError err = true) ∧ kubelet.reconnect = .ok ()
      ∧ kubelet.retry = .ok pods

omit [CaseMap] in
theorem Kubelet.Lists.podResources_eq {kubelet : Kubelet} {pods : List PodResources}
    (h : kubelet.Lists pods) : podResources kubelet = .ok pods := by
  rw [podResources]
  rcases h with hlist | ⟨⟨err, hlist, hconnection⟩, hreconnect, hretry⟩
  . rw [hlist]
  . simp [hlist, hconnection, hreconnect, hretry]

/--
What the client makes of the pods the kubelet lists: in one mode each device is mapped to its last
holder whatever the order if it has one holder only, and a mixed list has the devices of the mode that
is met first.
-/
structure AllocationMap (pods : List PodResources) (podInfo : GoMap String Workload) : Prop where
  mem_iff : ∀ mode, AllIn mode (containersOf pods) → ∀ k,
    k ∈ podInfo ↔ Held mode (containersOf pods) k
  last : ∀ mode, AllIn mode (containersOf pods) → ∀ k c,
    lastHolder mode (containersOf pods) k = some c →
      podInfo.lookup k = some (.kubernetes
        { pod := c.pod
          «namespace» := c.namespace
          container := c.resources.name })
  reordered : ∀ mode, AllIn mode (containersOf pods) → Unshared mode (containersOf pods) →
    ∀ pods', Reordered pods pods' → ∀ kubelet : Kubelet, kubelet.Lists pods' →
      ∃ podInfo', listWorkloads kubelet = .ok podInfo' ∧ ∀ k, podInfo'.lookup k = podInfo.lookup k
  mixed : ∀ mode modes, (containersOf pods).flatMap Container.modes = mode :: modes → ∀ k,
    k ∈ podInfo ↔ Held mode (containersOf pods) k

omit [CaseMap] in
theorem AllIn.perm {mode : Mode} {cs cs' : List Container} (h : AllIn mode cs) (hperm : cs.Perm cs')
    : AllIn mode cs' := by
  intro c hc
  exact h c (hperm.mem_iff.mpr hc)

theorem AllIn.lookup_listPods {mode : Mode} {pods : List PodResources}
    (h : AllIn mode (containersOf pods)) (k : String)
    : (listPods pods).lookup k
        = (lastHolder mode (containersOf pods) k).map Container.workload := by
  rw [PodResourcesClient.lookup_listPods, h.lastHolder_firstMode]

theorem Kubelet.Lists.listWorkloads_eq {kubelet : Kubelet} {pods : List PodResources}
    (h : kubelet.Lists pods) : listWorkloads kubelet = .ok (listPods pods) := by
  rw [listWorkloads, h.podResources_eq]
  rfl

theorem listPods_allocationMap (pods : List PodResources) : AllocationMap pods (listPods pods) where
  mem_iff mode hmode k := by
    rw [← AList.lookup_isSome, hmode.lookup_listPods, Option.isSome_map, lastHolder_isSome]
  last mode hmode k c hlast := by
    rw [hmode.lookup_listPods, hlast]
    rfl
  reordered mode hmode hunshared pods' hreordered kubelet hlists := by
    refine ⟨listPods pods', hlists.listWorkloads_eq, fun k => ?_⟩
    have hperm := hreordered.perm
    rw [hmode.lookup_listPods, (hmode.perm hperm).lookup_listPods, hunshared.lastHolder_eq hperm]
  mixed mode modes hmodes k := by
    have hfirst : firstMode (containersOf pods) = mode := by simp [firstMode, hmodes]
    rw [mem_listPods, hfirst]

theorem listWorkloads_allocationMap {kubelet : Kubelet} {pods : List PodResources}
    (h : kubelet.Lists pods)
    : ∃ podInfo, listWorkloads kubelet = .ok podInfo ∧ AllocationMap pods podInfo :=
  ⟨listPods pods, h.listWorkloads_eq, listPods_allocationMap pods⟩

end Instances

section Examples

def pluginContainer (name : String) (deviceIds : List String) : ContainerResources where
  name := name
  devices := [⟨"amd.com/gpu", deviceIds⟩]
  dynamicResources := []

def draContainer (name : String) (deviceName : String) : ContainerResources where
  name := name
  devices := []
  dynamicResources := [⟨[⟨"gpu.amd.com", deviceName⟩]⟩]

def pluginPods : List PodResources :=
  [⟨"train", "ml", [pluginContainer "worker" ["0000:05:00.0", "0000:06:00.0"]]⟩,
    ⟨"infer", "web", [pluginContainer "model" ["0000:65:00.0"]]⟩]

def pluginKubelet : Kubelet where
  list := .error "connection refused"
  reconnect := .ok ()
  retry := .ok pluginPods

theorem listWorkloads_allocationMap_pluginPods
    : (∃ podInfo, @listWorkloads CaseMap.ascii pluginKubelet = .ok podInfo
        ∧ @AllocationMap CaseMap.ascii pluginPods podInfo)
      ∧ AllIn .plugin (containersOf pluginPods)
      ∧ @Unshared CaseMap.ascii .plugin (containersOf pluginPods)
      ∧ Reordered pluginPods pluginPods.reverse := by
  let _ := CaseMap.ascii
  refine ⟨?_, ?_, ?_, .pods (List.reverse_perm _).symm⟩
  . exact listWorkloads_allocationMap (.inr ⟨⟨_, rfl, by decide +kernel⟩, rfl, rfl⟩)
  . unfold AllIn
    decide
  . unfold Unshared
    decide +kernel

def emptyEntryPods : List PodResources :=
  [⟨"idle", "ml", [pluginContainer "worker" []]⟩, ⟨"infer", "web", [draContainer "model" "gpu-0"]⟩]

/--
An entry of the device plugin without a device locks the mode, so that the device of the claim is missing.
-/
theorem not_allocationMap_of_devices
    : ¬∀ (_ : CaseMap) (kubelet : Kubelet) (pods : List PodResources) (podInfo : GoMap String Workload),
        kubelet.Lists pods → listWorkloads kubelet = .ok podInfo →
        ∀ mode, (∀ c ∈ containersOf pods, ∀ mode', mode' ≠ mode → c.ids mode' = []) →
        ∀ k, k ∈ podInfo ↔ Held mode (containersOf pods) k := by
  intro h
  let _ := CaseMap.ascii
  have hids : ∀ c ∈ containersOf emptyEntryPods, ∀ mode', mode' ≠ .dra → c.ids mode' = [] := by
    intro c hc mode' hne
    cases mode' with
    | unlocked => rfl
    | plugin =>
      revert c
      decide
    | dra => exact absurd rfl hne
  have hmem := h CaseMap.ascii ⟨.ok emptyEntryPods, .ok (), .ok []⟩ emptyEntryPods ∅ (.inl rfl) rfl .dra
    hids "gpu-0"
  have hheld : Held .dra (containersOf emptyEntryPods) "gpu-0" := by
    unfold Held
    decide +kernel
  exact absurd (hmem.mpr hheld) (AList.notMem_empty _)

end Examples

end PodResourcesClient

end Exporter
