import Whereabouts.Api.Types
/-!
# The live-pod index

`wrappedPod.go` turns the pod listing into the index the reconciler classifies
reservations against: for every pod reference that some pool reservation uses, the last
listed pod of that reference that is not being evicted, with the IPs its network-status
annotation lists on non-default networks.

The lemmas here say what one lookup in the index returns, so that the reconciler's
proofs never unfold the fold that builds it:

* `indexPods_of_not_mem` — a reference no reservation uses is never indexed;
* `indexPods_congr`      — the entry of a reference depends on the set of used references
  only through membership;
* `indexPods_of_mem`     — in a listing with one pod per reference, a used reference of a
  pod that is not being evicted is indexed to that pod;
* `indexPods_eq_map_getLast` — in any listing, a used reference is indexed to the last
  listed pod of that reference that is not being evicted.
-/

namespace Whereabouts.Reconciler

open Whereabouts.Api

/-- `podWrapper`: the IPs a pod lists and its phase. -/
structure PodWrapper where
  ips : List String
  phase : PodPhase
deriving DecidableEq, Repr

/-- A Go `map[string]podWrapper`. -/
abbrev PodMap := String → Option PodWrapper

/-- `podMap[podRef] = pod`. -/
def PodMap.insert (podMap : PodMap) (podRef : String) (pod : PodWrapper) : PodMap :=
  fun k => if k = podRef then some pod else podMap k

/-- `getFlatIPSet`: the IPs listed on non-default networks, or `none` when the annotation
does not parse. -/
def getFlatIPSet (pod : Pod) : Option (List String) :=
  pod.networkStatus.map fun networkStatusList =>
    (networkStatusList.filter fun network => !network.default).flatMap (·.ips)

/-- `wrapPod`: a pod whose annotation does not parse lists no IP. -/
def wrapPod (pod : Pod) : PodWrapper :=
  { ips := (getFlatIPSet pod).getD [], phase := pod.phase }

/-- `getPodRefsServedByWhereabouts`: every pod reference of every reservation. -/
def getPodRefsServedByWhereabouts (ipPools : List IPPool) : List String :=
  ipPools.flatMap fun pool => pool.allocations.map (·.podRef)

/-- `isPodMarkedForDeletion`: the pod is being evicted by the taint manager. -/
def isPodMarkedForDeletion (conditions : List PodCondition) : Bool :=
  conditions.any fun c =>
    c.type = "DisruptionTarget" && c.status = "True" && c.reason = "DeletionByTaintManager"

/-- One iteration of the loop of `indexPods`. -/
def indexPod (whereaboutsPodNames : List String) (podMap : PodMap) (pod : Pod) : PodMap :=
  if composePodRef pod ∈ whereaboutsPodNames ∧ !isPodMarkedForDeletion pod.conditions then
    podMap.insert (composePodRef pod) (wrapPod pod)
  else podMap

/-- `indexPods`. -/
def indexPods (livePodList : List Pod) (whereaboutsPodNames : List String) : PodMap :=
  livePodList.foldl (indexPod whereaboutsPodNames) fun _ => none

/-- `isIpOnPod`: the pod lists `ip`. -/
def isIpOnPod (livePod : PodWrapper) (ip : String) : Bool := decide (ip ∈ livePod.ips)

@[simp] theorem mem_getPodRefsServedByWhereabouts {ipPools : List IPPool} {podRef : String} :
    podRef ∈ getPodRefsServedByWhereabouts ipPools ↔
      ∃ pool ∈ ipPools, ∃ r ∈ pool.allocations, r.podRef = podRef := by
  simp [getPodRefsServedByWhereabouts]

theorem mem_wrapPod_ips_iff {pod : Pod} {ip : String} :
    ip ∈ (wrapPod pod).ips ↔ ∃ networks, pod.networkStatus = some networks ∧
      ∃ network ∈ networks, network.default = false ∧ ip ∈ network.ips := by
  rcases h : pod.networkStatus with _ | networks <;> simp [wrapPod, getFlatIPSet, h, and_assoc]

/-! ## Lookups in the index -/

section Lookup

variable {names names' : List String} {k : String}

theorem indexPod_apply_of_ne {podMap : PodMap} {pod : Pod} (hk : composePodRef pod ≠ k) :
    indexPod names podMap pod k = podMap k := by
  unfold indexPod
  split <;> simp [PodMap.insert, Ne.symm hk]

theorem foldl_indexPod_of_forall_ne {podMap : PodMap} {pods : List Pod}
    (hk : ∀ pod ∈ pods, composePodRef pod ≠ k) :
    pods.foldl (indexPod names) podMap k = podMap k := by
  induction pods generalizing podMap with
  | nil => rfl
  | cons pod pods ih =>
      simp only [List.mem_cons, forall_eq_or_imp] at hk
      rw [List.foldl_cons, ih hk.2, indexPod_apply_of_ne hk.1]

theorem foldl_indexPod_congr {podMap podMap' : PodMap} {pods : List Pod}
    (hk : k ∈ names) (hk' : k ∈ names') (hstart : podMap k = podMap' k) :
    pods.foldl (indexPod names) podMap k = pods.foldl (indexPod names') podMap' k := by
  induction pods generalizing podMap podMap' with
  | nil => exact hstart
  | cons pod pods ih =>
      apply ih
      by_cases hpod : composePodRef pod = k
      · subst hpod
        by_cases hlive : isPodMarkedForDeletion pod.conditions <;>
          simp [indexPod, PodMap.insert, hk, hk', hlive, hstart]
      · rw [indexPod_apply_of_ne hpod, indexPod_apply_of_ne hpod, hstart]

theorem indexPods_of_not_mem {pods : List Pod} (hk : k ∉ names) : indexPods pods names k = none := by
  suffices ∀ podMap : PodMap, podMap k = none → pods.foldl (indexPod names) podMap k = none from
    this _ rfl
  induction pods with
  | nil => exact fun _ h => h
  | cons pod pods ih =>
      intro podMap h
      apply ih
      by_cases hpod : composePodRef pod = k
      · subst hpod; simp [indexPod, hk, h]
      · rw [indexPod_apply_of_ne hpod, h]

theorem indexPods_of_forall_marked {pods : List Pod}
    (hmarked : ∀ pod ∈ pods, composePodRef pod = k → isPodMarkedForDeletion pod.conditions = true) :
    indexPods pods names k = none := by
  suffices ∀ podMap : PodMap, podMap k = none → pods.foldl (indexPod names) podMap k = none from
    this _ rfl
  induction pods with
  | nil => exact fun _ h => h
  | cons pod pods ih =>
      intro podMap h
      simp only [List.mem_cons, forall_eq_or_imp] at hmarked
      apply ih hmarked.2
      by_cases hpod : composePodRef pod = k
      · subst hpod; simp [indexPod, hmarked.1 rfl, h]
      · rw [indexPod_apply_of_ne hpod, h]

theorem indexPods_congr (pods : List Pod) (hk : k ∈ names) (hk' : k ∈ names') :
    indexPods pods names k = indexPods pods names' k :=
  foldl_indexPod_congr hk hk' rfl

theorem indexPods_of_mem {pods : List Pod} {pod : Pod}
    (hnodup : (pods.map composePodRef).Nodup) (hpod : pod ∈ pods)
    (hname : composePodRef pod ∈ names) (hlive : isPodMarkedForDeletion pod.conditions = false) :
    indexPods pods names (composePodRef pod) = some (wrapPod pod) := by
  suffices ∀ podMap : PodMap, pods.foldl (indexPod names) podMap (composePodRef pod) =
      some (wrapPod pod) from this _
  induction pods with
  | nil => simp at hpod
  | cons p pods ih =>
      intro podMap
      simp only [List.map_cons, List.nodup_cons, List.mem_map] at hnodup
      rw [List.foldl_cons]
      rcases List.mem_cons.mp hpod with rfl | hmem
      · rw [foldl_indexPod_of_forall_ne fun q hq heq => hnodup.1 ⟨q, hq, heq⟩]
        simp [indexPod, PodMap.insert, hname, hlive]
      · exact ih hnodup.2 hmem _

/-- With any number of pods per reference (the map keeps the last write), the index maps
a reference that some reservation uses to the last listed pod of that reference that is not
being evicted, and every other reference to nothing. -/
theorem indexPods_eq_map_getLast (pods : List Pod) (names : List String) (k : String) :
    indexPods pods names k = (pods.filter fun pod => decide (composePodRef pod = k ∧ k ∈ names ∧
      isPodMarkedForDeletion pod.conditions = false)).getLast?.map wrapPod := by
  induction pods using List.reverseRecOn with
  | nil => rfl
  | append_singleton pods pod ih =>
      rw [indexPods, List.foldl_append, ← indexPods, List.foldl_cons, List.foldl_nil,
        List.filter_append]
      by_cases hpod : composePodRef pod = k ∧ k ∈ names ∧
          isPodMarkedForDeletion pod.conditions = false
      · obtain ⟨rfl, hk, hmarked⟩ := hpod
        simp [indexPod, PodMap.insert, hk, hmarked]
      · have hskip : indexPod names (indexPods pods names) pod k = indexPods pods names k := by
          by_cases href : composePodRef pod = k
          · subst href
            have hlive : ¬(composePodRef pod ∈ names ∧ !isPodMarkedForDeletion pod.conditions) := by
              simpa using hpod
            simp only [indexPod, hlive, if_false]
          · exact indexPod_apply_of_ne href
        rw [hskip, ih, List.filter_singleton, decide_eq_false hpod, cond_false, List.append_nil]

theorem mem_of_indexPods_eq_some {pods : List Pod} {livePod : PodWrapper}
    (h : indexPods pods names k = some livePod) : k ∈ names := by
  by_contra hk
  rw [indexPods_of_not_mem hk] at h
  cases h

end Lookup

end Whereabouts.Reconciler
