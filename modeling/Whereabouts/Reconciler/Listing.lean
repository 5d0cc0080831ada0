import Whereabouts.Reconciler.Refinement
/-!
# What a run reads of the pod listing

A run reads the pod listing once, to build the index, and reads the client afterwards only
through its `GetPod`, `Update` and `DeleteOverlappingIP` calls.  So the order in which the
API lists the pods does not matter as long as each pod reference is listed once; with
repeated references the last listed pod wins (`indexPods_eq_map_getLast`), and the order
does matter.

* `reconcileIPs_listPods_perm` — reordering a pod listing with one pod per reference
  changes neither the writes of a run nor its outcome.
-/

namespace Whereabouts.Reconciler

open Whereabouts.Api Whereabouts.Storage List

/-! ## The calls a run makes -/

section Calls

variable (client client' : Client)

theorem findOrphanedIPsPerPool_congr (h : client.getPod = client'.getPod) (live : PodMap) :
    ∀ pools n, findOrphanedIPsPerPool client live pools n =
      findOrphanedIPsPerPool client' live pools n
  | [], _ => rfl
  | pool :: rest, n => by
      have hclassify : classifyReservation client live = classifyReservation client' live := by
        funext x m
        simp only [classifyReservation, refreshPod_congr h]
      simp only [findOrphanedIPsPerPool, hclassify, findOrphanedIPsPerPool_congr h live rest]

theorem findClusterWideIPReservations_congr (h : client.getPod = client'.getPod)
    (live : PodMap) :
    findClusterWideIPReservations client live = findClusterWideIPReservations client' live := by
  unfold findClusterWideIPReservations classifyClusterWideIP
  rw [refreshPod_congr h]

theorem reconcileIPPoolsFrom_congr (h : client.update = client'.update) :
    ∀ updates os, reconcileIPPoolsFrom client updates os = reconcileIPPoolsFrom client' updates os
  | _, [] => rfl
  | updates, o :: rest => by
      simp only [reconcileIPPoolsFrom, h, reconcileIPPoolsFrom_congr h (updates + 1) rest,
        reconcileIPPoolsFrom_congr h updates rest]

theorem deleteClusterWideIPs_congr (h : client.deleteOverlappingIP = client'.deleteOverlappingIP) :
    ∀ i records, deleteClusterWideIPs client i records = deleteClusterWideIPs client' i records
  | _, [] => rfl
  | i, r :: rest => by simp only [deleteClusterWideIPs, h, deleteClusterWideIPs_congr h (i + 1) rest]

end Calls

/-! ## The order of the pod listing -/

theorem indexPods_perm {pods pods' : List Pod} (hperm : pods ~ pods')
    (hunique : (pods.map composePodRef).Nodup) (names : List String) :
    indexPods pods' names = indexPods pods names := by
  have hunique' : (pods'.map composePodRef).Nodup := (hperm.map composePodRef).nodup_iff.mp hunique
  funext k
  by_cases hlive : ∃ pod ∈ pods, composePodRef pod = k ∧
      isPodMarkedForDeletion pod.conditions = false
  · obtain ⟨pod, hpod, rfl, hmarked⟩ := hlive
    by_cases hk : composePodRef pod ∈ names
    · rw [indexPods_of_mem hunique' (hperm.subset hpod) hk hmarked,
        indexPods_of_mem hunique hpod hk hmarked]
    · rw [indexPods_of_not_mem hk, indexPods_of_not_mem hk]
  · have hmarked : ∀ pod ∈ pods, composePodRef pod = k →
        isPodMarkedForDeletion pod.conditions = true := fun pod hpod href =>
      Bool.eq_true_of_not_eq_false fun h => hlive ⟨pod, hpod, href, h⟩
    rw [indexPods_of_forall_marked hmarked,
      indexPods_of_forall_marked fun pod hpod => hmarked pod (hperm.mem_iff.mpr hpod)]

theorem newReconcileLooperWithClient_listPods_perm (client : Client) {pods pods' : List Pod}
    (hpods : client.listPods = .ok pods) (hperm : pods ~ pods')
    (hunique : (pods.map composePodRef).Nodup) :
    newReconcileLooperWithClient { client with listPods := .ok pods' } =
      newReconcileLooperWithClient client := by
  unfold newReconcileLooperWithClient
  simp only [hpods, findOrphanedIPsPerPool_congr { client with listPods := .ok pods' } client rfl,
    findClusterWideIPReservations_congr { client with listPods := .ok pods' } client rfl]
  rcases client.listIPPools with _ | pools <;> rcases client.listOverlappingIPs with _ | records <;>
    simp only [indexPods_perm hperm hunique]

/-- Reordering a pod listing with one pod per reference changes neither the writes of a
run nor what it reports. -/
theorem reconcileIPs_listPods_perm (client : Client) {pods pods' : List Pod}
    (hpods : client.listPods = .ok pods) (hperm : pods ~ pods')
    (hunique : (pods.map composePodRef).Nodup) :
    reconcileIPs { client with listPods := .ok pods' } = reconcileIPs client := by
  unfold reconcileIPs reconcileIPPools reconcileOverlappingIPAddresses
  simp only [newReconcileLooperWithClient_listPods_perm client hpods hperm hunique,
    reconcileIPPoolsFrom_congr { client with listPods := .ok pods' } client rfl,
    deleteClusterWideIPs_congr { client with listPods := .ok pods' } client rfl]

/-- `default/web-1`, Running, with `10.0.0.3` listed on a secondary network. -/
def otherPod : Pod where
  podNamespace := "default"
  podName := "web-1"
  networkStatus := some [{ default := false, ips := ["10.0.0.3"] }]
  phase := .running
  conditions := []

/-- The shared pool, with `default/web-0` and `default/web-1` listed. -/
def twoPodClient : Client := { poolClient with listPods := .ok [startedPod, otherPod] }

theorem reconcileIPs_listPods_perm_twoPodClient :
    reconcileIPs { twoPodClient with listPods := .ok [otherPod, startedPod] } =
      reconcileIPs twoPodClient :=
  reconcileIPs_listPods_perm twoPodClient rfl (.swap _ _ _) (by decide)

end Whereabouts.Reconciler
