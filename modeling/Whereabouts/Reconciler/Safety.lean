import Whereabouts.Reconciler.Looper
/-!
# What a run never removes

A reservation is safe when the pod listing has its pod, not being evicted, listing its IP
on a non-default network.  The grace window plays no part here: such a pod is found in
the index with the IP, and `isOrphanedIP` keeps the reservation before any refresh.

* `reconcileIPs_keeps_listed_reservations` — every list a run passes to `IPPool.Update`
  keeps the pool's safe reservations, whatever the refresh answers and `Update` outcomes;
* `reconcileIPs_keeps_listed_clusterWideIPs` — a run never deletes a safe cluster-wide
  record, provided its pod holds a reservation in some pool: the index only holds pods
  that do, so a record of any other pod is deleted
  (`reconcileIPs_deletes_record_of_live_pod`);
* `classifyReservation_iff_listsIP` — for a pod that is not Pending the classification
  is exactly the spec's orphan rule;
* `reconcileIPs_writes_listed_objects` — a run adds nothing: it writes listed pools with
  sub-multisets of their reservations and deletes listed records only.

The first three need a listing with one pod per reference, which the API server guarantees: pod
names are unique in their namespace, and neither contains `/`.
-/

namespace Whereabouts.Reconciler

open Whereabouts.Api Whereabouts.Storage List

/-- The listing has a pod of reference `podRef`, not being evicted, whose network-status
annotation lists `ip` on a non-default network. -/
def ListsIP (pods : List Pod) (podRef ip : String) : Prop :=
  ∃ pod ∈ pods, composePodRef pod = podRef ∧ isPodMarkedForDeletion pod.conditions = false ∧
    ∃ networks, pod.networkStatus = some networks ∧
      ∃ network ∈ networks, network.default = false ∧ ip ∈ network.ips

theorem indexPods_of_listsIP {pods : List Pod} {names : List String} {podRef ip : String}
    (hunique : (pods.map composePodRef).Nodup) (hlists : ListsIP pods podRef ip)
    (hname : podRef ∈ names) :
    ∃ livePod, indexPods pods names podRef = some livePod ∧ ip ∈ livePod.ips := by
  obtain ⟨pod, hpod, rfl, hlive, networks, hparse, hlisted⟩ := hlists
  exact ⟨_, indexPods_of_mem hunique hpod hname hlive, mem_wrapPod_ips_iff.mpr ⟨_, hparse, hlisted⟩⟩

theorem classifyReservation_of_mem {client : Client} {live : PodMap} {r : IPReservation}
    {livePod : PodWrapper} (hlive : live r.podRef = some livePod) (hip : r.ip.string ∈ livePod.ips)
    (m : Nat) : (classifyReservation client live r m).1 = true := by
  unfold classifyReservation
  split
  · rfl
  · rw [isOrphanedIP_of_mem hlive hip]

theorem reconcileIPs_keeps_listed_reservations (client : Client) (pools : List IPPool)
    (pods : List Pod) (hpools : client.listIPPools = .ok pools) (hpods : client.listPods = .ok pods)
    (hunique : (pods.map composePodRef).Nodup) {pool : IPPool} {reservations : List IPReservation}
    (hw : Write.update pool reservations ∈ (reconcileIPs client).1) {r : IPReservation}
    (hr : r ∈ pool.allocations) (hlists : ListsIP pods r.podRef r.ip.string) :
    r ∈ reservations := by
  obtain ⟨rl, n, hlooper, o, ho, rfl, rfl⟩ := exists_of_update_mem_reconcileIPs hw
  have hlive := liveWhereaboutsPods_of_looper hlooper hpools hpods
  rw [orphanedIPs_of_looper hlooper hpools] at ho
  obtain ⟨hpool, -, m, hos⟩ := mem_findOrphanedIPsPerPool ho
  obtain ⟨livePod, hindex, hip⟩ := indexPods_of_listsIP hunique hlists
    (mem_getPodRefsServedByWhereabouts.mpr ⟨o.pool, hpool, r, hr, rfl⟩)
  rw [← hlive] at hindex
  have hsub : o.allocations <+ o.pool.allocations := hos ▸ collectOrphans_sublist _ _
  refine mem_cleanUpPool (hsub.map allocationKey).subperm hr fun hkey => ?_
  obtain ⟨x, hx, hxkey⟩ := mem_map.mp hkey
  simp only [allocationKey, Prod.mk.injEq] at hxkey
  obtain ⟨m', hm'⟩ := classify_of_mem_collectOrphans (hos ▸ hx)
  rw [classifyReservation_of_mem (hxkey.1 ▸ hindex) (hxkey.2 ▸ hip)] at hm'
  cases hm'

/-- The reservation of `default/web-0`, whose pod lists it. -/
def webReservation : IPReservation :=
  { ip := ⟨"10.0.0.1"⟩, containerID := "c1", podRef := "default/web-0", ifName := "net1" }

/-- A reservation of a pod that is gone. -/
def goneReservation : IPReservation :=
  { ip := ⟨"10.0.0.2"⟩, containerID := "c2", podRef := "default/gone-0", ifName := "net1" }

/-- A pool holding both. -/
def sharedPool : IPPool := { name := "10.0.0.0-24", allocations := [webReservation, goneReservation] }

/-- A cluster-wide record of the running pod `default/web-0`. -/
def webRecord : OverlappingRangeIPReservation := { name := "10.0.0.1", podRef := "default/web-0" }

/-- The pool, the running pod `default/web-0`, and its cluster-wide record. -/
def poolClient : Client where
  listIPPools := .ok [sharedPool]
  listPods := .ok [startedPod]
  listOverlappingIPs := .ok [webRecord]
  getPod _ _ _ := .error "not found"
  update _ := none
  deleteOverlappingIP _ := none

theorem reconcileIPs_keeps_webReservation :
    Write.update sharedPool [webReservation] ∈ (reconcileIPs poolClient).1 ∧
    ListsIP [startedPod] webReservation.podRef webReservation.ip.string ∧
    webReservation ∈ [webReservation] := by
  have hw : Write.update sharedPool [webReservation] ∈ (reconcileIPs poolClient).1 := by decide
  have hlists : ListsIP [startedPod] webReservation.podRef webReservation.ip.string :=
    ⟨startedPod, mem_singleton_self _, rfl, rfl, _, rfl, _, mem_singleton_self _, rfl,
      mem_singleton_self _⟩
  exact ⟨hw, hlists, reconcileIPs_keeps_listed_reservations poolClient _ _ rfl rfl (by decide) hw
    (by decide) hlists⟩

/-! ## Cluster-wide records -/

theorem reconcileIPs_keeps_listed_clusterWideIPs (client : Client) (pools : List IPPool)
    (pods : List Pod) (hpools : client.listIPPools = .ok pools) (hpods : client.listPods = .ok pods)
    (hunique : (pods.map composePodRef).Nodup) {record : OverlappingRangeIPReservation}
    (hserved : ∃ pool ∈ pools, ∃ r ∈ pool.allocations, r.podRef = record.podRef)
    (hlists : ListsIP pods record.podRef (replaceAll record.name '-' ':')) :
    Write.deleteOverlappingIP record ∉ (reconcileIPs client).1 := by
  intro hw
  obtain ⟨rl, n, hlooper, hr⟩ := exists_of_deleteOverlappingIP_mem_reconcileIPs hw
  have hlive := liveWhereaboutsPods_of_looper hlooper hpools hpods
  obtain ⟨_, _, _, -, -, -, -, -, m, hwide⟩ := newReconcileLooperWithClient_inv hlooper
  rw [hwide] at hr
  obtain ⟨m', hm'⟩ := classify_of_mem_collectOrphans hr
  obtain ⟨livePod, hindex, hip⟩ := indexPods_of_listsIP hunique hlists
    (mem_getPodRefsServedByWhereabouts.mpr hserved)
  rw [← hlive] at hindex
  rw [classifyClusterWideIP, isOrphanedIP_of_mem hindex hip] at hm'
  cases hm'

theorem reconcileIPs_keeps_webRecord :
    (∃ pool ∈ [sharedPool], ∃ r ∈ pool.allocations, r.podRef = webRecord.podRef) ∧
    ListsIP [startedPod] webRecord.podRef (replaceAll webRecord.name '-' ':') ∧
    Write.deleteOverlappingIP webRecord ∉ (reconcileIPs poolClient).1 := by
  have hserved : ∃ pool ∈ [sharedPool], ∃ r ∈ pool.allocations, r.podRef = webRecord.podRef :=
    ⟨sharedPool, mem_singleton_self _, webReservation, by decide, rfl⟩
  have hlists : ListsIP [startedPod] webRecord.podRef (replaceAll webRecord.name '-' ':') :=
    ⟨startedPod, mem_singleton_self _, rfl, rfl, _, rfl, _, mem_singleton_self _, rfl,
      mem_singleton_self _⟩
  exact ⟨hserved, hlists, reconcileIPs_keeps_listed_clusterWideIPs poolClient _ _ rfl rfl
    (by decide) hserved hlists⟩

/-- No pools, the running pod `default/web-0`, and its cluster-wide record. -/
def recordOnlyClient : Client where
  listIPPools := .ok []
  listPods := .ok [startedPod]
  listOverlappingIPs := .ok [webRecord]
  getPod _ _ _ := .error "not found"
  update _ := none
  deleteOverlappingIP _ := none

theorem reconcileIPs_deletes_record_of_live_pod :
    ListsIP [startedPod] webRecord.podRef (replaceAll webRecord.name '-' ':') ∧
    Write.deleteOverlappingIP webRecord ∈ (reconcileIPs recordOnlyClient).1 :=
  ⟨⟨startedPod, mem_singleton_self _, rfl, rfl, _, rfl, _, mem_singleton_self _, rfl,
    mem_singleton_self _⟩, by decide⟩

/-! ## The orphan rule -/

/-- Outside the grace window the classification is the spec's orphan rule, and it makes no
`GetPod` call: a pool reservation of a pod that is not Pending is kept exactly when the
listing has its pod, not being evicted, listing its IP on a non-default network. -/
theorem classifyReservation_iff_listsIP (client : Client) (pools : List IPPool)
    (pods : List Pod) (hunique : (pods.map composePodRef).Nodup) {pool : IPPool}
    (hpool : pool ∈ pools) {r : IPReservation} (hr : r ∈ pool.allocations) (hne : r.podRef ≠ "")
    (hphase : ∀ pod ∈ pods, composePodRef pod = r.podRef → pod.phase ≠ .pending) (n : Nat) :
    ((classifyReservation client (indexPods pods (getPodRefsServedByWhereabouts pools)) r n).1 =
      true ↔ ListsIP pods r.podRef r.ip.string) ∧
    (classifyReservation client (indexPods pods (getPodRefsServedByWhereabouts pools)) r n).2 =
      n := by
  have hserved : r.podRef ∈ getPodRefsServedByWhereabouts pools :=
    mem_getPodRefsServedByWhereabouts.mpr ⟨pool, hpool, r, hr, rfl⟩
  simp only [classifyReservation, hne, if_false]
  by_cases hlive : ∃ pod ∈ pods, composePodRef pod = r.podRef ∧
      isPodMarkedForDeletion pod.conditions = false
  · obtain ⟨pod, hpod, href, hmarked⟩ := hlive
    have hindex := indexPods_of_mem hunique hpod (by rw [href]; exact hserved) hmarked
    rw [href] at hindex
    rw [isOrphanedIP_of_not_pending hindex (hphase pod hpod href)]
    refine ⟨?_, rfl⟩
    simp only [isIpOnPod, decide_eq_true_eq, mem_wrapPod_ips_iff]
    constructor
    · exact fun hlisted => ⟨pod, hpod, href, hmarked, hlisted⟩
    · rintro ⟨pod', hpod', href', -, hlisted⟩
      rwa [inj_on_of_nodup_map hunique hpod hpod' (href.trans href'.symm)]
  · have hnone : indexPods pods (getPodRefsServedByWhereabouts pools) r.podRef = none :=
      indexPods_of_forall_marked fun pod hpod href => by
        by_contra hkept
        exact hlive ⟨pod, hpod, href, Bool.eq_false_iff.mpr hkept⟩
    rw [isOrphanedIP_of_none hnone]
    refine ⟨?_, rfl⟩
    simp only [Bool.false_eq_true, false_iff]
    rintro ⟨pod, hpod, href, hmarked, -⟩
    exact hlive ⟨pod, hpod, href, hmarked⟩

theorem classifyReservation_iff_listsIP_webReservation :
    ((classifyReservation poolClient
        (indexPods [startedPod] (getPodRefsServedByWhereabouts [sharedPool])) webReservation 0).1 =
      true ↔ ListsIP [startedPod] webReservation.podRef webReservation.ip.string) ∧
    (classifyReservation poolClient
        (indexPods [startedPod] (getPodRefsServedByWhereabouts [sharedPool])) webReservation 0).2 =
      0 :=
  classifyReservation_iff_listsIP poolClient [sharedPool] [startedPod] (by decide)
    (mem_singleton_self _) (by decide) (by decide) (by decide) 0

/-! ## What a write can touch -/

theorem update_mem_reconcileIPs {client : Client} {pools : List IPPool}
    (hpools : client.listIPPools = .ok pools) {pool : IPPool} {reservations : List IPReservation}
    (hw : Write.update pool reservations ∈ (reconcileIPs client).1) :
    pool ∈ pools ∧ reservations <+~ pool.allocations := by
  obtain ⟨rl, n, hlooper, o, ho, rfl, rfl⟩ := exists_of_update_mem_reconcileIPs hw
  rw [orphanedIPs_of_looper hlooper hpools] at ho
  obtain ⟨hpool, -, m, hos⟩ := mem_findOrphanedIPsPerPool ho
  have hsub : o.allocations <+ o.pool.allocations := hos ▸ collectOrphans_sublist _ _
  obtain ⟨removed, hperm, -, -⟩ := cleanUpPool_spec _ _ (hsub.map allocationKey).subperm
  exact ⟨hpool, (sublist_append_left _ removed).subperm.trans hperm.subperm⟩

/-- Every write of a run targets a listed object and adds nothing: an `Update` writes a
listed pool with a sub-multiset of its reservations, and a deletion removes a listed
record. -/
theorem reconcileIPs_writes_listed_objects (client : Client) (pools : List IPPool)
    (records : List OverlappingRangeIPReservation) (hpools : client.listIPPools = .ok pools)
    (hrecords : client.listOverlappingIPs = .ok records) {w : Write}
    (hw : w ∈ (reconcileIPs client).1) :
    (∃ pool reservations, w = .update pool reservations ∧ pool ∈ pools ∧
      reservations <+~ pool.allocations) ∨
    ∃ r, w = .deleteOverlappingIP r ∧ r ∈ records := by
  cases w with
  | update pool reservations => exact .inl ⟨pool, reservations, rfl, update_mem_reconcileIPs hpools hw⟩
  | deleteOverlappingIP r =>
      obtain ⟨rl, n, hlooper, hr⟩ := exists_of_deleteOverlappingIP_mem_reconcileIPs hw
      obtain ⟨m, hwide⟩ := orphanedClusterWideIPs_of_looper hlooper hrecords
      exact .inr ⟨r, rfl, (collectOrphans_sublist _ _).subset (hwide ▸ hr)⟩

theorem reconcileIPs_writes_listed_objects_poolClient :
    Write.update sharedPool [webReservation] ∈ (reconcileIPs poolClient).1 ∧
    [webReservation] <+~ sharedPool.allocations := by
  have hw : Write.update sharedPool [webReservation] ∈ (reconcileIPs poolClient).1 := by decide
  refine ⟨hw, ?_⟩
  rcases reconcileIPs_writes_listed_objects poolClient _ _ rfl rfl hw with
    ⟨pool, reservations, heq, -, hsub⟩ | ⟨r, heq, -⟩
  · obtain ⟨rfl, rfl⟩ := Write.update.inj heq
    exact hsub
  · cases heq

end Whereabouts.Reconciler
