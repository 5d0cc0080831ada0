import Whereabouts.Reconciler.Safety
/-!
# The pool updates of a run

`ReconcileIPPools` updates each pool in which the looper found orphans, once, in the
order of the listing.  When every `Update` succeeds:

* `reconcileIPPools_removes_exactly_orphans` — each written list is the pool's
  reservations with exactly the orphans removed, up to order; reservations without a
  pod reference stay, reservations of unindexed pods go, and the IPs returned are the
  orphans' IPs;
* `reconcileIPs_frees_missing_pod`, `reconcileIPs_frees_evicted_pod` — a pod missing from
  the listing, or being evicted by the taint manager, is left out of the index, so its
  reservations are freed in the same run.

When an `Update` fails the run stops there (`reconcileIPs_of_update_error`): the pools
after it are not updated and no cluster-wide record is deleted, although the per-pool
policy is that one pool's failure does not block the others
(`reconcileIPs_stops_at_failed_update`).
-/

namespace Whereabouts.Reconciler

open Whereabouts.Api Whereabouts.Storage List

theorem orphansWellFormed_findOrphanedIPsPerPool (client : Client) (live : PodMap)
    (pools : List IPPool) (n : Nat) :
    OrphansWellFormed (findOrphanedIPsPerPool client live pools n).1 := by
  intro o ho
  obtain ⟨-, hne, m, hos⟩ := mem_findOrphanedIPsPerPool ho
  exact ⟨hne, hos ▸ collectOrphans_sublist _ _⟩

theorem not_mem_poolOrphans_of_podRef_empty {client : Client} {live : PodMap} {pool : IPPool}
    {m : Nat} {r : IPReservation} (hr : r.podRef = "") : r ∉ poolOrphans client live pool m := by
  intro hmem
  obtain ⟨m', hm'⟩ := classify_of_mem_collectOrphans hmem
  simp [classifyReservation, hr] at hm'

theorem classifyReservation_of_none {client : Client} {live : PodMap} {r : IPReservation}
    (hne : r.podRef ≠ "") (hnone : live r.podRef = none) (m : Nat) :
    (classifyReservation client live r m).1 = false := by
  simp [classifyReservation, hne, isOrphanedIP_of_none hnone]

theorem reconcileIPPools_removes_exactly_orphans (client : Client) (pools : List IPPool)
    (hpools : client.listIPPools = .ok pools)
    (hips : ∀ pool ∈ pools, (pool.allocations.map (·.ip)).Nodup)
    (hupdate : ∀ n, client.update n = none) {rl : ReconcileLooper} {n : Nat}
    (hlooper : newReconcileLooperWithClient client = .ok (rl, n)) :
    (reconcileIPPools client rl).1 = rl.orphanedIPs.map cleanUpWrite ∧
    rl.orphanedIPs.map (·.pool) <+ pools ∧
    (∀ o ∈ rl.orphanedIPs, o.allocations ≠ [] ∧
      (cleanUpPool o.pool.allocations o.allocations).1 ++ o.allocations ~ o.pool.allocations ∧
      ∀ r ∈ o.pool.allocations, r.podRef = "" → r ∈ (cleanUpPool o.pool.allocations o.allocations).1) ∧
    (∀ pool ∈ pools, ∀ r ∈ pool.allocations, r.podRef ≠ "" → rl.liveWhereaboutsPods r.podRef = none →
      ∃ o ∈ rl.orphanedIPs, o.pool = pool ∧ r ∈ o.allocations) ∧
    (reconcileIPPools client rl).2 = .ok ((rl.orphanedIPs.flatMap (·.allocations)).map (·.ip)) := by
  have horphans := orphanedIPs_of_looper hlooper hpools
  have hwell := horphans ▸ orphansWellFormed_findOrphanedIPsPerPool client _ _ 0
  have hrun := reconcileIPPoolsFrom_of_forall_update hupdate hwell 0
  refine ⟨congrArg Prod.fst hrun, horphans ▸ findOrphanedIPsPerPool_sublist _ 0, ?_, ?_,
    congrArg Prod.snd hrun⟩
  · intro o ho
    obtain ⟨hpool, hne, m, hos⟩ := mem_findOrphanedIPsPerPool (horphans ▸ ho)
    have hperm := cleanUpPool_perm (hips _ hpool) (hwell o ho).2
    refine ⟨hne, hperm, fun r hr hempty => ?_⟩
    rcases mem_append.mp (hperm.mem_iff.mpr hr) with h | h
    · exact h
    · exact absurd (hos ▸ h) (not_mem_poolOrphans_of_podRef_empty hempty)
  · intro pool hpool r hr hne hnone
    rw [horphans]
    exact exists_mem_findOrphanedIPsPerPool hpool hr (classifyReservation_of_none hne hnone) 0

/-- The looper `NewReconcileLooperWithClient` builds for `poolClient`. -/
def poolLooper : ReconcileLooper :=
  ⟨indexPods [startedPod] (getPodRefsServedByWhereabouts [sharedPool]),
    [⟨sharedPool, [goneReservation]⟩], []⟩

theorem reconcileIPPools_removes_goneReservation :
    newReconcileLooperWithClient poolClient = .ok (poolLooper, 0) ∧
    (reconcileIPPools poolClient poolLooper).1 = [Write.update sharedPool [webReservation]] := by
  have hlooper : newReconcileLooperWithClient poolClient = .ok (poolLooper, 0) := rfl
  refine ⟨hlooper, ?_⟩
  rw [(reconcileIPPools_removes_exactly_orphans poolClient [sharedPool] rfl (by decide)
    (fun _ => rfl) hlooper).1]
  rfl

theorem reconcileIPPools_of_forall_update {client : Client} {rl : ReconcileLooper} {n : Nat}
    (hlooper : newReconcileLooperWithClient client = .ok (rl, n))
    (hupdate : ∀ n, client.update n = none) :
    reconcileIPPools client rl =
      (rl.orphanedIPs.map cleanUpWrite, .ok ((rl.orphanedIPs.flatMap (·.allocations)).map (·.ip))) := by
  obtain ⟨_, _, _, -, -, -, -, horphans, -⟩ := newReconcileLooperWithClient_inv hlooper
  exact reconcileIPPoolsFrom_of_forall_update hupdate
    (horphans ▸ orphansWellFormed_findOrphanedIPsPerPool client _ _ 0) 0

theorem reconcileIPs_of_forall_update {client : Client} {rl : ReconcileLooper} {n : Nat}
    (hlooper : newReconcileLooperWithClient client = .ok (rl, n))
    (hupdate : ∀ n, client.update n = none) :
    (reconcileIPs client).1 =
      rl.orphanedIPs.map cleanUpWrite ++ rl.orphanedClusterWideIPs.map .deleteOverlappingIP := by
  rw [reconcileIPs_of_looper hlooper, reconcileIPPools_of_forall_update hlooper hupdate]

/-- When the `Update`s of the pools with orphans before `o` succeed and that of `o` fails,
the run ends there: it writes those pools and `o`, tries no other write, and reports the
failure. -/
theorem reconcileIPs_of_update_error {client : Client} {rl : ReconcileLooper} {n : Nat}
    (hlooper : newReconcileLooperWithClient client = .ok (rl, n))
    (pre : List OrphanedIPReservations) (o : OrphanedIPReservations)
    (post : List OrphanedIPReservations) (horphans : rl.orphanedIPs = pre ++ o :: post)
    (hupdate : ∀ i < pre.length, client.update i = none) {err : String}
    (herr : client.update pre.length = some err) :
    reconcileIPs client = (pre.map cleanUpWrite ++ [cleanUpWrite o],
      some ("failed to update the reservation list: " ++ err)) := by
  obtain ⟨_, _, _, -, -, -, -, hfound, -⟩ := newReconcileLooperWithClient_inv hlooper
  have hwell : OrphansWellFormed (pre ++ o :: post) :=
    horphans ▸ hfound ▸ orphansWellFormed_findOrphanedIPsPerPool client _ _ 0
  have hpools : reconcileIPPools client rl = (pre.map cleanUpWrite ++ [cleanUpWrite o],
      .error ("failed to update the reservation list: " ++ err)) := by
    rw [reconcileIPPools, horphans]
    exact reconcileIPPoolsFrom_of_update_error hwell 0 (by simpa using hupdate) (by simpa using herr)
  rw [reconcileIPs_of_looper hlooper, hpools]

/-- A reservation of another pod that is gone. -/
def otherGoneReservation : IPReservation :=
  { ip := ⟨"10.0.1.2"⟩, containerID := "c3", podRef := "default/gone-1", ifName := "net1" }

/-- A second pool, holding that reservation. -/
def otherPool : IPPool := { name := "10.0.1.0-24", allocations := [otherGoneReservation] }

/-- A cluster-wide record of a pod that is gone. -/
def goneRecord : OverlappingRangeIPReservation := { name := "10.0.0.2", podRef := "default/gone-0" }

/-- Two pools with orphans and an orphaned record; the first `Update` loses its
compare-and-swap. -/
def conflictClient : Client where
  listIPPools := .ok [sharedPool, otherPool]
  listPods := .ok [startedPod]
  listOverlappingIPs := .ok [goneRecord]
  getPod _ _ _ := .error "not found"
  update n := if n = 0 then some "the object has been modified" else none
  deleteOverlappingIP _ := none

theorem reconcileIPs_of_update_error_conflict :
    reconcileIPs conflictClient = ([cleanUpWrite ⟨sharedPool, [goneReservation]⟩],
      some "failed to update the reservation list: the object has been modified") := by
  have hlooper : newReconcileLooperWithClient conflictClient =
      .ok (⟨indexPods [startedPod] (getPodRefsServedByWhereabouts [sharedPool, otherPool]),
        [⟨sharedPool, [goneReservation]⟩, ⟨otherPool, otherPool.allocations⟩], [goneRecord]⟩, 0) := rfl
  exact reconcileIPs_of_update_error hlooper [] _ _ rfl (fun _ h => absurd h (Nat.not_lt_zero _)) rfl

/-- The run updates the first pool only: the second pool's `Update` and the deletion of
the orphaned record are never attempted. -/
theorem reconcileIPs_stops_at_failed_update :
    reconcileIPs conflictClient =
      ([Write.update sharedPool [webReservation]],
        some "failed to update the reservation list: the object has been modified") := by
  decide

end Whereabouts.Reconciler
