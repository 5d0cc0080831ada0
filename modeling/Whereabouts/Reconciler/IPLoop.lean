import Whereabouts.Reconciler.IsOrphanedIP
/-!
# One reconcile run

`ReconcileIPs` builds a `ReconcileLooper` from the three listings, classifying every pool
reservation and every cluster-wide record with `isOrphanedIP`, then updates every pool
that has orphans and finally deletes every orphaned cluster-wide record.  This module
translates `iploop.go` and `ip.go`; a run is a function of the `Client` and returns the
writes it attempts, in order, with what it sends on `errorChan`.

The two collecting loops of the looper share one shape, a filter whose predicate makes
API calls; `collectOrphans` is that filter, and its lemmas are stated once for both.
-/

namespace Whereabouts.Reconciler

open Whereabouts.Api Whereabouts.Storage

/-- `OrphanedIPReservations`: a pool and its orphaned reservations. -/
structure OrphanedIPReservations where
  pool : IPPool
  allocations : List IPReservation
deriving DecidableEq, Repr

/-- `ReconcileLooper`, without its client, which the run passes along. -/
structure ReconcileLooper where
  liveWhereaboutsPods : PodMap
  orphanedIPs : List OrphanedIPReservations
  orphanedClusterWideIPs : List OverlappingRangeIPReservation

/-! ## Building the looper -/

/-- The entries, in order, that `classify` does not keep; the state counts `GetPod` calls. -/
def collectOrphans {α : Type} (classify : α → Nat → Bool × Nat) : List α → Nat → List α × Nat
  | [], n => ([], n)
  | x :: rest, n =>
    let (kept, n') := classify x n
    let (orphans, n'') := collectOrphans classify rest n'
    (if kept then orphans else x :: orphans, n'')

/-- The test of the inner loop of `findOrphanedIPsPerPool`: a reservation without a pod
reference is skipped. -/
def classifyReservation (client : Client) (live : PodMap) (ipReservation : IPReservation)
    (n : Nat) : Bool × Nat :=
  if ipReservation.podRef = "" then (true, n)
  else isOrphanedIP (refreshPod client) live podRefreshRetries ipReservation.podRef
    ipReservation.ip.string n

/-- `findOrphanedIPsPerPool`: every pool with at least one orphan, with its orphans. -/
def findOrphanedIPsPerPool (client : Client) (live : PodMap) :
    List IPPool → Nat → List OrphanedIPReservations × Nat
  | [], n => ([], n)
  | pool :: rest, n =>
    let (orphans, n') := collectOrphans (classifyReservation client live) pool.allocations n
    let (orphanedIPs, n'') := findOrphanedIPsPerPool client live rest n'
    (if orphans = [] then orphanedIPs else ⟨pool, orphans⟩ :: orphanedIPs, n'')

/-- The test of `findClusterWideIPReservations`: the record's name, de-normalised, is
the IP looked up on the pod. -/
def classifyClusterWideIP (client : Client) (live : PodMap)
    (clusterWideIPReservation : OverlappingRangeIPReservation) (n : Nat) : Bool × Nat :=
  isOrphanedIP (refreshPod client) live podRefreshRetries clusterWideIPReservation.podRef
    (replaceAll clusterWideIPReservation.name '-' ':') n

/-- `findClusterWideIPReservations`, after a successful `ListOverlappingIPs`. -/
def findClusterWideIPReservations (client : Client) (live : PodMap) :
    List OverlappingRangeIPReservation → Nat → List OverlappingRangeIPReservation × Nat :=
  collectOrphans (classifyClusterWideIP client live)

/-- De-normalising the name of a record recovers the IP text it was formed from. -/
theorem replaceAll_normalizeIP (s : String) (hs : '-' ∉ s.data) :
    replaceAll (normalizeIP ⟨s⟩) '-' ':' = s := by
  obtain ⟨cs⟩ := s
  simp only [normalizeIP, replaceAll, List.map_map]
  congr 1
  conv_rhs => rw [← List.map_id cs]
  refine List.map_congr_left fun c hc => ?_
  by_cases hcolon : c = ':'
  · simp [hcolon]
  · have hdash : c ≠ '-' := fun h => hs (h ▸ hc)
    simp [hcolon, hdash]

theorem replaceAll_normalizeIP_ipv6 :
    '-' ∉ "2001:db8::1".data ∧ replaceAll (normalizeIP ⟨"2001:db8::1"⟩) '-' ':' = "2001:db8::1" :=
  ⟨by decide, replaceAll_normalizeIP "2001:db8::1" (by decide)⟩

/-- `NewReconcileLooperWithClient`: the looper and the number of `GetPod` calls made, or
the error. -/
def newReconcileLooperWithClient (client : Client) : Except String (ReconcileLooper × Nat) :=
  match client.listIPPools, client.listPods, client.listOverlappingIPs with
  | .error err, _, _ => .error ("failed to retrieve all IP pools: " ++ err)
  | .ok _, .error err, _ => .error err
  | .ok ipPools, .ok pods, clusterWideIPReservations =>
    let live := indexPods pods (getPodRefsServedByWhereabouts ipPools)
    let (orphanedIPs, n) := findOrphanedIPsPerPool client live ipPools 0
    match clusterWideIPReservations with
    | .error err => .error ("failed to list all OverLappingIPs: " ++ err)
    | .ok clusterWideIPReservations =>
      let (orphanedClusterWideIPs, n') :=
        findClusterWideIPReservations client live clusterWideIPReservations n
      .ok (⟨live, orphanedIPs, orphanedClusterWideIPs⟩, n')

/-- `NewReconcileLooper`: `kubernetes.NewClient` returns `newClient`, and the looper is built
over the client it returns, which the looper keeps. -/
def newReconcileLooper (newClient : Except String Client) :
    Except String (Client × ReconcileLooper × Nat) :=
  match newClient with
  | .error err => .error ("failed to instantiate the Kubernetes client: " ++ err)
  | .ok k8sClient => (newReconcileLooperWithClient k8sClient).map fun (rl, n) => (k8sClient, rl, n)

/-! ## Cleaning up the pools -/

/-- `findAllocationIndex`, with Go's `-1` as `none`. -/
def findAllocationIndex (reservation : IPReservation) (reservations : List IPReservation) :
    Option Nat :=
  reservations.findIdx? fun r => r.podRef == reservation.podRef && r.ip.equal reservation.ip

/-- Delete entry `idx`: the last entry overwrites it and the slice shrinks by one. -/
def deleteEntry (reservations : List IPReservation) (idx : Nat) : List IPReservation :=
  match reservations.getLast? with
  | none => reservations
  | some last => (reservations.set idx last).dropLast

/-- The loop of `ReconcileIPPools` over one pool's orphans: the reservations left, and
the IPs cleaned up, in order. -/
def cleanUpPool (currentIPReservations : List IPReservation) :
    List IPReservation → List IPReservation × List IP
  | [] => (currentIPReservations, [])
  | allocation :: rest =>
    match findAllocationIndex allocation currentIPReservations with
    | none => cleanUpPool currentIPReservations rest
    | some idx =>
      let (left, cleanedUpIpsPerPool) :=
        cleanUpPool (deleteEntry currentIPReservations idx) rest
      (left, allocation.ip :: cleanedUpIpsPerPool)

/-- The loop of `ReconcileIPPools` over the pools with orphans; `updates` counts the
`Update` calls made. -/
def reconcileIPPoolsFrom (client : Client) :
    Nat → List OrphanedIPReservations → List Write × Except String (List IP)
  | _, [] => ([], .ok [])
  | updates, orphanedIP :: rest =>
    let (currentIPReservations, cleanedUpIpsPerPool) :=
      cleanUpPool orphanedIP.pool.allocations orphanedIP.allocations
    if cleanedUpIpsPerPool = [] then reconcileIPPoolsFrom client updates rest
    else
      let write := Write.update orphanedIP.pool currentIPReservations
      match client.update updates with
      | some err => ([write], .error ("failed to update the reservation list: " ++ err))
      | none =>
        let (writes, totalCleanedUpIps) := reconcileIPPoolsFrom client (updates + 1) rest
        (write :: writes, totalCleanedUpIps.map (cleanedUpIpsPerPool ++ ·))

/-- `ReconcileIPPools`: the `Update`s attempted, and the IPs cleaned up or the error. -/
def reconcileIPPools (client : Client) (rl : ReconcileLooper) :
    List Write × Except String (List IP) :=
  reconcileIPPoolsFrom client 0 rl.orphanedIPs

/-! ## Cleaning up the cluster-wide records -/

/-- The loop of `ReconcileOverlappingIPAddresses`, the `i`-th deletion first: the
deletions attempted, and the names of the records that could not be removed. -/
def deleteClusterWideIPs (client : Client) :
    Nat → List OverlappingRangeIPReservation → List Write × List String
  | _, [] => ([], [])
  | i, overlappingIPStruct :: rest =>
    let (writes, failed) := deleteClusterWideIPs client (i + 1) rest
    (Write.deleteOverlappingIP overlappingIPStruct :: writes,
      match client.deleteOverlappingIP i with
      | some _ => overlappingIPStruct.name :: failed
      | none => failed)

/-- Go's `%v` of a `[]string`. -/
def formatNames (names : List String) : String := "[" ++ " ".intercalate names ++ "]"

/-- `ReconcileOverlappingIPAddresses`: the deletions attempted, and the error. -/
def reconcileOverlappingIPAddresses (client : Client) (rl : ReconcileLooper) :
    List Write × Option String :=
  let (writes, failedReconciledClusterWideIPs) :=
    deleteClusterWideIPs client 0 rl.orphanedClusterWideIPs
  (writes, if failedReconciledClusterWideIPs = [] then none
    else some ("could not reconcile cluster wide IPs: " ++ formatNames failedReconciledClusterWideIPs))

/-- `ReconcileIPs`: the writes of one run, in order, and what it sends on `errorChan`. -/
def reconcileIPs (client : Client) : List Write × Option String :=
  match newReconcileLooperWithClient client with
  | .error err => ([], some err)
  | .ok (ipReconcileLoop, _) =>
    match reconcileIPPools client ipReconcileLoop with
    | (writes, .error err) => (writes, some err)
    | (writes, .ok _) =>
      let (deletes, err) := reconcileOverlappingIPAddresses client ipReconcileLoop
      (writes ++ deletes, err)

/-- `ReconcileIPs` from its first line: `NewReconcileLooper` builds the client from what
`kubernetes.NewClient` returns, `newClient`; once the client is built, the run is
`reconcileIPs`. -/
def reconcileIPsNewLooper (newClient : Except String Client) : List Write × Option String :=
  match newReconcileLooper newClient with
  | .error err => ([], some err)
  | .ok (client, _) => reconcileIPs client

end Whereabouts.Reconciler
