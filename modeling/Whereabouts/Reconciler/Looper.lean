import Whereabouts.Reconciler.Cleanup
/-!
# What the loops of a run compute

One spec lemma per loop of `iploop.go`, so that the results about whole runs cite these
and never unfold a loop:

* `collectOrphans` keeps a sublist, each entry of which some call classified as orphan,
  and it keeps every entry that every call classifies as orphan;
* `findOrphanedIPsPerPool` records each pool of the listing with its orphans;
* `reconcileIPPoolsFrom` writes, for each recorded pool, the reservations
  `cleanUpPool` leaves, and stops at the first failed `Update`;
* `deleteClusterWideIPs` attempts every deletion, whatever fails.
-/

namespace Whereabouts.Reconciler

open Whereabouts.Api Whereabouts.Storage List

/-! ## Collecting orphans -/

section Collect

variable {α : Type} {classify : α → Nat → Bool × Nat}

theorem collectOrphans_cons (x : α) (rest : List α) (n : Nat) :
    collectOrphans classify (x :: rest) n =
      ((if (classify x n).1 then [] else [x]) ++
        (collectOrphans classify rest (classify x n).2).1,
        (collectOrphans classify rest (classify x n).2).2) := by
  simp only [collectOrphans]
  split <;> simp

theorem collectOrphans_sublist (l : List α) (n : Nat) : (collectOrphans classify l n).1 <+ l := by
  induction l generalizing n with
  | nil => exact Sublist.slnil
  | cons x rest ih =>
      rw [collectOrphans_cons]
      split
      · exact (ih _).cons x
      · exact (ih _).cons₂ x

theorem classify_of_mem_collectOrphans {l : List α} {n : Nat} {x : α}
    (hx : x ∈ (collectOrphans classify l n).1) : ∃ m, (classify x m).1 = false := by
  induction l generalizing n with
  | nil => simp [collectOrphans] at hx
  | cons y rest ih =>
      rw [collectOrphans_cons] at hx
      split at hx
      · exact ih (by simpa using hx)
      · rcases mem_cons.mp (by simpa using hx) with rfl | h
        · exact ⟨n, Bool.eq_false_iff.mpr ‹_›⟩
        · exact ih h

theorem mem_collectOrphans {l : List α} {x : α} (hx : x ∈ l)
    (horphan : ∀ m, (classify x m).1 = false) (n : Nat) :
    x ∈ (collectOrphans classify l n).1 := by
  induction l generalizing n with
  | nil => simp at hx
  | cons y rest ih =>
      rw [collectOrphans_cons]
      rcases mem_cons.mp hx with rfl | h
      · simp [horphan]
      · exact mem_append_right _ (ih h _)

theorem collectOrphans_eq_filter_of_mem {keep : α → Bool} {l : List α}
    (hkeep : ∀ x ∈ l, ∀ m, (classify x m).1 = keep x) (n : Nat) :
    (collectOrphans classify l n).1 = l.filter (!keep ·) := by
  induction l generalizing n with
  | nil => rfl
  | cons x rest ih =>
      have hx := hkeep x (mem_cons_self x rest)
      have hrest := ih fun y hy => hkeep y (mem_cons_of_mem x hy)
      by_cases hk : keep x <;> simp [collectOrphans_cons, hrest, hx, hk]

theorem collectOrphans_eq_filter {keep : α → Bool} (hkeep : ∀ x m, (classify x m).1 = keep x)
    (l : List α) (n : Nat) : (collectOrphans classify l n).1 = l.filter (!keep ·) :=
  collectOrphans_eq_filter_of_mem (fun x _ => hkeep x) n

end Collect

/-! ## The pools with orphans -/

section PerPool

variable {client : Client} {live : PodMap}

/-- The orphans the inner loop of `findOrphanedIPsPerPool` finds in a pool, from the
`n`-th `GetPod` call on. -/
abbrev poolOrphans (client : Client) (live : PodMap) (pool : IPPool) (n : Nat) :
    List IPReservation :=
  (collectOrphans (classifyReservation client live) pool.allocations n).1

theorem mem_findOrphanedIPsPerPool {pools : List IPPool} {n : Nat}
    {o : OrphanedIPReservations} (ho : o ∈ (findOrphanedIPsPerPool client live pools n).1) :
    o.pool ∈ pools ∧ o.allocations ≠ [] ∧ ∃ m, o.allocations = poolOrphans client live o.pool m := by
  induction pools generalizing n with
  | nil => simp [findOrphanedIPsPerPool] at ho
  | cons pool rest ih =>
      simp only [findOrphanedIPsPerPool] at ho
      split at ho
      · exact (ih ho).imp (mem_cons_of_mem _) id
      · rcases mem_cons.mp ho with rfl | h
        · exact ⟨mem_cons_self _ _, ‹_›, n, rfl⟩
        · exact (ih h).imp (mem_cons_of_mem _) id

theorem findOrphanedIPsPerPool_sublist (pools : List IPPool) (n : Nat) :
    (findOrphanedIPsPerPool client live pools n).1.map (·.pool) <+ pools := by
  induction pools generalizing n with
  | nil => exact Sublist.slnil
  | cons pool rest ih =>
      simp only [findOrphanedIPsPerPool]
      split
      · exact (ih _).cons pool
      · exact (ih _).cons₂ pool

theorem exists_mem_findOrphanedIPsPerPool {pools : List IPPool} {pool : IPPool}
    {r : IPReservation} (hpool : pool ∈ pools) (hr : r ∈ pool.allocations)
    (horphan : ∀ m, (classifyReservation client live r m).1 = false) (n : Nat) :
    ∃ o ∈ (findOrphanedIPsPerPool client live pools n).1, o.pool = pool ∧ r ∈ o.allocations := by
  induction pools generalizing n with
  | nil => simp at hpool
  | cons p rest ih =>
      simp only [findOrphanedIPsPerPool]
      rcases mem_cons.mp hpool with rfl | h
      · have hmem := mem_collectOrphans hr horphan n
        rw [if_neg (ne_nil_of_mem hmem)]
        exact ⟨_, mem_cons_self _ _, rfl, hmem⟩
      · obtain ⟨o, ho, hrest⟩ :=
          ih h (collectOrphans (classifyReservation client live) p.allocations n).2
        refine ⟨o, ?_, hrest⟩
        split
        · exact ho
        · exact mem_cons_of_mem _ ho

theorem classifyReservation_snd_bounds (client : Client) (live : PodMap) (r : IPReservation)
    (n : Nat) : n ≤ (classifyReservation client live r n).2 ∧
      (classifyReservation client live r n).2 ≤ n + podRefreshRetries := by
  unfold classifyReservation
  split
  · exact ⟨le_refl n, Nat.le_add_right n _⟩
  · exact isOrphanedIP_snd_bounds (refreshPod_snd_bounds client _) live _ _ n

theorem classifyClusterWideIP_snd_bounds (client : Client) (live : PodMap)
    (r : OverlappingRangeIPReservation) (n : Nat) :
    n ≤ (classifyClusterWideIP client live r n).2 ∧
      (classifyClusterWideIP client live r n).2 ≤ n + podRefreshRetries :=
  isOrphanedIP_snd_bounds (refreshPod_snd_bounds client _) live _ _ n

end PerPool

/-! ## Building the looper -/

section Build

variable {client : Client} {pools : List IPPool} {pods : List Pod}
  {records : List OverlappingRangeIPReservation}

end Build

theorem newReconcileLooperWithClient_inv {client : Client} {rl : ReconcileLooper} {n : Nat}
    (h : newReconcileLooperWithClient client = .ok (rl, n)) :
    ∃ pools pods records, client.listIPPools = .ok pools ∧ client.listPods = .ok pods ∧
      client.listOverlappingIPs = .ok records ∧
      rl.liveWhereaboutsPods = indexPods pods (getPodRefsServedByWhereabouts pools) ∧
      rl.orphanedIPs = (findOrphanedIPsPerPool client rl.liveWhereaboutsPods pools 0).1 ∧
      ∃ m, rl.orphanedClusterWideIPs =
        (findClusterWideIPReservations client rl.liveWhereaboutsPods records m).1 := by
  unfold newReconcileLooperWithClient at h
  split at h
  · cases h
  · cases h
  · split at h
    · cases h
    · cases h
      exact ⟨_, _, _, ‹_›, ‹_›, ‹_›, rfl, rfl, _, rfl⟩

section Inversion

variable {client : Client} {rl : ReconcileLooper} {n : Nat}

theorem liveWhereaboutsPods_of_looper (h : newReconcileLooperWithClient client = .ok (rl, n))
    {pools : List IPPool} {pods : List Pod} (hpools : client.listIPPools = .ok pools)
    (hpods : client.listPods = .ok pods) :
    rl.liveWhereaboutsPods = indexPods pods (getPodRefsServedByWhereabouts pools) := by
  obtain ⟨_, _, _, hpools', hpods', -, hlive, -⟩ := newReconcileLooperWithClient_inv h
  cases hpools.symm.trans hpools'
  cases hpods.symm.trans hpods'
  exact hlive

theorem orphanedIPs_of_looper (h : newReconcileLooperWithClient client = .ok (rl, n))
    {pools : List IPPool} (hpools : client.listIPPools = .ok pools) :
    rl.orphanedIPs = (findOrphanedIPsPerPool client rl.liveWhereaboutsPods pools 0).1 := by
  obtain ⟨_, _, _, hpools', -, -, -, horphans, -⟩ := newReconcileLooperWithClient_inv h
  cases hpools.symm.trans hpools'
  exact horphans

theorem orphanedClusterWideIPs_of_looper (h : newReconcileLooperWithClient client = .ok (rl, n))
    {records : List OverlappingRangeIPReservation}
    (hrecords : client.listOverlappingIPs = .ok records) :
    ∃ m, rl.orphanedClusterWideIPs =
      (findClusterWideIPReservations client rl.liveWhereaboutsPods records m).1 := by
  obtain ⟨_, _, _, -, -, hrecords', -, -, hwide⟩ := newReconcileLooperWithClient_inv h
  cases hrecords.symm.trans hrecords'
  exact hwide

end Inversion

/-! ## Updating the pools -/

/-- The `Update` `ReconcileIPPools` sends for a pool with orphans. -/
def cleanUpWrite (o : OrphanedIPReservations) : Write :=
  .update o.pool (cleanUpPool o.pool.allocations o.allocations).1

theorem mem_reconcileIPPoolsFrom {client : Client} {os : List OrphanedIPReservations} {n : Nat}
    {w : Write} (hw : w ∈ (reconcileIPPoolsFrom client n os).1) : ∃ o ∈ os, w = cleanUpWrite o := by
  induction os generalizing n with
  | nil => simp [reconcileIPPoolsFrom] at hw
  | cons o rest ih =>
      simp only [reconcileIPPoolsFrom] at hw
      split at hw
      · obtain ⟨o', ho', rfl⟩ := ih hw
        exact ⟨o', mem_cons_of_mem _ ho', rfl⟩
      · split at hw
        · exact ⟨o, mem_cons_self _ _, by simpa [cleanUpWrite] using hw⟩
        · rcases mem_cons.mp hw with rfl | h
          · exact ⟨o, mem_cons_self _ _, rfl⟩
          · obtain ⟨o', ho', rfl⟩ := ih h
            exact ⟨o', mem_cons_of_mem _ ho', rfl⟩

theorem reconcileIPPoolsFrom_sublist (client : Client) (os : List OrphanedIPReservations)
    (n : Nat) : (reconcileIPPoolsFrom client n os).1 <+ os.map cleanUpWrite := by
  induction os generalizing n with
  | nil => exact Sublist.slnil
  | cons o rest ih =>
      simp only [reconcileIPPoolsFrom, map_cons]
      split
      · exact (ih n).cons _
      · split
        · exact (nil_sublist _).cons₂ _
        · exact (ih (n + 1)).cons₂ _

/-- Each recorded pool's orphans occur, by pair, among its reservations. -/
def OrphansWellFormed (os : List OrphanedIPReservations) : Prop :=
  ∀ o ∈ os, o.allocations ≠ [] ∧ o.allocations <+ o.pool.allocations

theorem reconcileIPPoolsFrom_cons {client : Client} {o : OrphanedIPReservations}
    (ho : o.allocations ≠ [] ∧ o.allocations <+ o.pool.allocations)
    (rest : List OrphanedIPReservations) (n : Nat) :
    reconcileIPPoolsFrom client n (o :: rest) =
      match client.update n with
      | some err => ([cleanUpWrite o], .error ("failed to update the reservation list: " ++ err))
      | none => (cleanUpWrite o :: (reconcileIPPoolsFrom client (n + 1) rest).1,
          (reconcileIPPoolsFrom client (n + 1) rest).2.map (o.allocations.map (·.ip) ++ ·)) := by
  obtain ⟨-, -, -, hips⟩ := cleanUpPool_spec _ _ (ho.2.map allocationKey).subperm
  have hcleaned : o.allocations.map (·.ip) ≠ [] := by simpa using ho.1
  rcases h : client.update n with _ | err <;>
    simp only [reconcileIPPoolsFrom, hips, hcleaned, if_false, cleanUpWrite, h]

theorem reconcileIPPoolsFrom_of_forall_update {client : Client}
    (hupdate : ∀ n, client.update n = none) {os : List OrphanedIPReservations}
    (hos : OrphansWellFormed os) (n : Nat) :
    reconcileIPPoolsFrom client n os =
      (os.map cleanUpWrite, .ok ((os.flatMap (·.allocations)).map (·.ip))) := by
  induction os generalizing n with
  | nil => rfl
  | cons o rest ih =>
      rw [reconcileIPPoolsFrom_cons (hos o (mem_cons_self _ _)), hupdate,
        ih (fun o' ho' => hos o' (mem_cons_of_mem _ ho'))]
      simp [Except.map]

theorem reconcileIPPoolsFrom_of_update_error {client : Client}
    {pre post : List OrphanedIPReservations} {o : OrphanedIPReservations}
    (hos : OrphansWellFormed (pre ++ o :: post)) {err : String} :
    ∀ n, (∀ i < pre.length, client.update (n + i) = none) →
      client.update (n + pre.length) = some err →
      reconcileIPPoolsFrom client n (pre ++ o :: post) =
        (pre.map cleanUpWrite ++ [cleanUpWrite o],
          .error ("failed to update the reservation list: " ++ err)) := by
  induction pre with
  | nil =>
      intro n _ herr
      rw [length_nil, Nat.add_zero] at herr
      rw [nil_append, reconcileIPPoolsFrom_cons (hos o (mem_cons_self _ _)), herr]
      rfl
  | cons q pre ih =>
      intro n hupdate herr
      have hq : client.update n = none := hupdate 0 (Nat.zero_lt_succ _)
      have hshift : ∀ i < pre.length, client.update (n + 1 + i) = none := fun i hi => by
        rw [Nat.add_right_comm, Nat.add_assoc]
        exact hupdate (i + 1) (Nat.succ_lt_succ hi)
      have hrest := ih (fun o' ho' => hos o' (mem_cons_of_mem _ ho')) (n + 1) hshift
        (by rwa [length_cons, ← Nat.add_assoc, Nat.add_right_comm] at herr)
      rw [cons_append, reconcileIPPoolsFrom_cons (hos q (mem_cons_self _ _)), hq, hrest]
      rfl

/-! ## Deleting the cluster-wide records -/

theorem deleteClusterWideIPs_writes (client : Client) (records : List OverlappingRangeIPReservation)
    (i : Nat) : (deleteClusterWideIPs client i records).1 = records.map .deleteOverlappingIP := by
  induction records generalizing i with
  | nil => rfl
  | cons r rest ih => simp [deleteClusterWideIPs, ih]

/-! ## A whole run -/

theorem reconcileIPs_of_looper {client : Client} {rl : ReconcileLooper} {n : Nat}
    (hlooper : newReconcileLooperWithClient client = .ok (rl, n)) :
    reconcileIPs client =
      match (reconcileIPPools client rl).2 with
      | .error err => ((reconcileIPPools client rl).1, some err)
      | .ok _ => ((reconcileIPPools client rl).1 ++ rl.orphanedClusterWideIPs.map .deleteOverlappingIP,
          (reconcileOverlappingIPAddresses client rl).2) := by
  simp only [reconcileIPs, hlooper]
  rcases hr : reconcileIPPools client rl with ⟨writes, _ | _⟩ <;>
    simp [reconcileOverlappingIPAddresses, deleteClusterWideIPs_writes]

theorem mem_reconcileIPs {client : Client} {rl : ReconcileLooper} {n : Nat}
    (hlooper : newReconcileLooperWithClient client = .ok (rl, n)) {w : Write}
    (hw : w ∈ (reconcileIPs client).1) :
    (∃ o ∈ rl.orphanedIPs, w = cleanUpWrite o) ∨
      ∃ r ∈ rl.orphanedClusterWideIPs, w = .deleteOverlappingIP r := by
  rw [reconcileIPs_of_looper hlooper] at hw
  split at hw
  · exact .inl (mem_reconcileIPPoolsFrom hw)
  · rcases mem_append.mp hw with h | h
    · exact .inl (mem_reconcileIPPoolsFrom h)
    · obtain ⟨r, hr, rfl⟩ := mem_map.mp h
      exact .inr ⟨r, hr, rfl⟩

theorem exists_of_update_mem_reconcileIPs {client : Client} {pool : IPPool}
    {reservations : List IPReservation}
    (hw : Write.update pool reservations ∈ (reconcileIPs client).1) :
    ∃ rl n, newReconcileLooperWithClient client = .ok (rl, n) ∧ ∃ o ∈ rl.orphanedIPs,
      pool = o.pool ∧ reservations = (cleanUpPool o.pool.allocations o.allocations).1 := by
  rcases hlooper : newReconcileLooperWithClient client with _ | ⟨rl, n⟩
  · simp [reconcileIPs, hlooper] at hw
  rcases mem_reconcileIPs hlooper hw with ⟨o, ho, heq⟩ | ⟨_, _, heq⟩
  · exact ⟨rl, n, rfl, o, ho, Write.update.inj heq⟩
  · cases heq

theorem exists_of_deleteOverlappingIP_mem_reconcileIPs {client : Client}
    {r : OverlappingRangeIPReservation} (hw : Write.deleteOverlappingIP r ∈ (reconcileIPs client).1) :
    ∃ rl n, newReconcileLooperWithClient client = .ok (rl, n) ∧ r ∈ rl.orphanedClusterWideIPs := by
  rcases hlooper : newReconcileLooperWithClient client with _ | ⟨rl, n⟩
  · simp [reconcileIPs, hlooper] at hw
  rcases mem_reconcileIPs hlooper hw with ⟨_, _, heq⟩ | ⟨r', hr', heq⟩
  · cases heq
  · exact ⟨rl, n, rfl, Write.deleteOverlappingIP.inj heq ▸ hr'⟩

end Whereabouts.Reconciler
