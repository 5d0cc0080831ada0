import Whereabouts.Reconciler.Refinement
/-!
# Running the reconciler twice

When the pods stand still, the first successful run leaves every pool settled: each
reservation left is one a run over those pools keeps.  The second run rebuilds its index
from the pools the first run left, so:

* `reconcileIPs_second_run_deletes_only_unserved_records` — the second run updates no
  pool; it deletes only cluster-wide records whose pod held pool reservations before
  the first run and holds none after it, which the first run kept;
* `reconcileIPs_third_run_writes_nothing` — a third run writes nothing;
* `reconcileStore_completes_interrupted_run` — after any of a run's writes have taken
  effect, whatever became of the others, the next successful run leaves the pools a single
  successful run would have left.
-/

namespace Whereabouts.Reconciler

open Whereabouts.Api Whereabouts.Storage List

/-- Every reservation of `pools` is kept by a run over them, whatever came before. -/
def PoolsSettled (pods : List Pod) (getPod : Nat → String → String → Except String Pod)
    (pools : List IPPool) : Prop :=
  ∀ q ∈ pools, ∀ x ∈ q.allocations, ∀ client : Client, client.getPod = getPod → ∀ m,
    (classifyReservation client (liveIndex pods pools) x m).1 = true

theorem reconcileIPs_of_orphanedIPs_nil {client : Client} {rl : ReconcileLooper} {n : Nat}
    (hlooper : newReconcileLooperWithClient client = .ok (rl, n)) (hnil : rl.orphanedIPs = []) :
    (reconcileIPs client).1 = rl.orphanedClusterWideIPs.map .deleteOverlappingIP := by
  rw [reconcileIPs_of_looper hlooper]
  simp [reconcileIPPools, hnil, reconcileIPPoolsFrom]

section Runs

variable (pods : List Pod) {getPod : Nat → String → String → Except String Pod}

theorem reconcileStore_ipPools_kept (hstatic : StaticPods getPod) (d : Datastore) :
    ∀ q ∈ (reconcileStore d pods getPod).ipPools, ∀ x ∈ q.allocations,
      keepsReservation d pods getPod x = true := by
  have hkept : Forall₂ (fun q (_ : IPPool) => (∀ x ∈ q.allocations,
      keepsReservation d pods getPod x = true) ∧ True) (reconcileStore d pods getPod).ipPools
      d.ipPools :=
    (reconcileStore_ipPools_forall₂ pods hstatic d).flip.imp fun _ _ ⟨_, hperm⟩ =>
      ⟨fun x hx => (mem_filter.mp (hperm.subset hx)).2, trivial⟩
  exact ((forall₂_and_left _ _).mp hkept).1

theorem reconcileStore_overlappingIPs_kept (hstatic : StaticPods getPod) (d : Datastore)
    {r : OverlappingRangeIPReservation} (hr : r ∈ (reconcileStore d pods getPod).overlappingIPs) :
    r ∈ d.overlappingIPs ∧ keepsClusterWideIP d pods getPod r = true := by
  rw [reconcileStore_overlappingIPs_eq pods hstatic d] at hr
  exact mem_filter.mp hr

theorem poolsSettled_reconcileStore (hstatic : StaticPods getPod) (d : Datastore) :
    PoolsSettled pods getPod (reconcileStore d pods getPod).ipPools := by
  intro q hq x hx client hc m
  by_cases hempty : x.podRef = ""
  · simp [classifyReservation, hempty]
  have hkept := reconcileStore_ipPools_kept pods hstatic d q hq x hx
  obtain ⟨livePod, hlive⟩ :=
    Option.ne_none_iff_exists'.mp (indexed_of_classifyReservation hkept hempty)
  have hserved : x.podRef ∈ getPodRefsServedByWhereabouts (reconcileStore d pods getPod).ipPools :=
    mem_getPodRefsServedByWhereabouts.mpr ⟨q, hq, x, hx, rfl⟩
  exact (classifyReservation_fst_congr hstatic hc rfl
    (indexPods_congr pods hserved (mem_of_indexPods_eq_some hlive)) m 0).trans hkept

theorem findOrphanedIPsPerPool_of_poolsSettled {client : Client} (hc : client.getPod = getPod)
    {pools : List IPPool} (hsettled : PoolsSettled pods getPod pools) (n : Nat) :
    (findOrphanedIPsPerPool client (liveIndex pods pools) pools n).1 = [] := by
  refine eq_nil_iff_forall_not_mem.mpr fun o ho => ?_
  obtain ⟨hpool, hne, m, hos⟩ := mem_findOrphanedIPsPerPool ho
  obtain ⟨x, hx⟩ := exists_mem_of_ne_nil _ hne
  rw [hos] at hx
  obtain ⟨m', hm'⟩ := classify_of_mem_collectOrphans hx
  rw [hsettled o.pool hpool x ((collectOrphans_sublist _ _).subset hx) client hc m'] at hm'
  cases hm'

theorem reconcileIPs_of_poolsSettled (hstatic : StaticPods getPod) {d : Datastore}
    (hsettled : PoolsSettled pods getPod d.ipPools) (update deleteOverlappingIP : Nat → Option String) :
    (reconcileIPs (d.client pods getPod update deleteOverlappingIP)).1 =
      (d.overlappingIPs.filter fun r => !(classifyClusterWideIP
        (d.client pods getPod update deleteOverlappingIP) (liveIndex pods d.ipPools) r 0).1).map
        .deleteOverlappingIP := by
  obtain ⟨rl, n, hlooper, -, horphans, m, hwide⟩ :=
    newReconcileLooperWithClient_client d pods getPod update deleteOverlappingIP
  rw [reconcileIPs_of_orphanedIPs_nil hlooper
      (horphans.trans (findOrphanedIPsPerPool_of_poolsSettled pods rfl hsettled 0)),
    hwide, findClusterWideIPReservations_of_static hstatic]

theorem reconcileStore_ipPools_of_poolsSettled (hstatic : StaticPods getPod) {d : Datastore}
    (hsettled : PoolsSettled pods getPod d.ipPools) :
    (reconcileStore d pods getPod).ipPools = d.ipPools := by
  unfold reconcileStore
  rw [reconcileIPs_of_poolsSettled pods hstatic hsettled]
  exact applyAll_deletes_ipPools _ _

/-! ## The second and third runs -/

theorem reconcileIPs_second_run_deletes_only_unserved_records (d : Datastore)
    (hstatic : StaticPods getPod) (update deleteOverlappingIP : Nat → Option String) {w : Write}
    (hw : w ∈ (reconcileIPs ((reconcileStore d pods getPod).client pods getPod update
      deleteOverlappingIP)).1) :
    ∃ r, w = .deleteOverlappingIP r ∧ r ∈ (reconcileStore d pods getPod).overlappingIPs ∧
      r.podRef ∈ getPodRefsServedByWhereabouts d.ipPools ∧
      r.podRef ∉ getPodRefsServedByWhereabouts (reconcileStore d pods getPod).ipPools := by
  rw [reconcileIPs_of_poolsSettled pods hstatic (poolsSettled_reconcileStore pods hstatic d)] at hw
  obtain ⟨r, hr, rfl⟩ := mem_map.mp hw
  obtain ⟨hmem, hdeleted⟩ := mem_filter.mp hr
  obtain ⟨-, hkept⟩ := reconcileStore_overlappingIPs_kept pods hstatic d hmem
  obtain ⟨livePod, hlive⟩ := Option.ne_none_iff_exists'.mp (indexed_of_classifyClusterWideIP hkept)
  have hserved := mem_of_indexPods_eq_some hlive
  refine ⟨r, rfl, hmem, hserved, fun hserved' => ?_⟩
  set d₁ := reconcileStore d pods getPod
  have hsame : (classifyClusterWideIP (d₁.client pods getPod update deleteOverlappingIP)
      (liveIndex pods d₁.ipPools) r 0).1 = keepsClusterWideIP d pods getPod r :=
    classifyClusterWideIP_fst_congr hstatic rfl rfl (indexPods_congr pods hserved' hserved) 0 0
  simp [hsame, hkept] at hdeleted

theorem reconcileIPs_third_run_writes_nothing (d : Datastore) (hstatic : StaticPods getPod)
    (update deleteOverlappingIP : Nat → Option String) :
    (reconcileIPs ((reconcileStore (reconcileStore d pods getPod) pods getPod).client pods getPod
      update deleteOverlappingIP)).1 = [] := by
  set d₁ := reconcileStore d pods getPod
  have hsettled := poolsSettled_reconcileStore pods hstatic d
  have hpools : (reconcileStore d₁ pods getPod).ipPools = d₁.ipPools :=
    reconcileStore_ipPools_of_poolsSettled pods hstatic hsettled
  have hsettled' : PoolsSettled pods getPod (reconcileStore d₁ pods getPod).ipPools :=
    hpools ▸ hsettled
  rw [reconcileIPs_of_poolsSettled pods hstatic hsettled', map_eq_nil_iff, filter_eq_nil_iff]
  intro r hr
  obtain ⟨-, hkept⟩ := reconcileStore_overlappingIPs_kept pods hstatic d₁ hr
  have hsame : (classifyClusterWideIP ((reconcileStore d₁ pods getPod).client pods getPod update
      deleteOverlappingIP) (liveIndex pods (reconcileStore d₁ pods getPod).ipPools) r 0).1 =
      keepsClusterWideIP d₁ pods getPod r :=
    classifyClusterWideIP_fst_congr hstatic rfl rfl (by rw [hpools]) 0 0
  simp [hsame, hkept]

/-! ## After an interrupted run -/

/-- A run that got only part way is completed by the next one: whatever became of a run's
writes, once any of them have taken effect, in any order, a following successful run
leaves every pool holding exactly the reservations the interrupted run would have kept. -/
theorem reconcileStore_completes_interrupted_run (hstatic : StaticPods getPod) (d : Datastore)
    (update deleteOverlappingIP : Nat → Option String) {ws : List Write}
    (hws : ∀ w ∈ ws, w ∈ (reconcileIPs (d.client pods getPod update deleteOverlappingIP)).1) :
    Forall₂ (fun q q' => q'.name = q.name ∧
        q'.allocations ~ q.allocations.filter (keepsReservation d pods getPod))
      d.ipPools (reconcileStore (d.applyAll ws) pods getPod).ipPools := by
  obtain ⟨rl, n, hlooper, -, horphans, -⟩ :=
    newReconcileLooperWithClient_client d pods getPod update deleteOverlappingIP
  have hpool := fun o (ho : o ∈ rl.orphanedIPs) =>
    cleanUpPool_of_mem_orphanedIPs pods hstatic d update deleteOverlappingIP (horphans ▸ ho)
  have hpartial : Forall₂ (fun q q' => q'.name = q.name ∧
      (q'.allocations ~ q.allocations.filter (keepsReservation d pods getPod) ∨ q' = q))
      d.ipPools (d.applyAll ws).ipPools :=
    applyAll_runWrites_forall₂ d.ipPools_nodup (fun o ho => (hpool o ho).1)
      (fun o ho => (hpool o ho).2)
      (fun w hw => (mem_reconcileIPs hlooper (hws w hw)).imp_right fun ⟨r, _, h⟩ => ⟨r, h⟩)
      (forall₂_same.mpr fun _ _ => ⟨rfl, .inr rfl⟩)
  refine forall₂_comp ?_ ((forall₂_and_left _ _).mpr ⟨fun q hq => hq, hpartial⟩)
    ((forall₂_and_left _ _).mpr ⟨fun q hq => hq, reconcileStore_ipPools_forall₂ pods hstatic _⟩)
  rintro q q' q'' ⟨hq, hname, hstep⟩ ⟨hq', hname', hnext⟩
  obtain ⟨hfilter, hsub⟩ : q'.allocations.filter (keepsReservation d pods getPod) ~
      q.allocations.filter (keepsReservation d pods getPod) ∧
      ∀ x ∈ q'.allocations, x ∈ q.allocations := by
    rcases hstep with hcleaned | rfl
    · exact ⟨(hcleaned.filter _).trans (.of_eq (by simp [filter_filter])),
        fun x hx => (mem_filter.mp (hcleaned.subset hx)).1⟩
    · exact ⟨.refl _, fun _ hx => hx⟩
  have hkeep : q'.allocations.filter (keepsReservation (d.applyAll ws) pods getPod) =
      q'.allocations.filter (keepsReservation d pods getPod) :=
    filter_congr fun x hx => keepsReservation_congr pods hstatic
      (mem_getPodRefsServedByWhereabouts.mpr ⟨q, hq, x, hsub x hx, rfl⟩)
      (mem_getPodRefsServedByWhereabouts.mpr ⟨q', hq', x, hx, rfl⟩)
  exact ⟨hname'.trans hname, hnext.trans (hkeep ▸ hfilter)⟩

end Runs

/-! ## A pod whose stale reservation goes -/

/-- The first run frees the stale reservation, after which `default/web-0` holds no pool
reservation; the second run drops the pod from its index and deletes its record. -/
theorem reconcileIPs_second_run_deletes_webRecord :
    StaticPods getPodNotFound ∧
    (reconcileIPs (staleStore.client [startedPod] getPodNotFound (fun _ => none)
      (fun _ => none))).1 = [Write.update stalePool []] ∧
    (reconcileIPs ((reconcileStore staleStore [startedPod] getPodNotFound).client [startedPod]
      getPodNotFound (fun _ => none) (fun _ => none))).1 = [Write.deleteOverlappingIP webRecord] :=
  ⟨staticPods_getPodNotFound, by decide, by decide⟩

theorem reconcileIPs_second_run_staleStore :
    StaticPods getPodNotFound ∧
    Write.deleteOverlappingIP webRecord ∈ (reconcileIPs ((reconcileStore staleStore [startedPod]
      getPodNotFound).client [startedPod] getPodNotFound (fun _ => none) (fun _ => none))).1 ∧
    webRecord.podRef ∈ getPodRefsServedByWhereabouts staleStore.ipPools ∧
    webRecord.podRef ∉ getPodRefsServedByWhereabouts
      (reconcileStore staleStore [startedPod] getPodNotFound).ipPools := by
  have hw : Write.deleteOverlappingIP webRecord ∈ (reconcileIPs ((reconcileStore staleStore
      [startedPod] getPodNotFound).client [startedPod] getPodNotFound (fun _ => none)
      (fun _ => none))).1 := by decide
  obtain ⟨r, hr, -, hserved, hunserved⟩ :=
    reconcileIPs_second_run_deletes_only_unserved_records [startedPod] staleStore
      staticPods_getPodNotFound _ _ hw
  obtain rfl := Write.deleteOverlappingIP.inj hr
  exact ⟨staticPods_getPodNotFound, hw, hserved, hunserved⟩

theorem reconcileIPs_third_run_staleStore :
    StaticPods getPodNotFound ∧
    (reconcileIPs ((reconcileStore (reconcileStore staleStore [startedPod] getPodNotFound)
      [startedPod] getPodNotFound).client [startedPod] getPodNotFound (fun _ => none)
      (fun _ => none))).1 = [] :=
  ⟨staticPods_getPodNotFound,
    reconcileIPs_third_run_writes_nothing [startedPod] staleStore staticPods_getPodNotFound _ _⟩

theorem reconcileStore_completes_interrupted_run_staleStore :
    StaticPods getPodNotFound ∧
    Forall₂ (fun q q' => q'.name = q.name ∧
        q'.allocations ~ q.allocations.filter (keepsReservation staleStore [startedPod] getPodNotFound))
      staleStore.ipPools
      (reconcileStore (staleStore.applyAll (reconcileIPs (staleStore.client [startedPod]
        getPodNotFound (fun _ => some "conflict") (fun _ => none))).1) [startedPod]
        getPodNotFound).ipPools :=
  ⟨staticPods_getPodNotFound, reconcileStore_completes_interrupted_run [startedPod]
    staticPods_getPodNotFound staleStore _ _ fun _ hw => hw⟩

end Whereabouts.Reconciler
