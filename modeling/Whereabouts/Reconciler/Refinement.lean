import Whereabouts.Reconciler.PoolUpdates
/-!
# What a run does to the stores

When the pods stand still (`StaticPods`: every `GetPod` call for a pod gets the same
answer) a reservation's fate depends only on its pod's entry in the index, so each loop of
the looper is a filter.  A run from the stored objects `d` in which every write succeeds
leaves `reconcileStore d`; its purpose is `Datastore.reconciled`, each pool reduced to the
reservations the run keeps and the records to those it keeps.

* `reconcileStore_equiv_reconciled` — the faithful run refines that purpose: pool by
  pool, the stores after the run hold exactly the kept reservations, up to the order the
  swap-with-last deletion leaves, and exactly the kept records.
-/

namespace Whereabouts.Reconciler

open Whereabouts.Api Whereabouts.Storage List

/-- The pods stand still: every `GetPod` call for a pod gets the same answer. -/
def StaticPods (getPod : Nat → String → String → Except String Pod) : Prop :=
  ∀ n m podNamespace podName, getPod n podNamespace podName = getPod m podNamespace podName

/-! ## Classification when the pods stand still -/

section Static

variable {σ : Type}

theorem refreshLoop_fst_congr {refresh : σ → Option PodWrapper × σ}
    (hrefresh : ∀ s s', (refresh s).1 = (refresh s').1) (ip : String) (k : Nat) :
    ∀ (pod : PodWrapper) (s s' : σ),
      (refreshLoop refresh ip k pod s).1 = (refreshLoop refresh ip k pod s').1 := by
  induction k with
  | zero => intro _ _ _; rfl
  | succ k ih =>
      intro pod s s'
      have h := hrefresh s s'
      rcases hs : refresh s with ⟨_ | p, t⟩ <;> rcases hs' : refresh s' with ⟨_ | p', t'⟩ <;>
        simp only [hs, hs', Option.some.injEq, reduceCtorEq] at h
      · simp [refreshLoop, hs, hs']
      · subst h
        simp only [refreshLoop, hs, hs']
        split_ifs
        · rfl
        · rfl
        · exact ih p t t'

theorem isOrphanedIP_fst_congr {refreshPod : String → σ → Option PodWrapper × σ}
    {live live' : PodMap} {retries : Nat} {podRef ip : String}
    (hrefresh : ∀ s s', (refreshPod podRef s).1 = (refreshPod podRef s').1)
    (hlive : live podRef = live' podRef) (s s' : σ) :
    (isOrphanedIP refreshPod live retries podRef ip s).1 =
      (isOrphanedIP refreshPod live' retries podRef ip s').1 := by
  unfold isOrphanedIP
  rw [hlive]
  split
  · rfl
  · split
    · exact refreshLoop_fst_congr hrefresh ip retries _ s s'
    · rfl

end Static

theorem refreshPod_congr {client client' : Client} (h : client.getPod = client'.getPod) :
    refreshPod client = refreshPod client' := by
  funext podRef n
  simp only [refreshPod, h]

theorem refreshPod_fst_of_static {client : Client} (hstatic : StaticPods client.getPod)
    (podRef : String) (n m : Nat) : (refreshPod client podRef n).1 = (refreshPod client podRef m).1 := by
  simp only [refreshPod, hstatic n m]
  split
  · rfl
  · split <;> rfl

section Kept

variable {client client' : Client} {live live' : PodMap}
  {getPod : Nat → String → String → Except String Pod}

theorem classifyReservation_fst_congr (hstatic : StaticPods getPod)
    (hc : client.getPod = getPod) (hc' : client'.getPod = getPod) {r : IPReservation}
    (hlive : live r.podRef = live' r.podRef) (n m : Nat) :
    (classifyReservation client live r n).1 = (classifyReservation client' live' r m).1 := by
  unfold classifyReservation
  rw [← refreshPod_congr (hc.trans hc'.symm)]
  split
  · rfl
  · exact isOrphanedIP_fst_congr (refreshPod_fst_of_static (hc ▸ hstatic) _) hlive n m

theorem classifyClusterWideIP_fst_congr (hstatic : StaticPods getPod)
    (hc : client.getPod = getPod) (hc' : client'.getPod = getPod)
    {r : OverlappingRangeIPReservation} (hlive : live r.podRef = live' r.podRef) (n m : Nat) :
    (classifyClusterWideIP client live r n).1 = (classifyClusterWideIP client' live' r m).1 := by
  unfold classifyClusterWideIP
  rw [← refreshPod_congr (hc.trans hc'.symm)]
  exact isOrphanedIP_fst_congr (refreshPod_fst_of_static (hc ▸ hstatic) _) hlive n m

theorem classifyReservation_congr_key {x y : IPReservation}
    (h : allocationKey x = allocationKey y) (n : Nat) :
    classifyReservation client live x n = classifyReservation client live y n := by
  simp only [allocationKey, Prod.mk.injEq] at h
  simp [classifyReservation, h.1, h.2]

theorem indexed_of_classifyReservation {r : IPReservation} {n : Nat}
    (hkept : (classifyReservation client live r n).1 = true) (hr : r.podRef ≠ "") :
    live r.podRef ≠ none := by
  intro hnone
  simp [classifyReservation, hr, isOrphanedIP_of_none hnone] at hkept

theorem indexed_of_classifyClusterWideIP {r : OverlappingRangeIPReservation} {n : Nat}
    (hkept : (classifyClusterWideIP client live r n).1 = true) : live r.podRef ≠ none := by
  intro hnone
  simp [classifyClusterWideIP, isOrphanedIP_of_none hnone] at hkept

theorem findClusterWideIPReservations_of_static (hstatic : StaticPods client.getPod)
    (live : PodMap) (records : List OverlappingRangeIPReservation) (m : Nat) :
    (findClusterWideIPReservations client live records m).1 =
      records.filter fun r => !(classifyClusterWideIP client live r 0).1 := by
  have hkeep : ∀ r m, (classifyClusterWideIP client live r m).1 =
      (classifyClusterWideIP client live r 0).1 := fun r m =>
    classifyClusterWideIP_fst_congr hstatic rfl rfl rfl m 0
  exact collectOrphans_eq_filter hkeep records m

end Kept

/-! ## Runs over the stored objects

A run from the stored objects `d` lists `d`'s pools and records.  `reconcileStore` is
what the stores hold after such a run when every write succeeds and nobody else writes.
-/

/-- The index `NewReconcileLooperWithClient` builds from a pod listing and the pools. -/
def liveIndex (pods : List Pod) (pools : List IPPool) : PodMap :=
  indexPods pods (getPodRefsServedByWhereabouts pools)

/-- The stored objects after a run from `d` in which every write succeeds. -/
def reconcileStore (d : Datastore) (pods : List Pod)
    (getPod : Nat → String → String → Except String Pod) : Datastore :=
  d.applyAll (reconcileIPs (d.client pods getPod (fun _ => none) (fun _ => none))).1

/-- Whether the run from `d` keeps a pool reservation. -/
def keepsReservation (d : Datastore) (pods : List Pod)
    (getPod : Nat → String → String → Except String Pod) (x : IPReservation) : Bool :=
  (classifyReservation (d.client pods getPod (fun _ => none) (fun _ => none))
    (liveIndex pods d.ipPools) x 0).1

/-- Whether the run from `d` keeps a cluster-wide record. -/
def keepsClusterWideIP (d : Datastore) (pods : List Pod)
    (getPod : Nat → String → String → Except String Pod) (r : OverlappingRangeIPReservation) :
    Bool :=
  (classifyClusterWideIP (d.client pods getPod (fun _ => none) (fun _ => none))
    (liveIndex pods d.ipPools) r 0).1

theorem newReconcileLooperWithClient_client (d : Datastore) (pods : List Pod)
    (getPod : Nat → String → String → Except String Pod)
    (update deleteOverlappingIP : Nat → Option String) :
    ∃ rl n, newReconcileLooperWithClient (d.client pods getPod update deleteOverlappingIP) =
        .ok (rl, n) ∧
      rl.liveWhereaboutsPods = liveIndex pods d.ipPools ∧
      rl.orphanedIPs = (findOrphanedIPsPerPool (d.client pods getPod update deleteOverlappingIP)
        (liveIndex pods d.ipPools) d.ipPools 0).1 ∧
      ∃ m, rl.orphanedClusterWideIPs =
        (findClusterWideIPReservations (d.client pods getPod update deleteOverlappingIP)
          (liveIndex pods d.ipPools) d.overlappingIPs m).1 :=
  ⟨_, _, rfl, rfl, rfl, _, rfl⟩

/-! ## The pools after the updates of a run -/

section Lists

variable {α β γ : Type} {R : α → β → Prop} {S : β → γ → Prop} {T : α → γ → Prop}

theorem forall₂_comp (h : ∀ a b c, R a b → S b c → T a c) :
    ∀ {l₁ l₂ l₃}, Forall₂ R l₁ l₂ → Forall₂ S l₂ l₃ → Forall₂ T l₁ l₃
  | _, _, _, .nil, .nil => .nil
  | _, _, _, .cons hab hr, .cons hbc hs => .cons (h _ _ _ hab hbc) (forall₂_comp h hr hs)

end Lists

theorem forall₂_apply_cleanUpWrite {keep : IPReservation → Bool} {pools : List IPPool}
    (hnodup : (pools.map IPPool.name).Nodup) {o : OrphanedIPReservations} (ho : o.pool ∈ pools)
    (hcleaned : (cleanUpPool o.pool.allocations o.allocations).1 ~ o.pool.allocations.filter keep)
    {P : IPPool → IPPool → Prop} {d : Datastore}
    (hinv : Forall₂ (fun q q' => q'.name = q.name ∧
      (q'.allocations ~ q.allocations.filter keep ∨ P q q')) pools d.ipPools) :
    Forall₂ (fun q q' => q'.name = q.name ∧
      (q'.allocations ~ q.allocations.filter keep ∨ o.pool ≠ q ∧ P q q'))
      pools (d.apply (cleanUpWrite o)).ipPools := by
  simp only [Datastore.apply, cleanUpWrite, updatePool, forall₂_map_right_iff]
  refine ((forall₂_and_left _ _).mpr ⟨fun q hq => hq, hinv⟩).imp ?_
  rintro q q' ⟨hq, hname, h⟩
  by_cases hsame : q'.name = o.pool.name
  · rw [if_pos hsame]
    exact ⟨hname, .inl (inj_on_of_nodup_map hnodup ho hq (hsame.symm.trans hname) ▸ hcleaned)⟩
  · rw [if_neg hsame]
    exact ⟨hname, h.imp_right fun hP =>
      ⟨fun hpool => hsame (hname.trans (congrArg IPPool.name hpool).symm), hP⟩⟩

theorem applyAll_cleanUpWrites_forall₂ {keep : IPReservation → Bool} {pools : List IPPool}
    (hnodup : (pools.map IPPool.name).Nodup) {os : List OrphanedIPReservations}
    (hpool : ∀ o ∈ os, o.pool ∈ pools)
    (hcleaned : ∀ o ∈ os,
      (cleanUpPool o.pool.allocations o.allocations).1 ~ o.pool.allocations.filter keep)
    {d : Datastore}
    (hinv : Forall₂ (fun q q' => q'.name = q.name ∧
      (q'.allocations ~ q.allocations.filter keep ∨ q' = q ∧ ∃ o ∈ os, o.pool = q))
      pools d.ipPools) :
    Forall₂ (fun q q' => q'.name = q.name ∧ q'.allocations ~ q.allocations.filter keep)
      pools (d.applyAll (os.map cleanUpWrite)).ipPools := by
  induction os generalizing d with
  | nil => exact hinv.imp fun q q' ⟨hname, h⟩ => ⟨hname, h.resolve_right (by simp)⟩
  | cons o rest ih =>
      have ho := mem_cons_self o rest
      rw [map_cons, applyAll_cons]
      refine ih (fun o' ho' => hpool o' (mem_cons_of_mem _ ho'))
        (fun o' ho' => hcleaned o' (mem_cons_of_mem _ ho')) ?_
      refine (forall₂_apply_cleanUpWrite hnodup (hpool o ho) (hcleaned o ho) hinv).imp ?_
      rintro q q' ⟨hname, h | ⟨hne, hq', o', ho', hpq⟩⟩
      · exact ⟨hname, .inl h⟩
      · exact ⟨hname, .inr ⟨hq', o', (mem_cons.mp ho').resolve_left fun h => hne (h ▸ hpq), hpq⟩⟩

theorem applyAll_runWrites_forall₂ {keep : IPReservation → Bool} {pools : List IPPool}
    (hnodup : (pools.map IPPool.name).Nodup) {os : List OrphanedIPReservations}
    (hpool : ∀ o ∈ os, o.pool ∈ pools)
    (hcleaned : ∀ o ∈ os,
      (cleanUpPool o.pool.allocations o.allocations).1 ~ o.pool.allocations.filter keep)
    {ws : List Write}
    (hws : ∀ w ∈ ws, (∃ o ∈ os, w = cleanUpWrite o) ∨ ∃ r, w = .deleteOverlappingIP r)
    {d : Datastore}
    (hinv : Forall₂ (fun q q' => q'.name = q.name ∧
      (q'.allocations ~ q.allocations.filter keep ∨ q' = q)) pools d.ipPools) :
    Forall₂ (fun q q' => q'.name = q.name ∧
      (q'.allocations ~ q.allocations.filter keep ∨ q' = q)) pools (d.applyAll ws).ipPools := by
  induction ws generalizing d with
  | nil => exact hinv
  | cons w rest ih =>
      rw [applyAll_cons]
      refine ih (fun w' hw' => hws w' (mem_cons_of_mem _ hw')) ?_
      rcases hws w (mem_cons_self _ _) with ⟨o, ho, rfl⟩ | ⟨r, rfl⟩
      · exact (forall₂_apply_cleanUpWrite hnodup (hpool o ho) (hcleaned o ho) hinv).imp
          fun _ _ ⟨hname, h⟩ => ⟨hname, h.imp_right And.right⟩
      · exact hinv

section Run

variable (pods : List Pod) {getPod : Nat → String → String → Except String Pod}

theorem classifyReservation_client_fst (hstatic : StaticPods getPod) (d : Datastore)
    (update deleteOverlappingIP : Nat → Option String) (x : IPReservation) (m : Nat) :
    (classifyReservation (d.client pods getPod update deleteOverlappingIP)
      (liveIndex pods d.ipPools) x m).1 = keepsReservation d pods getPod x :=
  classifyReservation_fst_congr hstatic rfl rfl rfl m 0

theorem cleanUpPool_of_mem_findOrphanedIPsPerPool {client : Client} {live : PodMap}
    {pools : List IPPool} {keep : IPReservation → Bool}
    (hkeep : ∀ q ∈ pools, ∀ x ∈ q.allocations, ∀ m, (classifyReservation client live x m).1 = keep x)
    (hkey : ∀ x y, allocationKey x = allocationKey y → keep x = keep y)
    {o : OrphanedIPReservations} (ho : o ∈ (findOrphanedIPsPerPool client live pools 0).1) :
    o.pool ∈ pools ∧ (cleanUpPool o.pool.allocations o.allocations).1 ~ o.pool.allocations.filter keep := by
  obtain ⟨hpool, -, m, hos⟩ := mem_findOrphanedIPsPerPool ho
  have hfilter : o.allocations = o.pool.allocations.filter (!keep ·) :=
    hos.trans (collectOrphans_eq_filter_of_mem (hkeep o.pool hpool) m)
  rw [hfilter]
  exact ⟨hpool, by simpa using cleanUpPool_filter (!keep ·) (fun x y h => congrArg (!·) (hkey x y h)) _⟩

theorem cleanUpPool_of_mem_orphanedIPs (hstatic : StaticPods getPod) (d : Datastore)
    (update deleteOverlappingIP : Nat → Option String) {o : OrphanedIPReservations}
    (ho : o ∈ (findOrphanedIPsPerPool (d.client pods getPod update deleteOverlappingIP)
      (liveIndex pods d.ipPools) d.ipPools 0).1) :
    o.pool ∈ d.ipPools ∧ (cleanUpPool o.pool.allocations o.allocations).1 ~
      o.pool.allocations.filter (keepsReservation d pods getPod) :=
  cleanUpPool_of_mem_findOrphanedIPsPerPool
    (fun _ _ x _ m => classifyReservation_client_fst pods hstatic d update deleteOverlappingIP x m)
    (fun x y hxy => by simp only [keepsReservation, classifyReservation_congr_key hxy]) ho

theorem keepsReservation_congr (hstatic : StaticPods getPod) {d d' : Datastore} {x : IPReservation}
    (hx : x.podRef ∈ getPodRefsServedByWhereabouts d.ipPools)
    (hx' : x.podRef ∈ getPodRefsServedByWhereabouts d'.ipPools) :
    keepsReservation d' pods getPod x = keepsReservation d pods getPod x :=
  classifyReservation_fst_congr hstatic rfl rfl (indexPods_congr pods hx' hx) 0 0

theorem reconcileStore_ipPools_forall₂_of_keep {d : Datastore} {keep : IPReservation → Bool}
    (hkeep : ∀ q ∈ d.ipPools, ∀ x ∈ q.allocations, ∀ m,
      (classifyReservation (d.client pods getPod (fun _ => none) (fun _ => none))
        (liveIndex pods d.ipPools) x m).1 = keep x)
    (hkey : ∀ x y, allocationKey x = allocationKey y → keep x = keep y) :
    Forall₂ (fun q q' => q'.name = q.name ∧ q'.allocations ~ q.allocations.filter keep)
      d.ipPools (reconcileStore d pods getPod).ipPools := by
  obtain ⟨rl, n, hlooper, -, horphans, -⟩ :=
    newReconcileLooperWithClient_client d pods getPod (fun _ => none) (fun _ => none)
  have hpool := fun o (ho : o ∈ rl.orphanedIPs) =>
    cleanUpPool_of_mem_findOrphanedIPsPerPool hkeep hkey (horphans ▸ ho)
  have hinit : Forall₂ (fun q q' => q'.name = q.name ∧
      (q'.allocations ~ q.allocations.filter keep ∨
        q' = q ∧ ∃ o ∈ rl.orphanedIPs, o.pool = q)) d.ipPools d.ipPools := by
    refine forall₂_same.mpr fun q hq => ⟨rfl, ?_⟩
    by_cases hgood : ∀ x ∈ q.allocations, keep x = true
    · exact .inl (by rw [filter_eq_self.mpr hgood])
    · obtain ⟨x, hx, hbad⟩ : ∃ x ∈ q.allocations, keep x = false := by simpa using hgood
      obtain ⟨o, ho, rfl, -⟩ := exists_mem_findOrphanedIPsPerPool hq hx
        (fun m => (hkeep q hq x hx m).trans hbad) 0
      exact .inr ⟨rfl, o, horphans ▸ ho, rfl⟩
  unfold reconcileStore
  rw [reconcileIPs_of_forall_update hlooper (fun _ => rfl), applyAll_append,
    applyAll_deletes_ipPools]
  exact applyAll_cleanUpWrites_forall₂ d.ipPools_nodup (fun o ho => (hpool o ho).1)
    (fun o ho => (hpool o ho).2) hinit

theorem reconcileStore_ipPools_forall₂ (hstatic : StaticPods getPod) (d : Datastore) :
    Forall₂ (fun q q' => q'.name = q.name ∧
        q'.allocations ~ q.allocations.filter (keepsReservation d pods getPod))
      d.ipPools (reconcileStore d pods getPod).ipPools :=
  reconcileStore_ipPools_forall₂_of_keep pods
    (fun _ _ x _ m => classifyReservation_client_fst pods hstatic d _ _ x m)
    (fun x y hxy => by simp only [keepsReservation, classifyReservation_congr_key hxy])

theorem reconcileStore_overlappingIPs_eq_of_keep {d : Datastore}
    {keep : OverlappingRangeIPReservation → Bool}
    (hkeep : ∀ r ∈ d.overlappingIPs, ∀ m,
      (classifyClusterWideIP (d.client pods getPod (fun _ => none) (fun _ => none))
        (liveIndex pods d.ipPools) r m).1 = keep r) :
    (reconcileStore d pods getPod).overlappingIPs = d.overlappingIPs.filter keep := by
  obtain ⟨rl, n, hlooper, -, -, m, hwide⟩ :=
    newReconcileLooperWithClient_client d pods getPod (fun _ => none) (fun _ => none)
  have hdeleted : rl.orphanedClusterWideIPs = d.overlappingIPs.filter (!keep ·) :=
    hwide.trans (collectOrphans_eq_filter_of_mem hkeep m)
  have hupdates : ∀ w ∈ rl.orphanedIPs.map cleanUpWrite, ∃ pool reservations,
      w = .update pool reservations := by
    intro w hw
    obtain ⟨o, -, rfl⟩ := mem_map.mp hw
    exact ⟨_, _, rfl⟩
  unfold reconcileStore
  rw [reconcileIPs_of_forall_update hlooper (fun _ => rfl), applyAll_append,
    applyAll_deletes_overlappingIPs, applyAll_updates_overlappingIPs _ hupdates, hdeleted]
  exact filter_congr fun r hr => by simp [name_mem_filter_iff d.overlappingIPs_nodup hr]

theorem reconcileStore_overlappingIPs_eq (hstatic : StaticPods getPod) (d : Datastore) :
    (reconcileStore d pods getPod).overlappingIPs =
      d.overlappingIPs.filter (keepsClusterWideIP d pods getPod) :=
  reconcileStore_overlappingIPs_eq_of_keep pods fun _ _ m =>
    classifyClusterWideIP_fst_congr hstatic rfl rfl rfl m 0

theorem reconcileStore_equiv_reconciled (hstatic : StaticPods getPod) (d : Datastore) :
    (reconcileStore d pods getPod).Equiv
      (d.reconciled (keepsReservation d pods getPod) (keepsClusterWideIP d pods getPod)) := by
  unfold Datastore.Equiv
  refine ⟨?_, reconcileStore_overlappingIPs_eq pods hstatic d⟩
  simp only [Datastore.reconciled, forall₂_map_right_iff]
  exact (reconcileStore_ipPools_forall₂ pods hstatic d).flip

end Run

/-! ## A pod whose stale reservation goes -/

/-- A `GetPod` that never finds the pod. -/
def getPodNotFound : Nat → String → String → Except String Pod := fun _ _ _ => .error "not found"

theorem staticPods_getPodNotFound : StaticPods getPodNotFound := fun _ _ _ _ => rfl

/-- A reservation of `default/web-0` for an IP the pod no longer lists. -/
def staleReservation : IPReservation :=
  { ip := ⟨"10.0.0.9"⟩, containerID := "c0", podRef := "default/web-0", ifName := "net1" }

/-- A pool holding only that reservation. -/
def stalePool : IPPool := { name := "10.0.0.0-24", allocations := [staleReservation] }

/-- The stale pool, and the cluster-wide record of the IP `default/web-0` does list. -/
def staleStore : Datastore := ⟨[stalePool], [webRecord], by decide, by decide⟩

theorem reconcileStore_equiv_reconciled_staleStore :
    StaticPods getPodNotFound ∧
    (reconcileStore staleStore [startedPod] getPodNotFound).Equiv
      (staleStore.reconciled (keepsReservation staleStore [startedPod] getPodNotFound)
        (keepsClusterWideIP staleStore [startedPod] getPodNotFound)) :=
  ⟨staticPods_getPodNotFound,
    reconcileStore_equiv_reconciled [startedPod] staticPods_getPodNotFound staleStore⟩

end Whereabouts.Reconciler
