import Whereabouts.Reconciler.Refinement
import Whereabouts.Reconciler.Outcome
/-!
# The orphan rule

The spec says what a run is for (4.5, steps 3, 4 and 6): a reservation of `ip` by
`podRef` is an orphan unless a live pod of `podRef` lists `ip`, and a Pending pod that does
not list it yet is re-fetched and judged by what the re-fetch shows.  `KeepsIP` is that
rule over the pod listing and, for the re-fetch, the `GetPod` answers, with none of the
index, the refresh loop or the call count of the code.

* `isOrphanedIP_indexPods` — when the pods stand still and the listing has one pod per
  reference, `isOrphanedIP` over the index decides `KeepsIP` for every reference the pools
  use, Pending pods included;
* `reconcileStore_equiv_keepsIP` — so a successful run leaves each pool holding exactly
  the reservations without a pod reference or kept by the rule, up to order, and exactly
  the records whose pod holds a pool reservation and which the rule keeps.
-/

namespace Whereabouts.Reconciler

open Whereabouts.Api Whereabouts.Storage List

/-! ## The rule -/

/-- `pod`'s network-status annotation parses and lists `ip` on a non-default network. -/
def ListedOn (pod : Pod) (ip : String) : Prop :=
  ∃ networks, pod.networkStatus = some networks ∧
    ∃ network ∈ networks, network.default = false ∧ ip ∈ network.ips

instance (pod : Pod) (ip : String) : Decidable (ListedOn pod ip) :=
  decidable_of_iff (∃ network ∈ pod.networkStatus.getD [], network.default = false ∧ ip ∈ network.ips)
    (by unfold ListedOn; rcases pod.networkStatus with _ | networks <;> simp)

/-- `GetPod` finds `pod` again, and the pod it returns lists `ip`. -/
def FetchedListedOn (getPod : Nat → String → String → Except String Pod) (pod : Pod)
    (ip : String) : Prop :=
  ∃ fetched, getPod 0 pod.podNamespace pod.podName = .ok fetched ∧ ListedOn fetched ip

instance (getPod : Nat → String → String → Except String Pod) (pod : Pod) (ip : String) :
    Decidable (FetchedListedOn getPod pod ip) :=
  match h : getPod 0 pod.podNamespace pod.podName with
  | .ok fetched => decidable_of_iff (ListedOn fetched ip)
      ⟨fun hl => ⟨fetched, h, hl⟩, fun ⟨_, hf, hl⟩ => Except.ok.inj (h.symm.trans hf) ▸ hl⟩
  | .error _ => isFalse fun ⟨_, hf, _⟩ => by cases h.symm.trans hf

/-- The orphan rule, for pods that stand still: a reservation of `ip` by `podRef` is kept
when the listing has a pod of `podRef`, not being evicted, that lists `ip`, or that is
Pending and whose re-fetched state lists `ip`. -/
def KeepsIP (pods : List Pod) (getPod : Nat → String → String → Except String Pod)
    (podRef ip : String) : Prop :=
  ∃ pod ∈ pods, composePodRef pod = podRef ∧ isPodMarkedForDeletion pod.conditions = false ∧
    (ListedOn pod ip ∨ pod.phase = .pending ∧ FetchedListedOn getPod pod ip)

instance (pods : List Pod) (getPod : Nat → String → String → Except String Pod)
    (podRef ip : String) : Decidable (KeepsIP pods getPod podRef ip) :=
  inferInstanceAs (Decidable (∃ pod ∈ pods, composePodRef pod = podRef ∧
    isPodMarkedForDeletion pod.conditions = false ∧
    (ListedOn pod ip ∨ pod.phase = .pending ∧ FetchedListedOn getPod pod ip)))

theorem keepsIP_composePodRef_iff {pods : List Pod} (hunique : (pods.map composePodRef).Nodup)
    {pod : Pod} (hpod : pod ∈ pods) (hmarked : isPodMarkedForDeletion pod.conditions = false)
    (getPod : Nat → String → String → Except String Pod) (ip : String) :
    KeepsIP pods getPod (composePodRef pod) ip ↔
      ListedOn pod ip ∨ pod.phase = .pending ∧ FetchedListedOn getPod pod ip :=
  ⟨fun ⟨_, hp, href, _, h⟩ => inj_on_of_nodup_map hunique hp hpod href ▸ h,
    fun h => ⟨pod, hpod, rfl, hmarked, h⟩⟩

/-! ## The grace window when the pods stand still -/

theorem refreshLoop_fst_of_const {σ : Type} {refresh : σ → Option PodWrapper × σ}
    {a : Option PodWrapper} (hrefresh : ∀ s, (refresh s).1 = a) (ip : String) (k : Nat) :
    ∀ (pod : PodWrapper) (s : σ), (refreshLoop refresh ip (k + 1) pod s).1 = graceVerdict ip a := by
  induction k with
  | zero =>
      intro pod s
      rcases hs : refresh s with ⟨_ | p, t⟩ <;> have ha := hrefresh s <;> rw [hs] at ha <;> subst ha
      · simp [refreshLoop, hs, graceVerdict]
      · rw [refreshLoop, hs]
        simp only [graceVerdict]
        split_ifs <;> simp_all [refreshLoop, isIpOnPod]
  | succ k ih =>
      intro pod s
      rcases hs : refresh s with ⟨_ | p, t⟩ <;> have ha := hrefresh s <;> rw [hs] at ha <;> subst ha
      · simp [refreshLoop, hs, graceVerdict]
      · have hnext := ih p t
        rw [refreshLoop, hs]
        simp only [graceVerdict] at hnext ⊢
        split_ifs <;> simp_all [isIpOnPod]

theorem graceVerdict_getPodAnswer (client : Client) (pod : Pod) (ip : String) :
    graceVerdict ip (getPodAnswer client pod.podNamespace pod.podName 0) =
      decide (FetchedListedOn client.getPod pod ip) := by
  rw [Bool.eq_iff_iff, decide_eq_true_iff]
  unfold getPodAnswer FetchedListedOn
  rcases client.getPod 0 pod.podNamespace pod.podName with _ | fetched <;>
    simp [graceVerdict, mem_wrapPod_ips_iff, ListedOn]

/-! ## The classification is the rule -/

theorem isOrphanedIP_indexPods (client : Client) (hstatic : StaticPods client.getPod)
    {pods : List Pod} (hunique : (pods.map composePodRef).Nodup)
    (hnames : ∀ pod ∈ pods, pod.phase = .pending → pod.podNamespace ≠ "" ∧ pod.podName ≠ "" ∧
      '/' ∉ pod.podNamespace.data ∧ '/' ∉ pod.podName.data)
    {names : List String} {podRef : String} (hserved : podRef ∈ names) (ip : String) (n : Nat) :
    (isOrphanedIP (refreshPod client) (indexPods pods names) podRefreshRetries podRef ip n).1 =
      decide (KeepsIP pods client.getPod podRef ip) := by
  by_cases hlive : ∃ pod ∈ pods, composePodRef pod = podRef ∧
      isPodMarkedForDeletion pod.conditions = false
  · obtain ⟨pod, hpod, rfl, hmarked⟩ := hlive
    rw [Bool.eq_iff_iff, decide_eq_true_iff, keepsIP_composePodRef_iff hunique hpod hmarked]
    unfold isOrphanedIP
    rw [indexPods_of_mem hunique hpod hserved hmarked]
    by_cases hip : ListedOn pod ip
    · have hip' : ip ∈ (wrapPod pod).ips := mem_wrapPod_ips_iff.mpr hip
      simp [isIpOnPod, hip', hip]
    · have hip' : ip ∉ (wrapPod pod).ips := fun h => hip (mem_wrapPod_ips_iff.mp h)
      by_cases hphase : pod.phase = .pending
      · obtain ⟨hns, hname, hns', hname'⟩ := hnames pod hpod hphase
        have hconst : ∀ s, (refreshPod client (composePodRef pod) s).1 =
            getPodAnswer client pod.podNamespace pod.podName 0 := fun s => by
          rw [refreshPod_fst_of_static hstatic _ s 0,
            refreshPod_eq_seqRefresh (splitPodRef_composePodRef hns' hname') hns hname]
          rfl
        have hloop : (refreshLoop (refreshPod client (composePodRef pod)) ip podRefreshRetries
            (wrapPod pod) n).1 = decide (FetchedListedOn client.getPod pod ip) := by
          rw [← graceVerdict_getPodAnswer]
          exact refreshLoop_fst_of_const hconst ip 2 _ n
        have hphase' : (wrapPod pod).phase = .pending := hphase
        simp [isIpOnPod, hip', hphase', hloop, hip, hphase]
      · have hphase' : (wrapPod pod).phase ≠ .pending := hphase
        simp [isIpOnPod, hip', hphase', hip, hphase]
  · have hnone : indexPods pods names podRef = none :=
      indexPods_of_forall_marked fun pod hpod href =>
        Bool.eq_true_of_not_eq_false fun hmarked => hlive ⟨pod, hpod, href, hmarked⟩
    rw [isOrphanedIP_of_none hnone]
    exact (decide_eq_false fun ⟨pod, hpod, href, hmarked, _⟩ => hlive ⟨pod, hpod, href, hmarked⟩).symm

/-! ## A successful run keeps what the rule keeps -/

/-- When the pods stand still and the listing has one pod per reference, with a
well-formed name for each Pending pod, a successful run leaves each pool holding exactly
its reservations without a pod reference or kept by the rule, up to order, and exactly the
records whose pod holds a pool reservation and which the rule keeps, under their
de-normalised names. -/
theorem reconcileStore_equiv_keepsIP (pods : List Pod)
    {getPod : Nat → String → String → Except String Pod} (hstatic : StaticPods getPod)
    (hunique : (pods.map composePodRef).Nodup)
    (hnames : ∀ pod ∈ pods, pod.phase = .pending → pod.podNamespace ≠ "" ∧ pod.podName ≠ "" ∧
      '/' ∉ pod.podNamespace.data ∧ '/' ∉ pod.podName.data)
    (d : Datastore) :
    (reconcileStore d pods getPod).Equiv (d.reconciled
      (fun x => decide (x.podRef = "" ∨ KeepsIP pods getPod x.podRef x.ip.string))
      (fun r => decide (r.podRef ∈ getPodRefsServedByWhereabouts d.ipPools ∧
        KeepsIP pods getPod r.podRef (replaceAll r.name '-' ':')))) := by
  have hrule : ∀ {podRef}, podRef ∈ getPodRefsServedByWhereabouts d.ipPools → ∀ ip n,
      (isOrphanedIP (refreshPod (d.client pods getPod (fun _ => none) (fun _ => none)))
        (liveIndex pods d.ipPools) podRefreshRetries podRef ip n).1 =
        decide (KeepsIP pods getPod podRef ip) := fun hserved =>
    isOrphanedIP_indexPods (d.client pods getPod (fun _ => none) (fun _ => none)) hstatic
      hunique hnames hserved
  refine ⟨?_, reconcileStore_overlappingIPs_eq_of_keep pods fun r _ m => ?_⟩
  · simp only [Datastore.reconciled, forall₂_map_right_iff]
    refine (reconcileStore_ipPools_forall₂_of_keep pods (fun q hq x hx m => ?_)
      fun x y hxy => ?_).flip
    · by_cases hne : x.podRef = ""
      · simp [classifyReservation, hne]
      · simp only [classifyReservation, hne, if_false,
          hrule (mem_getPodRefsServedByWhereabouts.mpr ⟨q, hq, x, hx, rfl⟩)]
        simp [hne]
    · simp only [allocationKey, Prod.mk.injEq] at hxy
      rw [hxy.1, hxy.2]
  · unfold classifyClusterWideIP
    by_cases hserved : r.podRef ∈ getPodRefsServedByWhereabouts d.ipPools
    · rw [hrule hserved]
      simp [hserved]
    · have hnone : liveIndex pods d.ipPools r.podRef = none := indexPods_of_not_mem hserved
      rw [isOrphanedIP_of_none hnone]
      simp [hserved]

/-- `GetPod` finds `default/web-0` up, listing `10.0.0.1`. -/
def getPodStarted : Nat → String → String → Except String Pod := fun _ _ _ => .ok startedPod

theorem staticPods_getPodStarted : StaticPods getPodStarted := fun _ _ _ _ => rfl

/-- The pool of `pendingPool` and the record of `10.0.0.1` for `default/web-0`. -/
def pendingStore : Datastore := ⟨[pendingPool], [webRecord], by decide, by decide⟩

theorem reconcileStore_equiv_keepsIP_pendingStore :
    KeepsIP [pendingPod] getPodStarted webReservation.podRef webReservation.ip.string ∧
    (reconcileStore pendingStore [pendingPod] getPodStarted).Equiv (pendingStore.reconciled
      (fun x => decide (x.podRef = "" ∨ KeepsIP [pendingPod] getPodStarted x.podRef x.ip.string))
      (fun r => decide (r.podRef ∈ getPodRefsServedByWhereabouts pendingStore.ipPools ∧
        KeepsIP [pendingPod] getPodStarted r.podRef (replaceAll r.name '-' ':')))) :=
  ⟨by decide, reconcileStore_equiv_keepsIP [pendingPod] staticPods_getPodStarted (by decide)
    (by decide) pendingStore⟩

end Whereabouts.Reconciler
