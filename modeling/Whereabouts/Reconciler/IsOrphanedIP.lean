import Whereabouts.Reconciler.WrappedPod
import Whereabouts.Storage.Client
/-!
# Classifying one reservation

`isOrphanedIP podRef ip` decides whether the reservation of `ip` by `podRef` is kept
(`true`) or is an orphan (`false`).  A reservation of a pod that is Pending and does not
list the IP yet gets a grace window: the pod is re-fetched up to `PodRefreshRetries`
times.  The refresh is an API call, so `isOrphanedIP` is written over any refresher that
threads a state `σ`; the run instantiates it with `refreshPod` over a `Client`.

* `isOrphanedIP_seqRefresh` — over any sequence of refresh results, the outcome and the
  number of refreshes follow `graceLaw`, the law of the grace window;
* `isOrphanedIP_refreshPod` — over the `GetPod` answers of a client, the same law holds
  with every failed `GetPod`, whatever its error, read as "the pod is gone";
* `refreshPod_composePodRef` — `splitPodRef` inverts `composePodRef`, so the refresh of a
  listed pod's reference re-fetches that pod;
* `refreshPod_fetches_named_pod` — and what `splitPodRef` accepts is well formed, so a
  refresh fetches only the pod its reference names, or nothing.
-/

namespace Whereabouts.Reconciler

open Whereabouts.Api Whereabouts.Storage

section Classify

variable {σ : Type}

/-- The re-fetch loop of `isOrphanedIP`, with `retries` attempts left and `podToMatch` the
last observation of the pod. -/
def refreshLoop (refresh : σ → Option PodWrapper × σ) (ip : String) :
    Nat → PodWrapper → σ → Bool × σ
  | 0, podToMatch, s => (isIpOnPod podToMatch ip, s)
  | retries + 1, _, s =>
    match refresh s with
    | (none, s') => (false, s')
    | (some podToMatch, s') =>
      if podToMatch.phase ≠ .pending then (isIpOnPod podToMatch ip, s')
      else if isIpOnPod podToMatch ip then (true, s')
      else refreshLoop refresh ip retries podToMatch s'

/-- `isOrphanedIP`, with `retries` standing for `storage.PodRefreshRetries`: `true` when
the reservation is kept. -/
def isOrphanedIP (refreshPod : String → σ → Option PodWrapper × σ)
    (liveWhereaboutsPods : PodMap) (retries : Nat) (podRef ip : String) (s : σ) : Bool × σ :=
  match liveWhereaboutsPods podRef with
  | none => (false, s)
  | some livePod =>
    if !isIpOnPod livePod ip && livePod.phase = .pending then
      refreshLoop (refreshPod podRef) ip retries livePod s
    else (isIpOnPod livePod ip, s)

variable {refreshPod : String → σ → Option PodWrapper × σ} {live : PodMap} {retries : Nat}
  {podRef ip : String}

theorem isOrphanedIP_of_none (h : live podRef = none) (s : σ) :
    isOrphanedIP refreshPod live retries podRef ip s = (false, s) := by
  simp [isOrphanedIP, h]

theorem isOrphanedIP_of_mem {livePod : PodWrapper} (h : live podRef = some livePod)
    (hip : ip ∈ livePod.ips) (s : σ) :
    isOrphanedIP refreshPod live retries podRef ip s = (true, s) := by
  simp [isOrphanedIP, h, isIpOnPod, hip]

theorem isOrphanedIP_of_not_pending {livePod : PodWrapper} (h : live podRef = some livePod)
    (hphase : livePod.phase ≠ .pending) (s : σ) :
    isOrphanedIP refreshPod live retries podRef ip s = (isIpOnPod livePod ip, s) := by
  simp [isOrphanedIP, h, hphase]

end Classify

/-! ## Counting refreshes -/

theorem refreshLoop_snd_bounds {refresh : Nat → Option PodWrapper × Nat}
    (hrefresh : ∀ s, s ≤ (refresh s).2 ∧ (refresh s).2 ≤ s + 1) (ip : String) (k : Nat) :
    ∀ (pod : PodWrapper) (s : Nat),
      s ≤ (refreshLoop refresh ip k pod s).2 ∧ (refreshLoop refresh ip k pod s).2 ≤ s + k := by
  induction k with
  | zero => intro _ s; exact ⟨le_refl s, le_refl s⟩
  | succ k ih =>
      intro _ s
      have hs := hrefresh s
      simp only [refreshLoop]
      rcases hr : refresh s with ⟨_ | p, t⟩ <;> simp only [hr] at hs ⊢
      · omega
      · have := ih p t
        split_ifs <;> omega

theorem isOrphanedIP_snd_bounds {refreshPod : String → Nat → Option PodWrapper × Nat}
    {podRef : String} (hrefresh : ∀ s, s ≤ (refreshPod podRef s).2 ∧ (refreshPod podRef s).2 ≤ s + 1)
    (live : PodMap) (retries : Nat) (ip : String) (s : Nat) :
    s ≤ (isOrphanedIP refreshPod live retries podRef ip s).2 ∧
      (isOrphanedIP refreshPod live retries podRef ip s).2 ≤ s + retries := by
  unfold isOrphanedIP
  split
  · exact ⟨le_refl s, Nat.le_add_right s retries⟩
  · split
    · exact refreshLoop_snd_bounds hrefresh ip retries _ s
    · exact ⟨le_refl s, Nat.le_add_right s retries⟩

/-! ## The grace window as a law over refresh results

Over a fixed sequence `r 1, r 2, ...` of refresh results, the outcome is decided by the
first result, among the first `N`, that ends the grace window: the pod is gone, has left
Pending, or lists the IP.  That result's verdict is the outcome; when no result ends the
window the reservation is an orphan.
-/

/-- The `i`-th refresh answers `r (i + 1)`; the state counts the refreshes made. -/
def seqRefresh (r : Nat → Option PodWrapper) (i : Nat) : Option PodWrapper × Nat :=
  (r (i + 1), i + 1)

/-- A refresh result ends the grace window. -/
def endsGrace (ip : String) : Option PodWrapper → Bool
  | none => true
  | some pod => pod.phase != .pending || decide (ip ∈ pod.ips)

/-- The verdict of the result that ends the grace window. -/
def graceVerdict (ip : String) : Option PodWrapper → Bool
  | none => false
  | some pod => decide (ip ∈ pod.ips)

/-- The first `k` in `[i + 1, i + n]` at which `r k` ends the grace window. -/
def firstGraceEnd (r : Nat → Option PodWrapper) (ip : String) (i n : Nat) : Option Nat :=
  (List.range' (i + 1) n).find? fun k => endsGrace ip (r k)

/-- The law of `isOrphanedIP` over the refresh results `r`: the verdict, and how many
refreshes are made. -/
def graceLaw (live : PodMap) (retries : Nat) (podRef ip : String)
    (r : Nat → Option PodWrapper) : Bool × Nat :=
  match live podRef with
  | none => (false, 0)
  | some pod =>
    if ip ∈ pod.ips then (true, 0)
    else if pod.phase ≠ .pending then (false, 0)
    else match firstGraceEnd r ip 0 retries with
      | some k => (graceVerdict ip (r k), k)
      | none => (false, retries)

theorem refreshLoop_seqRefresh (r : Nat → Option PodWrapper) (ip : String) (n : Nat) :
    ∀ (i : Nat) (pod : PodWrapper), ip ∉ pod.ips →
      refreshLoop (seqRefresh r) ip n pod i =
        match firstGraceEnd r ip i n with
        | some k => (graceVerdict ip (r k), k)
        | none => (false, i + n) := by
  induction n with
  | zero => intro i pod hpod; simp [refreshLoop, firstGraceEnd, isIpOnPod, hpod]
  | succ n ih =>
      intro i pod _
      have hsplit : firstGraceEnd r ip i (n + 1) =
          if endsGrace ip (r (i + 1)) then some (i + 1) else firstGraceEnd r ip (i + 1) n := by
        simp only [firstGraceEnd, List.range'_succ, List.find?_cons]
        split <;> simp_all
      rw [hsplit]
      simp only [refreshLoop, seqRefresh]
      rcases hr : r (i + 1) with _ | q
      · simp [hr, endsGrace, graceVerdict]
      · by_cases hphase : q.phase = .pending
        · by_cases hip : ip ∈ q.ips
          · simp [hr, endsGrace, graceVerdict, isIpOnPod, hphase, hip]
          · have hcount : i + 1 + n = i + (n + 1) := by omega
            simp [hr, endsGrace, isIpOnPod, hphase, hip, ih (i + 1) q hip, hcount]
        · simp [hr, endsGrace, graceVerdict, isIpOnPod, hphase]

/-- Any refresher that answers, at `podRef`, from the sequence `r` follows the law. -/
theorem isOrphanedIP_eq_graceLaw {refreshPod : String → Nat → Option PodWrapper × Nat}
    {r : Nat → Option PodWrapper} {podRef : String} (hr : refreshPod podRef = seqRefresh r)
    (live : PodMap) (retries : Nat) (ip : String) :
    isOrphanedIP refreshPod live retries podRef ip 0 = graceLaw live retries podRef ip r := by
  unfold isOrphanedIP graceLaw
  rw [hr]
  rcases live podRef with _ | pod
  · rfl
  · by_cases hip : ip ∈ pod.ips
    · simp [isIpOnPod, hip]
    · by_cases hphase : pod.phase = .pending
      · simp [isIpOnPod, hip, hphase, refreshLoop_seqRefresh r ip retries 0 pod hip]
      · simp [isIpOnPod, hip, hphase]

theorem isOrphanedIP_seqRefresh (r : Nat → Option PodWrapper) (live : PodMap) (retries : Nat)
    (podRef ip : String) :
    isOrphanedIP (fun _ => seqRefresh r) live retries podRef ip 0 =
      graceLaw live retries podRef ip r :=
  isOrphanedIP_eq_graceLaw rfl live retries ip

/-! ## Refreshing through the API -/

/-- `splitPodRef`: `strings.Split(podRef, "/")`, or two empty strings unless it has
exactly two parts. -/
def splitPodRef (podRef : String) : String × String :=
  match (podRef.data.splitOn '/').map String.mk with
  | [podNamespace, podName] => (podNamespace, podName)
  | _ => ("", "")

/-- `refreshPod`, re-fetching through the `getPods`-th `GetPod` call of the run; the state
counts the `GetPod` calls made. -/
def refreshPod (client : Client) (podRef : String) (getPods : Nat) : Option PodWrapper × Nat :=
  let (podNamespace, podName) := splitPodRef podRef
  if podNamespace = "" ∨ podName = "" then (none, getPods)
  else
    match client.getPod getPods podNamespace podName with
    | .error _ => (none, getPods + 1)
    | .ok pod => (some (wrapPod pod), getPods + 1)

theorem refreshPod_snd_bounds (client : Client) (podRef : String) (n : Nat) :
    n ≤ (refreshPod client podRef n).2 ∧ (refreshPod client podRef n).2 ≤ n + 1 := by
  simp only [refreshPod]
  split
  · omega
  · split <;> simp

theorem splitPodRef_composePodRef {pod : Pod} (hns : '/' ∉ pod.podNamespace.data)
    (hname : '/' ∉ pod.podName.data) :
    splitPodRef (composePodRef pod) = (pod.podNamespace, pod.podName) := by
  have hdata : (composePodRef pod).data = ['/'].intercalate [pod.podNamespace.data, pod.podName.data] := by
    simp [composePodRef, List.intercalate]
  have hsplit : (['/'].intercalate [pod.podNamespace.data, pod.podName.data]).splitOn '/' =
      [pod.podNamespace.data, pod.podName.data] :=
    List.splitOn_intercalate _ '/' (by simp [hns, hname]) (by simp)
  simp [splitPodRef, hdata, hsplit]

theorem forall_not_of_mem_splitOnP {α : Type} (p : α → Bool) :
    ∀ {xs part : List α}, part ∈ xs.splitOnP p → ∀ y ∈ part, p y = false
  | [], _, hpart => by simp_all
  | x :: xs, part, hpart => by
      obtain ⟨head, tail, hsplit⟩ := List.exists_cons_of_ne_nil (List.splitOnP_ne_nil p xs)
      have ih : ∀ q ∈ head :: tail, ∀ y ∈ q, p y = false := fun _ hq =>
        forall_not_of_mem_splitOnP p (hsplit ▸ hq)
      rw [List.splitOnP_cons, hsplit] at hpart
      split at hpart
      · rcases List.mem_cons.mp hpart with rfl | h
        · simp
        · exact ih part h
      · rename_i hx
        rcases List.mem_cons.mp hpart with rfl | h
        · exact List.forall_mem_cons.mpr ⟨by simpa using hx, ih head (List.mem_cons_self _ _)⟩
        · exact ih part (List.mem_cons_of_mem _ h)

theorem splitPodRef_eq_of_ne_empty {podRef podNamespace podName : String}
    (hsplit : splitPodRef podRef = (podNamespace, podName)) (hns : podNamespace ≠ "")
    (hname : podName ≠ "") :
    podRef = podNamespace ++ "/" ++ podName ∧ '/' ∉ podNamespace.data ∧ '/' ∉ podName.data := by
  unfold splitPodRef at hsplit
  split at hsplit
  · rename_i a b hparts
    obtain ⟨rfl, rfl⟩ := Prod.mk.inj hsplit
    obtain ⟨as, bs, rest, hdata, rfl, rfl, hrest⟩ :
        ∃ as bs rest, podRef.data.splitOn '/' = as :: bs :: rest ∧ String.mk as = a ∧
          String.mk bs = b ∧ rest = [] := by
      rcases h : podRef.data.splitOn '/' with _ | ⟨as, _ | ⟨bs, rest⟩⟩ <;>
        simp only [h, List.map_cons, List.map_nil, List.cons.injEq] at hparts
      · simp at hparts
      · simp at hparts
      · exact ⟨as, bs, rest, rfl, hparts.1, hparts.2.1, List.map_eq_nil_iff.mp hparts.2.2⟩
    subst hrest
    have hsep : ∀ part ∈ podRef.data.splitOn '/', '/' ∉ part := fun part hpart hmem => by
      simpa using forall_not_of_mem_splitOnP (· == '/') hpart '/' hmem
    refine ⟨String.ext ?_, hsep as (by simp [hdata]), hsep bs (by simp [hdata])⟩
    have hjoin := List.intercalate_splitOn podRef.data '/'
    rw [hdata] at hjoin
    simpa [List.intercalate] using hjoin.symm
  · exact absurd (congrArg Prod.fst hsplit).symm hns

/-- The answer of the `n`-th `GetPod` call for `podNamespace/podName`, as `refreshPod` reads
it: any error means the pod is gone. -/
def getPodAnswer (client : Client) (podNamespace podName : String) (n : Nat) :
    Option PodWrapper :=
  match client.getPod n podNamespace podName with
  | .error _ => none
  | .ok pod => some (wrapPod pod)

theorem refreshPod_eq_seqRefresh {client : Client} {podRef podNamespace podName : String}
    (hsplit : splitPodRef podRef = (podNamespace, podName))
    (hns : podNamespace ≠ "") (hname : podName ≠ "") :
    refreshPod client podRef = seqRefresh fun k => getPodAnswer client podNamespace podName (k - 1) := by
  funext n
  simp only [refreshPod, hsplit, hns, hname, or_self, if_false, seqRefresh, getPodAnswer,
    Nat.add_sub_cancel]
  split <;> simp_all

theorem isOrphanedIP_refreshPod (client : Client) (live : PodMap) (retries : Nat)
    {podRef podNamespace podName : String} (ip : String)
    (hsplit : splitPodRef podRef = (podNamespace, podName))
    (hns : podNamespace ≠ "") (hname : podName ≠ "") :
    isOrphanedIP (refreshPod client) live retries podRef ip 0 =
      graceLaw live retries podRef ip fun k => getPodAnswer client podNamespace podName (k - 1) :=
  isOrphanedIP_eq_graceLaw (refreshPod_eq_seqRefresh hsplit hns hname) live retries ip

theorem isOrphanedIP_of_stays_pending (client : Client) {live : PodMap}
    {podRef podNamespace podName ip : String} (hsplit : splitPodRef podRef = (podNamespace, podName))
    (hns : podNamespace ≠ "") (hname : podName ≠ "") {pod : PodWrapper}
    (hlive : live podRef = some pod) (hpending : pod.phase = .pending) (hip : ip ∉ pod.ips)
    {retries m : Nat} (hstays : ∀ k, m ≤ k → k < m + retries → ∃ fetched,
      getPodAnswer client podNamespace podName k = some fetched ∧
        fetched.phase = .pending ∧ ip ∉ fetched.ips) :
    isOrphanedIP (refreshPod client) live retries podRef ip m = (false, m + retries) := by
  have hnone : firstGraceEnd (fun k => getPodAnswer client podNamespace podName (k - 1)) ip m
      retries = none := by
    rw [firstGraceEnd, List.find?_eq_none]
    intro k hk
    rw [List.mem_range'_1] at hk
    obtain ⟨fetched, hget, hphase, hip'⟩ := hstays (k - 1) (by omega) (by omega)
    simp [hget, endsGrace, hphase, hip']
  unfold isOrphanedIP
  rw [hlive, refreshPod_eq_seqRefresh hsplit hns hname]
  simp [isIpOnPod, hip, hpending, refreshLoop_seqRefresh _ ip retries m pod hip, hnone]

/-- A pod that is still starting: Pending, and no IP listed yet. -/
def startingPod : PodWrapper := { ips := [], phase := .pending }

/-- The pod `default/web-0`, Running, with `10.0.0.1` listed on a secondary network. -/
def startedPod : Pod where
  podNamespace := "default"
  podName := "web-0"
  networkStatus := some [{ default := false, ips := ["10.0.0.1"] }]
  phase := .running
  conditions := []

/-- An API server whose first `GetPod` times out. -/
def timingOutClient : Client where
  listIPPools := .ok []
  listPods := .ok []
  listOverlappingIPs := .ok []
  getPod n _ _ := if n = 0 then .error "etcdserver: request timed out" else .ok startedPod
  update _ := none
  deleteOverlappingIP _ := none

/-- A timeout on the first refresh ends the grace window with the reservation an orphan,
although the second refresh would have seen the pod Running with the IP. -/
theorem getPod_timeout_orphans_starting_pod :
    timingOutClient.getPod 0 "default" "web-0" = .error "etcdserver: request timed out" ∧
    timingOutClient.getPod 1 "default" "web-0" = .ok startedPod ∧
    "10.0.0.1" ∈ (wrapPod startedPod).ips ∧
    (isOrphanedIP (refreshPod timingOutClient)
      (PodMap.insert (fun _ => none) "default/web-0" startingPod) podRefreshRetries
      "default/web-0" "10.0.0.1" 0).1 = false :=
  ⟨rfl, rfl, by decide, by decide⟩

theorem isOrphanedIP_refreshPod_timingOut :
    splitPodRef "default/web-0" = ("default", "web-0") ∧ "default" ≠ "" ∧ "web-0" ≠ "" ∧
    isOrphanedIP (refreshPod timingOutClient)
        (PodMap.insert (fun _ => none) "default/web-0" startingPod) podRefreshRetries
        "default/web-0" "10.0.0.1" 0 =
      graceLaw (PodMap.insert (fun _ => none) "default/web-0" startingPod) podRefreshRetries
        "default/web-0" "10.0.0.1" fun k => getPodAnswer timingOutClient "default" "web-0" (k - 1) :=
  ⟨by decide, by decide, by decide,
    isOrphanedIP_refreshPod timingOutClient _ _ "10.0.0.1" (by decide) (by decide) (by decide)⟩

/-! ## Refreshing a listed pod -/

/-- The refresh of a listed pod's reference re-fetches that very pod. -/
theorem refreshPod_composePodRef (client : Client) {pod : Pod} (hns : pod.podNamespace ≠ "")
    (hname : pod.podName ≠ "") (hns' : '/' ∉ pod.podNamespace.data)
    (hname' : '/' ∉ pod.podName.data) (n : Nat) :
    refreshPod client (composePodRef pod) n =
      (getPodAnswer client pod.podNamespace pod.podName n, n + 1) := by
  simp only [refreshPod, splitPodRef_composePodRef hns' hname', hns, hname, or_self, if_false,
    getPodAnswer]
  split <;> rfl

theorem refreshPod_composePodRef_startedPod :
    refreshPod timingOutClient (composePodRef startedPod) 1 =
      (getPodAnswer timingOutClient "default" "web-0" 1, 2) :=
  refreshPod_composePodRef timingOutClient (by decide) (by decide) (by decide) (by decide) 1

/-- A refresh only ever fetches the pod its reference names: either it makes no `GetPod`
call and finds nothing, or it makes one, for the namespace and the name that the reference
joins with its only `/`. -/
theorem refreshPod_fetches_named_pod (client : Client) (podRef : String) (n : Nat) :
    refreshPod client podRef n = (none, n) ∨
      ∃ podNamespace podName, podRef = podNamespace ++ "/" ++ podName ∧ podNamespace ≠ "" ∧
        podName ≠ "" ∧ '/' ∉ podNamespace.data ∧ '/' ∉ podName.data ∧
        refreshPod client podRef n = (getPodAnswer client podNamespace podName n, n + 1) := by
  rcases hsplit : splitPodRef podRef with ⟨podNamespace, podName⟩
  by_cases hempty : podNamespace = "" ∨ podName = ""
  · exact .inl (by simp [refreshPod, hsplit, hempty])
  · obtain ⟨hns, hname⟩ := not_or.mp hempty
    obtain ⟨hjoin, hns', hname'⟩ := splitPodRef_eq_of_ne_empty hsplit hns hname
    refine .inr ⟨podNamespace, podName, hjoin, hns, hname, hns', hname', ?_⟩
    simp only [refreshPod, hsplit, hns, hname, or_self, if_false, getPodAnswer]
    split <;> rfl

end Whereabouts.Reconciler
