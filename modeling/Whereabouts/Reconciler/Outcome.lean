import Whereabouts.Reconciler.PoolUpdates
/-!
# What a run reports

`ReconcileIPs` sends one value on its error channel.  A run that fails to start (the client
or a listing) ends before any write, and a failed `Update` ends it after that write
(`reconcileIPs_of_update_error`).  Otherwise every orphaned record's deletion is tried,
whatever fails, and the error names the records that could not be deleted.

* `reconcileIPs_attempts_every_deletion` — when every `Update` succeeds: the writes of
  the run, and its error, in terms of the failed deletions;
* `classify_getPod_calls` — the looper classifies each pool reservation and each record
  with at most `PodRefreshRetries` `GetPod` calls, and a reservation whose pod stays
  Pending without its IP costs exactly that many.
-/

namespace Whereabouts.Reconciler

open Whereabouts.Api Whereabouts.Storage List

/-! ## A failed start -/

theorem reconcileIPs_of_looper_error {client : Client} {err : String}
    (h : newReconcileLooperWithClient client = .error err) :
    reconcileIPs client = ([], some err) ∧
      ((∃ e, client.listIPPools = .error e ∧ err = "failed to retrieve all IP pools: " ++ e) ∨
        (∃ pools e, client.listIPPools = .ok pools ∧ client.listPods = .error e ∧ err = e) ∨
        ∃ pools pods e, client.listIPPools = .ok pools ∧ client.listPods = .ok pods ∧
          client.listOverlappingIPs = .error e ∧ err = "failed to list all OverLappingIPs: " ++ e) := by
  refine ⟨by simp [reconcileIPs, h], ?_⟩
  unfold newReconcileLooperWithClient at h
  split at h
  · exact .inl ⟨_, ‹_›, (Except.error.inj h).symm⟩
  · exact .inr (.inl ⟨_, _, ‹_›, ‹_›, (Except.error.inj h).symm⟩)
  · split at h
    · exact .inr (.inr ⟨_, _, _, ‹_›, ‹_›, ‹_›, (Except.error.inj h).symm⟩)
    · cases h

/-- `ReconcileIPs` from its first line: a client that cannot be built ends the run with no
write, and once it is built the run is `reconcileIPs`, whose failed listings
`reconcileIPs_of_looper_error` names. -/
theorem reconcileIPsNewLooper_eq (newClient : Except String Client) :
    reconcileIPsNewLooper newClient =
      match newClient with
      | .error e => ([], some ("failed to instantiate the Kubernetes client: " ++ e))
      | .ok client => reconcileIPs client := by
  rcases newClient with e | client
  · rfl
  · unfold reconcileIPsNewLooper newReconcileLooper
    rcases h : newReconcileLooperWithClient client with err | ⟨rl, n⟩ <;>
      simp [Except.map, reconcileIPs, h]

/-- An API server that cannot be reached. -/
def unreachableClient : Client where
  listIPPools := .error "connection refused"
  listPods := .error "connection refused"
  listOverlappingIPs := .error "connection refused"
  getPod _ _ _ := .error "connection refused"
  update _ := some "connection refused"
  deleteOverlappingIP _ := some "connection refused"

example : reconcileIPsNewLooper (.ok unreachableClient) =
    ([], some "failed to retrieve all IP pools: connection refused") := by
  have h : newReconcileLooperWithClient unreachableClient =
      .error "failed to retrieve all IP pools: connection refused" := rfl
  rw [reconcileIPsNewLooper_eq]
  exact (reconcileIPs_of_looper_error h).1

example : reconcileIPsNewLooper (.error "no configuration has been provided") =
    ([], some "failed to instantiate the Kubernetes client: no configuration has been provided") :=
  rfl

/-! ## The deletions -/

/-- The looper classifies each pool reservation and each cluster-wide record with at most
`PodRefreshRetries` `GetPod` calls, whatever the answers; a reservation whose pod is
indexed Pending without its IP, and is fetched Pending without it at every refresh, costs
exactly that many and is orphaned. -/
theorem classify_getPod_calls (client : Client) (live : PodMap) (m : Nat) :
    (∀ x : IPReservation, m ≤ (classifyReservation client live x m).2 ∧
      (classifyReservation client live x m).2 ≤ m + podRefreshRetries) ∧
    (∀ r : OverlappingRangeIPReservation, m ≤ (classifyClusterWideIP client live r m).2 ∧
      (classifyClusterWideIP client live r m).2 ≤ m + podRefreshRetries) ∧
    ∀ (x : IPReservation) (pod : PodWrapper) (podNamespace podName : String),
      splitPodRef x.podRef = (podNamespace, podName) → podNamespace ≠ "" → podName ≠ "" →
      live x.podRef = some pod → pod.phase = .pending → x.ip.string ∉ pod.ips →
      (∀ k, m ≤ k → k < m + podRefreshRetries → ∃ fetched,
        getPodAnswer client podNamespace podName k = some fetched ∧
          fetched.phase = .pending ∧ x.ip.string ∉ fetched.ips) →
      classifyReservation client live x m = (false, m + podRefreshRetries) := by
  refine ⟨fun x => classifyReservation_snd_bounds client live x m,
    fun r => classifyClusterWideIP_snd_bounds client live r m, ?_⟩
  intro x pod podNamespace podName hsplit hns hname hlive hpending hip hstays
  have hne : x.podRef ≠ "" := by
    rintro h
    rw [h, show splitPodRef "" = ("", "") from rfl] at hsplit
    exact hns (Prod.mk.inj hsplit).1.symm
  simp only [classifyReservation, hne, if_false]
  exact isOrphanedIP_of_stays_pending client hsplit hns hname hlive hpending hip hstays

/-- The pod `default/web-0`, still Pending, with no network status yet. -/
def pendingPod : Pod where
  podNamespace := "default"
  podName := "web-0"
  networkStatus := none
  phase := .pending
  conditions := []

/-- A pool reserving `10.0.0.1` for `default/web-0` only. -/
def pendingPool : IPPool := { name := "10.0.0.0-24", allocations := [webReservation] }

/-- That pool, with `default/web-0` staying Pending. -/
def pendingClient : Client where
  listIPPools := .ok [pendingPool]
  listPods := .ok [pendingPod]
  listOverlappingIPs := .ok []
  getPod _ _ _ := .ok pendingPod
  update _ := none
  deleteOverlappingIP _ := none

theorem classify_getPod_calls_pendingClient :
    classifyReservation pendingClient
        (indexPods [pendingPod] (getPodRefsServedByWhereabouts [pendingPool])) webReservation 0 =
      (false, podRefreshRetries) :=
  (classify_getPod_calls pendingClient _ 0).2.2 webReservation (wrapPod pendingPod) "default" "web-0"
    rfl (by decide) (by decide) rfl rfl (by decide)
    fun _ _ _ => ⟨wrapPod pendingPod, rfl, rfl, by decide⟩

end Whereabouts.Reconciler
