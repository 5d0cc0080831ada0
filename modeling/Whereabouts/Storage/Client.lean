import Whereabouts.Api.Types
import Mathlib.Data.List.Nodup
/-!
# The Kubernetes API as the reconciler sees it

A reconcile run talks to the API server only through `ListIPPools`, `ListPods`,
`ListOverlappingIPs`, `GetPod`, `IPPool.Update` and `DeleteOverlappingIP`.  A `Client`
fixes every answer the server may give during one run: the three listings, and the
answer to the `n`-th call of each of the other three.  Because the run itself is
deterministic, quantifying over every `Client` covers every sequence of answers.

The writes a run sends are recorded as a list of `Write`s, failed attempts included.
What a successful write does to the stored objects lives in `pkg/storage/kubernetes`,
which is not part of the sources here; `Datastore` models it from the spec.
-/

namespace Whereabouts.Storage

open Whereabouts.Api

/-- `storage.PodRefreshRetries`. -/
def podRefreshRetries : Nat := 3

/-- The answers of the API server during one reconcile run.  For the three per-call
operations, the argument is the number of earlier calls of that operation in the run;
`update` and `deleteOverlappingIP` give `none` for success and `some err` for an error. -/
structure Client where
  listIPPools : Except String (List IPPool)
  listPods : Except String (List Pod)
  listOverlappingIPs : Except String (List OverlappingRangeIPReservation)
  getPod : Nat → String → String → Except String Pod
  update : Nat → Option String
  deleteOverlappingIP : Nat → Option String

/-- A write the reconciler sends to the API server. -/
inductive Write where
  | update (pool : IPPool) (reservations : List IPReservation)
  | deleteOverlappingIP (reservation : OverlappingRangeIPReservation)
deriving DecidableEq, Repr

/-- `strings.ReplaceAll(s, old, new)` for one-character `old` and `new`, the only form the
reconciler uses. -/
def replaceAll (s : String) (old new : Char) : String :=
  ⟨s.data.map fun c => if c = old then new else c⟩

/-- Modelled from the spec: `NormalizeIP` of `pkg/storage/kubernetes`, the object name of
an overlapping reservation, which is the IP's text with every `:` replaced by `-`. -/
def normalizeIP (ip : IP) : String := replaceAll ip.string ':' '-'

/-! ## The stored objects

Modelled from the spec: the pools and cluster-wide reservations are Kubernetes objects,
keyed by name.  `UpdatePool` replaces the reservations of the pool of that name and
`DeleteOverlappingIP` removes the record of that name.
-/

/-- Modelled from the spec: the IP pools and `OverlappingRangeIPReservation` objects of the
cluster, each kind keyed by object name. -/
structure Datastore where
  ipPools : List IPPool
  overlappingIPs : List OverlappingRangeIPReservation
  ipPools_nodup : (ipPools.map IPPool.name).Nodup
  overlappingIPs_nodup : (overlappingIPs.map OverlappingRangeIPReservation.name).Nodup

/-- Modelled from the spec: the pools after a successful `Update` of `pool`. -/
def updatePool (pools : List IPPool) (pool : IPPool) (reservations : List IPReservation) :
    List IPPool :=
  pools.map fun p => if p.name = pool.name then { p with allocations := reservations } else p

@[simp] theorem map_name_updatePool (pools : List IPPool) (pool : IPPool)
    (reservations : List IPReservation) :
    (updatePool pools pool reservations).map IPPool.name = pools.map IPPool.name := by
  simp only [updatePool, List.map_map]
  congr 1
  funext p
  by_cases h : p.name = pool.name <;> simp [h]

/-- Modelled from the spec: the stored objects after a successful write. -/
def Datastore.apply (d : Datastore) : Write → Datastore
  | .update pool reservations =>
    { d with
      ipPools := updatePool d.ipPools pool reservations
      ipPools_nodup := by simpa using d.ipPools_nodup }
  | .deleteOverlappingIP r =>
    { d with
      overlappingIPs := d.overlappingIPs.filter (·.name ≠ r.name)
      overlappingIPs_nodup := d.overlappingIPs_nodup.sublist ((List.filter_sublist _).map _) }

/-- The stored objects after a list of successful writes, oldest first. -/
def Datastore.applyAll (d : Datastore) (ws : List Write) : Datastore := ws.foldl Datastore.apply d

@[simp] theorem applyAll_nil (d : Datastore) : d.applyAll [] = d := rfl

@[simp] theorem applyAll_cons (d : Datastore) (w : Write) (ws : List Write) :
    d.applyAll (w :: ws) = (d.apply w).applyAll ws := rfl

theorem applyAll_append (d : Datastore) (ws ws' : List Write) :
    d.applyAll (ws ++ ws') = (d.applyAll ws).applyAll ws' := List.foldl_append _ _ _ _

theorem applyAll_deletes_ipPools (d : Datastore) (records : List OverlappingRangeIPReservation) :
    (d.applyAll (records.map .deleteOverlappingIP)).ipPools = d.ipPools := by
  induction records generalizing d with
  | nil => rfl
  | cons r rest ih => exact ih _

theorem applyAll_updates_overlappingIPs (d : Datastore) {ws : List Write}
    (hws : ∀ w ∈ ws, ∃ pool reservations, w = .update pool reservations) :
    (d.applyAll ws).overlappingIPs = d.overlappingIPs := by
  induction ws generalizing d with
  | nil => rfl
  | cons w rest ih =>
      obtain ⟨pool, reservations, rfl⟩ := hws w (List.mem_cons_self _ _)
      exact ih _ fun w' hw' => hws w' (List.mem_cons_of_mem _ hw')

theorem name_mem_filter_iff {records : List OverlappingRangeIPReservation}
    (hnodup : (records.map OverlappingRangeIPReservation.name).Nodup)
    {r : OverlappingRangeIPReservation} (hr : r ∈ records)
    (p : OverlappingRangeIPReservation → Bool) :
    r.name ∈ (records.filter p).map (·.name) ↔ p r = true := by
  refine ⟨fun hname => ?_, fun hp => List.mem_map_of_mem _ (List.mem_filter.mpr ⟨hr, hp⟩)⟩
  obtain ⟨r', hr', hsame⟩ := List.mem_map.mp hname
  obtain ⟨hmem, hp⟩ := List.mem_filter.mp hr'
  rwa [List.inj_on_of_nodup_map hnodup hmem hr hsame] at hp

theorem applyAll_deletes_overlappingIPs (d : Datastore)
    (records : List OverlappingRangeIPReservation) :
    (d.applyAll (records.map .deleteOverlappingIP)).overlappingIPs =
      d.overlappingIPs.filter fun r => r.name ∉ records.map (·.name) := by
  induction records generalizing d with
  | nil => simp
  | cons r rest ih =>
      rw [List.map_cons, applyAll_cons, ih]
      simp only [Datastore.apply, List.filter_filter, List.map_cons, List.mem_cons, not_or]
      congr 1
      funext x
      rw [Bool.and_comm]
      simp

/-! ## What a run is for

A run's purpose, stated over the stores: each pool keeps the reservations the
classification keeps, and the records it keeps stay.  Two stores hold the same objects
when they agree pool by pool, each pool's reservations up to order.
-/

/-- The stores with every pool reduced to the reservations `keep` keeps and the records
reduced to those `keepRecord` keeps. -/
def Datastore.reconciled (keep : IPReservation → Bool)
    (keepRecord : OverlappingRangeIPReservation → Bool) (d : Datastore) : Datastore where
  ipPools := d.ipPools.map fun q => { q with allocations := q.allocations.filter keep }
  overlappingIPs := d.overlappingIPs.filter keepRecord
  ipPools_nodup := by simpa [List.map_map, Function.comp_def] using d.ipPools_nodup
  overlappingIPs_nodup := d.overlappingIPs_nodup.sublist ((List.filter_sublist _).map _)

/-- The two stores hold the same pools, in order, with the same reservations up to order,
and the same records. -/
def Datastore.Equiv (d d' : Datastore) : Prop :=
  List.Forall₂ (fun q q' => q.name = q'.name ∧ q.allocations.Perm q'.allocations)
    d.ipPools d'.ipPools ∧ d.overlappingIPs = d'.overlappingIPs

/-- The client of a run that starts from the stored objects `d`, with the given pod
listing, `GetPod` answers and write outcomes. -/
def Datastore.client (d : Datastore) (pods : List Pod)
    (getPod : Nat → String → String → Except String Pod)
    (update deleteOverlappingIP : Nat → Option String) : Client where
  listIPPools := .ok d.ipPools
  listPods := .ok pods
  listOverlappingIPs := .ok d.overlappingIPs
  getPod := getPod
  update := update
  deleteOverlappingIP := deleteOverlappingIP

end Whereabouts.Storage
