import Whereabouts.Reconciler.Safety
import Whereabouts.Storage.Versioned
/-!
# Runs among other writers

Other writers commit to the pools while a run is under way: every CNI allocation and
release.  The run reads the pools once, and the API server applies each `Update` it sends
as a write conditional on the version the run read (modelled from the spec in
`Whereabouts.Storage.Versioned`).

* `reconcileIPs_no_lost_update` — in every interleaving of a run's `Update`s with other
  writers' commits, each listed pool ends as the other writers' commits, in order, make it
  of either the listed pool or the list the run wrote for it, which holds only listed
  reservations and lands before every commit to the pool: no commit is lost.
-/

namespace Whereabouts.Reconciler

open Whereabouts.Api Whereabouts.Storage List

/-- The names of the pools a list of writes updates, in order. -/
def updatedPools (ws : List Write) : List String :=
  ws.filterMap fun
    | .update pool _ => some pool.name
    | .deleteOverlappingIP _ => none

@[simp] theorem updatedPools_append (ws ws' : List Write) :
    updatedPools (ws ++ ws') = updatedPools ws ++ updatedPools ws' :=
  filterMap_append _ _ _

@[simp] theorem updatedPools_deletes (records : List OverlappingRangeIPReservation) :
    updatedPools (records.map .deleteOverlappingIP) = [] := by
  induction records with
  | nil => rfl
  | cons r rest ih => simp [updatedPools, ih]

theorem updatedPools_sublist {ws ws' : List Write} (h : ws <+ ws') :
    updatedPools ws <+ updatedPools ws' :=
  h.filterMap _

theorem updatedPools_cleanUpWrites (os : List OrphanedIPReservations) :
    updatedPools (os.map cleanUpWrite) = (os.map (·.pool)).map IPPool.name := by
  induction os with
  | nil => rfl
  | cons o rest ih => simpa [updatedPools, cleanUpWrite] using ih

theorem updatedPools_reconcileIPs_nodup {client : Client} {pools : List IPPool}
    (hpools : client.listIPPools = .ok pools) (hnodup : (pools.map IPPool.name).Nodup) :
    (updatedPools (reconcileIPs client).1).Nodup := by
  rcases hlooper : newReconcileLooperWithClient client with _ | ⟨rl, n⟩
  · simp [reconcileIPs, hlooper, updatedPools]
  have hsub : updatedPools (reconcileIPPools client rl).1 <+ pools.map IPPool.name := by
    refine (updatedPools_sublist (reconcileIPPoolsFrom_sublist client rl.orphanedIPs 0)).trans ?_
    rw [updatedPools_cleanUpWrites, orphanedIPs_of_looper hlooper hpools]
    exact (findOrphanedIPsPerPool_sublist _ 0).map _
  rw [reconcileIPs_of_looper hlooper]
  split <;> simp only [updatedPools_append, updatedPools_deletes, append_nil] <;>
    exact hnodup.sublist hsub

theorem mem_updatedPools {ws : List Write} {pool : IPPool} {reservations : List IPReservation}
    (h : Write.update pool reservations ∈ ws) : pool.name ∈ updatedPools ws :=
  mem_filterMap.mpr ⟨_, h, rfl⟩

theorem eq_of_update_mem {ws : List Write} (hnodup : (updatedPools ws).Nodup)
    {pool pool' : IPPool} {rs rs' : List IPReservation} (h : Write.update pool rs ∈ ws)
    (h' : Write.update pool' rs' ∈ ws) (hname : pool.name = pool'.name) :
    pool = pool' ∧ rs = rs' := by
  induction ws with
  | nil => cases h
  | cons w ws ih =>
      cases w with
      | update q qs =>
          have hnd : q.name ∉ updatedPools ws ∧ (updatedPools ws).Nodup := by
            simpa [updatedPools] using hnodup
          rcases mem_cons.mp h with hq | hws <;> rcases mem_cons.mp h' with hq' | hws'
          · obtain ⟨rfl, rfl⟩ := Write.update.inj hq
            obtain ⟨rfl, rfl⟩ := Write.update.inj hq'
            exact ⟨rfl, rfl⟩
          · obtain ⟨rfl, rfl⟩ := Write.update.inj hq
            exact absurd (hname ▸ mem_updatedPools hws') hnd.1
          · obtain ⟨rfl, rfl⟩ := Write.update.inj hq'
            exact absurd (hname.symm ▸ mem_updatedPools hws) hnd.1
          · exact ih hnd.2 hws hws'
      | deleteOverlappingIP r =>
          exact ih (by simpa [updatedPools] using hnodup) (mem_cons.mp h |>.resolve_left nofun)
            (mem_cons.mp h' |>.resolve_left nofun)

/-- The run's `Update`s as the API server applies them: each conditional on the version its
pool was listed at. -/
def casWrites (s₀ : List VersionedPool) (ws : List Write) : List PoolWrite :=
  ws.filterMap fun
    | .update pool reservations =>
      (s₀.find? fun p => decide (p.pool.name = pool.name)).map fun p =>
        .cas pool.name p.version reservations
    | .deleteOverlappingIP _ => none

theorem mem_casWrites {s₀ : List VersionedPool} {ws : List Write} {name : String}
    {version : Nat} {reservations : List IPReservation}
    (h : PoolWrite.cas name version reservations ∈ casWrites s₀ ws) :
    ∃ pool p, Write.update pool reservations ∈ ws ∧ pool.name = name ∧ p ∈ s₀ ∧
      p.pool.name = name ∧ p.version = version := by
  obtain ⟨w, hw, hcas⟩ := mem_filterMap.mp h
  cases w with
  | update pool rs =>
      obtain ⟨p, hfind, hp⟩ := Option.map_eq_some'.mp hcas
      obtain ⟨rfl, rfl, rfl⟩ := PoolWrite.cas.inj hp
      exact ⟨pool, p, hw, rfl, mem_of_find?_eq_some hfind, by simpa using find?_some hfind, rfl⟩
  | deleteOverlappingIP r => cases hcas

/-- A run loses no other writer's commit.  Whatever the other writers commit, in whatever
interleaving with the run's conditional `Update`s, each listed pool ends as their commits,
in order, make it of either the listed pool (the run's `Update` did not land) or the list
the run wrote for it, a sub-multiset of the listed reservations, whose `Update` landed
before every commit to the pool. -/
theorem reconcileIPs_no_lost_update (client : Client) (s₀ : List VersionedPool)
    (hnodup : (s₀.map (·.pool.name)).Nodup)
    (hpools : client.listIPPools = .ok (s₀.map (·.pool))) (ws : List PoolWrite)
    (hws : ∀ w ∈ ws, w.isCommit = false → w ∈ casWrites s₀ (reconcileIPs client).1)
    {p₀ : VersionedPool} (hp₀ : p₀ ∈ s₀) :
    PoolWrite.stepAll ws p₀ = PoolWrite.stepAll (ws.filter (·.isCommit)) p₀ ∨
      ∃ reservations, Write.update p₀.pool reservations ∈ (reconcileIPs client).1 ∧
        reservations <+~ p₀.pool.allocations ∧
        PoolWrite.cas p₀.pool.name p₀.version reservations ∈ ws ∧
        PoolWrite.stepAll ws p₀ = PoolWrite.stepAll (ws.filter (·.isCommit))
          ⟨{ p₀.pool with allocations := reservations }, p₀.version + 1⟩ := by
  have hsame : ∀ p ∈ s₀, p.pool.name = p₀.pool.name → p = p₀ := fun p hp h =>
    inj_on_of_nodup_map hnodup hp hp₀ h
  -- a conditional write to the pool's name is the run's `Update` of it, at the listed version
  have hcas : ∀ v rs, PoolWrite.cas p₀.pool.name v rs ∈ ws →
      v = p₀.version ∧ Write.update p₀.pool rs ∈ (reconcileIPs client).1 := by
    intro v rs hw
    obtain ⟨pool, p, hupdate, hname, hp, hpname, rfl⟩ := mem_casWrites (hws _ hw rfl)
    obtain rfl := hsame p hp hpname
    obtain ⟨p', hp', rfl⟩ := mem_map.mp (update_mem_reconcileIPs hpools hupdate).1
    obtain rfl := hsame p' hp' hname
    exact ⟨rfl, hupdate⟩
  by_cases hrun : ∃ rs, Write.update p₀.pool rs ∈ (reconcileIPs client).1
  · obtain ⟨rs, hrs⟩ := hrun
    have hupdates := updatedPools_reconcileIPs_nodup hpools (by simpa [map_map] using hnodup)
    refine (PoolWrite.stepAll_of_cas fun v rs' hw => ?_).imp_right fun ⟨hmem, h⟩ =>
      ⟨rs, hrs, (update_mem_reconcileIPs hpools hrs).2, hmem, h⟩
    obtain ⟨hv, hrs'⟩ := hcas v rs' hw
    exact ⟨hv, (eq_of_update_mem hupdates hrs' hrs rfl).2⟩
  · have h := @PoolWrite.stepAll_of_cas p₀ [] ws fun v rs hw =>
      (hrun ⟨rs, (hcas v rs hw).2⟩).elim
    exact .inl (h.resolve_right fun ⟨hmem, _⟩ => hrun ⟨[], (hcas _ _ hmem).2⟩)

/-- A CNI allocation of `10.0.0.3` for `default/web-1` in the shared pool, committed
before the run's `Update` of that pool at version 7. -/
def allocationThenUpdate : List PoolWrite :=
  [.commit sharedPool.name fun reservations =>
      { ip := ⟨"10.0.0.3"⟩, containerID := "c4", podRef := "default/web-1", ifName := "net1" } ::
        reservations,
    .cas sharedPool.name 7 [webReservation]]

theorem reconcileIPs_no_lost_update_poolClient :
    PoolWrite.stepAll allocationThenUpdate ⟨sharedPool, 7⟩ =
        PoolWrite.stepAll (allocationThenUpdate.filter (·.isCommit)) ⟨sharedPool, 7⟩ ∨
      ∃ reservations, Write.update sharedPool reservations ∈ (reconcileIPs poolClient).1 ∧
        reservations <+~ sharedPool.allocations ∧
        PoolWrite.cas sharedPool.name 7 reservations ∈ allocationThenUpdate ∧
        PoolWrite.stepAll allocationThenUpdate ⟨sharedPool, 7⟩ =
          PoolWrite.stepAll (allocationThenUpdate.filter (·.isCommit))
            ⟨{ sharedPool with allocations := reservations }, 8⟩ := by
  have hcas : casWrites [⟨sharedPool, 7⟩] (reconcileIPs poolClient).1 =
      [.cas sharedPool.name 7 [webReservation]] := rfl
  refine reconcileIPs_no_lost_update poolClient [⟨sharedPool, 7⟩] (by decide) rfl _
    (fun w hw hc => ?_) (mem_singleton_self _)
  rw [hcas]
  rcases mem_cons.mp hw with rfl | hw
  · cases hc
  · exact hw

end Whereabouts.Reconciler
