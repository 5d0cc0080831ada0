import Whereabouts.Reconciler.IPLoop
import Mathlib.Data.List.Nodup
import Mathlib.Data.List.Perm.Subperm
import Mathlib.Data.List.Perm.Basic
/-!
# The swap-with-last deletion of `ReconcileIPPools`

For each orphan, `ReconcileIPPools` looks up the first reservation with the orphan's pod
reference and IP, overwrites it with the last reservation and shrinks the slice by one.
The loop invariant is a permutation: what is left, together with what was deleted, is a
permutation of the pool's reservations, and the deleted reservations carry exactly the
orphans' (pod reference, IP) pairs.

* `cleanUpPool_spec`        — the invariant, for any orphan list whose pairs occur among
  the reservations;
* `cleanUpPool_perm`        — when the pool's IPs are distinct, exactly the orphans are
  deleted;
* `cleanUpPool_filter`      — when whether a reservation is an orphan depends on its pair
  only, exactly the orphaned pairs are deleted, whatever the duplicates.
-/

namespace Whereabouts.Reconciler

open Whereabouts.Api List

/-- The pair `findAllocationIndex` compares. -/
def allocationKey (r : IPReservation) : String × IP := (r.podRef, r.ip)

section Lists

variable {α : Type}

theorem set_perm_cons_eraseIdx {l : List α} {i : Nat} (h : i < l.length) (x : α) :
    l.set i x ~ x :: l.eraseIdx i := by
  rw [set_eq_take_append_cons_drop, if_pos h, eraseIdx_eq_take_drop_succ]
  exact perm_middle

theorem perm_cons_eraseIdx {l : List α} {i : Nat} (h : i < l.length) :
    l ~ l[i] :: l.eraseIdx i := by
  conv_lhs => rw [← take_append_drop i l, ← getElem_cons_drop l i h]
  rw [eraseIdx_eq_take_drop_succ]
  exact perm_middle

end Lists

theorem deleteEntry_perm {reservations : List IPReservation} {idx : Nat}
    (h : idx < reservations.length) :
    deleteEntry reservations idx ~ reservations.eraseIdx idx := by
  obtain ⟨last, hlast⟩ : ∃ last, reservations.getLast? = some last := by
    rw [getLast?_eq_getElem?]
    exact ⟨_, getElem?_eq_getElem (by omega)⟩
  have hset : (reservations.set idx last).getLast? = some last := by
    rw [getLast?_eq_getElem?, length_set, getElem?_set]
    split
    · simp [h]
    · rwa [← getLast?_eq_getElem?]
  simp only [deleteEntry, hlast]
  apply Perm.cons_inv (a := last)
  calc last :: (reservations.set idx last).dropLast
      ~ (reservations.set idx last).dropLast ++ [last] := (perm_append_singleton _ _).symm
    _ = reservations.set idx last := dropLast_append_getLast? last hset
    _ ~ last :: reservations.eraseIdx idx := set_perm_cons_eraseIdx h last

theorem findAllocationIndex_eq_some {a : IPReservation} {l : List IPReservation} {idx : Nat}
    (h : findAllocationIndex a l = some idx) :
    ∃ hidx : idx < l.length, allocationKey l[idx] = allocationKey a := by
  obtain ⟨hidx, hp, -⟩ := findIdx?_eq_some_iff_getElem.mp h
  refine ⟨hidx, ?_⟩
  simp only [Bool.and_eq_true, beq_iff_eq, IP.equal_iff] at hp
  simp [allocationKey, hp]

theorem findAllocationIndex_ne_none {a : IPReservation} {l : List IPReservation}
    (h : allocationKey a ∈ l.map allocationKey) : findAllocationIndex a l ≠ none := by
  obtain ⟨r, hr, hkey⟩ := mem_map.mp h
  simp only [allocationKey, Prod.mk.injEq] at hkey
  intro hnone
  have := findIdx?_eq_none_iff.mp hnone r hr
  simp [hkey, IP.equal] at this

/-! ## The loop invariant -/

theorem cleanUpPool_spec (orphans : List IPReservation) :
    ∀ current : List IPReservation,
      (orphans.map allocationKey).Subperm (current.map allocationKey) →
      ∃ removed, (cleanUpPool current orphans).1 ++ removed ~ current ∧
        removed.map allocationKey ~ orphans.map allocationKey ∧
        (cleanUpPool current orphans).2 = orphans.map (·.ip) := by
  induction orphans with
  | nil => exact fun current _ => ⟨[], by simp [cleanUpPool], by simp, rfl⟩
  | cons o orphans ih =>
      intro current hsub
      obtain ⟨idx, hfind⟩ := Option.ne_none_iff_exists'.mp
        (findAllocationIndex_ne_none (hsub.subset (mem_cons_self _ _)))
      obtain ⟨hidx, hkey⟩ := findAllocationIndex_eq_some hfind
      have hperm := perm_cons_eraseIdx hidx
      have hdel := deleteEntry_perm hidx
      have hsub' : (orphans.map allocationKey).Subperm
          ((deleteEntry current idx).map allocationKey) := by
        have h := hsub.trans (hperm.map allocationKey).subperm
        rw [map_cons, map_cons, hkey, subperm_cons] at h
        exact h.trans (hdel.map allocationKey).symm.subperm
      obtain ⟨removed, hleft, hkeys, hips⟩ := ih _ hsub'
      refine ⟨current[idx] :: removed, ?_, by simpa [hkey] using hkeys, by simp [cleanUpPool, hfind, hips]⟩
      simp only [cleanUpPool, hfind]
      calc (cleanUpPool (deleteEntry current idx) orphans).1 ++ current[idx] :: removed
          ~ current[idx] :: ((cleanUpPool (deleteEntry current idx) orphans).1 ++ removed) :=
            perm_middle
        _ ~ current[idx] :: current.eraseIdx idx := (hleft.trans hdel).cons _
        _ ~ current := hperm.symm

theorem mem_cleanUpPool {orphans current : List IPReservation} {r : IPReservation}
    (hsub : (orphans.map allocationKey).Subperm (current.map allocationKey))
    (hr : r ∈ current) (hkey : allocationKey r ∉ orphans.map allocationKey) :
    r ∈ (cleanUpPool current orphans).1 := by
  obtain ⟨removed, hleft, hkeys, -⟩ := cleanUpPool_spec orphans current hsub
  rcases mem_append.mp (hleft.mem_iff.mpr hr) with h | h
  · exact h
  · exact absurd (hkeys.mem_iff.mp (mem_map_of_mem _ h)) hkey

theorem cleanUpPool_perm {orphans current : List IPReservation}
    (hips : (current.map (·.ip)).Nodup) (hsub : orphans <+ current) :
    (cleanUpPool current orphans).1 ++ orphans ~ current := by
  have hkeys : (current.map allocationKey).Nodup :=
    Nodup.of_map Prod.snd (by simpa [map_map, allocationKey] using hips)
  have hinj := inj_on_of_nodup_map hkeys
  obtain ⟨removed, hleft, hmap, -⟩ := cleanUpPool_spec orphans current (hsub.map _).subperm
  have hrem : removed <+~ current := (sublist_append_right _ _).subperm.trans hleft.subperm
  have hnodup := Nodup.of_map _ hkeys
  suffices removed ~ orphans from (this.append_left _).symm.trans hleft
  have hremNodup : removed.Nodup := by
    obtain ⟨l, hp, hs⟩ := hrem
    exact hp.nodup_iff.mp (hnodup.sublist hs)
  refine (perm_ext_iff_of_nodup hremNodup (hnodup.sublist hsub)).mpr fun x => ?_
  constructor
  · intro hx
    obtain ⟨y, hy, hxy⟩ := mem_map.mp (hmap.mem_iff.mp (mem_map_of_mem allocationKey hx))
    rwa [hinj (hrem.subset hx) (hsub.subset hy) hxy.symm]
  · intro hx
    obtain ⟨y, hy, hxy⟩ := mem_map.mp (hmap.mem_iff.mpr (mem_map_of_mem allocationKey hx))
    rwa [hinj (hsub.subset hx) (hrem.subset hy) hxy.symm]

theorem cleanUpPool_filter (orphaned : IPReservation → Bool)
    (hkey : ∀ x y, allocationKey x = allocationKey y → orphaned x = orphaned y)
    (current : List IPReservation) :
    (cleanUpPool current (current.filter orphaned)).1 ~ current.filter (!orphaned ·) := by
  obtain ⟨removed, hleft, hmap, -⟩ := cleanUpPool_spec _ current
    ((filter_sublist current).map _).subperm
  set left := (cleanUpPool current (current.filter orphaned)).1
  have hbad : ∀ x ∈ removed, orphaned x = true := by
    intro x hx
    obtain ⟨y, hy, hxy⟩ := mem_map.mp (hmap.mem_iff.mp (mem_map_of_mem allocationKey hx))
    rw [hkey x y hxy.symm]
    exact (mem_filter.mp hy).2
  have hlen := (hleft.filter orphaned).length_eq
  have hremoved : removed.length = (current.filter orphaned).length := by
    simpa using hmap.length_eq
  rw [filter_append, filter_eq_self.mpr hbad, length_append] at hlen
  have hgood : left.filter orphaned = [] := eq_nil_of_length_eq_zero (by omega)
  have hremoved' : removed.filter (!orphaned ·) = [] :=
    filter_eq_nil_iff.mpr (by simpa using hbad)
  have hleft' : left.filter (!orphaned ·) = left :=
    filter_eq_self.mpr (by simpa using filter_eq_nil_iff.mp hgood)
  simpa only [filter_append, hremoved', append_nil, hleft'] using hleft.filter (!orphaned ·)

end Whereabouts.Reconciler
