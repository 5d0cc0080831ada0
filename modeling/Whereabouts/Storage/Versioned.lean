import Whereabouts.Storage.Client
/-!
# Versioned pools

Modelled from the spec: every committed write to a pool bumps its version token, and a
conditional `Update` takes effect only while the version is still the one its writer read
(compare-and-swap).  Besides the reconciler, the writers are the CNI allocations and
releases, each committing a function of the reservations it finds.

* `stepAll_of_cas` — in every interleaving of commits with conditional writes of one list
  at the version a pool was read at, the pool ends as the commits, in order, make it of
  either the pool as read or that list: the conditional write lands before every commit to
  the pool, or not at all.
-/

namespace Whereabouts.Storage

open Whereabouts.Api List

/-- Modelled from the spec: a pool as stored, with its version token. -/
structure VersionedPool where
  pool : IPPool
  version : Nat

/-- Modelled from the spec: a write to the stored pools, by anyone. -/
inductive PoolWrite where
  /-- A committed allocation or release: `f` of the current reservations. -/
  | commit (name : String) (f : List IPReservation → List IPReservation)
  /-- A conditional `Update`, in effect only while the version is `version`. -/
  | cas (name : String) (version : Nat) (reservations : List IPReservation)

/-- One stored pool after a write. -/
def PoolWrite.step : PoolWrite → VersionedPool → VersionedPool
  | .commit name f, p =>
    if p.pool.name = name then ⟨{ p.pool with allocations := f p.pool.allocations }, p.version + 1⟩
    else p
  | .cas name version reservations, p =>
    if p.pool.name = name ∧ p.version = version then
      ⟨{ p.pool with allocations := reservations }, p.version + 1⟩
    else p

/-- One stored pool after the writes `ws`, oldest first. -/
def PoolWrite.stepAll (ws : List PoolWrite) (p : VersionedPool) : VersionedPool :=
  ws.foldl (fun p w => w.step p) p

/-- The write is a commit of another writer, not a conditional `Update`. -/
def PoolWrite.isCommit : PoolWrite → Bool
  | .commit _ _ => true
  | .cas _ _ _ => false

namespace PoolWrite

@[simp] theorem stepAll_nil (p : VersionedPool) : stepAll [] p = p := rfl

@[simp] theorem stepAll_cons (w : PoolWrite) (ws : List PoolWrite) (p : VersionedPool) :
    stepAll (w :: ws) p = stepAll ws (w.step p) := rfl

@[simp] theorem step_name (w : PoolWrite) (p : VersionedPool) : (w.step p).pool.name = p.pool.name := by
  cases w <;> simp only [step] <;> split <;> rfl

theorem version_le_step (w : PoolWrite) (p : VersionedPool) : p.version ≤ (w.step p).version := by
  cases w <;> simp only [step] <;> split <;> simp

@[simp] theorem isCommit_commit (name : String) (f : List IPReservation → List IPReservation) :
    (commit name f).isCommit = true := rfl

@[simp] theorem isCommit_cas (name : String) (version : Nat) (reservations : List IPReservation) :
    (cas name version reservations).isCommit = false := rfl

theorem step_commit_of_ne (p : VersionedPool) {name : String} (h : name ≠ p.pool.name)
    (f : List IPReservation → List IPReservation) : (commit name f).step p = p := by
  simp [step, Ne.symm h]

theorem step_cas_of_ne {name : String} {p : VersionedPool} {version : Nat}
    (h : ¬(p.pool.name = name ∧ p.version = version)) (reservations : List IPReservation) :
    (cas name version reservations).step p = p := by
  simp only [step, h, if_false]

theorem step_cas_self (p : VersionedPool) (reservations : List IPReservation) :
    (cas p.pool.name p.version reservations).step p =
      ⟨{ p.pool with allocations := reservations }, p.version + 1⟩ := by
  simp [step]

theorem stepAll_of_version_lt {name : String} {version : Nat} :
    ∀ {ws : List PoolWrite}, (∀ v rs, cas name v rs ∈ ws → v = version) →
    ∀ p : VersionedPool, p.pool.name = name → version < p.version →
      stepAll ws p = stepAll (ws.filter (·.isCommit)) p
  | [], _, _, _, _ => rfl
  | w :: ws, hcas, p, hname, hlt => by
      have ih := stepAll_of_version_lt fun v rs h => hcas v rs (mem_cons_of_mem w h)
      cases w with
      | commit n f =>
          simp only [stepAll_cons, filter_cons, isCommit_commit, if_true]
          exact ih _ (by rw [step_name, hname]) (hlt.trans_le (version_le_step _ p))
      | cas n v rs =>
          have hstep : (cas n v rs).step p = p := step_cas_of_ne (fun ⟨hn, hv⟩ => by
            have := hcas v rs (by rw [← hname, hn]; exact mem_cons_self _ _)
            omega) rs
          simp only [stepAll_cons, filter_cons, isCommit_cas, hstep, Bool.false_eq_true, if_false]
          exact ih p hname hlt

/-- In every interleaving of commits with conditional writes of `reservations` at the
version `p` was read at, `p` ends as the commits, in order, make it of either `p` itself or
`reservations`: the conditional write lands before every commit to the pool, or not at all. -/
theorem stepAll_of_cas {p : VersionedPool} {reservations : List IPReservation} :
    ∀ {ws : List PoolWrite},
      (∀ v rs, cas p.pool.name v rs ∈ ws → v = p.version ∧ rs = reservations) →
      stepAll ws p = stepAll (ws.filter (·.isCommit)) p ∨
        cas p.pool.name p.version reservations ∈ ws ∧
          stepAll ws p = stepAll (ws.filter (·.isCommit))
            ⟨{ p.pool with allocations := reservations }, p.version + 1⟩
  | [], _ => .inl rfl
  | w :: ws, hcas => by
      have hlate := @stepAll_of_version_lt p.pool.name p.version ws
        fun v rs h => (hcas v rs (mem_cons_of_mem w h)).1
      have ih := @stepAll_of_cas p reservations ws fun v rs h => hcas v rs (mem_cons_of_mem w h)
      cases w with
      | commit n f =>
          simp only [stepAll_cons, filter_cons, isCommit_commit, if_true]
          by_cases hn : n = p.pool.name
          · -- the commit lands first: the conditional write can no longer take effect
            subst hn
            exact .inl (hlate _ (step_name _ p) (by simp [step]))
          · rw [step_commit_of_ne p hn, step_commit_of_ne
              ⟨{ p.pool with allocations := reservations }, p.version + 1⟩ hn]
            exact ih.imp_right fun ⟨hmem, h⟩ => ⟨mem_cons_of_mem _ hmem, h⟩
      | cas n v rs =>
          simp only [stepAll_cons, filter_cons, isCommit_cas, Bool.false_eq_true, if_false]
          by_cases hn : n = p.pool.name
          · -- the conditional write lands: only commits follow it
            subst hn
            obtain ⟨rfl, rfl⟩ := hcas v rs (mem_cons_self _ _)
            rw [step_cas_self]
            exact .inr ⟨mem_cons_self _ _, hlate _ rfl (Nat.lt_succ_self _)⟩
          · rw [step_cas_of_ne (fun h => hn h.1.symm) rs]
            exact ih.imp_right fun ⟨hmem, h⟩ => ⟨mem_cons_of_mem _ hmem, h⟩

end PoolWrite

end Whereabouts.Storage
