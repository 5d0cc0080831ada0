import Mathlib.Data.List.Basic
/-!
# The objects the reconciler reads

The reconciler sees four kinds of cluster objects: IP pools with their reservations,
cluster-wide `OverlappingRangeIPReservation` records, pods, and the network-status
annotation Multus writes on each pod.  This module gives each of them the fields the
reconciler reads or writes back, and nothing else.
-/

namespace Whereabouts.Api

/-- A `net.IP`, represented by the text `IP.String()` prints for it.  `String()` is
injective on 4- and 16-byte addresses and `IP.Equal` holds exactly when the two texts
agree, and the reconciler reads an IP only through these two functions. -/
structure IP where
  string : String
deriving DecidableEq, Repr, Inhabited

/-- `ip.Equal(x)`. -/
def IP.equal (ip x : IP) : Bool := ip.string == x.string

@[simp] theorem IP.equal_iff (ip x : IP) : ip.equal x = true ↔ ip = x := by
  cases ip; cases x; simp [IP.equal]

/-- `types.IPReservation`: one entry of a pool's `Allocations()`. -/
structure IPReservation where
  ip : IP
  containerID : String
  podRef : String
  ifName : String
deriving DecidableEq, Repr, Inhabited

/-- A `storage.IPPool` as the reconciler holds it: the pool's object name, and the list
its `Allocations()` returns. -/
structure IPPool where
  name : String
  allocations : List IPReservation
deriving DecidableEq, Repr

/-- An `OverlappingRangeIPReservation`: its object name, the normalised IP, and
`Spec.PodRef`. -/
structure OverlappingRangeIPReservation where
  name : String
  podRef : String
deriving DecidableEq, Repr

/-- `v1.PodPhase`. -/
inductive PodPhase where
  | pending
  | running
  | succeeded
  | failed
  | unknown
deriving DecidableEq, Repr

/-- `v1.PodCondition`, by the three fields `isPodMarkedForDeletion` compares. -/
structure PodCondition where
  type : String
  status : String
  reason : String
deriving DecidableEq, Repr

/-- One entry of the network-status annotation, by the two fields `getFlatIPSet` reads. -/
structure NetworkStatus where
  default : Bool
  ips : List String
deriving DecidableEq, Repr

/-- A `v1.Pod`.  `networkStatus` is what `json.Unmarshal` makes of
`networkStatusFromPod pod`: `none` when the annotation does not parse, and an absent or
empty annotation reads as `[]`. -/
structure Pod where
  podNamespace : String
  podName : String
  networkStatus : Option (List NetworkStatus)
  phase : PodPhase
  conditions : List PodCondition
deriving DecidableEq, Repr

/-- `composePodRef`: `"<namespace>/<name>"`. -/
def composePodRef (pod : Pod) : String := pod.podNamespace ++ "/" ++ pod.podName

end Whereabouts.Api
