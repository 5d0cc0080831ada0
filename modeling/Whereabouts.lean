import Whereabouts.Api.Types
import Whereabouts.Storage.Client
import Whereabouts.Storage.Versioned
import Whereabouts.Reconciler.WrappedPod
import Whereabouts.Reconciler.IsOrphanedIP
import Whereabouts.Reconciler.IPLoop
import Whereabouts.Reconciler.Cleanup
import Whereabouts.Reconciler.Looper
import Whereabouts.Reconciler.Safety
import Whereabouts.Reconciler.PoolUpdates
import Whereabouts.Reconciler.Refinement
import Whereabouts.Reconciler.Idempotence
import Whereabouts.Reconciler.Outcome
import Whereabouts.Reconciler.Concurrency
import Whereabouts.Reconciler.OrphanRule
import Whereabouts.Reconciler.Listing
