import Mathlib.Init

/-!
Completion queues over any kind of tag. The operations pending on a queue and
whether it was shut down are all that its documented behaviour depends on: it
delivers each pending tag once and in any order, it may time out before it is
drained, and it reports its shutdown only once it is shut and drained.
-/

namespace IviSdk.CompletionQueues

variable {Tag : Type}

structure CompletionQueue (Tag : Type) where
  pending : List Tag := []
  shut : Bool := false

/-- What one call of `AsyncNext` comes back with. -/
inductive QueueAnswer (Tag : Type) where
  | gotEvent (tag : Tag)
  | timeout
  | shutdown

/-- The answer that ends a pass over a queue. -/
inductive NextStatus where
  | timeout
  | shutdown
  deriving DecidableEq

def NextStatus.answer : NextStatus → QueueAnswer Tag
  | .timeout => .timeout
  | .shutdown => .shutdown

def CompletionQueue.drained (queue : CompletionQueue Tag) : Bool :=
  queue.shut && queue.pending.isEmpty

/-- The answers a queue can give. -/
def grpcRules [DecidableEq Tag] (queue : CompletionQueue Tag) : QueueAnswer Tag → Bool
  | .gotEvent tag => queue.pending.contains tag
  | .timeout => !queue.drained
  | .shutdown => queue.drained

theorem grpc_event_iff [DecidableEq Tag] (queue : CompletionQueue Tag) (tag : Tag) :
    grpcRules queue (.gotEvent tag) = true ↔ tag ∈ queue.pending := by
  simp [grpcRules]

theorem drained_iff (queue : CompletionQueue Tag) :
    queue.drained = true ↔ queue.shut = true ∧ queue.pending = [] := by
  simp [CompletionQueue.drained]

theorem grpc_shutdown_iff [DecidableEq Tag] (queue : CompletionQueue Tag) :
    grpcRules queue .shutdown = true ↔ queue.shut = true ∧ queue.pending = [] :=
  drained_iff queue

end IviSdk.CompletionQueues
