/-!
# The worker wire envelope

The frames of the NDJSON progress stream and the errors of the wire contract, from
`voom-worker-protocol`'s `wire/envelope.rs`.

A frame's `lease_id` and `seq`, and whether it is terminal, are all the protocol
layer looks at. The rest (timestamp, percentage, message, payload, failure class
and error code) is carried through untouched, and is the type parameter `Body`.
-/

namespace Voom

/-- A lease's row id. -/
abbrev LeaseId := Nat

/-- One frame on the NDJSON progress stream. -/
inductive ProgressFrame (Body : Type) where
  | progress (leaseId : LeaseId) (seq : UInt64) (body : Body)
  | result (leaseId : LeaseId) (seq : UInt64) (body : Body)
  | error (leaseId : LeaseId) (seq : UInt64) (body : Body)
  deriving DecidableEq

namespace ProgressFrame
variable {Body : Type}

/-- The lease this frame is bound to. -/
def leaseId : ProgressFrame Body → LeaseId
  | progress l _ _ | result l _ _ | error l _ _ => l

/-- The frame's sequence number. -/
def seq : ProgressFrame Body → UInt64
  | progress _ s _ | result _ s _ | error _ s _ => s

/-- `true` iff this is the terminal frame (`Result` or `Error`). -/
def isTerminal : ProgressFrame Body → Bool
  | progress .. => false
  | result .. | error .. => true

end ProgressFrame

/-- Errors of the wire contract itself, as far as the stream codec raises them. -/
inductive ProtocolError where
  | frameTooLarge (bytes max : Nat)
  | malformedFrame (detail : String)
  | outOfOrderFrame (expectedSeq gotSeq : UInt64)
  | wrongLeaseId (expected got : LeaseId)
  | unexpectedFrameAfterTerminal
  deriving DecidableEq

end Voom
