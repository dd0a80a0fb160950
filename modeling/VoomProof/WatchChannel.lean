/-!
# A watch channel

One sender, any number of receivers, and only the latest value kept: the channel of
`tokio::sync::watch`. The channel is modelled by everything ever sent on it, so its
version is the number of sends and `since n` are the values sent after version `n`.

A receiver remembers the version it has seen. `changed` is ready as soon as the channel's
version is another one, whatever value that version carries; only when nothing is new does a
closed channel show. A clone has seen what its original has seen, so a clone of a receiver never
polled is ready at once after any send (`changed_of_unseen`).
-/

namespace Watch

variable {α : Type}

structure Channel (α : Type) where
  initial : α
  sent : List α
  closed : Bool
  deriving DecidableEq

namespace Channel

/-- A new channel. -/
def new (initial : α) : Channel α := { initial := initial, sent := [], closed := false }

/-- How many values were sent. -/
def version (c : Channel α) : Nat := c.sent.length

/-- The latest value. -/
def value (c : Channel α) : α := c.sent.getLastD c.initial

/-- The values sent after version `n`. -/
def since (c : Channel α) (n : Nat) : List α := c.sent.drop n

def send (c : Channel α) (a : α) : Channel α := { c with sent := c.sent ++ [a] }

/-- The sender is dropped. -/
def close (c : Channel α) : Channel α := { c with closed := true }

theorem since_version (c : Channel α) : c.since c.version = [] := List.drop_length

end Channel

/-- A receiver, by the version it has seen. -/
structure Receiver where
  seen : Nat
  deriving DecidableEq

/-- What `changed` returns: a newer version, or that the sender is gone. -/
inductive Signal where
  | changed
  | closed
  deriving DecidableEq

/-- `changed().await`: `none` while it is pending. -/
def Receiver.changed (r : Receiver) (c : Channel α) : Option (Signal × Receiver) :=
  if r.seen ≠ c.version then some (.changed, ⟨c.version⟩)
  else if c.closed then some (.closed, r)
  else none

theorem Receiver.changed_of_unseen {r : Receiver} {c : Channel α} (h : r.seen ≠ c.version) :
    r.changed c = some (.changed, ⟨c.version⟩) :=
  if_pos h

/-- On an open channel `changed` is ready only for a newer version. -/
theorem Receiver.unseen_of_changed {r : Receiver} {c : Channel α} {out : Signal × Receiver}
    (hopen : c.closed = false) (h : r.changed c = some out) : r.seen ≠ c.version := by
  intro hseen
  rw [changed, if_neg (not_not_intro hseen), hopen] at h
  cases h

end Watch
