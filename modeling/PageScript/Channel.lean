/-!
# Broadcast channels

Everyone who follows a channel reads every message, from where he began to follow it on. The channel keeps its
newest messages; a follower who has fallen behind them is told how many he has missed and goes on with the oldest
message that is kept. A follower is a cursor: the number of messages he has read or missed.
-/

namespace PageScript

/-- A channel with the messages posted on it. -/
structure Channel (α : Type) where
  /-- The number of messages that are kept. -/
  capacity : Nat
  /-- All messages, the oldest first. -/
  log : List α
deriving Repr

/-- What a follower reads. -/
inductive Received (α : Type) where
  | message (m : α)
  | lagged (missed : Nat)
deriving DecidableEq, Repr

namespace Channel

/-- A channel without messages that keeps at least a number of them, and a power of two. -/
def ofCapacity (n : Nat) : Channel α :=
  ⟨(max 1 n).nextPowerOfTwo, []⟩

/-- Posts a message. -/
def post (c : Channel α) (m : α) : Channel α :=
  { c with log := c.log ++ [m] }

/-- The cursor of someone who begins to follow the channel. -/
def follow (c : Channel α) : Nat :=
  c.log.length

/-- The number of messages that are no longer kept. -/
def gone (c : Channel α) : Nat :=
  c.log.length - c.capacity

/-- What a follower reads next, and his cursor after that. -/
def receive? (c : Channel α) (cursor : Nat) : Option (Received α × Nat) :=
  if cursor < c.gone then some (.lagged (c.gone - cursor), c.gone)
  else (c.log[cursor]?).map fun m => (.message m, cursor + 1)

/-- All that a follower reads until nothing is left. -/
def drain (c : Channel α) (cursor : Nat) : List (Received α) :=
  (if cursor < c.gone then [.lagged (c.gone - cursor)] else [])
    ++ (c.log.drop (max cursor c.gone)).map .message

end Channel

end PageScript
