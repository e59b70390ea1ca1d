/-! # Packet buffers

A packet buffer is a queue that can be closed: a closed one takes no more packets but still
hands out those it has. A factory keeps one buffer for every packet type and stream, and a pool
holds the buffers of all factories in the order in which they were made.
-/

namespace RtcConfig

inductive PacketType where
  | rtp
  | rtcp
  deriving DecidableEq, Repr

def PacketType.text : PacketType → String
  | .rtp => "rtp"
  | .rtcp => "rtcp"

abbrev Packet := List UInt8

structure PacketQueue where
  packets : List Packet := []
  closed : Bool := false
  deriving DecidableEq, Repr

namespace PacketQueue

/-- Adds a packet, unless the queue is closed. -/
def write (q : PacketQueue) (p : Packet) : Bool × PacketQueue :=
  if q.closed then (false, q) else (true, { q with packets := q.packets ++ [p] })

/-- Takes the oldest packet. -/
def read (q : PacketQueue) : Option Packet × PacketQueue :=
  match q.packets with
  | [] => (none, q)
  | p :: ps => (some p, { q with packets := ps })

def close (q : PacketQueue) : PacketQueue := { q with closed := true }

end PacketQueue

abbrev FactoryId := Nat

/-- A buffer is known by its factory, its packet type and its stream. -/
structure BufferKey where
  factory : FactoryId
  type : PacketType
  ssrc : UInt32
  deriving DecidableEq, Repr

structure BufferPool where
  buffers : List (BufferKey × PacketQueue) := []
  deriving DecidableEq, Repr

namespace BufferPool

def find? (pool : BufferPool) (k : BufferKey) : Option PacketQueue := pool.buffers.lookup k

/-- Makes the buffer if there is none, and says whether it did. -/
def getOrNew (pool : BufferPool) (k : BufferKey) : Bool × BufferPool :=
  match pool.find? k with
  | some _ => (false, pool)
  | none => (true, ⟨pool.buffers ++ [(k, {})]⟩)

def set (pool : BufferPool) (k : BufferKey) (q : PacketQueue) : BufferPool :=
  ⟨pool.buffers.map fun b => if b.1 = k then (k, q) else b⟩

/-- How many buffers a factory holds. -/
def count (pool : BufferPool) (f : FactoryId) : Nat :=
  pool.buffers.countP fun b => b.1.factory == f

end BufferPool

end RtcConfig
