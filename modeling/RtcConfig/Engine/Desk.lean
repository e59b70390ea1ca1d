import RtcConfig.Engine.Basic

/-! # Buffer desk

A desk hands out buffers by number. Each buffer that an engine acquires gets the next number,
also one that has a number already, and is written, read and closed by any of its numbers.
-/

namespace RtcConfig

structure BufferDesk where
  pool : BufferPool := {}
  handles : List BufferKey := []
  deriving DecidableEq, Repr

/-- A call on a factory: the buffer asked for and whether it was made for this call. -/
structure BufferCall where
  key : BufferKey
  isNew : Bool
  deriving DecidableEq, Repr

def BufferCall.line (c : BufferCall) : String :=
  "factory " ++ toString c.key.factory ++ " " ++ c.key.type.text ++ " " ++
    toString c.key.ssrc.toNat ++ (if c.isNew then " new" else " existing")

namespace BufferDesk

/-- Calls a factory and gives the buffer the next number. -/
def call (k : BufferKey) : StateM BufferDesk (Nat × BufferCall) := fun d =>
  let (isNew, pool) := d.pool.getOrNew k
  ((d.handles.length, ⟨k, isNew⟩), ⟨pool, d.handles ++ [k]⟩)

/-- The buffer that an engine acquires, if it has a factory. -/
def acquire (d : BufferDesk) (e : Engine) (type : PacketType) (ssrc : UInt32) :
    Option (Nat × BufferCall) × BufferDesk :=
  e.acquireBuffer call type ssrc |>.run d

def buffer? (d : BufferDesk) (handle : Nat) : Option (BufferKey × PacketQueue) := do
  let k ← d.handles[handle]?
  let q ← d.pool.find? k
  some (k, q)

def write? (d : BufferDesk) (handle : Nat) (p : Packet) : Option (Bool × BufferDesk) :=
  (d.buffer? handle).map fun (k, q) =>
    let (taken, q) := q.write p
    (taken, { d with pool := d.pool.set k q })

def read? (d : BufferDesk) (handle : Nat) : Option (Option Packet × BufferDesk) :=
  (d.buffer? handle).map fun (k, q) =>
    let (packet, q) := q.read
    (packet, { d with pool := d.pool.set k q })

def close? (d : BufferDesk) (handle : Nat) : Option BufferDesk :=
  (d.buffer? handle).map fun (k, q) => { d with pool := d.pool.set k q.close }

end BufferDesk

end RtcConfig
