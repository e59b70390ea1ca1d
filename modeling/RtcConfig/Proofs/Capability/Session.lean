import RtcConfig.Capability.Session
import RtcConfig.Proofs.Capability.Lineage

/-! # Runs of sessions

The answers of the factories of a session depend on the buffers that were made and on the numbers
that were given out, the register of its desk, and not on packets. On registers a session is a
fleet: each step is a step of the fleet on the current configuration or leaves the fleet as it is.
So what holds along all runs of fleets holds in every session.
-/

namespace RtcConfig

/-! ## Registers -/

/-- The buffers that were made and those that the numbers stand for. -/
structure BufferRegister where
  made : List BufferKey := []
  handles : List BufferKey := []

/-- A call on a factory, as a register sees it. -/
def BufferRegister.call (k : BufferKey) : StateM BufferRegister (Nat × BufferCall) := fun r =>
  if k ∈ r.made then ((r.handles.length, ⟨k, false⟩), ⟨r.made, r.handles ++ [k]⟩)
  else ((r.handles.length, ⟨k, true⟩), ⟨r.made ++ [k], r.handles ++ [k]⟩)

namespace BufferPool

def keys (pool : BufferPool) : List BufferKey := pool.buffers.map Prod.fst

theorem isSome_find?_iff (pool : BufferPool) (k : BufferKey) :
    (pool.find? k).isSome ↔ k ∈ pool.keys := by
  rw [find?, List.lookup_isSome_iff, keys, List.mem_map]
  constructor
  · rintro ⟨b, hb, hkey⟩
    exact ⟨b, hb, (eq_of_beq hkey).symm⟩
  · rintro ⟨b, hb, rfl⟩
    exact ⟨b, hb, beq_self_eq_true b.1⟩

@[simp] theorem keys_set (pool : BufferPool) (k : BufferKey) (q : PacketQueue) :
    (pool.set k q).keys = pool.keys := by
  rw [keys, set, List.map_map]
  refine List.map_congr_left fun b _ => ?_
  by_cases hb : b.1 = k <;> simp [hb]

end BufferPool

namespace BufferDesk

def register (d : BufferDesk) : BufferRegister := ⟨d.pool.keys, d.handles⟩

theorem call_register (k : BufferKey) (d : BufferDesk) :
    (BufferRegister.call k).run d.register =
      (((call k).run d).1, ((call k).run d).2.register) := by
  have hmade := d.pool.isSome_find?_iff k
  change BufferRegister.call k d.register = ((call k d).1, (call k d).2.register)
  unfold BufferRegister.call call BufferPool.getOrNew
  cases hfind : d.pool.find? k with
  | some q =>
    have hmem : k ∈ d.register.made := hmade.mp (hfind ▸ rfl)
    rw [if_pos hmem]
    rfl
  | none =>
    have hnew : k ∉ d.register.made := fun hmem => by
      simpa [hfind] using hmade.mpr hmem
    rw [if_neg hnew]
    simp [register, BufferPool.keys]

variable {d next : BufferDesk} {handle : Nat}

theorem register_set (d : BufferDesk) (k : BufferKey) (q : PacketQueue) :
    register { d with pool := d.pool.set k q } = d.register := by
  rw [register, register, BufferPool.keys_set]

theorem register_write {p : Packet} {taken : Bool} (h : d.write? handle p = some (taken, next)) :
    next.register = d.register := by
  obtain ⟨⟨k, q⟩, -, h⟩ := Option.map_eq_some_iff.mp h
  cases h
  exact register_set d k _

theorem register_read {p : Option Packet} (h : d.read? handle = some (p, next)) :
    next.register = d.register := by
  obtain ⟨⟨k, q⟩, -, h⟩ := Option.map_eq_some_iff.mp h
  cases h
  exact register_set d k _

theorem register_close (h : d.close? handle = some next) : next.register = d.register := by
  obtain ⟨⟨k, q⟩, -, h⟩ := Option.map_eq_some_iff.mp h
  cases h
  exact register_set d k _

end BufferDesk

/-! ## Steps -/

/-- What is asked of a session, of its current configuration or of a buffer with a number. -/
inductive SessionStep where
  | attach (f : FactoryId)
  | clone
  | use (i : Nat)
  | acquire (type : PacketType) (ssrc : UInt32)
  | getOrNew (ssrc : UInt32)
  | write (handle : Nat) (p : Packet)
  | read (handle : Nat)
  | close (handle : Nat)

/-- What a step leaves behind. The answer of a factory is the number of the buffer and the call. -/
abbrev SessionEvent := FleetEvent (Nat × BufferCall)

namespace Session

variable {s next : Session}

/-- Asks the engine of the current configuration for the buffer of a stream. -/
def acquire (s : Session) (type : PacketType) (ssrc : UInt32) :
    Option (Nat × BufferCall) × Session :=
  let (answer, desk) := s.desk.acquire s.config.engine type ssrc
  (answer, { s with desk := desk })

/-- The calls on factories behind an answer: one for the buffer, or none. -/
def callsOf (answer : Option (Nat × BufferCall)) : List (BufferKey × (Nat × BufferCall)) :=
  answer.toList.map fun a => (a.2.key, a)

/-- A step, if there are the configuration and the buffer that it asks for. It leaves an event if
it concerns a configuration and not packets only. -/
def step (s : Session) : SessionStep → Option (Option SessionEvent × Session)
  | .attach f =>
    let (records, next) := s.attach f
    some (some (.attached s.current f records), next)
  | .clone => some (some (.cloned s.current), s.clone.2)
  | .use i => (s.use? i).map fun next => (none, next)
  | .acquire type ssrc =>
    let (answer, next) := s.acquire type ssrc
    some (some (.acquired s.current type ssrc answer (callsOf answer)), next)
  | .getOrNew ssrc =>
    let (answer, next) := s.getOrNew ssrc
    some (some (.acquired s.current .rtp ssrc answer (callsOf answer)), next)
  | .write handle p => (s.desk.write? handle p).map fun r => (none, { s with desk := r.2 })
  | .read handle => (s.desk.read? handle).map fun r => (none, { s with desk := r.2 })
  | .close handle => (s.desk.close? handle).map fun desk => (none, { s with desk := desk })

/-- Runs from a session to another one, with the history of the run, its newest event first. -/
inductive Runs (first : Session) : List SessionEvent → Session → Prop
  | start : Runs first [] first
  | step {past : List SessionEvent} {s next : Session} {action : SessionStep}
    {event : Option SessionEvent} (run : Runs first past s)
    (taken : s.step action = some (event, next)) : Runs first (event.toList ++ past) next

/-! ## Sessions as fleets -/

/-- The configurations of a session, with the register of the desk that all factories share. -/
def fleet (s : Session) : Fleet BufferRegister := ⟨s.configs, s.desk.register⟩

theorem getElem?_current (s : Session) : s.configs[s.current]? = some s.config :=
  List.getElem?_eq_getElem s.current_lt

theorem step_attach (s : Session) (f : FactoryId) :
    s.fleet.step BufferRegister.call (.attach s.current f) =
      some (.attached s.current f (s.attach f).1, (s.attach f).2.fleet) := by
  rw [Fleet.step, fleet, s.getElem?_current]
  rfl

theorem step_clone (s : Session) :
    s.fleet.step BufferRegister.call (.clone s.current) =
      some (.cloned s.current, s.clone.2.fleet) := by
  rw [Fleet.step, fleet, s.getElem?_current]
  rfl

theorem acquire_fleet (s : Session) (type : PacketType) (ssrc : UInt32) :
    Fleet.acquire BufferRegister.call s.config.engine type ssrc s.desk.register =
      ((s.acquire type ssrc).1, (s.acquire type ssrc).2.desk.register,
        callsOf (s.acquire type ssrc).1) := by
  rw [acquire, BufferDesk.acquire, Engine.acquireBuffer]
  cases hf : s.config.engine.bufferFactory with
  | none => exact Fleet.acquire_of_none hf type ssrc _
  | some f =>
    rw [Fleet.acquire_of_some hf, BufferDesk.call_register]
    rfl

theorem step_acquire (s : Session) (type : PacketType) (ssrc : UInt32) :
    s.fleet.step BufferRegister.call (.acquire s.current type ssrc) =
      some (.acquired s.current type ssrc (s.acquire type ssrc).1
        (callsOf (s.acquire type ssrc).1), (s.acquire type ssrc).2.fleet) := by
  rw [Fleet.step, fleet, s.getElem?_current, Option.map_some, acquire_fleet]
  rfl

/-- A configuration that holds the factory of its engine asks it for what its engine acquires. -/
theorem getOrNew_eq (h : s.config.engine.bufferFactory = s.config.bufferFactory) (ssrc : UInt32) :
    s.getOrNew ssrc = s.acquire .rtp ssrc := by
  rw [getOrNew, acquire, BufferDesk.acquire, Engine.acquireBuffer, h]
  cases s.config.bufferFactory <;> rfl

theorem fleet_withDesk {desk : BufferDesk} (h : desk.register = s.desk.register) :
    fleet { s with desk := desk } = s.fleet := by
  rw [fleet, h]
  rfl

theorem fleet_use {i : Nat} (h : s.use? i = some next) : next.fleet = s.fleet := by
  rw [use?] at h
  split at h
  · cases h
    rfl
  · cases h

/-- A step that leaves an event is one of the fleet, and any other one leaves the fleet as it is. -/
theorem step_simulates {action : SessionStep} {event : Option SessionEvent}
    (hfactory : s.config.engine.bufferFactory = s.config.bufferFactory)
    (h : s.step action = some (event, next)) :
    match event with
    | some event => ∃ step, s.fleet.step BufferRegister.call step = some (event, next.fleet)
    | none => next.fleet = s.fleet := by
  cases action with
  | attach f =>
    cases h
    exact ⟨_, s.step_attach f⟩
  | clone =>
    cases h
    exact ⟨_, s.step_clone⟩
  | acquire type ssrc =>
    cases h
    exact ⟨_, s.step_acquire type ssrc⟩
  | getOrNew ssrc =>
    -- The factory of the configuration is that of its engine, which acquires from it.
    rw [step, getOrNew_eq hfactory] at h
    cases h
    exact ⟨_, s.step_acquire .rtp ssrc⟩
  | use i =>
    obtain ⟨next, hnext, h⟩ := Option.map_eq_some_iff.mp h
    cases h
    exact fleet_use hnext
  | write handle p =>
    obtain ⟨⟨taken, desk⟩, hdesk, h⟩ := Option.map_eq_some_iff.mp h
    cases h
    exact fleet_withDesk (BufferDesk.register_write hdesk)
  | read handle =>
    obtain ⟨⟨p, desk⟩, hdesk, h⟩ := Option.map_eq_some_iff.mp h
    cases h
    exact fleet_withDesk (BufferDesk.register_read hdesk)
  | close handle =>
    obtain ⟨desk, hdesk, h⟩ := Option.map_eq_some_iff.mp h
    cases h
    exact fleet_withDesk (BufferDesk.register_close hdesk)

theorem engine_factory {past : List SessionEvent}
    (run : Fleet.Runs BufferRegister.call ⟨[], {}⟩ past s.fleet) :
    s.config.engine.bufferFactory = s.config.bufferFactory :=
  (run.accounts.follows s.getElem?_current).engine

variable {settings : RtcSettings} {built : Logged CapabilityConfig}
  {past : List SessionEvent}

/-- A session of a configuration that was built is a run of a fleet that starts from nothing, so it
has all that runs of fleets have. -/
theorem Runs.fleet (hbuild : CapabilityConfig.build settings = .ok built)
    (h : Runs (Session.start built.value) past s) :
    Fleet.Runs BufferRegister.call ⟨[], {}⟩ (past ++ [.built built.records]) s.fleet := by
  induction h with
  | start =>
    have hstep : Fleet.step BufferRegister.call ⟨[], {}⟩ (.build settings) =
        some (.built built.records, (Session.start built.value).fleet) := by
      rw [Fleet.step, hbuild]
      rfl
    exact Fleet.Runs.start.step hstep
  | @step past s next action event run taken ih =>
    have hstep := step_simulates (engine_factory ih) taken
    cases event with
    | some event =>
      obtain ⟨step, hstep⟩ := hstep
      exact ih.step hstep
    | none =>
      rw [hstep]
      exact ih

/-- In every session each configuration is as its lineage left it. What the current one or its
engine is asked for goes, with one call, to the factory attached last along its lineage. -/
theorem Runs.follows (hbuild : CapabilityConfig.build settings = .ok built)
    (h : Runs (Session.start built.value) past s) :
    (∀ (i : Nat) (c : CapabilityConfig), s.configs[i]? = some c →
      c.Follows (Fleet.lineage (past ++ [.built built.records]) i)) ∧
    (∀ type ssrc, Fleet.Acquires BufferRegister.call
      (Fleet.lastFactory (Fleet.lineage (past ++ [.built built.records]) s.current)) type ssrc
      s.desk.register (s.acquire type ssrc).1 (callsOf (s.acquire type ssrc).1)
      (s.acquire type ssrc).2.desk.register) ∧
    ∀ ssrc, s.getOrNew ssrc = s.acquire .rtp ssrc := by
  have hfleet := h.fleet hbuild
  have hcurrent := hfleet.accounts.follows s.getElem?_current
  refine ⟨fun i c hc => hfleet.accounts.follows hc, fun type ssrc => ?_,
    fun ssrc => getOrNew_eq hcurrent.engine ssrc⟩
  have hacquires : Fleet.Acquires BufferRegister.call s.config.engine.bufferFactory type ssrc
      s.desk.register _ _ _ :=
    Fleet.acquires_acquire s.config.engine type ssrc s.desk.register
  rw [acquire_fleet, hcurrent.engine, hcurrent.factory] at hacquires
  exact hacquires

end Session

end RtcConfig
