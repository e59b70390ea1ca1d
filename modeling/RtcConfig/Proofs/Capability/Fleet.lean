import RtcConfig.Capability.Basic

/-! # Fleets of configurations

A fleet holds the configurations that a process has built and cloned, known by their numbers. A
buffer factory is an object of its own: configurations refer to it, and a call on it may change
whatever it shares with others, the world of the fleet. Each step on a fleet leaves an event that
says what was done, logged and answered.
-/

namespace RtcConfig

structure Fleet (W : Type) where
  configs : List CapabilityConfig
  world : W

inductive FleetStep where
  | build (s : RtcSettings)
  | clone (i : Nat)
  | attach (i : Nat) (f : FactoryId)
  | acquire (i : Nat) (type : PacketType) (ssrc : UInt32)

inductive FleetEvent (β : Type) where
  | built (records : List LogRecord)
  | refused (e : ConfigError)
  | cloned (i : Nat)
  | attached (i : Nat) (f : FactoryId) (records : List LogRecord)
  | acquired (i : Nat) (type : PacketType) (ssrc : UInt32) (answer : Option β)
    (calls : List (BufferKey × β))

namespace Fleet

variable {W β : Type}

/-- A call on a factory, noted behind the earlier ones with its answer. -/
def noting (getOrNew : BufferKey → StateM W β) (k : BufferKey) :
    StateM (W × List (BufferKey × β)) β := fun (world, calls) =>
  let (answer, world) := (getOrNew k).run world
  (answer, world, calls ++ [(k, answer)])

/-- What an engine acquires in a world: the answer, the world left behind and the calls made. -/
def acquire (getOrNew : BufferKey → StateM W β) (e : Engine) (type : PacketType) (ssrc : UInt32)
    (world : W) : Option β × W × List (BufferKey × β) :=
  (e.acquireBuffer (noting getOrNew) type ssrc).run (world, [])

/-- A step on a configuration that there is. A new configuration gets the next number. -/
def step (getOrNew : BufferKey → StateM W β) (fleet : Fleet W) :
    FleetStep → Option (FleetEvent β × Fleet W)
  | .build s => match CapabilityConfig.build s with
    | .ok c => some (.built c.records, { fleet with configs := fleet.configs ++ [c.value] })
    | .error e => some (.refused e, fleet)
  | .clone i => fleet.configs[i]?.map fun c =>
    (.cloned i, { fleet with configs := fleet.configs ++ [c] })
  | .attach i f => fleet.configs[i]?.map fun c =>
    let attached := c.attach f
    (.attached i f attached.records,
      { fleet with configs := fleet.configs.set i attached.value })
  | .acquire i type ssrc => fleet.configs[i]?.map fun c =>
    let (answer, world, calls) := acquire getOrNew c.engine type ssrc fleet.world
    (.acquired i type ssrc answer calls, { fleet with world := world })

/-- Runs from a fleet to another one, with the history of the run, its newest event first. -/
inductive Runs (getOrNew : BufferKey → StateM W β) (first : Fleet W) :
    List (FleetEvent β) → Fleet W → Prop
  | start : Runs getOrNew first [] first
  | step {past : List (FleetEvent β)} {fleet next : Fleet W} {action : FleetStep}
    {event : FleetEvent β} (run : Runs getOrNew first past fleet)
    (taken : fleet.step getOrNew action = some (event, next)) :
    Runs getOrNew first (event :: past) next

/-! ## What a step does -/

/-- All that a step can do to a fleet, with the event that it leaves. -/
inductive Change (getOrNew : BufferKey → StateM W β) (fleet : Fleet W) :
    FleetEvent β → Fleet W → Prop
  | built {s : RtcSettings} {c : Logged CapabilityConfig} (ok : CapabilityConfig.build s = .ok c) :
    Change getOrNew fleet (.built c.records) { fleet with configs := fleet.configs ++ [c.value] }
  | refused {s : RtcSettings} {e : ConfigError} (failed : CapabilityConfig.build s = .error e) :
    Change getOrNew fleet (.refused e) fleet
  | cloned {i : Nat} {c : CapabilityConfig} (there : fleet.configs[i]? = some c) :
    Change getOrNew fleet (.cloned i) { fleet with configs := fleet.configs ++ [c] }
  | attached {i : Nat} {c : CapabilityConfig} (f : FactoryId)
    (there : fleet.configs[i]? = some c) :
    Change getOrNew fleet (.attached i f (c.attach f).records)
      { fleet with configs := fleet.configs.set i (c.attach f).value }
  | acquired {i : Nat} {c : CapabilityConfig} {type : PacketType} {ssrc : UInt32}
    {answer : Option β} {world : W} {calls : List (BufferKey × β)}
    (there : fleet.configs[i]? = some c)
    (asked : acquire getOrNew c.engine type ssrc fleet.world = (answer, world, calls)) :
    Change getOrNew fleet (.acquired i type ssrc answer calls) { fleet with world := world }

variable {getOrNew : BufferKey → StateM W β} {fleet next : Fleet W} {event : FleetEvent β}

theorem change_of_step {action : FleetStep}
    (h : fleet.step getOrNew action = some (event, next)) : Change getOrNew fleet event next := by
  cases action with
  | build s =>
    rw [step] at h
    cases hbuild : CapabilityConfig.build s with
    | ok c =>
      rw [hbuild] at h
      cases h
      exact .built hbuild
    | error e =>
      rw [hbuild] at h
      cases h
      exact .refused hbuild
  | clone i =>
    obtain ⟨c, hc, h⟩ := Option.map_eq_some_iff.mp h
    cases h
    exact .cloned hc
  | attach i f =>
    obtain ⟨c, hc, h⟩ := Option.map_eq_some_iff.mp h
    cases h
    exact .attached f hc
  | acquire i type ssrc =>
    obtain ⟨c, hc, h⟩ := Option.map_eq_some_iff.mp h
    cases h
    exact .acquired hc rfl

theorem Runs.change (h : Runs getOrNew fleet [event] next) : Change getOrNew fleet event next := by
  cases h with
  | step run taken =>
    cases run
    exact change_of_step taken

/-- A run passes through a fleet of each of its earlier histories. -/
theorem Runs.split {first : Fleet W} {later earlier : List (FleetEvent β)} {last : Fleet W}
    (h : Runs getOrNew first (later ++ earlier) last) :
    ∃ mid, Runs getOrNew first earlier mid ∧ Runs getOrNew mid later last := by
  induction later generalizing last with
  | nil => exact ⟨last, h, .start⟩
  | cons event later ih =>
    cases h with
    | step run taken =>
      obtain ⟨mid, hearlier, hlater⟩ := ih run
      exact ⟨mid, hearlier, .step hlater taken⟩

/-- Without a factory nobody is asked, and the world stays as it is. -/
theorem acquire_of_none {e : Engine} (h : e.bufferFactory = none) (type : PacketType)
    (ssrc : UInt32) (world : W) : acquire getOrNew e type ssrc world = (none, world, []) := by
  rw [acquire, Engine.acquireBuffer, h]
  rfl

/-- The factory is asked once, for the buffer that is acquired. -/
theorem acquire_of_some {e : Engine} {f : FactoryId} (h : e.bufferFactory = some f)
    (type : PacketType) (ssrc : UInt32) (world : W) :
    acquire getOrNew e type ssrc world =
      let (answer, next) := (getOrNew ⟨f, type, ssrc⟩).run world
      (some answer, next, [(⟨f, type, ssrc⟩, answer)]) := by
  rw [acquire, Engine.acquireBuffer, h]
  rfl

end Fleet

end RtcConfig
