import RtcConfig.Engine.Desk
import RtcConfig.Proofs.Capability.Assembly
import RtcConfig.Proofs.Capability.Fleet

/-! # Buffer factories along a lineage

The lineage of a configuration is what was done to its originals up to each clone, and then to
itself. A configuration and its engine hold the factory attached last along the lineage, and the
records of the attachments tell the first one from all later ones. What is done to one configuration
never shows in another.
-/

namespace RtcConfig

variable {W β : Type}

namespace FleetEvent

/-- Whether the event happened to a configuration. -/
def on (i : Nat) : FleetEvent β → Bool
  | attached j _ _ => j == i
  | acquired j _ _ _ _ => j == i
  | _ => false

/-- Whether the event made a configuration. -/
def makes : FleetEvent β → Bool
  | built _ => true
  | cloned _ => true
  | _ => false

def factory? : FleetEvent β → Option FactoryId
  | attached _ f _ => some f
  | _ => none

/-- The records of an attachment. -/
def attachRecords? : FleetEvent β → Option (List LogRecord)
  | attached _ _ records => some records
  | _ => none

end FleetEvent

namespace Fleet

/-- How many configurations a history made, which is the number of the next one. -/
def made (past : List (FleetEvent β)) : Nat := past.countP FleetEvent.makes

/-- What happened to a configuration and to those it descends from, oldest first. -/
def lineage : List (FleetEvent β) → Nat → List (FleetEvent β)
  | [], _ => []
  | .built _ :: past, i => if i = made past then [] else lineage past i
  | .cloned j :: past, i => if i = made past then lineage past j else lineage past i
  | event :: past, i => if event.on i then lineage past i ++ [event] else lineage past i

/-- What happened to a configuration itself, oldest first. -/
def own (past : List (FleetEvent β)) (i : Nat) : List (FleetEvent β) :=
  (past.filter (FleetEvent.on i)).reverse

def lastFactory (events : List (FleetEvent β)) : Option FactoryId :=
  (events.filterMap FleetEvent.factory?).getLast?

theorem lastFactory_append (first second : List (FleetEvent β)) :
    lastFactory (first ++ second) = (lastFactory second).or (lastFactory first) := by
  rw [lastFactory, List.filterMap_append, List.getLast?_append, lastFactory, lastFactory]

/-- The records of so many attachments: the first factory is attached, and each later one replaces
the one before. -/
def attachLog : Nat → List (List LogRecord)
  | 0 => []
  | n + 1 => [⟨.debug, "buffer factory attached"⟩] ::
    List.replicate n [⟨.warn, "replacing previously attached buffer factory"⟩]

theorem attachLog_succ (n : Nat) : attachLog (n + 1) = attachLog n ++
    [if n = 0 then [⟨.debug, "buffer factory attached"⟩]
      else [⟨.warn, "replacing previously attached buffer factory"⟩]] := by
  cases n with
  | zero => rfl
  | succ n => simp [attachLog, List.replicate_succ']

/-! ## Histories -/

theorem own_append (later earlier : List (FleetEvent β)) (i : Nat) :
    own (later ++ earlier) i = own earlier i ++ own later i := by
  simp [own]

theorem made_cons (event : FleetEvent β) (past : List (FleetEvent β)) :
    made (event :: past) = made past + if event.makes then 1 else 0 :=
  List.countP_cons

theorem made_append_le (later earlier : List (FleetEvent β)) :
    made earlier ≤ made (later ++ earlier) := by
  rw [made, made, List.countP_append]
  exact Nat.le_add_left _ _

/-- Each configuration was made by an event of the history. -/
theorem exists_origin {past : List (FleetEvent β)} {i : Nat} (hi : i < made past) :
    ∃ later origin earlier, past = later ++ origin :: earlier ∧ origin.makes ∧
      made earlier = i := by
  induction past with
  | nil => exact absurd hi (Nat.not_lt_zero i)
  | cons event past ih =>
    by_cases hlt : i < made past
    · obtain ⟨later, origin, earlier, rfl, hmakes, hmade⟩ := ih hlt
      exact ⟨event :: later, origin, earlier, rfl, hmakes, hmade⟩
    · rw [made_cons] at hi
      by_cases hmakes : event.makes
      · rw [if_pos hmakes] at hi
        exact ⟨[], event, past, rfl, hmakes, by omega⟩
      · rw [if_neg hmakes] at hi
        exact absurd hi hlt

/-- What happens after a configuration was made adds to its lineage what happens to itself. -/
theorem lineage_append (later : List (FleetEvent β)) {earlier : List (FleetEvent β)} {i : Nat}
    (hi : i < made earlier) :
    lineage (later ++ earlier) i = lineage earlier i ++ own later i := by
  induction later with
  | nil => simp [own]
  | cons event later ih =>
    -- An event behind `earlier` can only make configurations with higher numbers.
    have hne : i ≠ made (later ++ earlier) :=
      Nat.ne_of_lt (Nat.lt_of_lt_of_le hi (made_append_le later earlier))
    have hown : own (event :: later) i = own later i ++ own [event] i :=
      own_append [event] later i
    rw [hown, ← List.append_assoc, ← ih]
    cases event with
    | built records => simp [lineage, own, hne, FleetEvent.on]
    | refused e => simp [lineage, own, FleetEvent.on]
    | cloned j => simp [lineage, own, hne, FleetEvent.on]
    | attached j f records => by_cases hj : j = i <;> simp [lineage, own, FleetEvent.on, hj]
    | acquired j type ssrc answer calls =>
      by_cases hj : j = i <;> simp [lineage, own, FleetEvent.on, hj]

end Fleet

/-! ## Configurations along their lineage -/

/-- A configuration that is as the events along its lineage left it. -/
structure CapabilityConfig.Follows (c : CapabilityConfig) (events : List (FleetEvent β)) :
    Prop where
  engine : c.engine.bufferFactory = c.bufferFactory
  factory : c.bufferFactory = Fleet.lastFactory events
  records : events.filterMap FleetEvent.attachRecords? =
    Fleet.attachLog (events.filterMap FleetEvent.factory?).length

namespace CapabilityConfig

theorem follows_build {s : RtcSettings} {built : Logged CapabilityConfig}
    (h : build s = .ok built) : built.value.Follows ([] : List (FleetEvent β)) := by
  obtain ⟨base, hbase, -⟩ := bind_eq_ok h
  obtain ⟨c, hc, hassembles, -⟩ := build_of_ok hbase
  obtain rfl : c = built := Except.ok.inj (hc.symm.trans h)
  constructor
  · rw [hassembles.noEngineFactory, hassembles.noFactory]
  · exact hassembles.noFactory
  · rfl

variable {c : CapabilityConfig} {events : List (FleetEvent β)}

theorem records_attach (c : CapabilityConfig) (f : FactoryId) : (c.attach f).records =
    if c.bufferFactory = none then [⟨.debug, "buffer factory attached"⟩]
    else [⟨.warn, "replacing previously attached buffer factory"⟩] := by
  cases h : c.bufferFactory <;> simp [attach, h]

theorem Follows.attach (h : c.Follows events) (i : Nat) (f : FactoryId) :
    (c.attach f).value.Follows (events ++ [.attached i f (c.attach f).records]) where
  engine := rfl
  factory := by
    rw [Fleet.lastFactory_append]
    rfl
  records := by
    have hnone : c.bufferFactory = none ↔
        (events.filterMap FleetEvent.factory?).length = 0 := by
      rw [h.factory, Fleet.lastFactory, List.getLast?_eq_none_iff, List.length_eq_zero_iff]
    calc (events ++ [FleetEvent.attached i f (c.attach f).records]).filterMap
          FleetEvent.attachRecords?
        = events.filterMap FleetEvent.attachRecords? ++ [(c.attach f).records] := by
          rw [List.filterMap_append]
          rfl
      _ = Fleet.attachLog ((events.filterMap FleetEvent.factory?).length + 1) := by
          rw [h.records, records_attach, Fleet.attachLog_succ]
          simp only [hnone]
      _ = Fleet.attachLog ((events ++ [FleetEvent.attached i f (c.attach f).records]).filterMap
            FleetEvent.factory?).length := by
          rw [List.filterMap_append, List.length_append]
          rfl

/-- An acquisition attaches nothing. -/
theorem Follows.acquire (h : c.Follows events) (i : Nat) (type : PacketType) (ssrc : UInt32)
    (answer : Option β) (calls : List (BufferKey × β)) :
    c.Follows (events ++ [.acquired i type ssrc answer calls]) where
  engine := h.engine
  factory := by
    rw [Fleet.lastFactory_append, ← h.factory]
    rfl
  records := by
    rw [List.filterMap_append, List.filterMap_append]
    simpa [List.filterMap_cons, FleetEvent.attachRecords?, FleetEvent.factory?] using h.records

end CapabilityConfig

/-! ## Runs -/

namespace Fleet

/-- The history accounts for each configuration of the fleet. -/
structure Accounts (past : List (FleetEvent β)) (fleet : Fleet W) : Prop where
  length : fleet.configs.length = made past
  follows : ∀ {i : Nat} {c : CapabilityConfig},
    fleet.configs[i]? = some c → c.Follows (lineage past i)

variable {getOrNew : BufferKey → StateM W β} {fleet next : Fleet W}
  {past : List (FleetEvent β)} {event : FleetEvent β}

/-- A new configuration is the last one, and the earlier ones keep their numbers. -/
theorem getElem?_made (h : Accounts past fleet) {new : CapabilityConfig} {i : Nat}
    {c : CapabilityConfig} (hc : (fleet.configs ++ [new])[i]? = some c) :
    i = made past ∧ c = new ∨ i ≠ made past ∧ fleet.configs[i]? = some c := by
  obtain hlt | heq | hgt := Nat.lt_trichotomy i (made past)
  · rw [List.getElem?_append_left (h.length ▸ hlt)] at hc
    exact .inr ⟨Nat.ne_of_lt hlt, hc⟩
  · subst heq
    rw [← h.length, List.getElem?_concat_length] at hc
    exact .inl ⟨rfl, (Option.some.inj hc).symm⟩
  · rw [List.getElem?_eq_none (by simp [h.length]; omega)] at hc
    cases hc

theorem Accounts.change (h : Accounts past fleet) (change : Change getOrNew fleet event next) :
    Accounts (event :: past) next := by
  cases change with
  | built ok =>
    refine ⟨by simp [made_cons, FleetEvent.makes, h.length], fun {i c} hc => ?_⟩
    obtain ⟨rfl, rfl⟩ | ⟨hi, hc⟩ := getElem?_made h hc
    · simpa [lineage] using CapabilityConfig.follows_build ok
    · simpa [lineage, hi] using h.follows hc
  | refused failed =>
    exact ⟨h.length, fun hc => by simpa [lineage, FleetEvent.on] using h.follows hc⟩
  | cloned there =>
    refine ⟨by simp [made_cons, FleetEvent.makes, h.length], fun {i c} hc => ?_⟩
    obtain ⟨rfl, rfl⟩ | ⟨hi, hc⟩ := getElem?_made h hc
    · simpa [lineage] using h.follows there
    · simpa [lineage, hi] using h.follows hc
  | @attached j original f there =>
    refine ⟨by simp [made_cons, FleetEvent.makes, h.length], fun {i c} hc => ?_⟩
    by_cases hij : j = i
    · subst hij
      obtain ⟨hlt, -⟩ := List.getElem?_eq_some_iff.mp there
      rw [List.getElem?_set_self hlt] at hc
      cases hc
      simpa [lineage, FleetEvent.on] using (h.follows there).attach j f
    · rw [List.getElem?_set_ne hij] at hc
      simpa [lineage, FleetEvent.on, hij] using h.follows hc
  | @acquired j asking type ssrc answer world calls there asked =>
    refine ⟨h.length, fun {i c} hc => ?_⟩
    by_cases hij : j = i
    · simpa [lineage, FleetEvent.on, hij] using (h.follows hc).acquire i type ssrc answer calls
    · simpa [lineage, FleetEvent.on, hij] using h.follows hc

theorem Runs.accounts {world : W} (h : Runs getOrNew ⟨[], world⟩ past fleet) :
    Accounts past fleet := by
  induction h with
  | start => exact ⟨rfl, by simp⟩
  | step run taken ih => exact ih.change (change_of_step taken)

/-- The factory that a new configuration starts with, which is the one of its original. -/
def inherited (fleet : Fleet W) : FleetEvent β → Option FactoryId
  | .cloned j => fleet.configs[j]?.bind CapabilityConfig.bufferFactory
  | _ => none

/-- The lineage of a configuration is that of its original before it is made. -/
theorem Runs.lastFactory_origin {world : W} {origin : FleetEvent β} (hmakes : origin.makes)
    (h : Runs getOrNew ⟨[], world⟩ past fleet) (change : Change getOrNew fleet origin next) :
    lastFactory (lineage (origin :: past) (made past)) = inherited fleet origin := by
  cases change with
  | built ok => simp [lineage, inherited, lastFactory]
  | cloned there => simp [lineage, inherited, there, (h.accounts.follows there).factory]
  | refused failed => cases hmakes
  | attached f there => cases hmakes
  | acquired there asked => cases hmakes

/-- A configuration holds the factory that was attached to it last or, if none was since it was
made, the one that it started with. -/
theorem Runs.exists_inherited {world : W} (h : Runs getOrNew ⟨[], world⟩ past fleet) {i : Nat}
    {c : CapabilityConfig} (hc : fleet.configs[i]? = some c) :
    ∃ later origin earlier mid, past = later ++ origin :: earlier ∧ origin.makes ∧
      made earlier = i ∧ Runs getOrNew ⟨[], world⟩ earlier mid ∧
      Runs getOrNew mid (later ++ [origin]) fleet ∧
      c.bufferFactory = (lastFactory (own later i)).or (inherited mid origin) := by
  have hi : i < made past := h.accounts.length ▸ (List.getElem?_eq_some_iff.mp hc).1
  obtain ⟨later, origin, earlier, rfl, hmakes, rfl⟩ := exists_origin hi
  have hmade : made earlier < made (origin :: earlier) := by
    rw [made_cons, if_pos hmakes]
    exact Nat.lt_succ_self _
  -- The run is cut in front of the event that made the configuration, and once more behind it.
  have hrun : Runs getOrNew ⟨[], world⟩ (later ++ [origin] ++ earlier) fleet := by
    rwa [← List.append_cons]
  obtain ⟨mid, hearlier, hlater⟩ := hrun.split
  obtain ⟨next, horigin, -⟩ := hlater.split
  refine ⟨later, origin, earlier, mid, rfl, hmakes, rfl, hearlier, hlater, ?_⟩
  rw [(h.accounts.follows hc).factory, lineage_append later hmade, lastFactory_append,
    hearlier.lastFactory_origin hmakes horigin.change]

/-! ## What comes next -/

/-- An acquisition with a factory, or without one. It asks the factory once, for the buffer that is
acquired, and hands on the answer; without a factory it asks nobody and there is no answer. -/
structure Acquires (getOrNew : BufferKey → StateM W β) (factory : Option FactoryId)
    (type : PacketType) (ssrc : UInt32) (before : W) (answer : Option β)
    (calls : List (BufferKey × β)) (after : W) : Prop where
  answer_none : answer = none ↔ factory = none
  silent : factory = none → calls = [] ∧ after = before
  asked : ∀ f, factory = some f → ∃ b, answer = some b ∧ calls = [(⟨f, type, ssrc⟩, b)] ∧
    (getOrNew ⟨f, type, ssrc⟩).run before = (b, after)

theorem acquires_acquire (e : Engine) (type : PacketType) (ssrc : UInt32) (world : W) :
    Acquires getOrNew e.bufferFactory type ssrc world (acquire getOrNew e type ssrc world).1
      (acquire getOrNew e type ssrc world).2.2 (acquire getOrNew e type ssrc world).2.1 := by
  cases hf : e.bufferFactory with
  | none =>
    rw [acquire_of_none hf]
    exact ⟨by simp, by simp, by simp⟩
  | some f =>
    rw [acquire_of_some hf]
    refine ⟨⟨nofun, nofun⟩, nofun, ?_⟩
    rintro _ ⟨⟩
    exact ⟨_, rfl, rfl, rfl⟩

theorem step_acquire {i : Nat} {c : CapabilityConfig} (hc : fleet.configs[i]? = some c)
    (type : PacketType) (ssrc : UInt32) :
    ∃ answer calls world, fleet.step getOrNew (.acquire i type ssrc) =
        some (.acquired i type ssrc answer calls, { fleet with world := world }) ∧
      Acquires getOrNew c.engine.bufferFactory type ssrc fleet.world answer calls world := by
  rw [step, hc]
  exact ⟨_, _, _, rfl, acquires_acquire c.engine type ssrc fleet.world⟩

/-- An attachment changes the factory of one configuration and of its engine, and nothing else. -/
theorem step_attach {i : Nat} {c : CapabilityConfig} (hc : fleet.configs[i]? = some c)
    (f : FactoryId) :
    ∃ next, fleet.step getOrNew (.attach i f) = some (.attached i f (c.attach f).records, next) ∧
      next.world = fleet.world ∧ (∀ j, j ≠ i → next.configs[j]? = fleet.configs[j]?) ∧
      next.configs[i]? = some
        { c with
          transport := { c.transport with engine := { c.engine with bufferFactory := some f } }
          bufferFactory := some f } := by
  obtain ⟨hlt, -⟩ := List.getElem?_eq_some_iff.mp hc
  rw [step, hc]
  refine ⟨_, rfl, rfl, fun j hj => ?_, ?_⟩
  · exact List.getElem?_set_ne hj.symm
  · exact List.getElem?_set_self hlt

/-- At each point of a run, every configuration and its engine hold the factory attached last along
the lineage: the last one of its own, or else the one that it was made with. Acquisitions go to this
factory, and an attachment shows in the one configuration only. -/
theorem Runs.follows_lineage {world : W} (h : Runs getOrNew ⟨[], world⟩ past fleet) {i : Nat}
    {c : CapabilityConfig} (hc : fleet.configs[i]? = some c) :
    c.Follows (lineage past i) ∧
      (∃ later origin earlier mid, past = later ++ origin :: earlier ∧ origin.makes ∧
        made earlier = i ∧ Runs getOrNew ⟨[], world⟩ earlier mid ∧
        Runs getOrNew mid (later ++ [origin]) fleet ∧
        c.bufferFactory = (lastFactory (own later i)).or (inherited mid origin)) ∧
      (∀ type ssrc, ∃ answer calls world, fleet.step getOrNew (.acquire i type ssrc) =
          some (.acquired i type ssrc answer calls, { fleet with world := world }) ∧
        Acquires getOrNew c.bufferFactory type ssrc fleet.world answer calls world) ∧
      ∀ f, ∃ next,
        fleet.step getOrNew (.attach i f) = some (.attached i f (c.attach f).records, next) ∧
        next.world = fleet.world ∧ (∀ j, j ≠ i → next.configs[j]? = fleet.configs[j]?) ∧
        next.configs[i]? = some
          { c with
            transport := { c.transport with engine := { c.engine with bufferFactory := some f } }
            bufferFactory := some f } := by
  have hfollows := h.accounts.follows hc
  refine ⟨hfollows, h.exists_inherited hc, ?_, step_attach hc⟩
  rw [← hfollows.engine]
  exact step_acquire hc

/-- A clone gets a factory of its own. Its original keeps the first one. -/
theorem Runs.follows_lineage_clone :
    ∃ (past : List (FleetEvent (Nat × BufferCall))) (fleet : Fleet BufferDesk)
      (c : CapabilityConfig),
      Runs BufferDesk.call ⟨[], {}⟩ past fleet ∧ fleet.configs[1]? = some c ∧
      c.engine.bufferFactory = some 9 ∧
      (lineage past 1).filterMap FleetEvent.attachRecords? = [
        [⟨.debug, "buffer factory attached"⟩],
        [⟨.warn, "replacing previously attached buffer factory"⟩]] ∧
      fleet.configs[0]?.bind CapabilityConfig.bufferFactory = some 7 := by
  obtain ⟨built, hbuild⟩ : ∃ built, CapabilityConfig.build {} = .ok built :=
    exists_ok_of_isSome (by decide +kernel)
  have hbuilt : Fleet.step BufferDesk.call ⟨[], {}⟩ (.build {}) =
      some (.built built.records, ⟨[built.value], {}⟩) := by
    rw [Fleet.step, hbuild]
    rfl
  have hattached := (Runs.start.step hbuilt).step
    (show Fleet.step BufferDesk.call _ (.attach 0 7) = some (_, _) from rfl)
  have hcloned := hattached.step
    (show Fleet.step BufferDesk.call _ (.clone 0) = some (_, _) from rfl)
  have hrun := hcloned.step
    (show Fleet.step BufferDesk.call _ (.attach 1 9) = some (_, _) from rfl)
  obtain ⟨hfollows, -⟩ := hrun.follows_lineage (i := 1) rfl
  exact ⟨_, _, _, hrun, rfl, hfollows.engine.trans hfollows.factory, hfollows.records, rfl⟩

end Fleet

end RtcConfig
