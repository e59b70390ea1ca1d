import Mathlib.Data.List.Induction
import RtcConfig.Engine.Basic

/-! # Engine setters

Every field of an engine belongs to one setter, and a call of this setter gives it its value. What
an engine holds after a run of calls is therefore decided field by field: by the last call of the
setter to which the field belongs, or by the engine from before the run if there is none. Calls of
different setters commute. Which candidates and ports a field then admits is not said here.
-/

namespace RtcConfig

inductive EngineSetter where
  | iceTimeouts
  | srflxWait
  | prflxWait
  | relayWait
  | lite
  | networkTypes
  | interfaceFilter
  | ipFilter
  | natIps
  | mdns
  | loopback
  | disableActiveTcp
  | udpMux
  | ephemeral
  | tcpMux
  | zeroChecksum
  | bufferFactory
  deriving DecidableEq

/-- The setter of which a setting is a call. -/
def EngineSetting.setter : EngineSetting → EngineSetter
  | .iceTimeouts .. => .iceTimeouts
  | .srflxWait _ => .srflxWait
  | .prflxWait _ => .prflxWait
  | .relayWait _ => .relayWait
  | .lite _ => .lite
  | .networkTypes _ => .networkTypes
  | .interfaceFilter _ => .interfaceFilter
  | .ipFilter _ => .ipFilter
  | .natIps .. => .natIps
  | .mdns _ => .mdns
  | .loopback _ => .loopback
  | .disableActiveTcp _ => .disableActiveTcp
  | .udpMux .. => .udpMux
  | .ephemeral .. => .ephemeral
  | .tcpMux _ => .tcpMux
  | .zeroChecksum _ => .zeroChecksum
  | .bufferFactory _ => .bufferFactory

/-- The fields of an engine and of its parts, each with the type of its value. -/
inductive EngineField : Type → Type where
  | disconnected : EngineField (Option Duration)
  | failed : EngineField (Option Duration)
  | keepalive : EngineField (Option Duration)
  | srflxWait : EngineField (Option Duration)
  | prflxWait : EngineField (Option Duration)
  | relayWait : EngineField (Option Duration)
  | lite : EngineField Bool
  | networkTypes : EngineField (List NetworkType)
  | interfaceFilter : EngineField (Option (Filter String))
  | ipFilter : EngineField (Option (Filter IpNetwork))
  | natIps : EngineField (List String)
  | natType : EngineField NatCandidateType
  | mdns : EngineField MdnsMode
  | loopback : EngineField Bool
  | disableActiveTcp : EngineField Bool
  | udpMux : EngineField (Option (UInt16 × UInt16))
  | ephemeral : EngineField (Option (UInt16 × UInt16))
  | tcpMux : EngineField (Option UInt16)
  | zeroChecksum : EngineField Bool
  | bufferFactory : EngineField (Option FactoryId)

namespace EngineField

def get {α : Type} : EngineField α → Engine → α
  | disconnected, e => e.timeouts.disconnected
  | failed, e => e.timeouts.failed
  | keepalive, e => e.timeouts.keepalive
  | srflxWait, e => e.timeouts.srflxWait
  | prflxWait, e => e.timeouts.prflxWait
  | relayWait, e => e.timeouts.relayWait
  | lite, e => e.candidates.lite
  | networkTypes, e => e.candidates.networkTypes
  | interfaceFilter, e => e.candidates.interfaceFilter
  | ipFilter, e => e.candidates.ipFilter
  | natIps, e => e.candidates.natIps
  | natType, e => e.candidates.natType
  | mdns, e => e.candidates.mdns
  | loopback, e => e.candidates.loopback
  | disableActiveTcp, e => e.candidates.disableActiveTcp
  | udpMux, e => e.ports.udpMux
  | ephemeral, e => e.ports.ephemeral
  | tcpMux, e => e.ports.tcpMux
  | zeroChecksum, e => e.zeroChecksum
  | bufferFactory, e => e.bufferFactory

/-- The setter to which a field belongs. -/
def owner {α : Type} : EngineField α → EngineSetter
  | disconnected | failed | keepalive => .iceTimeouts
  | srflxWait => .srflxWait
  | prflxWait => .prflxWait
  | relayWait => .relayWait
  | lite => .lite
  | networkTypes => .networkTypes
  | interfaceFilter => .interfaceFilter
  | ipFilter => .ipFilter
  | natIps | natType => .natIps
  | mdns => .mdns
  | loopback => .loopback
  | disableActiveTcp => .disableActiveTcp
  | udpMux => .udpMux
  | ephemeral => .ephemeral
  | tcpMux => .tcpMux
  | zeroChecksum => .zeroChecksum
  | bufferFactory => .bufferFactory

/-- The value that a call gives to a field. -/
def given {α : Type} : EngineField α → EngineSetting → Option α
  | disconnected, .iceTimeouts d _ _ => some d
  | failed, .iceTimeouts _ f _ => some f
  | keepalive, .iceTimeouts _ _ k => some k
  | srflxWait, .srflxWait t => some t
  | prflxWait, .prflxWait t => some t
  | relayWait, .relayWait t => some t
  | lite, .lite on => some on
  | networkTypes, .networkTypes ts => some ts
  | interfaceFilter, .interfaceFilter f => some (some f)
  | ipFilter, .ipFilter f => some (some f)
  | natIps, .natIps ips _ => some ips
  | natType, .natIps _ t => some t
  | mdns, .mdns m => some m
  | loopback, .loopback on => some on
  | disableActiveTcp, .disableActiveTcp on => some on
  | udpMux, .udpMux a b => some (some (a, b))
  | ephemeral, .ephemeral a b => some (some (a, b))
  | tcpMux, .tcpMux p => some (some p)
  | zeroChecksum, .zeroChecksum on => some on
  | bufferFactory, .bufferFactory f => some (some f)
  | _, _ => none

variable {α : Type} (f : EngineField α) (e : Engine) (x : EngineSetting)

theorem isSome_given : (f.given x).isSome = decide (x.setter = f.owner) := by
  cases f <;> cases x <;> rfl

theorem given_eq_none (h : x.setter ≠ f.owner) : f.given x = none := by
  rw [← Option.not_isSome_iff_eq_none, isSome_given]
  simpa using h

/-- A call writes the fields of its setter and leaves all others. -/
theorem get_set : f.get (e.set x) = (f.given x).getD (f.get e) := by
  cases f <;> cases x <;> rfl

end EngineField

namespace Engine

/-- An engine is what its fields hold. -/
theorem ext_get {e e' : Engine} (h : ∀ {α : Type} (f : EngineField α), f.get e = f.get e') :
    e = e' := by
  have htimeouts : e.timeouts = e'.timeouts := by
    rw [Timeouts.mk.injEq]
    exact ⟨h .disconnected, h .failed, h .keepalive, h .srflxWait, h .prflxWait, h .relayWait⟩
  have hcandidates : e.candidates = e'.candidates := by
    rw [Candidates.mk.injEq]
    exact ⟨h .lite, h .networkTypes, h .interfaceFilter, h .ipFilter, h .natIps, h .natType,
      h .mdns, h .loopback, h .disableActiveTcp⟩
  have hports : e.ports = e'.ports := by
    rw [Ports.mk.injEq]
    exact ⟨h .udpMux, h .ephemeral, h .tcpMux⟩
  rw [Engine.mk.injEq]
  exact ⟨htimeouts, hcandidates, hports, h .zeroChecksum, h .bufferFactory⟩

variable {x y : EngineSetting}

theorem set_comm (e : Engine) (h : x.setter ≠ y.setter) :
    (e.set x).set y = (e.set y).set x := by
  apply ext_get
  intro α f
  rw [f.get_set, f.get_set, f.get_set, f.get_set]
  by_cases hx : x.setter = f.owner
  · rw [f.given_eq_none y fun hy => h (hx.trans hy.symm)]
    rfl
  · rw [f.given_eq_none x hx]
    rfl

/-! ## Runs of calls -/

def setAll (e : Engine) (xs : List EngineSetting) : Engine := xs.foldl set e

/-- The last call of a setter in a run. -/
def lastCall (xs : List EngineSetting) (s : EngineSetter) : Option EngineSetting :=
  (xs.filter fun x => x.setter = s).getLast?

/-- A field holds what the last call of its setter gave it, or its default without a call. -/
def HoldsLast {α : Type} (xs : List EngineSetting) (f : EngineField α) (a : α) : Prop :=
  match lastCall xs f.owner with
  | none => a = f.get {}
  | some x => f.given x = some a

theorem setAll_concat (e : Engine) (xs : List EngineSetting) (x : EngineSetting) :
    e.setAll (xs ++ [x]) = (e.setAll xs).set x := by
  rw [setAll, List.foldl_append]
  rfl

theorem lastCall_concat (xs : List EngineSetting) (x : EngineSetting) (s : EngineSetter) :
    lastCall (xs ++ [x]) s = if x.setter = s then some x else lastCall xs s := by
  rw [lastCall, List.filter_append]
  by_cases h : x.setter = s
  · simp [h]
  · simp [h, lastCall]

/-- The step of a run is a call at its end: it decides the fields of its setter and no other. -/
theorem holdsLast_setAll {α : Type} (xs : List EngineSetting) (f : EngineField α) :
    HoldsLast xs f (f.get (setAll {} xs)) := by
  induction xs using List.reverseRecOn with
  | nil => exact rfl
  | append_singleton xs x ih =>
    rw [HoldsLast, setAll_concat, f.get_set, lastCall_concat]
    by_cases h : x.setter = f.owner
    · have hgiven : (f.given x).isSome := by rw [f.isSome_given, decide_eq_true h]
      obtain ⟨a, ha⟩ := Option.isSome_iff_exists.mp hgiven
      rw [if_pos h, ha]
      exact ha
    · rw [if_neg h, f.given_eq_none x h]
      exact ih

theorem networkTypes_ne_nil (e : Engine) : e.networkTypes ≠ [] := by
  unfold networkTypes
  split
  · exact List.cons_ne_nil _ _
  · next h => simpa using h

theorem networkTypes_setAll (xs : List EngineSetting) :
    (setAll {} xs).networkTypes = match lastCall xs .networkTypes with
      | some (.networkTypes (t :: ts)) => t :: ts
      | _ => [.udp4, .udp6, .tcp4, .tcp6] := by
  have hlast := holdsLast_setAll xs .networkTypes
  rw [HoldsLast, EngineField.owner] at hlast
  have hset : EngineField.networkTypes.get (setAll {} xs) =
      (setAll {} xs).candidates.networkTypes := rfl
  rw [networkTypes, ← hset]
  split at hlast
  · next hnone =>
    rw [hlast, hnone]
    rfl
  · next x hx =>
    rw [hx]
    cases x with
    | networkTypes ts =>
      obtain rfl := Option.some.inj hlast
      cases h : EngineField.networkTypes.get (setAll {} xs) <;> rfl
    | _ => cases hlast

/-- After any run of calls each field holds what the last call of its setter gave it, calls of
different setters commute, and candidates are gathered for the network types set last, or for all if
these are none. -/
theorem setAll_lastWins (xs : List EngineSetting) :
    (∀ {α : Type} (f : EngineField α), HoldsLast xs f (f.get (setAll {} xs))) ∧
      (∀ e x y, x.setter ≠ y.setter → (set e x).set y = (set e y).set x) ∧
      (setAll {} xs).networkTypes ≠ [] ∧
      (setAll {} xs).networkTypes = match lastCall xs .networkTypes with
        | some (.networkTypes (t :: ts)) => t :: ts
        | _ => [.udp4, .udp6, .tcp4, .tcp6] :=
  ⟨holdsLast_setAll xs, fun e _ _ h => e.set_comm h, networkTypes_ne_nil _, networkTypes_setAll xs⟩

/-- Waits for two kinds of candidates, one of them unset again, and network types that are. -/
def unsetAgain : List EngineSetting :=
  [.srflxWait (some (.ofSeconds 2)), .prflxWait (some (.ofSeconds 3)), .networkTypes [.udp4],
    .srflxWait none, .networkTypes []]

theorem setAll_lastWins_unsetAgain :
    EngineSetter.srflxWait ≠ EngineSetter.prflxWait ∧
      (setAll {} unsetAgain).timeouts.srflxWait = none ∧
      (setAll {} unsetAgain).timeouts.prflxWait = some (.ofSeconds 3) ∧
      (setAll {} unsetAgain).networkTypes = [.udp4, .udp6, .tcp4, .tcp6] ∧
      ((setAll {} unsetAgain).set (.srflxWait none)).set (.prflxWait none) =
        ((setAll {} unsetAgain).set (.prflxWait none)).set (.srflxWait none) := by
  have hne : EngineSetter.srflxWait ≠ EngineSetter.prflxWait := by decide
  obtain ⟨hfield, hcomm, -, htypes⟩ := setAll_lastWins unsetAgain
  have hsrflx := hfield .srflxWait
  have hprflx := hfield .prflxWait
  exact ⟨hne, (Option.some.inj hsrflx).symm, (Option.some.inj hprflx).symm, htypes,
    hcomm _ _ _ hne⟩

end Engine

end RtcConfig
