import EventScript.Error

/-!
# Event sinks

Where the events go that a script triggers. A sink takes an event or refuses it with an error.
-/

namespace EventScript

class EventSink (σ : Type) where
  trigger : Event → σ → Except ScriptError Unit × σ

/-- Collects events, the latest last. -/
instance : EventSink (Array Event) where
  trigger event events := (.ok (), events.push event)

instance : EventSink Unit where
  trigger _ _ := (.ok (), ())

end EventScript
