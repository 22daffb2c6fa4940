import FleetHealth.Sink.Relay

/-!
# Sink — Provider

The library that an export pipeline is built on.  It takes what is recorded, and now and then exports it: when it is asked for a flush or a shutdown, and by a clock of its own.  What it then does is its own affair, and it is no part of this development: a `Provider` is any library at all, given by the plan that it follows when it is asked for something, whatever happened before.  A plan is a tree: it makes calls of the exporter, each of which may depend on how those before were answered, and in the end returns or raises.

What is relied on is named in `Provider.Lawful`: the exporter is shut down with the provider, once, and at no other time.  How many batches a flush, a shutdown or a collection exports, what is in them, and what is raised over them, is left open.
-/

namespace FleetHealth

/-- What a provider does when it is asked for something: it is done, perhaps by raising, or it calls its
exporter and goes on by the answer. -/
inductive Plan where
  | done (raised : Option Fault)
  | call (c : Relay.Call) (next : Except Fault (Option Bool) → Plan)

namespace Plan

/-- A plan shuts the exporter down so many times, however its calls are answered. -/
inductive Shuts : Nat → Plan → Prop where
  | done (raised : Option Fault) : Shuts 0 (.done raised)
  | call {n : Nat} {next : Except Fault (Option Bool) → Plan} (c : Relay.Call)
      (h : ∀ a, Shuts n (next a)) : Shuts (c.isShutdown.toNat + n) (.call c next)

end Plan

namespace Provider

/-- What a provider is asked for; a collection is asked for by its own clock. -/
inductive Request where
  | flush (timeoutMillis : Number)
  | shutdown
  | collection

/-- What happens to a provider: a value is recorded, something is asked of it, or its exporter
answers. -/
inductive Moment where
  | recorded (m : Metric) (x : Binary64) (tags : Tags)
  | asked (r : Request)
  | answered (c : Relay.Call) (a : Except Fault (Option Bool))

end Provider

/-- A provider, by what it does when it is asked for something, given what happened before, newest
first. -/
structure Provider where
  plan : List Provider.Moment → Provider.Request → Plan

namespace Provider

/-- What is relied on of a provider. -/
structure Lawful (p : Provider) : Prop where
  /-- A flush and a collection leave the exporter running. -/
  flush : ∀ past t, (p.plan past (.flush t)).Shuts 0
  collection : ∀ past, (p.plan past .collection).Shuts 0
  /-- The first shutdown shuts the exporter down once. -/
  shutdown : ∀ past, Moment.asked .shutdown ∉ past → (p.plan past .shutdown).Shuts 1

end Provider
end FleetHealth
