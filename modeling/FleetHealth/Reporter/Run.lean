import FleetHealth.Reporter.Basic

/-!
# Reporter — Run

The loop of ticks.  After a tick the reporter sleeps until a cadence has passed since the tick began, not at all when the tick took longer, and begins the next; a tick that crashes is written down and the loop goes on.  It ends when the reporter sees that it was told to stop, and then the emitter is shut down.  A run is given the number of sleeps that are slept to their end; in the one after those the reporter is told to stop.
-/

namespace FleetHealth.Reporter

variable {τ : Type} [TimeScale τ]

/-- A tick of the loop; a crash is written down. -/
def cycle (r : Reporter τ) : Reporter τ :=
  match r.tick true with
  | (r, .error f) =>
    r.say .error "reporter.tick.crashed" [("tick", .int (r.ticks + 1))] (.fault f.summary)
  | (r, .ok _)    => r

/-- The time to sleep after a tick that began at a time. -/
def delayAfter (r : Reporter τ) (start : τ) : τ :=
  TimeScale.atLeastZero (start + r.cadence - r.clock)

/-- Ticks and sleeps in turn, until the reporter is told to stop. -/
def loop (r : Reporter τ) (sleeps : Nat) : Reporter τ :=
  if r.stopRequested then r
  else
    let start := r.clock
    let r := r.cycle
    if r.stopRequested then r
    else
      let delay := r.delayAfter start
      let r := r.enter .sleep
      let r := r.note (.slept delay r.phase)
      match sleeps with
      | 0     => r.tell true
      | n + 1 => loop { r with clock := r.clock + delay } n

/-- The entry that a run begins with. -/
def sayStarted (r : Reporter τ) : Reporter τ :=
  r.say .info "reporter.started"
    [("cadence_seconds", TimeScale.toDatum r.cadence),
     ("tick_deadline_seconds", TimeScale.toDatum r.deadline),
     ("sink", .text r.emitter.sink.name), ("indicators", .int r.bindings.length)]

/-- The end of a run: the emitter is shut down. -/
def finish (r : Reporter τ) : Reporter τ × Except Fault Unit :=
  let r := r.enter .stopped
  match (r.note (.closing r.phase)).onEmitter Emitter.shutdown with
  | (r, .error f) => (r, .error f)
  | (r, .ok _)    => (r.say .info "reporter.stopped" [("ticks", .int r.ticks)], .ok ())

/-- A run of the loop. -/
def run (r : Reporter τ) (sleeps : Nat) : Reporter τ × Except Fault Unit :=
  (r.sayStarted.loop sleeps).finish

end FleetHealth.Reporter
