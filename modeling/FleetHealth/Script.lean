/-!
# Script

What an environment will answer, written down beforehand: a queue of answers, each used once, and one answer that repeats when the queue is used up.  Every behaviour of a database, a socket or an exporter is such a script, so a statement about all scripts is a statement about all behaviours.
-/

namespace FleetHealth

/-- Answers to come: some used once, then one that repeats. -/
structure Script (α : Type) where
  queue : List α
  rest : α

namespace Script

/-- The script that always gives one answer. -/
def always (a : α) : Script α := ⟨[], a⟩

/-- The next answer and the script after it. -/
def next : Script α → α × Script α
  | ⟨[],      r⟩ => (r, ⟨[], r⟩)
  | ⟨a :: as, r⟩ => (a, ⟨as, r⟩)

/-- The script that uses a list up and then repeats its last answer. -/
def lasting (default : α) (answers : List α) : Script α :=
  match answers.getLast? with
  | some a => ⟨answers.dropLast, a⟩
  | none   => always default

end Script
end FleetHealth
