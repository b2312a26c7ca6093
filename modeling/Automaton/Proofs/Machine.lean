import Mathlib.Data.Option.Basic

/-!
# Machines that are called

A `Machine` is called with names of events.  A call is *accepted*, and then the machine moves and
tells its hook a number, or it is *rejected*, and then nothing happens at all.

Two machines with different kinds of states can be the same for all that a caller sees.  A
*simulation* pairs their states so that a call from paired states has the same outcome in both and
leads to paired states again (`Machine.Simulation`).  What holds of one call then holds of all runs:
`Simulation.replies_eq` and `Simulation.after` are the two inductions, made once.
-/

namespace Automaton

/-- **A machine that is called.** -/
structure Machine (State : Type) where
  /-- The state of a new machine. -/
  start : State
  /-- What a call does in a state: it is rejected, or it leads to a state and reports a number. -/
  call : State → String → Option (State × Nat)

namespace Machine

variable {S T : Type}

/-- The state after a call.  A rejected call does not change it. -/
def next (m : Machine S) (s : S) (event : String) : S :=
  ((m.call s event).map Prod.fst).getD s

/-- **The state after calls** on a new machine. -/
def after (m : Machine S) (calls : List String) : S :=
  calls.foldl m.next m.start

/-- What calls report, one after the other, from a state on. -/
def repliesFrom (m : Machine S) (s : S) : List String → List (Option Nat)
  | [] => []
  | event :: calls => (m.call s event).map Prod.snd :: m.repliesFrom (m.next s event) calls

/-- **What calls report** on a new machine: a number if they are accepted, and nothing if not. -/
def replies (m : Machine S) (calls : List String) : List (Option Nat) :=
  m.repliesFrom m.start calls

/-- **A simulation** between two machines. -/
structure Simulation (m : Machine S) (n : Machine T) (R : S → T → Prop) : Prop where
  /-- The machines start in paired states. -/
  start : R m.start n.start
  /-- From paired states, a call has the same outcome. -/
  call : ∀ s t event, R s t →
    Option.Rel (fun x y => R x.1 y.1 ∧ x.2 = y.2) (m.call s event) (n.call t event)

namespace Simulation

variable {m : Machine S} {n : Machine T} {R : S → T → Prop} (sim : Simulation m n R)
include sim

/-- **One call** leads from paired states to paired states. -/
theorem next {s : S} {t : T} (h : R s t) (event : String) :
    R (m.next s event) (n.next t event) := by
  have hcall := sim.call s t event h
  rw [Machine.next, Machine.next]
  generalize m.call s event = x at hcall ⊢
  generalize n.call t event = y at hcall ⊢
  cases hcall with
  | none => exact h
  | some hrel => exact hrel.1

/-- **One call** reports the same from paired states. -/
theorem report_eq {s : S} {t : T} (h : R s t) (event : String) :
    (m.call s event).map Prod.snd = (n.call t event).map Prod.snd := by
  have hcall := sim.call s t event h
  generalize m.call s event = x at hcall ⊢
  generalize n.call t event = y at hcall ⊢
  cases hcall with
  | none => rfl
  | some hrel => exact congrArg some hrel.2

/-- **All calls** lead to paired states. -/
theorem after (calls : List String) : R (m.after calls) (n.after calls) := by
  -- the induction is over the calls, from any paired states on
  suffices hfrom : ∀ s t, R s t → R (calls.foldl m.next s) (calls.foldl n.next t) from
    hfrom _ _ sim.start
  induction calls with
  | nil => exact fun _ _ h => h
  | cons event calls ih => exact fun s t h => ih _ _ (sim.next h event)

/-- **All calls** report the same. -/
theorem replies_eq (calls : List String) : m.replies calls = n.replies calls := by
  suffices hfrom : ∀ s t, R s t → m.repliesFrom s calls = n.repliesFrom t calls from
    hfrom _ _ sim.start
  induction calls with
  | nil => exact fun _ _ _ => rfl
  | cons event calls ih =>
    intro s t h
    rw [repliesFrom, repliesFrom, sim.report_eq h event, ih _ _ (sim.next h event)]

end Simulation

end Machine

end Automaton
