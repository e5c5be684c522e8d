import Mathlib.Data.List.Induction
import ProverLink.Bridge
import ProverLink.Proofs.Registry

/-!
# Runs

A run is a sequence of steps. Documents are opened, changed and closed, callbacks of any slot are
delivered, reapers have their turns, and in between the processes change as they like. A fault ends
the step that has it, and the run goes on.
-/

namespace ProverLink

/-! ### Steps -/

/-- Each process changes in a way of its own. -/
def Registry.mapChildren (change : Nat → Child → Child) (r : Registry) : Registry :=
  { r with slots := r.slots.mapIdx fun id sl => { sl with child := change id sl.child } }

namespace Bridge

/-- What a step gives back. -/
inductive Reply where
  | number (n : Option Nat)
  | flag (b : Bool)
  | done
deriving DecidableEq

/-- One step of a run. -/
inductive Step where
  /-- A document is opened at a path, or at the one that its URI leads to. -/
  | openDocument (uri text : String) (path : Option Path)
  | changeDocument (uri text : String)
  | closeDocument (uri : String)
  | shutdown
  /-- Output of the process in a slot is delivered. -/
  | output (slot : Nat) (text : List Char)
  /-- The end of the process in a slot is delivered. -/
  | exit (slot : Nat) (code : Option Int)
  /-- The reaper of a slot has its turn. -/
  | reap (slot : Nat)
  /-- From now on processes start in another way. -/
  | plan (p : SpawnPlan)
  /-- The processes change. -/
  | world (change : Nat → Child → Child)

/-- Whether a document is opened in a step. -/
def Step.Opens (u : String) : Step → Prop
  | .openDocument v _ _ => v = u
  | _ => False

variable [Limits]

/-- What is done in a step. -/
def Step.act : Step → Act Registry Reply
  | .openDocument uri text (some path) => .number <$> Bridge.openDocument uri text path
  | .openDocument uri text none => .number <$> Bridge.openUri uri text
  | .changeDocument uri text => .number <$> Bridge.changeDocument uri text
  | .closeDocument uri => .flag <$> Bridge.closeDocument uri
  | .shutdown => (fun _ => .done) <$> Bridge.shutdown
  | .output id text => (fun _ => .done) <$> handleOutput id text
  | .exit id code => (fun _ => .done) <$> handleExit id code
  | .reap id => (fun _ => .done) <$> Registry.reap id
  | .plan p => (fun _ => .done) <$> Act.modify fun r => { r with plan := p }
  | .world change => (fun _ => .done) <$> Act.modify (Registry.mapChildren change)

/-! ### Sequences of steps -/

/-- The outcomes of steps one after the other. -/
def outcomes : List Step → Registry → List (Outcome Registry Reply)
  | [], _ => []
  | st :: rest, r => st.act.run r :: outcomes rest (st.act.run r).state

/-- The registry after some steps. -/
def after : List Step → Registry → Registry
  | [], r => r
  | st :: rest, r => after rest (st.act.run r).state

/-- What was seen from outside during some steps. -/
def trace (steps : List Step) (r : Registry) : List Effect := (outcomes steps r).flatMap (·.trace)

lemma after_append (xs ys : List Step) (r : Registry) :
    after (xs ++ ys) r = after ys (after xs r) := by
  induction xs generalizing r with
  | nil => rfl
  | cons st rest ih => exact ih _

lemma outcomes_append (xs ys : List Step) (r : Registry) :
    outcomes (xs ++ ys) r = outcomes xs r ++ outcomes ys (after xs r) := by
  induction xs generalizing r with
  | nil => rfl
  | cons st rest ih => exact congrArg _ (ih _)

lemma trace_append (xs ys : List Step) (r : Registry) :
    trace (xs ++ ys) r = trace xs r ++ trace ys (after xs r) := by
  rw [trace, outcomes_append, List.flatMap_append]
  rfl

@[simp] lemma after_singleton (st : Step) (r : Registry) :
    after [st] r = (st.act.run r).state := rfl

@[simp] lemma trace_singleton (st : Step) (r : Registry) : trace [st] r = (st.act.run r).trace := by
  simp [trace, outcomes]

end Bridge

/-! ### Pipes -/

/-- Whether a write on a pipe is taken or fails as it does when the other end is gone. -/
def Stdin.WritesWell (p : Stdin) : Prop := ∀ text, some (.other text) ∉ p.writeError :: p.script

/-- The fault of closing a pipe, if it is one that nobody handles: any but an error of the operating
system. -/
def Stdin.closeFault? (p : Stdin) : Option Fault :=
  match p.closeError with
  | some (.value text) => some (.pipe (.value text))
  | some (.other text) => some (.pipe (.other text))
  | _ => none

/-- Whether neither writing on a pipe nor closing it has a fault that nobody handles. -/
structure Stdin.IsTame (p : Stdin) : Prop where
  write : p.WritesWell
  close : p.closeFault? = none

/-- Whether all pipes are tame, those of processes to come included, and each session has one. -/
structure Registry.Tame (r : Registry) : Prop where
  plan : r.plan.child.stdin.IsTame
  pipes : ∀ id c, r.child? id = some c → c.stdin.IsTame
  wired : ∀ id s c, r.session? id = some s → r.child? id = some c → c.stdin.attached = true

/-- Whether a step leaves tame pipes tame. -/
def Bridge.Step.IsTame : Step → Prop
  | .plan p => p.child.stdin.IsTame
  | .world change => ∀ id c, c.stdin.IsTame →
      (change id c).stdin.IsTame ∧ (change id c).stdin.attached = c.stdin.attached
  | _ => True

end ProverLink
