import Mathlib.Data.List.Forall2

/-!
# Guarded machines and their runs

A machine takes one input at a time.  An input that is not enabled in a state
has no step, and a step may emit outputs.  A run is recorded as the list of its
transitions, each with the state before and the state after it, so that a
statement about "the moment of a step" is a statement about one element of the
list, and a statement about an order of steps is one about positions in it.

Six rules carry the inductions of every user of this file:

* `Run.invariant`: a property kept by every step holds at every state of a run;
* `Run.invariant_of_steps`: the same under a condition on the steps taken;
* `Run.history`: a relation between a state and the steps that led to it;
* `Run.follow`: what a run and the run without some of its steps have in common;
* `Run.simulate`: a run of a machine seen as a run of a part of it;
* `Run.mirror`: a run and the run of another machine that goes along with it.
-/

namespace Foundation

/-- A machine with guarded steps: `step state input` is `none` when `input` is
not enabled in `state`. -/
structure Machine (State Input Output : Type*) where
  step : State → Input → Option (State × List Output)

/-- One step of a run together with the states around it. -/
structure Transition (State Input Output : Type*) where
  pre : State
  input : Input
  post : State
  outputs : List Output

namespace Machine

variable {State Input Output : Type*}

/-- The machine really takes this step. -/
def Fires (machine : Machine State Input Output)
    (move : Transition State Input Output) : Prop :=
  machine.step move.pre move.input = some (move.post, move.outputs)

/-- `Run machine start moves final`: the transitions `moves` lead from `start`
to `final`. -/
inductive Run (machine : Machine State Input Output) :
    State → List (Transition State Input Output) → State → Prop
  | nil (state : State) : Run machine state [] state
  | cons {move : Transition State Input Output}
      {moves : List (Transition State Input Output)} {final : State}
      (hfires : machine.Fires move) (hrest : Run machine move.post moves final) :
      Run machine move.pre (move :: moves) final

/-- Execute a list of inputs, keeping the transitions; `none` when some input
is not enabled. -/
def exec (machine : Machine State Input Output) :
    State → List Input → Option (List (Transition State Input Output) × State)
  | state, [] => some ([], state)
  | state, input :: inputs =>
      match machine.step state input with
      | none => none
      | some (next, outputs) =>
          match exec machine next inputs with
          | none => none
          | some (moves, final) => some (⟨state, input, next, outputs⟩ :: moves, final)

variable {machine : Machine State Input Output}

/-- An execution is a run. -/
theorem exec_run {start final : State} {inputs : List Input}
    {moves : List (Transition State Input Output)}
    (hexec : machine.exec start inputs = some (moves, final)) :
    machine.Run start moves final := by
  induction inputs generalizing start moves with
  | nil =>
      obtain ⟨rfl, rfl⟩ := by simpa [exec] using hexec
      exact Run.nil start
  | cons input inputs ih =>
      rw [exec] at hexec
      split at hexec
      · contradiction
      · rename_i next outputs hstep
        split at hexec
        · contradiction
        · rename_i rest last hrest
          obtain ⟨rfl, rfl⟩ := by simpa using hexec
          have hfires : machine.Fires ⟨start, input, next, outputs⟩ := hstep
          exact Run.cons hfires (ih hrest)

/-- An execution takes the inputs it was given. -/
theorem exec_inputs {start final : State} {inputs : List Input}
    {moves : List (Transition State Input Output)}
    (hexec : machine.exec start inputs = some (moves, final)) :
    moves.map Transition.input = inputs := by
  induction inputs generalizing start moves with
  | nil =>
      obtain ⟨rfl, rfl⟩ := by simpa [exec] using hexec
      rfl
  | cons input inputs ih =>
      rw [exec] at hexec
      split at hexec
      · contradiction
      · split at hexec
        · contradiction
        · rename_i rest last hrest
          obtain ⟨rfl, rfl⟩ := by simpa using hexec
          rw [List.map_cons, ih hrest]

/-- What holds of all inputs given to an execution holds of the inputs of its
transitions. -/
theorem forall_input_of_exec {start final : State} {inputs : List Input}
    {moves : List (Transition State Input Output)} (P : Input → Prop)
    (hexec : machine.exec start inputs = some (moves, final))
    (hinputs : ∀ input ∈ inputs, P input) : ∀ move ∈ moves, P move.input := by
  intro move hmem
  apply hinputs
  rw [← exec_inputs hexec]
  exact List.mem_map_of_mem hmem

namespace Run

variable {start middle final : State} {moves earlier later : List (Transition State Input Output)}

@[simp] theorem nil_iff : machine.Run start [] final ↔ start = final := by
  constructor
  · rintro ⟨⟩
    rfl
  · rintro rfl
    exact Run.nil start

theorem cons_iff {move : Transition State Input Output} :
    machine.Run start (move :: moves) final ↔
      start = move.pre ∧ machine.Fires move ∧ machine.Run move.post moves final := by
  constructor
  · intro hrun
    cases hrun with
    | cons hfires hrest => exact ⟨rfl, hfires, hrest⟩
  · rintro ⟨rfl, hfires, hrest⟩
    exact Run.cons hfires hrest

/-- A step is a run. -/
theorem single {move : Transition State Input Output} (hfires : machine.Fires move) :
    machine.Run move.pre [move] move.post := Run.cons hfires (Run.nil move.post)

/-- Runs compose. -/
theorem append (hfirst : machine.Run start earlier middle)
    (hsecond : machine.Run middle later final) :
    machine.Run start (earlier ++ later) final := by
  induction hfirst with
  | nil _ => exact hsecond
  | cons hfires _ ih => exact Run.cons hfires (ih hsecond)

/-- A run splits at every position. -/
theorem split (hrun : machine.Run start (earlier ++ later) final) :
    ∃ middle, machine.Run start earlier middle ∧ machine.Run middle later final := by
  induction earlier generalizing start with
  | nil => exact ⟨start, Run.nil start, hrun⟩
  | cons move earlier ih =>
      obtain ⟨rfl, hfires, hrest⟩ := cons_iff.mp hrun
      obtain ⟨middle, hfirst, hsecond⟩ := ih hrest
      exact ⟨middle, Run.cons hfires hfirst, hsecond⟩

/-- A run around one of its transitions. -/
theorem split_at {move : Transition State Input Output}
    (hrun : machine.Run start (earlier ++ move :: later) final) :
    machine.Run start earlier move.pre ∧ machine.Fires move ∧
      machine.Run move.post later final := by
  obtain ⟨middle, hfirst, hsecond⟩ := hrun.split
  obtain ⟨rfl, hfires, hrest⟩ := cons_iff.mp hsecond
  exact ⟨hfirst, hfires, hrest⟩

/-- Every transition of a run fires. -/
theorem fires_of_mem (hrun : machine.Run start moves final)
    {move : Transition State Input Output} (hmem : move ∈ moves) :
    machine.Fires move := by
  obtain ⟨earlier, later, rfl⟩ := List.append_of_mem hmem
  exact hrun.split_at.2.1

/-- The invariant rule under a condition on the steps: a property of the start
state that every step meeting the condition keeps holds at the end of a run all
of whose steps meet it. -/
theorem invariant_of_steps (Inv : State → Prop)
    {Allowed : Transition State Input Output → Prop}
    (hstep : ∀ move, machine.Fires move → Allowed move → Inv move.pre → Inv move.post)
    (hrun : machine.Run start moves final)
    (hallowed : ∀ move ∈ moves, Allowed move) (hstart : Inv start) : Inv final := by
  induction hrun with
  | nil _ => exact hstart
  | cons hfires _ ih =>
      apply ih
      · intro move hmem
        exact hallowed move (List.mem_cons_of_mem _ hmem)
      · exact hstep _ hfires (hallowed _ List.mem_cons_self) hstart

/-- The invariant rule: a property of the start state that every step keeps
holds at the end of every run. -/
theorem invariant (Inv : State → Prop)
    (hstep : ∀ move, machine.Fires move → Inv move.pre → Inv move.post)
    (hrun : machine.Run start moves final) (hstart : Inv start) : Inv final := by
  have hsteps : ∀ move, machine.Fires move → True → Inv move.pre → Inv move.post :=
    fun move hfires _ hpre => hstep move hfires hpre
  exact invariant_of_steps Inv hsteps hrun (fun _ _ => trivial) hstart

/-- Before every transition of a run the invariant holds, when every earlier
step meets the condition. -/
theorem invariant_before (Inv : State → Prop)
    {Allowed : Transition State Input Output → Prop}
    (hstep : ∀ move, machine.Fires move → Allowed move → Inv move.pre → Inv move.post)
    {move : Transition State Input Output}
    (hrun : machine.Run start (earlier ++ move :: later) final)
    (hallowed : ∀ move ∈ earlier, Allowed move) (hstart : Inv start) : Inv move.pre :=
  invariant_of_steps Inv hstep hrun.split_at.1 hallowed hstart

/-- The history rule: a relation between the steps taken and the state reached holds
along a run when it holds at the start and every further step keeps it. -/
theorem history (Related : List (Transition State Input Output) → State → Prop)
    (hstep : ∀ earlier move, machine.Run start earlier move.pre → machine.Fires move →
      Related earlier move.pre → Related (earlier ++ [move]) move.post)
    (hrun : machine.Run start moves final) (hstart : Related [] start) : Related moves final := by
  have hcontinued : ∀ {earlier middle later last}, machine.Run start earlier middle →
      Related earlier middle → machine.Run middle later last →
      Related (earlier ++ later) last := by
    intro earlier middle later last hbefore hmiddle hlater
    induction hlater generalizing earlier with
    | nil _ =>
        rw [List.append_nil]
        exact hmiddle
    | @cons move later last hfires _ ih =>
        have hnext := hstep earlier move hbefore hfires hmiddle
        have hfurther := hbefore.append (Run.cons hfires (Run.nil move.post))
        rw [← List.singleton_append, ← List.append_assoc]
        exact ih hfurther hnext
  exact hcontinued (Run.nil start) hstart hrun

/-- A machine takes one step on one input, so a run is determined by its start and
its inputs. -/
theorem unique {other : List (Transition State Input Output)} {last : State}
    (hrun : machine.Run start moves final) (hother : machine.Run start other last)
    (hinputs : moves.map Transition.input = other.map Transition.input) :
    moves = other ∧ final = last := by
  induction hrun generalizing other with
  | nil state =>
      obtain rfl : other = [] := by simpa using hinputs.symm
      exact ⟨rfl, nil_iff.mp hother⟩
  | @cons move moves final hfires hrest ih =>
      cases other with
      | nil => simp at hinputs
      | cons first rest =>
          obtain ⟨hpre, hfirst, hlater⟩ := cons_iff.mp hother
          obtain ⟨hinput, hmoves⟩ := List.cons.inj hinputs
          have hstep : some (move.post, move.outputs) = some (first.post, first.outputs) := by
            rw [← hfires, ← hfirst, hpre, hinput]
          obtain ⟨hpost, houtputs⟩ := Prod.mk.inj (Option.some.inj hstep)
          rw [← hpost] at hlater
          obtain ⟨rfl, rfl⟩ := ih hlater hmoves
          have hmove : move = first := by
            cases move
            cases first
            simp_all
          exact ⟨by rw [hmove], rfl⟩

/-- Leaving steps out of a run.  A relation that a left out step does not leave, and
that a kept step can follow, holds between the end of a run and the end of a run of
the kept inputs. -/
theorem follow {keep : Input → Bool} {Related : State → State → Prop}
    (hkept : ∀ move other, machine.Fires move → keep move.input = true →
      Related move.pre other → ∃ next, machine.Fires ⟨other, move.input, next, move.outputs⟩ ∧
        Related move.post next)
    (hleft : ∀ move other, machine.Fires move → keep move.input = false →
      Related move.pre other → Related move.post other)
    (hrun : machine.Run start moves final) {other : State} (hstart : Related start other) :
    ∃ rest last, machine.Run other rest last ∧
      rest.map Transition.input = (moves.map Transition.input).filter keep ∧
      Related final last := by
  induction hrun generalizing other with
  | nil state => exact ⟨[], other, Run.nil other, rfl, hstart⟩
  | @cons move moves final hfires hrest ih =>
      cases hkeep : keep move.input with
      | true =>
          obtain ⟨next, hnext, hrelated⟩ := hkept move other hfires hkeep hstart
          obtain ⟨rest, last, hfollow, hinputs, hlast⟩ := ih hrelated
          exact ⟨_ :: rest, last, Run.cons hnext hfollow, by simp [hkeep, hinputs], hlast⟩
      | false =>
          obtain ⟨rest, last, hfollow, hinputs, hlast⟩ := ih (hleft move other hfires hkeep hstart)
          exact ⟨rest, last, hfollow, by simp [hkeep, hinputs], hlast⟩

/-- The simulation rule for one run.  When each of its steps is seen as some steps of
another machine, so is the run. -/
theorem simulate_of_mem {State' Input' Output' : Type*} {other : Machine State' Input' Output'}
    (view : State → State')
    (seen : Transition State Input Output → List (Transition State' Input' Output'))
    (hrun : machine.Run start moves final)
    (hstep : ∀ move ∈ moves, other.Run (view move.pre) (seen move) (view move.post)) :
    other.Run (view start) (moves.flatMap seen) (view final) := by
  induction hrun with
  | nil state => exact Run.nil (view state)
  | @cons move moves final hfires _ ih =>
      rw [List.flatMap_cons]
      exact (hstep move List.mem_cons_self).append
        (ih fun later hmem => hstep later (List.mem_cons_of_mem _ hmem))

/-- The simulation rule.  When every step is seen as some steps of another machine, so
is every run. -/
theorem simulate {State' Input' Output' : Type*} {other : Machine State' Input' Output'}
    (view : State → State')
    (seen : Transition State Input Output → List (Transition State' Input' Output'))
    (hstep : ∀ move, machine.Fires move → other.Run (view move.pre) (seen move) (view move.post))
    (hrun : machine.Run start moves final) :
    other.Run (view start) (moves.flatMap seen) (view final) :=
  simulate_of_mem view seen hrun fun move hmem => hstep move (hrun.fires_of_mem hmem)

/-- The simulation rule for one run, when what is seen of a step is only known to be
there.  `Matches` is kept of every step and what is seen of it. -/
theorem simulate_exists {State' Input' Output' : Type*} {other : Machine State' Input' Output'}
    (view : State → State')
    {Matches : Transition State Input Output → List (Transition State' Input' Output') → Prop}
    (hrun : machine.Run start moves final)
    (hstep : ∀ move ∈ moves, ∃ seen,
      other.Run (view move.pre) seen (view move.post) ∧ Matches move seen) :
    ∃ steps, other.Run (view start) steps.flatten (view final) ∧
      List.Forall₂ Matches moves steps := by
  induction hrun with
  | nil state => exact ⟨[], Run.nil (view state), .nil⟩
  | @cons move moves final hfires _ ih =>
      obtain ⟨seen, hseen, hmatches⟩ := hstep move List.mem_cons_self
      obtain ⟨steps, hsteps, hrest⟩ := ih fun later hmem => hstep later (List.mem_cons_of_mem _ hmem)
      exact ⟨seen :: steps, hseen.append hsteps, .cons hmatches hrest⟩

/-- When a step is bad exactly if something bad is seen of it, a run has no bad step exactly
if nothing bad is seen of it. -/
theorem forall_seen_iff {Seen : Type*} {Bad : Transition State Input Output → Prop}
    {BadSeen : Seen → Prop} {steps : List (List Seen)}
    (hmatches : List.Forall₂ (fun move seen => Bad move ↔ ∃ step ∈ seen, BadSeen step)
      moves steps) :
    (∀ move ∈ moves, ¬Bad move) ↔ ∀ step ∈ steps.flatten, ¬BadSeen step := by
  induction hmatches with
  | nil => simp
  | cons hfirst _ ih =>
      rw [List.forall_mem_cons, List.flatten_cons, List.forall_mem_append, ih, hfirst]
      simp

/-- The rule for two runs side by side.  When every step can be answered by a step of
another machine on a corresponding input, so can every run. -/
theorem mirror {State' Input' Output' : Type*} {other : Machine State' Input' Output'}
    {Related : State → State' → Prop} (answer : Input → Input')
    (hstep : ∀ move state, machine.Fires move → Related move.pre state →
      ∃ next outputs, other.Fires ⟨state, answer move.input, next, outputs⟩ ∧
        Related move.post next)
    (hrun : machine.Run start moves final) {state : State'} (hstart : Related start state) :
    ∃ answers last, other.Run state answers last ∧ Related final last ∧
      answers.map Transition.input = moves.map (fun move => answer move.input) ∧
      List.Forall₂ (fun move answered => Related move.pre answered.pre ∧
        answered.input = answer move.input) moves answers := by
  induction hrun generalizing state with
  | nil final => exact ⟨[], state, Run.nil state, hstart, rfl, .nil⟩
  | @cons move moves final hfires hrest ih =>
      obtain ⟨next, outputs, hnext, hrelated⟩ := hstep move state hfires hstart
      obtain ⟨answers, last, hanswers, hlast, hinputs, hpairs⟩ := ih hrelated
      exact ⟨_ :: answers, last, Run.cons hnext hanswers, hlast, by simp [hinputs],
        .cons ⟨hstart, rfl⟩ hpairs⟩

end Run
end Machine
end Foundation
