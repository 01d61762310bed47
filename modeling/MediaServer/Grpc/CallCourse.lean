import MediaServer.Grpc.Steps

/-!
# The course of a single call

A call only moves by its own transitions.  Between two states of a run it has
either stayed where it was or there is a first transition, and a call that has
returned stays returned.
-/

namespace MediaServer
namespace Grpc

open Foundation Signal Transcription

/-- A call that has returned does nothing more. -/
theorem not_callStep_returned {portOf : UInt64 → Option UInt16} {channelOpen : Bool}
    {mediaOpen : UInt16 → Bool} {request : Request} {reply : Reply} {effect : CallEffect}
    {after : CallPoint} :
    ¬ CallStep portOf channelOpen mediaOpen request (.returned reply) effect after := by
  intro hstep
  cases hstep

variable {σ δ : Type}

namespace Server

/-- In the step the call takes the transition. -/
structure TakesTransition (deployment : Deployment σ δ) (move : ServerMove σ δ) (id : Nat)
    (request : Request) (point : CallPoint) (effect : CallEffect) (after : CallPoint) :
    Prop where
  advances : ∃ keys env, move.input = .advance id keys env
  before : move.pre.callAt id = some (request, point)
  callStep : CallStep deployment.portOf (move.pre.channelOpen deployment) move.pre.mediaOpen
    request point effect after
  calls : ∀ other, move.post.callAt other =
    if other = id then some (request, after) else move.pre.callAt other
  affects : Affects move.pre move.post id effect

variable {deployment : Deployment σ δ} {move : ServerMove σ δ} {id : Nat} {request : Request}
  {point : CallPoint}

/-- The step of the server in which a call advances is one of its transitions. -/
theorem takesTransition_of_fires (hfires : (machine deployment).Fires move) {keys : List UInt16}
    {env : Environment} (hinput : move.input = .advance id keys env) :
    ∃ request point effect after,
      TakesTransition deployment move id request point effect after := by
  obtain ⟨server, input, next, outputs⟩ := move
  have hstep : ServerStep deployment server next input outputs := serverStep_of_fires hfires
  obtain rfl : input = .advance id keys env := hinput
  cases hstep with
  | called id keys env request point after effect hcall hstep hcalls haffects =>
      exact ⟨request, point, effect, after, ⟨keys, env, rfl⟩, hcall, hstep, hcalls, haffects⟩

/-- A step moves a call by one of its own transitions, or not at all. -/
theorem callAt_fires (hfires : (machine deployment).Fires move)
    (hcall : move.pre.callAt id = some (request, point)) :
    (∃ effect after, TakesTransition deployment move id request point effect after) ∨
    ((∀ keys env, move.input ≠ .advance id keys env) ∧
      move.post.callAt id = some (request, point)) := by
  by_cases hadvances : ∃ keys env, move.input = .advance id keys env
  · obtain ⟨keys, env, hinput⟩ := hadvances
    obtain ⟨found, at_, effect, after, htakes⟩ := takesTransition_of_fires hfires hinput
    obtain ⟨rfl, rfl⟩ : found = request ∧ at_ = point := by
      have hsame := htakes.before.symm.trans hcall
      simpa using hsame
    exact .inl ⟨effect, after, htakes⟩
  · right
    refine ⟨fun keys env hinput => hadvances ⟨keys, env, hinput⟩, ?_⟩
    obtain ⟨server, input, next, outputs⟩ := move
    have hstep : ServerStep deployment server next input outputs := serverStep_of_fires hfires
    dsimp only at hcall hadvances ⊢
    cases hstep with
    | arrived arrived hmedia htranscriber hcalls =>
        have hlt : id < server.calls.length := by
          unfold callAt at hcall
          obtain ⟨call, hget, -⟩ := Option.map_eq_some_iff.mp hcall
          exact (List.getElem?_eq_some_iff.mp hget).1
        rw [hcalls, if_neg (by omega)]
        exact hcall
    | called other keys env called at_ after effect hother hstep hcalls haffects =>
        have hne : id ≠ other := by
          rintro rfl
          exact hadvances ⟨keys, env, rfl⟩
        rw [hcalls, if_neg hne]
        exact hcall
    | looped port input thread loopInput message rx worker loopOutputs hthread hrunning htaken
        hloop hmedia htranscriber hcalls =>
        rw [hcalls]
        exact hcall
    | stopped port thread hthread hrunning hnext =>
        subst hnext
        exact hcall
    | transcribed env command commands hrunning hpop hnext =>
        subst hnext
        exact hcall

/-- A call begins by arriving. -/
theorem callAt_arrives (hfires : (machine deployment).Fires move)
    (hnone : move.pre.callAt id = none) (hcall : move.post.callAt id = some (request, point)) :
    point = .entered ∧ move.input = .arrive request := by
  obtain ⟨server, input, next, outputs⟩ := move
  have hstep : ServerStep deployment server next input outputs := serverStep_of_fires hfires
  dsimp only at hnone hcall ⊢
  cases hstep with
  | arrived arrived hmedia htranscriber hcalls =>
      rw [hcalls] at hcall
      split at hcall
      · obtain ⟨rfl, rfl⟩ := by simpa using hcall
        exact ⟨rfl, rfl⟩
      · rw [hnone] at hcall
        contradiction
  | called other keys env called at_ after effect hother hstep hcalls haffects =>
      rw [hcalls] at hcall
      split at hcall
      · rename_i hsame
        rw [hsame, hother] at hnone
        contradiction
      · rw [hnone] at hcall
        contradiction
  | looped port input thread loopInput message rx worker loopOutputs hthread hrunning htaken
      hloop hmedia htranscriber hcalls =>
      rw [hcalls, hnone] at hcall
      contradiction
  | stopped port thread hthread hrunning hnext =>
      subst hnext
      have hsame : server.callAt id = some (request, point) := hcall
      rw [hnone] at hsame
      contradiction
  | transcribed env command commands hrunning hpop hnext =>
      subst hnext
      have hsame : server.callAt id = some (request, point) := hcall
      rw [hnone] at hsame
      contradiction

/-- Where a call is after its transition. -/
theorem TakesTransition.callAt {effect : CallEffect} {after : CallPoint}
    (htakes : TakesTransition deployment move id request point effect after) :
    move.post.callAt id = some (request, after) := by
  rw [htakes.calls, if_pos rfl]

/-- How a call came to be where it is after a step: it has arrived in the step, it has
taken a transition to there, or it was there before. -/
theorem callAt_post_cases (hfires : (machine deployment).Fires move)
    (hcall : move.post.callAt id = some (request, point)) :
    (point = .entered ∧ move.input = .arrive request) ∨
    (∃ before effect, TakesTransition deployment move id request before effect point) ∨
    ((∀ keys env, move.input ≠ .advance id keys env) ∧
      move.pre.callAt id = some (request, point)) := by
  cases hbefore : move.pre.callAt id with
  | none => exact .inl (callAt_arrives hfires hbefore hcall)
  | some found =>
      obtain ⟨asked, before⟩ := found
      rcases callAt_fires hfires hbefore with ⟨effect, after, htakes⟩ | ⟨hother, hsame⟩
      · obtain ⟨rfl, rfl⟩ :=
          Prod.mk.inj (Option.some.inj (htakes.callAt.symm.trans hcall))
        exact .inr (.inl ⟨before, effect, htakes⟩)
      · exact .inr (.inr ⟨hother, hsame.symm.trans hcall⟩)

variable {start final : Server σ δ} {moves : List (ServerMove σ δ)}

/-- A call keeps its request. -/
theorem callAt_run (hrun : (machine deployment).Run start moves final)
    (hcall : start.callAt id = some (request, point)) :
    ∃ last, final.callAt id = some (request, last) := by
  induction hrun generalizing point with
  | nil state => exact ⟨point, hcall⟩
  | cons hfires hrest ih =>
      rcases callAt_fires hfires hcall with ⟨effect, after, htakes⟩ | ⟨-, hsame⟩
      · exact ih htakes.callAt
      · exact ih hsame

/-- A call that is elsewhere at the end of a run has left its point by one of its
transitions. -/
theorem exists_transition (hrun : (machine deployment).Run start moves final)
    (hcall : start.callAt id = some (request, point)) {last : CallPoint}
    (hlast : final.callAt id = some (request, last)) (hmoved : last ≠ point) :
    ∃ before move later effect after, moves = before ++ move :: later ∧
      TakesTransition deployment move id request point effect after := by
  induction hrun with
  | nil state =>
      rw [hcall] at hlast
      simp only [Option.some.injEq, Prod.mk.injEq, true_and] at hlast
      exact absurd hlast.symm hmoved
  | @cons move moves final hfires hrest ih =>
      rcases callAt_fires hfires hcall with ⟨effect, after, htakes⟩ | ⟨-, hsame⟩
      · exact ⟨[], move, moves, effect, after, rfl, htakes⟩
      · obtain ⟨before, found, later, effect, after, rfl, htakes⟩ := ih hsame hlast
        exact ⟨move :: before, found, later, effect, after, rfl, htakes⟩

/-- A call that has returned stays returned, with the same reply. -/
theorem callAt_returned {reply : Reply} (hrun : (machine deployment).Run start moves final)
    (hcall : start.callAt id = some (request, .returned reply)) :
    final.callAt id = some (request, .returned reply) := by
  obtain ⟨last, hlast⟩ := callAt_run hrun hcall
  by_cases hmoved : last = .returned reply
  · rw [hlast, hmoved]
  · obtain ⟨_, _, _, _, _, -, htakes⟩ := exists_transition hrun hcall hlast hmoved
    exact absurd htakes.callStep not_callStep_returned

/-- All calls of a server have returned, given the points they are at. -/
theorem returned_of_points {server : Server σ δ} {replies : List Reply}
    (hpoints : server.calls.map Call.point = replies.map CallPoint.returned) :
    ∀ call ∈ server.calls, ∃ reply, call.point = .returned reply := by
  intro call hmem
  have hpoint : call.point ∈ replies.map CallPoint.returned := by
    rw [← hpoints]
    exact List.mem_map_of_mem hmem
  obtain ⟨reply, -, hreply⟩ := List.mem_map.mp hpoint
  exact ⟨reply, hreply.symm⟩

end Server
end Grpc
end MediaServer
