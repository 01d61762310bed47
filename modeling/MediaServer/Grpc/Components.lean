import MediaServer.Grpc.CallCourse

/-!
# A step seen from one component

`callAt_fires` says what a step of the server is for one call.  This file says
what it is for the thread of one media worker (`ThreadStep`) and for the
transcription worker with its channel (`TranscriberStep`).  An invariant about a
component is proved by the cases of its own relation, without looking at the
other threads.
-/

namespace MediaServer
namespace Grpc

open Foundation Signal Transcription

variable {σ δ : Type}

namespace Server

/-- What a step is for the thread of a media worker. -/
inductive ThreadStep (deployment : Deployment σ δ) (move : ServerMove σ δ) (port : UInt16)
    (thread : MediaThread σ) : MediaThread σ → Prop
  | unchanged : ThreadStep deployment move port thread thread
  /-- a call has sent a message to it -/
  | received (id : Nat) (request : Request) (point after : CallPoint)
      (message : SignalingProtocolMessage) (kept : Bool)
      (htakes : TakesTransition deployment move id request point (.message port message kept)
        after)
      (hempty : thread.rx.waiting = []) :
      ThreadStep deployment move port thread
        { thread with rx := thread.rx.push ⟨message, id, kept⟩ }
  /-- it handles a message -/
  | handled (message : SignalingMessage) (rest : Fifo SignalingMessage) (worker : MediaWorker σ)
      (hinput : move.input = .media port .poll) (hrunning : thread.running = true)
      (hpop : thread.rx.pop = some (message, rest))
      (hextractor : worker.audioExtractor =
        updateExtractor thread.worker.audioExtractor message.request)
      (htranscriber : move.post.transcriber = move.pre.transcriber) :
      ThreadStep deployment move port thread ⟨worker, rest, true⟩
  /-- it goes on in its loop, forwarding a packet or not -/
  | continued (input : MediaInput) (worker : MediaWorker σ)
      (hinput : move.input = .media port input) (hrunning : thread.running = true)
      (hpoll : input = .poll → thread.rx.waiting = [])
      (hextractor : worker.audioExtractor = thread.worker.audioExtractor ∨
        ∃ info, worker.audioExtractor = (forwardAudio thread.worker.audioExtractor info).1) :
      ThreadStep deployment move port thread ⟨worker, thread.rx, true⟩
  | stopped (hinput : move.input = .media port .stop) :
      ThreadStep deployment move port thread { thread with running := false }

/-- What a step is for the transcription worker. -/
inductive TranscriberStep (deployment : Deployment σ δ) (move : ServerMove σ δ) :
    Transcriber δ → Prop
  | unchanged (hinput : ∀ env, move.input ≠ .transcribe env) :
      TranscriberStep deployment move move.pre.transcriber
  /-- a call has sent a command to it -/
  | commanded (id : Nat) (request : Request) (point after : CallPoint)
      (command : TranscriptionCommand)
      (htakes : TakesTransition deployment move id request point (.command command) after)
      (hrunning : move.pre.transcriber.running = true) :
      TranscriberStep deployment move
        { move.pre.transcriber with commands := move.pre.transcriber.commands.push command }
  /-- a media worker has forwarded a packet to it -/
  | forwarded (port : UInt16) (thread : MediaThread σ) (info : AudioPacketInfo)
      (command : TranscriptionCommand) (hinput : ∃ input, move.input = .media port input)
      (hthread : move.pre.media.get port = some thread)
      (hsent : (forwardAudio thread.worker.audioExtractor info).2 = some command) :
      TranscriberStep deployment move
        { move.pre.transcriber with commands := move.pre.transcriber.commands.push command }
  /-- it processes a command -/
  | processed (env : Environment) (command : TranscriptionCommand)
      (commands : Fifo TranscriptionCommand) (hinput : move.input = .transcribe env)
      (hrunning : move.pre.transcriber.running = true)
      (hpop : move.pre.transcriber.commands.pop = some (command, commands)) :
      TranscriberStep deployment move
        { commands := commands
          worker := (move.pre.transcriber.worker.processCommand deployment.codec command
            env).worker
          running := (move.pre.transcriber.worker.processCommand deployment.codec command
            env).running }

variable {deployment : Deployment σ δ} {move : ServerMove σ δ}

/-- What an iteration of a media worker does to its extractor and sends, by the
message it took. -/
theorem taken_cases {server : Server σ δ} {thread : MediaThread σ} {input : MediaInput}
    {loopInput : LoopInput} {message : Option SignalingMessage} {rx : Fifo SignalingMessage}
    {worker : MediaWorker σ} {outputs : List LoopOutput}
    (htaken : Taken server thread.rx input loopInput message rx)
    (hloop : (MediaWorker.loop deployment.acceptOffer).Fires
      ⟨thread.worker, loopInput, worker, outputs⟩) :
    (∃ taken, input = .poll ∧ thread.rx.pop = some (taken, rx) ∧
      worker.audioExtractor = updateExtractor thread.worker.audioExtractor taken.request ∧
      sentCommands outputs = []) ∨
    (rx = thread.rx ∧ (input = .poll → thread.rx.waiting = []) ∧
      ((worker.audioExtractor = thread.worker.audioExtractor ∧ sentCommands outputs = []) ∨
        ∃ info, worker.audioExtractor = (forwardAudio thread.worker.audioExtractor info).1 ∧
          sentCommands outputs =
            (forwardAudio thread.worker.audioExtractor info).2.toList)) := by
  have hextractor := fires_audioExtractor hloop
  have hsent := fires_sentCommands hloop
  dsimp only at hextractor hsent
  cases htaken with
  | message taken rest hpop =>
      left
      rw [hextractor, hsent]
      exact ⟨taken, rfl, hpop, rfl, rfl⟩
  | idle hempty =>
      right
      rw [hextractor, hsent]
      exact ⟨rfl, fun _ => Fifo.pop_eq_none_iff.mp hempty, .inl ⟨rfl, rfl⟩⟩
  | read arrivals =>
      right
      rw [hextractor, hsent]
      exact ⟨rfl, by simp, .inl ⟨rfl, rfl⟩⟩
  | drain =>
      right
      refine ⟨rfl, by simp, ?_⟩
      rw [hextractor, hsent]
      cases hevent : routerEvent (⟨thread.worker, .drain, worker, outputs⟩ : LoopMove σ) with
      | quiet => exact .inl ⟨rfl, rfl⟩
      | drained info => exact .inr ⟨info, rfl, rfl⟩
      | handled request =>
          obtain ⟨listening, hinput⟩ := routerEvent_eq_handled_iff.mp hevent
          contradiction

/-- Every step is one of these for every thread. -/
theorem threadStep_of_fires (hfires : (machine deployment).Fires move) {port : UInt16}
    {thread : MediaThread σ} (hthread : move.pre.media.get port = some thread) :
    ∃ after, move.post.media.get port = some after ∧
      ThreadStep deployment move port thread after := by
  obtain ⟨server, input, next, outputs⟩ := move
  have hstep : ServerStep deployment server next input outputs := serverStep_of_fires hfires
  dsimp only at hthread ⊢
  cases hstep with
  | arrived request hmedia htranscriber hcalls =>
      rw [hmedia]
      exact ⟨thread, hthread, .unchanged⟩
  | called id keys env request point after effect hcall hstep hcalls haffects =>
      cases effect with
      | quiet =>
          rw [haffects.1]
          exact ⟨thread, hthread, .unchanged⟩
      | command command =>
          rw [haffects.1]
          exact ⟨thread, hthread, .unchanged⟩
      | message target message kept =>
          have haffected := haffects
          obtain ⟨-, found, hfound, -, hempty, hmedia⟩ := haffected
          rw [hmedia, HashMap.get_insert]
          by_cases hport : port = target
          · subst hport
            obtain rfl : thread = found := Option.some.inj (hthread.symm.trans hfound)
            rw [if_pos rfl]
            exact ⟨_, rfl, .received id request point after message kept
              ⟨⟨keys, env, rfl⟩, hcall, hstep, hcalls, haffects⟩ hempty⟩
          · rw [if_neg hport]
            exact ⟨thread, hthread, .unchanged⟩
  | looped target input found loopInput message rx worker loopOutputs hfound hrunning htaken hloop
      hmedia htranscriber hcalls =>
      rw [hmedia, HashMap.get_insert]
      by_cases hport : port = target
      · subst hport
        obtain rfl : thread = found := Option.some.inj (hthread.symm.trans hfound)
        rw [if_pos rfl]
        refine ⟨_, rfl, ?_⟩
        rcases taken_cases htaken hloop with
          ⟨taken, rfl, hpop, hextractor, hsent⟩ | ⟨rfl, hpoll, hcontinued⟩
        · refine .handled taken rx worker rfl hrunning hpop hextractor ?_
          rw [htranscriber, hsent]
          simp [Fifo.pushAll]
        · refine .continued input worker rfl hrunning hpoll ?_
          rcases hcontinued with ⟨hsame, -⟩ | ⟨info, hforward, -⟩
          · exact .inl hsame
          · exact .inr ⟨info, hforward⟩
      · rw [if_neg hport]
        exact ⟨thread, hthread, .unchanged⟩
  | stopped target found hfound hrunning hnext =>
      subst hnext
      dsimp only
      rw [HashMap.get_insert]
      by_cases hport : port = target
      · subst hport
        obtain rfl : thread = found := Option.some.inj (hthread.symm.trans hfound)
        rw [if_pos rfl]
        exact ⟨_, rfl, .stopped rfl⟩
      · rw [if_neg hport]
        exact ⟨thread, hthread, .unchanged⟩
  | transcribed env command commands hrunning hpop hnext =>
      subst hnext
      exact ⟨thread, hthread, .unchanged⟩

/-- Threads do not appear. -/
theorem media_none_of_fires (hfires : (machine deployment).Fires move) {port : UInt16}
    (hnone : move.pre.media.get port = none) : move.post.media.get port = none := by
  have hinsert : ∀ target thread found, move.pre.media.get target = some found →
      (move.pre.media.insert target thread).get port = none := by
    intro target thread found hfound
    have hne : port ≠ target := by
      rintro rfl
      rw [hnone] at hfound
      contradiction
    rw [HashMap.get_insert, if_neg hne]
    exact hnone
  obtain ⟨server, input, next, outputs⟩ := move
  have hstep : ServerStep deployment server next input outputs := serverStep_of_fires hfires
  dsimp only at hnone hinsert ⊢
  cases hstep with
  | arrived request hmedia htranscriber hcalls => rw [hmedia, hnone]
  | called id keys env request point after effect hcall hstep hcalls haffects =>
      cases effect with
      | quiet => rw [haffects.1, hnone]
      | command command => rw [haffects.1, hnone]
      | message target message kept =>
          obtain ⟨-, found, hfound, -, -, hmedia⟩ := haffects
          rw [hmedia]
          exact hinsert target _ found hfound
  | looped target input found loopInput message rx worker loopOutputs hfound hrunning htaken hloop
      hmedia htranscriber hcalls =>
      rw [hmedia]
      exact hinsert target _ found hfound
  | stopped target found hfound hrunning hnext =>
      subst hnext
      exact hinsert target _ found hfound
  | transcribed env command commands hrunning hpop hnext =>
      subst hnext
      exact hnone

/-- What holds of all threads after a step follows from what held before it, thread
by thread. -/
theorem forall_thread_post (hfires : (machine deployment).Fires move)
    {Before After : UInt16 → MediaThread σ → Prop}
    (hbefore : ∀ port thread, move.pre.media.get port = some thread → Before port thread)
    (hthreads : ∀ port thread after, move.pre.media.get port = some thread →
      ThreadStep deployment move port thread after → Before port thread → After port after) :
    ∀ port thread, move.post.media.get port = some thread → After port thread := by
  intro port after hafter
  cases hthread : move.pre.media.get port with
  | none =>
      rw [media_none_of_fires hfires hthread] at hafter
      contradiction
  | some thread =>
      obtain ⟨found, hfound, hstep⟩ := threadStep_of_fires hfires hthread
      obtain rfl : found = after := Option.some.inj (hfound.symm.trans hafter)
      exact hthreads port thread found hthread hstep (hbefore port thread hthread)

/-- The media workers of a run are those of the ports of the server. -/
theorem mem_ports_of_run {final : Server σ δ} {moves : List (ServerMove σ δ)}
    (hrun : (machine deployment).Run (new deployment) moves final) {port : UInt16}
    {thread : MediaThread σ} (hthread : final.media.get port = some thread) :
    port ∈ deployment.ports := by
  have hports : ∀ port thread, final.media.get port = some thread → port ∈ deployment.ports := by
    refine hrun.invariant (fun server => ∀ port thread, server.media.get port = some thread →
      port ∈ deployment.ports) ?_ ?_
    · intro move hfires hpre
      exact forall_thread_post hfires hpre fun port thread after hthread hstep hmem => hmem
    · intro port thread hthread
      rw [media_new] at hthread
      split at hthread
      · assumption
      · contradiction
  exact hports port thread hthread

/-- A thread that has left its loop does not come back. -/
theorem mediaOpen_of_fires (hfires : (machine deployment).Fires move) {port : UInt16}
    (hopen : move.post.mediaOpen port = true) : move.pre.mediaOpen port = true := by
  unfold mediaOpen at hopen ⊢
  cases hthread : move.pre.media.get port with
  | none =>
      rw [media_none_of_fires hfires hthread] at hopen
      contradiction
  | some thread =>
      obtain ⟨after, hafter, hstep⟩ := threadStep_of_fires hfires hthread
      rw [hafter] at hopen
      cases hstep with
      | unchanged => exact hopen
      | received id request point after message kept htakes hempty => exact hopen
      | handled message rest worker hinput hrunning hpop hextractor htranscriber => exact hrunning
      | continued input worker hinput hrunning hpoll hextractor => exact hrunning
      | stopped hinput => contradiction

theorem mediaOpen_of_run {start final : Server σ δ} {moves : List (ServerMove σ δ)}
    (hrun : (machine deployment).Run start moves final) {port : UInt16}
    (hopen : final.mediaOpen port = true) : start.mediaOpen port = true := by
  induction hrun with
  | nil state => exact hopen
  | cons hfires hrest ih => exact mediaOpen_of_fires hfires (ih hopen)

/-- Every step is one of these for the transcription worker. -/
theorem transcriberStep_of_fires (hfires : (machine deployment).Fires move) :
    TranscriberStep deployment move move.post.transcriber := by
  obtain ⟨server, input, next, outputs⟩ := move
  have hstep : ServerStep deployment server next input outputs := serverStep_of_fires hfires
  have hunchanged : (∀ env, input ≠ .transcribe env) → next.transcriber = server.transcriber →
      TranscriberStep deployment ⟨server, input, next, outputs⟩ next.transcriber := by
    intro hinput hsame
    rw [hsame]
    exact .unchanged hinput
  cases hstep with
  | arrived request hmedia htranscriber hcalls => exact hunchanged (by simp) htranscriber
  | called id keys env request point after effect hcall hstep hcalls haffects =>
      cases effect with
      | quiet => exact hunchanged (by simp) haffects.2
      | message target message kept => exact hunchanged (by simp) haffects.1
      | command command =>
          have hafter := haffects.2.2
          dsimp only
          rw [hafter]
          exact .commanded id request point after command
            ⟨⟨keys, env, rfl⟩, hcall, hstep, hcalls, haffects⟩ haffects.2.1
  | looped port input thread loopInput message rx worker loopOutputs hthread hrunning htaken hloop
      hmedia htranscriber hcalls =>
      have hsame : sentCommands loopOutputs = [] →
          TranscriberStep deployment ⟨server, .media port input, next, []⟩ next.transcriber := by
        intro hnone
        apply hunchanged (by simp)
        rw [htranscriber, hnone]
        simp [Fifo.pushAll]
      rcases taken_cases htaken hloop with
        ⟨taken, -, -, -, hnone⟩ | ⟨-, -, ⟨-, hnone⟩ | ⟨info, -, hsent⟩⟩
      · exact hsame hnone
      · exact hsame hnone
      · cases hcommand : (forwardAudio thread.worker.audioExtractor info).2 with
        | none => exact hsame (by rw [hsent, hcommand]; rfl)
        | some command =>
            cases hopen : server.transcriber.running with
            | false =>
                apply hunchanged (by simp)
                rw [htranscriber, hopen]
                simp
            | true =>
                have hafter : next.transcriber =
                    { server.transcriber with
                      commands := server.transcriber.commands.push command } := by
                  rw [htranscriber, hopen, hsent, hcommand]
                  rfl
                dsimp only
                rw [hafter]
                exact .forwarded port thread info command ⟨input, rfl⟩ hthread hcommand
  | stopped port thread hthread hrunning hnext =>
      subst hnext
      exact .unchanged (by simp)
  | transcribed env command commands hrunning hpop hnext =>
      subst hnext
      exact .processed env command commands rfl hrunning hpop

/-! ## Steps that leave transcription alone -/

/-- The extractor of the media worker of a port. -/
def extractorAt (server : Server σ δ) (port : UInt16) : Option RtpAudioExtractor :=
  (server.media.get port).map fun thread => thread.worker.audioExtractor

/-- In the step the media worker of the port takes the message. -/
structure TakesMessage (move : ServerMove σ δ) (port : UInt16) (message : SignalingMessage) :
    Prop where
  input : move.input = .media port .poll
  waiting : ∃ thread rest, move.pre.media.get port = some thread ∧
    thread.rx.waiting = message :: rest

/-- The step leaves the transcription state alone: no command is sent and no
session started, and every extractor is as before. -/
structure TranscriptionUntouched (move : ServerMove σ δ) : Prop where
  transcriber : move.post.transcriber = move.pre.transcriber
  extractors : ∀ port, move.post.extractorAt port = move.pre.extractorAt port

theorem extractorAt_insert {server next : Server σ δ} {port : UInt16}
    {thread after : MediaThread σ} (hthread : server.media.get port = some thread)
    (hmedia : next.media = server.media.insert port after)
    (hextractor : after.worker.audioExtractor = thread.worker.audioExtractor) (other : UInt16) :
    next.extractorAt other = server.extractorAt other := by
  unfold extractorAt
  rw [hmedia, HashMap.get_insert]
  by_cases hother : other = port
  · rw [if_pos hother, hother, hthread, Option.map_some, Option.map_some, hextractor]
  · rw [if_neg hother]

/-- A media worker that takes a message whose handler leaves the extractor as it is
touches nothing of transcription. -/
theorem untouched_of_message (hfires : (machine deployment).Fires move) {port : UInt16}
    {message : SignalingMessage} (htakes : TakesMessage move port message)
    (hupdate : ∀ extractor, updateExtractor extractor message.request = extractor) :
    TranscriptionUntouched move := by
  obtain ⟨hinput, thread, rest, hthread, hwaiting⟩ := htakes
  obtain ⟨server, input, next, outputs⟩ := move
  have hstep : ServerStep deployment server next input outputs := serverStep_of_fires hfires
  obtain rfl : input = .media port .poll := hinput
  dsimp only at hthread
  cases hstep with
  | looped port input found loopInput taken rx worker loopOutputs hfound hrunning htaken hloop
      hmedia htranscriber hcalls =>
      obtain rfl : thread = found := Option.some.inj (hthread.symm.trans hfound)
      rcases taken_cases htaken hloop with
        ⟨handled, -, hpop, hextractor, hsent⟩ | ⟨-, hpoll, -⟩
      · obtain ⟨others, hhead, -⟩ := Fifo.pop_eq_some_iff.mp hpop
        obtain ⟨rfl, -⟩ := List.cons.inj (hwaiting.symm.trans hhead)
        rw [hupdate] at hextractor
        refine ⟨?_, extractorAt_insert hthread hmedia hextractor⟩
        dsimp only
        rw [htranscriber, hsent]
        simp [Fifo.pushAll]
      · rw [hpoll rfl] at hwaiting
        contradiction

end Server
end Grpc
end MediaServer
