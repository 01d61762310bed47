import MediaServer.Grpc.Server

/-!
# What a step of the server can do

The inversion of `Server.step`.  Calls are seen through `callAt`, their request
and their point; `CallStep` is the protocol that a single call follows, each
transition with its one effect on the rest of the server.  `ServerStep` lists the
kinds of steps of the whole server with everything they change, and
`serverStep_of_step` shows that there are no others.
-/

namespace MediaServer
namespace Grpc

open Foundation Signal Transcription

/-! ## The port of a session -/

/-- The port of a session does not depend on the order in which the ports are
listed. -/
theorem pickPort_perm {keys ports : List UInt16} (hperm : keys.Perm ports)
    (sessionId : UInt64) : pickPort keys sessionId = pickPort ports sessionId := by
  have hnil : keys = [] ↔ ports = [] := by
    constructor
    · rintro rfl
      exact hperm.symm.eq_nil
    · rintro rfl
      exact hperm.eq_nil
  have hsorted : keys.insertionSort (· ≤ ·) = ports.insertionSort (· ≤ ·) := by
    have hsort : ∀ list : List UInt16, (list.insertionSort (· ≤ ·)).Pairwise (· ≤ ·) :=
      fun list => List.pairwise_insertionSort (· ≤ ·) list
    have hboth := ((List.perm_insertionSort (· ≤ ·) keys).trans hperm).trans
      (List.perm_insertionSort (· ≤ ·) ports).symm
    exact List.Perm.eq_of_pairwise (fun _ _ _ _ hle hge => UInt16.le_antisymm hle hge)
      (hsort keys) (hsort ports) hboth
  unfold pickPort
  rw [hsorted]
  by_cases hkeys : keys = []
  · rw [if_pos hkeys, if_pos (hnil.mp hkeys)]
  · rw [if_neg hkeys, if_neg (fun hports => hkeys (hnil.mpr hports))]

theorem pickPort_mem {ports : List UInt16} {sessionId : UInt64} {port : UInt16}
    (hport : pickPort ports sessionId = some port) : port ∈ ports := by
  unfold pickPort at hport
  split at hport
  · contradiction
  · exact (List.mem_insertionSort _).mp (List.mem_of_getElem? hport)

/-- A session has a port as soon as there is one. -/
theorem pickPort_eq_none_iff {ports : List UInt16} {sessionId : UInt64} :
    pickPort ports sessionId = none ↔ ports = [] := by
  unfold pickPort
  constructor
  · intro hnone
    split at hnone
    · assumption
    · rename_i hports
      have hpos : 0 < (ports.insertionSort (· ≤ ·)).length := by
        rw [List.length_insertionSort]
        exact List.length_pos_of_ne_nil hports
      have hlt := Nat.mod_lt sessionId.toNat hpos
      have hle := List.getElem?_eq_none_iff.mp hnone
      omega
  · intro hports
    rw [if_pos hports]

variable {σ δ : Type}

/-- The port whose worker handles the messages of a session. -/
def Deployment.portOf (deployment : Deployment σ δ) (sessionId : UInt64) : Option UInt16 :=
  pickPort deployment.ports sessionId

/-! ## The protocol of a call -/

/-- What a transition of a call does to the rest of the server. -/
inductive CallEffect
  | quiet
  | command (command : TranscriptionCommand)
  | message (port : UInt16) (request : SignalingProtocolMessage) (kept : Bool)

/-- The transitions of a call; `portOf` is the port of a session, `channelOpen`
says that the channel of the transcription worker exists and is open, `mediaOpen`
the same of the channel of a media worker. -/
inductive CallStep (portOf : UInt64 → Option UInt16) (channelOpen : Bool)
    (mediaOpen : UInt16 → Bool) : Request → CallPoint → CallEffect → CallPoint → Prop
  | offerRefused (request : OfferRequest) (hport : portOf request.sessionId = none) :
      CallStep portOf channelOpen mediaOpen (.offer request) .entered .quiet
        (.returned (.offer (.ok ⟨request.sessionId, request.endpointId, "", "No media ports"⟩)))
  | offerSent (request : OfferRequest) (port : UInt16)
      (hport : portOf request.sessionId = some port) :
      CallStep portOf channelOpen mediaOpen (.offer request) .entered
        (.message port (.offer request.sessionId request.endpointId request.offerSdp) true)
        (.offerAwaiting port)
  | offerUnsent (request : OfferRequest) (port : UInt16) (status : Status)
      (hport : portOf request.sessionId = some port) (hclosed : mediaOpen port = false) :
      CallStep portOf channelOpen mediaOpen (.offer request) .entered .quiet
        (.returned (.offer (.error status)))
  | offerReceived (request : OfferRequest) (port : UInt16) (response : SignalingProtocolMessage) :
      CallStep portOf channelOpen mediaOpen (.offer request) (.offerAwaiting port) .quiet
        (.offerAnswered port response)
  | offerUnanswered (request : OfferRequest) (port : UInt16) (status : Status) :
      CallStep portOf channelOpen mediaOpen (.offer request) (.offerAwaiting port) .quiet
        (.returned (.offer (.error status)))
  | offerStarted (request : OfferRequest) (port : UInt16) (response : SignalingProtocolMessage)
      (hrequested : request.enableTranscription = true) (hopen : channelOpen = true) :
      CallStep portOf channelOpen mediaOpen (.offer request) (.offerAnswered port response)
        (.command (.startSession request.sessionId request.endpointId none))
        (.offerNotifying port response)
  | offerUnstarted (request : OfferRequest) (port : UInt16) (response : SignalingProtocolMessage)
      (hunstarted : request.enableTranscription = false ∨ channelOpen = false) :
      CallStep portOf channelOpen mediaOpen (.offer request) (.offerAnswered port response) .quiet
        (.returned (.offer (.ok (offerResponse request response))))
  | offerNotified (request : OfferRequest) (port : UInt16) (response : SignalingProtocolMessage) :
      CallStep portOf channelOpen mediaOpen (.offer request) (.offerNotifying port response)
        (.message port (.enableTranscription request.sessionId request.endpointId) false)
        (.returned (.offer (.ok (offerResponse request response))))
  | offerUnnotified (request : OfferRequest) (port : UInt16)
      (response : SignalingProtocolMessage) (hclosed : mediaOpen port = false) :
      CallStep portOf channelOpen mediaOpen (.offer request) (.offerNotifying port response) .quiet
        (.returned (.offer (.ok (offerResponse request response))))
  | leaveStopped (request : LeaveRequest) (hopen : channelOpen = true) :
      CallStep portOf channelOpen mediaOpen (.leave request) .entered
        (.command (.stopSession request.sessionId request.endpointId)) .leaveSending
  | leaveUnstopped (request : LeaveRequest) (hclosed : channelOpen = false) :
      CallStep portOf channelOpen mediaOpen (.leave request) .entered .quiet .leaveSending
  | leaveSent (request : LeaveRequest) (port : UInt16)
      (hport : portOf request.sessionId = some port) :
      CallStep portOf channelOpen mediaOpen (.leave request) .leaveSending
        (.message port (.leave request.sessionId request.endpointId) true) .leaveSent
  | leaveUnsent (request : LeaveRequest) (result : Except Status LeaveResponse)
      (hclosed : ∀ port, portOf request.sessionId = some port → mediaOpen port = false) :
      CallStep portOf channelOpen mediaOpen (.leave request) .leaveSending .quiet
        (.returned (.leave result))
  | leaveReturned (request : LeaveRequest) :
      CallStep portOf channelOpen mediaOpen (.leave request) .leaveSent .quiet
        (.returned (.leave (.ok ⟨true, ""⟩)))
  | enableStarted (request : EnableTranscriptionRequest) (config : Option TranscriptionConfig)
      (hconfig : configOverride request = .ok config) (hopen : channelOpen = true) :
      CallStep portOf channelOpen mediaOpen (.enableTranscription request) .entered
        (.command (.startSession request.sessionId request.endpointId config)) .enableNotifying
  | enableRejected (request : EnableTranscriptionRequest) (error : String)
      (hrejected : channelOpen = false ∨ ∃ reason, configOverride request = .error reason) :
      CallStep portOf channelOpen mediaOpen (.enableTranscription request) .entered .quiet
        (.returned (.enableTranscription ⟨false, error⟩))
  | enableNotified (request : EnableTranscriptionRequest) (port : UInt16)
      (hport : portOf request.sessionId = some port) :
      CallStep portOf channelOpen mediaOpen (.enableTranscription request) .enableNotifying
        (.message port (.enableTranscription request.sessionId request.endpointId) false)
        (.returned (.enableTranscription ⟨true, ""⟩))
  | enableUnnotified (request : EnableTranscriptionRequest)
      (hclosed : ∀ port, portOf request.sessionId = some port → mediaOpen port = false) :
      CallStep portOf channelOpen mediaOpen (.enableTranscription request) .enableNotifying .quiet
        (.returned (.enableTranscription ⟨true, ""⟩))
  | disableStopped (request : DisableTranscriptionRequest) (hopen : channelOpen = true) :
      CallStep portOf channelOpen mediaOpen (.disableTranscription request) .entered
        (.command (.stopSession request.sessionId request.endpointId)) .disableNotifying
  | disableUnstopped (request : DisableTranscriptionRequest) (hclosed : channelOpen = false) :
      CallStep portOf channelOpen mediaOpen (.disableTranscription request) .entered .quiet
        .disableNotifying
  | disableRejected (request : DisableTranscriptionRequest) (error : String)
      (hclosed : channelOpen = false) :
      CallStep portOf channelOpen mediaOpen (.disableTranscription request) .entered .quiet
        (.returned (.disableTranscription ⟨false, error⟩))
  | disableNotified (request : DisableTranscriptionRequest) (port : UInt16)
      (hport : portOf request.sessionId = some port) :
      CallStep portOf channelOpen mediaOpen (.disableTranscription request) .disableNotifying
        (.message port (.disableTranscription request.sessionId request.endpointId) false)
        (.returned (.disableTranscription ⟨true, ""⟩))
  | disableUnnotified (request : DisableTranscriptionRequest)
      (hclosed : ∀ port, portOf request.sessionId = some port → mediaOpen port = false) :
      CallStep portOf channelOpen mediaOpen (.disableTranscription request) .disableNotifying .quiet
        (.returned (.disableTranscription ⟨true, ""⟩))

/-- The call has started a session and is about to notify the media worker. -/
def Notifies (point : CallPoint) : Prop :=
  point = .enableNotifying ∨ ∃ port response, point = .offerNotifying port response

section Protocol

variable {portOf : UInt64 → Option UInt16} {channelOpen : Bool} {mediaOpen : UInt16 → Bool}
  {request : Request} {point after : CallPoint}

/-- A call sends a start of its key, on its way to notify the media worker, or a
stop of its key. -/
theorem CallStep.command_cases {command : TranscriptionCommand}
    (hstep : CallStep portOf channelOpen mediaOpen request point (.command command) after) :
    (Notifies after ∧ ∃ config, command = .startSession request.key.1 request.key.2 config) ∨
    ((after = .leaveSending ∨ after = .disableNotifying) ∧
      command = .stopSession request.key.1 request.key.2) := by
  cases hstep with
  | offerStarted request port response _ _ => exact .inl ⟨.inr ⟨port, response, rfl⟩, _, rfl⟩
  | enableStarted request config _ _ => exact .inl ⟨.inl rfl, config, rfl⟩
  | leaveStopped request _ => exact .inr ⟨.inl rfl, rfl⟩
  | disableStopped request _ => exact .inr ⟨.inr rfl, rfl⟩

/-- The messages a call sends, all about its own key. -/
theorem CallStep.message_cases {port : UInt16} {message : SignalingProtocolMessage} {kept : Bool}
    (hstep : CallStep portOf channelOpen mediaOpen request point (.message port message kept)
      after) :
    ¬ Notifies after ∧
    ((∃ offerSdp, message = .offer request.key.1 request.key.2 offerSdp) ∨
      (message = .leave request.key.1 request.key.2 ∧ point = .leaveSending) ∨
      (message = .enableTranscription request.key.1 request.key.2 ∧ Notifies point) ∨
      (message = .disableTranscription request.key.1 request.key.2 ∧
        point = .disableNotifying)) := by
  cases hstep with
  | offerSent request port _ => exact ⟨by simp [Notifies], .inl ⟨request.offerSdp, rfl⟩⟩
  | leaveSent request port _ => exact ⟨by simp [Notifies], .inr (.inl ⟨rfl, rfl⟩)⟩
  | offerNotified request port response =>
      exact ⟨by simp [Notifies], .inr (.inr (.inl ⟨rfl, .inr ⟨port, response, rfl⟩⟩))⟩
  | enableNotified request port _ =>
      exact ⟨by simp [Notifies], .inr (.inr (.inl ⟨rfl, .inl rfl⟩))⟩
  | disableNotified request port _ =>
      exact ⟨by simp [Notifies], .inr (.inr (.inr ⟨rfl, rfl⟩))⟩

/-- A call does not come to notify the media worker without having sent its
start. -/
theorem CallStep.not_notifies_of_quiet
    (hstep : CallStep portOf channelOpen mediaOpen request point .quiet after) :
    ¬ Notifies after := by
  cases hstep <;> simp [Notifies]

end Protocol

namespace Server

/-- The threads of a server that has just started. -/
theorem media_new (deployment : Deployment σ δ) (port : UInt16) :
    (new deployment).media.get port =
      if port ∈ deployment.ports then some (MediaThread.new deployment port) else none := by
  have hfold : ∀ (ports : List UInt16) (media : HashMap UInt16 (MediaThread σ)),
      (ports.foldl (fun media port => media.insert port (MediaThread.new deployment port))
        media).get port =
        if port ∈ ports then some (MediaThread.new deployment port) else media.get port := by
    intro ports
    induction ports with
    | nil => simp
    | cons head rest ih =>
        intro media
        rw [List.foldl_cons, ih]
        by_cases hrest : port ∈ rest
        · simp [hrest]
        · by_cases hhead : port = head
          · simp [hhead]
          · simp [hrest, hhead]
  unfold new
  rw [hfold]
  simp

theorem thread_of_new {deployment : Deployment σ δ} {port : UInt16} {thread : MediaThread σ}
    (hthread : (new deployment).media.get port = some thread) :
    thread = MediaThread.new deployment port := by
  rw [media_new] at hthread
  split at hthread
  · exact (Option.some.inj hthread).symm
  · contradiction

/-- The request and the point of a call. -/
def callAt (server : Server σ δ) (id : Nat) : Option (Request × CallPoint) :=
  (server.calls[id]?).map fun call => (call.request, call.point)

/-- The channel of the transcription worker exists and is open. -/
def channelOpen (deployment : Deployment σ δ) (server : Server σ δ) : Bool :=
  deployment.enableTranscription && server.transcriber.running

/-- The channel of the media worker of a port exists and is open. -/
def mediaOpen (server : Server σ δ) (port : UInt16) : Bool :=
  (server.media.get port).any fun thread => thread.running

/-- How an effect of a call changes the rest of the server. -/
def Affects (server next : Server σ δ) (id : Nat) : CallEffect → Prop
  | .quiet => next.media = server.media ∧ next.transcriber = server.transcriber
  | .command command =>
      next.media = server.media ∧ server.transcriber.running = true ∧
        next.transcriber =
          { server.transcriber with commands := server.transcriber.commands.push command }
  | .message port request kept =>
      next.transcriber = server.transcriber ∧
        ∃ thread, server.media.get port = some thread ∧ thread.running = true ∧
          thread.rx.waiting = [] ∧
          next.media = server.media.insert port
            { thread with rx := thread.rx.push ⟨request, id, kept⟩ }

/-- What a step of a media worker's thread is for its loop: the input of the loop,
the message taken from the channel, and the channel afterwards. -/
inductive Taken (server : Server σ δ) (rx : Fifo SignalingMessage) :
    MediaInput → LoopInput → Option SignalingMessage → Fifo SignalingMessage → Prop
  | idle (hempty : rx.pop = none) : Taken server rx .poll (.poll none) none rx
  | message (message : SignalingMessage) (rest : Fifo SignalingMessage)
      (hpop : rx.pop = some (message, rest)) :
      Taken server rx .poll (.poll (some (message.request, server.listens message)))
        (some message) rest
  | drain : Taken server rx .drain .drain none rx
  | read (arrivals : List RtpArrival) :
      Taken server rx (.read arrivals) (.read arrivals) none rx

/-- The steps of the server. -/
inductive ServerStep (deployment : Deployment σ δ) (server next : Server σ δ) :
    ServerInput → List SendAudio → Prop
  | arrived (request : Request) (hmedia : next.media = server.media)
      (htranscriber : next.transcriber = server.transcriber)
      (hcalls : ∀ id, next.callAt id =
        if id = server.calls.length then some (request, .entered) else server.callAt id) :
      ServerStep deployment server next (.arrive request) []
  | called (id : Nat) (keys : List UInt16) (env : Environment) (request : Request)
      (point after : CallPoint) (effect : CallEffect)
      (hcall : server.callAt id = some (request, point))
      (hstep : CallStep deployment.portOf (server.channelOpen deployment) server.mediaOpen request
        point effect after)
      (hcalls : ∀ other, next.callAt other =
        if other = id then some (request, after) else server.callAt other)
      (haffects : Affects server next id effect) :
      ServerStep deployment server next (.advance id keys env) []
  | looped (port : UInt16) (input : MediaInput) (thread : MediaThread σ) (loopInput : LoopInput)
      (message : Option SignalingMessage) (rx : Fifo SignalingMessage) (worker : MediaWorker σ)
      (outputs : List LoopOutput) (hthread : server.media.get port = some thread)
      (hrunning : thread.running = true)
      (htaken : Taken server thread.rx input loopInput message rx)
      (hloop : (MediaWorker.loop deployment.acceptOffer).Fires
        ⟨thread.worker, loopInput, worker, outputs⟩)
      (hmedia : next.media = server.media.insert port ⟨worker, rx, true⟩)
      (htranscriber : next.transcriber =
        { server.transcriber with
          commands := if server.transcriber.running then
              server.transcriber.commands.pushAll (sentCommands outputs)
            else server.transcriber.commands })
      (hcalls : ∀ id, next.callAt id = server.callAt id) :
      ServerStep deployment server next (.media port input) []
  | stopped (port : UInt16) (thread : MediaThread σ)
      (hthread : server.media.get port = some thread) (hrunning : thread.running = true)
      (hnext : next =
        { server with media := server.media.insert port { thread with running := false } }) :
      ServerStep deployment server next (.media port .stop) []
  | transcribed (env : Environment) (command : TranscriptionCommand)
      (commands : Fifo TranscriptionCommand) (hrunning : server.transcriber.running = true)
      (hpop : server.transcriber.commands.pop = some (command, commands))
      (hnext : next =
        { server with
          transcriber :=
            { commands := commands
              worker := (server.transcriber.worker.processCommand deployment.codec command
                env).worker
              running := (server.transcriber.worker.processCommand deployment.codec command
                env).running } }) :
      ServerStep deployment server next (.transcribe env)
        (server.transcriber.worker.processCommand deployment.codec command env).sent

/-! ## The inversion -/

section Inversion

variable {deployment : Deployment σ δ} {server next : Server σ δ}

/-- Seen through `callAt`, a call that moves changes nothing but itself. -/
theorem callAt_set {id : Nat} {call : Call} {request : Request} {point : CallPoint}
    {inbox : Option SignalingProtocolMessage} (hcall : server.calls[id]? = some call)
    (hcalls : next.calls = server.calls.set id ⟨request, point, inbox⟩) (other : Nat) :
    next.callAt other =
      if other = id then some (request, point) else server.callAt other := by
  have hlt : id < server.calls.length := (List.getElem?_eq_some_iff.mp hcall).1
  unfold callAt
  rw [hcalls, List.getElem?_set]
  by_cases hother : other = id
  · subst hother
    simp [hlt]
  · rw [if_neg (Ne.symm hother), if_neg hother]

/-- The transitions that an action stands for: with its effect when the channel
it uses is open, without it otherwise. -/
def Follows (portOf : UInt64 → Option UInt16) (channelOpen : Bool) (mediaOpen : UInt16 → Bool)
    (request : Request) (point : CallPoint) : Action → Prop
  | .proceed after => CallStep portOf channelOpen mediaOpen request point .quiet after
  | .startSession sessionId endpointId config started failed =>
      (channelOpen = true → CallStep portOf channelOpen mediaOpen request point
        (.command (.startSession sessionId endpointId config)) started) ∧
      (channelOpen = false → ∀ reason,
        CallStep portOf channelOpen mediaOpen request point .quiet (failed reason))
  | .stopSession sessionId endpointId after =>
      (channelOpen = true → CallStep portOf channelOpen mediaOpen request point
        (.command (.stopSession sessionId endpointId)) after) ∧
      (channelOpen = false → CallStep portOf channelOpen mediaOpen request point .quiet after)
  | .message port message kept sent failed absent =>
      CallStep portOf channelOpen mediaOpen request point (.message port message kept) sent ∧
      (mediaOpen port = false →
        CallStep portOf channelOpen mediaOpen request point .quiet failed ∧
          CallStep portOf channelOpen mediaOpen request point .quiet absent)
  | .receive received failed =>
      (∀ response,
        CallStep portOf channelOpen mediaOpen request point .quiet (received response)) ∧
      CallStep portOf channelOpen mediaOpen request point .quiet failed

section Handlers

variable {transcription channelOpen : Bool} {mediaOpen : UInt16 → Bool} {ports keys : List UInt16}
  {point : CallPoint} {action : Action}

/-- A session has one port, so no port of it is open when that one is not. -/
theorem closed_of_pickPort {sessionId : UInt64} {port : UInt16}
    (hport : pickPort ports sessionId = some port) (hclosed : mediaOpen port = false) :
    ∀ other, pickPort ports sessionId = some other → mediaOpen other = false := by
  intro other hother
  obtain rfl := Option.some.inj (hport.symm.trans hother)
  exact hclosed

theorem follows_offer (hkeys : keys.Perm ports) {request : OfferRequest}
    (haction : SignalingSvc.offer keys request point = some action) :
    Follows (pickPort ports) channelOpen mediaOpen (.offer request) point action := by
  simp only [SignalingSvc.offer, pickPort_perm hkeys] at haction
  cases point with
  | entered =>
      cases hport : pickPort ports request.sessionId with
      | none =>
          simp only [hport] at haction
          obtain rfl := Option.some.inj haction
          exact .offerRefused request hport
      | some port =>
          simp only [hport] at haction
          obtain rfl := Option.some.inj haction
          exact ⟨.offerSent request port hport, fun hclosed =>
            ⟨.offerUnsent request port _ hport hclosed, .offerUnsent request port _ hport hclosed⟩⟩
  | offerAwaiting port =>
      obtain rfl := Option.some.inj haction
      exact ⟨.offerReceived request port, .offerUnanswered request port _⟩
  | offerAnswered port response =>
      cases hrequested : request.enableTranscription with
      | false =>
          simp only [hrequested] at haction
          obtain rfl := Option.some.inj haction
          exact .offerUnstarted request port response (.inl hrequested)
      | true =>
          simp only [hrequested] at haction
          obtain rfl := Option.some.inj haction
          exact ⟨.offerStarted request port response hrequested,
            fun hclosed _ => .offerUnstarted request port response (.inr hclosed)⟩
  | offerNotifying port response =>
      obtain rfl := Option.some.inj haction
      exact ⟨.offerNotified request port response, fun hclosed =>
        ⟨.offerUnnotified request port response hclosed,
          .offerUnnotified request port response hclosed⟩⟩
  | _ => contradiction

theorem follows_leave (hkeys : keys.Perm ports) {request : LeaveRequest}
    (haction : SignalingSvc.leave keys request point = some action) :
    Follows (pickPort ports) channelOpen mediaOpen (.leave request) point action := by
  simp only [SignalingSvc.leave, pickPort_perm hkeys] at haction
  cases point with
  | entered =>
      obtain rfl := Option.some.inj haction
      exact ⟨.leaveStopped request, .leaveUnstopped request⟩
  | leaveSending =>
      cases hport : pickPort ports request.sessionId with
      | none =>
          simp only [hport] at haction
          obtain rfl := Option.some.inj haction
          exact .leaveUnsent request _ (by simp [hport])
      | some port =>
          simp only [hport] at haction
          obtain rfl := Option.some.inj haction
          exact ⟨.leaveSent request port hport, fun hclosed =>
            ⟨.leaveUnsent request _ (closed_of_pickPort hport hclosed),
              .leaveUnsent request _ (closed_of_pickPort hport hclosed)⟩⟩
  | leaveSent =>
      obtain rfl := Option.some.inj haction
      exact .leaveReturned request
  | _ => contradiction

theorem follows_enableTranscription (hoff : transcription = false → channelOpen = false)
    (hkeys : keys.Perm ports) {request : EnableTranscriptionRequest}
    (haction : SignalingSvc.enableTranscription (.main transcription) keys request point =
      some action) :
    Follows (pickPort ports) channelOpen mediaOpen (.enableTranscription request) point action := by
  simp only [SignalingSvc.enableTranscription, Wiring.main, pickPort_perm hkeys] at haction
  cases point with
  | entered =>
      cases transcription with
      | false =>
          obtain rfl := Option.some.inj haction
          exact .enableRejected request _ (.inl (hoff rfl))
      | true =>
          cases hconfig : configOverride request with
          | error reason =>
              simp only [hconfig] at haction
              obtain rfl := Option.some.inj haction
              exact .enableRejected request _ (.inr ⟨reason, hconfig⟩)
          | ok config =>
              simp only [hconfig] at haction
              obtain rfl := Option.some.inj haction
              exact ⟨.enableStarted request config hconfig,
                fun hclosed reason => .enableRejected request _ (.inl hclosed)⟩
  | enableNotifying =>
      cases hport : pickPort ports request.sessionId with
      | none =>
          simp only [hport] at haction
          obtain rfl := Option.some.inj haction
          exact .enableUnnotified request (by simp [hport])
      | some port =>
          simp only [hport] at haction
          obtain rfl := Option.some.inj haction
          exact ⟨.enableNotified request port hport, fun hclosed =>
            ⟨.enableUnnotified request (closed_of_pickPort hport hclosed),
              .enableUnnotified request (closed_of_pickPort hport hclosed)⟩⟩
  | _ => contradiction

theorem follows_disableTranscription (hoff : transcription = false → channelOpen = false)
    (hkeys : keys.Perm ports) {request : DisableTranscriptionRequest}
    (haction : SignalingSvc.disableTranscription (.main transcription) keys request point =
      some action) :
    Follows (pickPort ports) channelOpen mediaOpen (.disableTranscription request) point
      action := by
  simp only [SignalingSvc.disableTranscription, Wiring.main, pickPort_perm hkeys] at haction
  cases point with
  | entered =>
      cases transcription with
      | false =>
          obtain rfl := Option.some.inj haction
          exact .disableRejected request _ (hoff rfl)
      | true =>
          obtain rfl := Option.some.inj haction
          exact ⟨.disableStopped request, .disableUnstopped request⟩
  | disableNotifying =>
      cases hport : pickPort ports request.sessionId with
      | none =>
          simp only [hport] at haction
          obtain rfl := Option.some.inj haction
          exact .disableUnnotified request (by simp [hport])
      | some port =>
          simp only [hport] at haction
          obtain rfl := Option.some.inj haction
          exact ⟨.disableNotified request port hport, fun hclosed =>
            ⟨.disableUnnotified request (closed_of_pickPort hport hclosed),
              .disableUnnotified request (closed_of_pickPort hport hclosed)⟩⟩
  | _ => contradiction

/-- Every action of a handler follows the protocol. -/
theorem follows_action (hopens : channelOpen = true → transcription = true)
    (hkeys : keys.Perm ports) {request : Request}
    (haction : SignalingSvc.action (.main transcription) keys request point = some action) :
    Follows (pickPort ports) channelOpen mediaOpen request point action := by
  -- the channel exists only where transcription is enabled
  have hoff : transcription = false → channelOpen = false := by
    intro hoff
    by_contra hopen
    rw [hopens (Bool.eq_true_of_not_eq_false hopen)] at hoff
    contradiction
  cases request with
  | offer request => exact follows_offer hkeys haction
  | leave request => exact follows_leave hkeys haction
  | enableTranscription request => exact follows_enableTranscription hoff hkeys haction
  | disableTranscription request => exact follows_disableTranscription hoff hkeys haction

end Handlers

/-- `start_transcription_session` in the server that `main` wires. -/
theorem startTranscriptionSession_main (codec : Codec δ) (transcription : Bool)
    (transcriber : Transcriber δ) (sessionId endpointId : UInt64)
    (config : Option TranscriptionConfig) (env : Environment) :
    ((transcription && transcriber.running) = true ∧
      startTranscriptionSession codec (.main transcription) transcriber sessionId endpointId config
        env =
        ({ transcriber with
          commands := transcriber.commands.push (.startSession sessionId endpointId config) },
          .ok ())) ∨
    ((transcription && transcriber.running) = false ∧
      ∃ reason, startTranscriptionSession codec (.main transcription) transcriber sessionId
        endpointId config env = (transcriber, .error reason)) := by
  unfold startTranscriptionSession Wiring.main
  cases transcription with
  | false => exact .inr ⟨rfl, _, rfl⟩
  | true =>
      cases hrunning : transcriber.running with
      | false => exact .inr ⟨rfl, _, rfl⟩
      | true =>
          left
          simp [Transcriber.send, hrunning]

/-- `stop_transcription_session` in the server that `main` wires. -/
theorem stopTranscriptionSession_main (transcription : Bool) (transcriber : Transcriber δ)
    (sessionId endpointId : UInt64) :
    stopTranscriptionSession (.main transcription) transcriber sessionId endpointId =
      if (transcription && transcriber.running) = true then
        { transcriber with
          commands := transcriber.commands.push (.stopSession sessionId endpointId) }
      else transcriber := by
  unfold stopTranscriptionSession Wiring.main Transcriber.send
  cases transcription <;> cases transcriber.running <;> rfl

/-- The interpretation of an action takes one of the transitions it stands
for. -/
theorem callStep_of_act {id : Nat} {call : Call} {env : Environment} {action : Action}
    (hcall : server.calls[id]? = some call)
    (hfollows : Follows deployment.portOf (server.channelOpen deployment) server.mediaOpen
      call.request call.point action)
    (hact : server.act deployment id call env action = some next) :
    ∃ effect after,
      CallStep deployment.portOf (server.channelOpen deployment) server.mediaOpen call.request
        call.point effect after ∧
      (∀ other, next.callAt other =
        if other = id then some (call.request, after) else server.callAt other) ∧
      Affects server next id effect := by
  unfold act at hact
  cases action with
  | proceed after =>
      obtain rfl := Option.some.inj hact
      exact ⟨.quiet, after, hfollows, callAt_set hcall rfl, rfl, rfl⟩
  | startSession sessionId endpointId config started failed =>
      rcases startTranscriptionSession_main deployment.codec deployment.enableTranscription
        server.transcriber sessionId endpointId config env with
        ⟨hopen, hstart⟩ | ⟨hclosed, reason, hstart⟩
      · simp only [hstart] at hact
        obtain rfl := Option.some.inj hact
        have hrunning : server.transcriber.running = true := (Bool.and_eq_true_iff.mp hopen).2
        exact ⟨_, started, hfollows.1 hopen, callAt_set hcall rfl, rfl, hrunning, rfl⟩
      · simp only [hstart] at hact
        obtain rfl := Option.some.inj hact
        exact ⟨.quiet, failed reason, hfollows.2 hclosed reason, callAt_set hcall rfl, rfl, rfl⟩
  | stopSession sessionId endpointId after =>
      simp only [stopTranscriptionSession_main] at hact
      obtain rfl := Option.some.inj hact
      cases hopen : server.channelOpen deployment with
      | false =>
          have hclosed : ¬ (deployment.enableTranscription && server.transcriber.running) =
              true := by
            unfold channelOpen at hopen
            simp [hopen]
          rw [hopen] at hfollows
          refine ⟨.quiet, after, hfollows.2 rfl, callAt_set hcall rfl, rfl, ?_⟩
          simp only [setPoint, if_neg hclosed]
      | true =>
          have hboth : (deployment.enableTranscription && server.transcriber.running) = true :=
            hopen
          rw [hopen] at hfollows
          refine ⟨_, after, hfollows.1 rfl, callAt_set hcall rfl, rfl,
            (Bool.and_eq_true_iff.mp hboth).2, ?_⟩
          simp only [setPoint, if_pos hboth]
  | message port request kept sent failed absent =>
      obtain ⟨hsent, hunsent⟩ := hfollows
      dsimp only at hact
      split at hact
      · rename_i hthread
        obtain rfl := Option.some.inj hact
        have hclosed : server.mediaOpen port = false := by
          unfold mediaOpen
          rw [hthread]
          rfl
        exact ⟨.quiet, absent, (hunsent hclosed).2, callAt_set hcall rfl, rfl, rfl⟩
      · rename_i thread hthread
        split at hact
        · rename_i hrunning
          split at hact
          · rename_i hempty
            obtain rfl := Option.some.inj hact
            exact ⟨_, sent, hsent, callAt_set hcall rfl, rfl, thread, hthread, hrunning, hempty,
              rfl⟩
          · contradiction
        · rename_i hstopped
          obtain rfl := Option.some.inj hact
          have hclosed : server.mediaOpen port = false := by
            unfold mediaOpen
            rw [hthread]
            simpa using hstopped
          exact ⟨.quiet, failed, (hunsent hclosed).1, callAt_set hcall rfl, rfl, rfl⟩
  | receive received failed =>
      obtain ⟨hreceived, hfailed⟩ := hfollows
      dsimp only at hact
      split at hact
      · rename_i response _
        obtain rfl := Option.some.inj hact
        exact ⟨.quiet, received response, hreceived response, callAt_set hcall rfl, rfl, rfl⟩
      · split at hact
        · split at hact
          · contradiction
          · obtain rfl := Option.some.inj hact
            exact ⟨.quiet, failed, hfailed, callAt_set hcall rfl, rfl, rfl⟩
        · contradiction

/-- A reply changes neither the request nor the point of any call, and nothing
else of the server. -/
theorem deliver_frame {id : Nat} {reply : SignalingProtocolMessage}
    (hdeliver : server.deliver id reply = some next) :
    next.media = server.media ∧ next.transcriber = server.transcriber ∧
      ∀ other, next.callAt other = server.callAt other := by
  unfold deliver at hdeliver
  split at hdeliver
  · obtain rfl := Option.some.inj hdeliver
    exact ⟨rfl, rfl, fun _ => rfl⟩
  · rename_i call hcall
    split at hdeliver
    · contradiction
    · obtain rfl := Option.some.inj hdeliver
      refine ⟨rfl, rfl, fun other => ?_⟩
      rw [callAt_set hcall rfl]
      split
      · rename_i hother
        rw [hother, callAt, hcall]
        rfl
      · rfl

/-- What one step of a media worker's loop changes. -/
theorem loopStep_frame {port : UInt16} {thread : MediaThread σ} {input : LoopInput}
    {outputs : List LoopOutput}
    (hstep : server.loopStep deployment port thread input = some (next, outputs)) :
    ∃ worker, (MediaWorker.loop deployment.acceptOffer).Fires
        ⟨thread.worker, input, worker, outputs⟩ ∧
      next.media = server.media.insert port { thread with worker := worker } ∧
      next.transcriber =
        { server.transcriber with
          commands := if server.transcriber.running then
              server.transcriber.commands.pushAll (sentCommands outputs)
            else server.transcriber.commands } ∧
      ∀ id, next.callAt id = server.callAt id := by
  unfold loopStep at hstep
  split at hstep
  · contradiction
  · rename_i worker sent hworker
    obtain ⟨rfl, rfl⟩ := Prod.mk.inj (Option.some.inj hstep)
    refine ⟨worker, hworker, ?_⟩
    obtain ⟨media, transcriber, calls⟩ := server
    unfold sendCommands
    by_cases hrunning : transcriber.running = true
    · rw [if_pos hrunning, if_pos hrunning]
      exact ⟨rfl, rfl, fun _ => rfl⟩
    · rw [if_neg hrunning, if_neg hrunning]
      exact ⟨rfl, rfl, fun _ => rfl⟩

/-- The steps of a media worker's thread. -/
theorem serverStep_of_mediaStep {port : UInt16} {input : MediaInput}
    (hstep : server.mediaStep deployment port input = some next) :
    ServerStep deployment server next (.media port input) [] := by
  unfold mediaStep at hstep
  split at hstep
  · contradiction
  · rename_i thread hthread
    split at hstep
    · rename_i hrunning
      -- a step that takes no message
      have hquiet : ∀ loopInput, Taken server thread.rx input loopInput none thread.rx →
          (server.loopStep deployment port thread loopInput).map Prod.fst = some next →
          ServerStep deployment server next (.media port input) [] := by
        intro loopInput htaken hmoved
        obtain ⟨⟨moved, outputs⟩, hloop, rfl⟩ := Option.map_eq_some_iff.mp hmoved
        obtain ⟨worker, hfires, hmedia, htranscriber, hcalls⟩ := loopStep_frame hloop
        rw [hrunning] at hmedia
        exact .looped port input thread loopInput none thread.rx worker outputs hthread hrunning
          htaken hfires hmedia htranscriber hcalls
      cases input with
      | poll =>
          dsimp only at hstep
          split at hstep
          · rename_i hempty
            exact hquiet _ (.idle hempty) hstep
          · rename_i message rx hpop
            split at hstep
            · contradiction
            · rename_i moved outputs hloop
              obtain ⟨worker, hfires, hmedia, htranscriber, hcalls⟩ := loopStep_frame hloop
              have hframe : next.media = moved.media ∧ next.transcriber = moved.transcriber ∧
                  ∀ other, next.callAt other = moved.callAt other := by
                split at hstep
                · obtain rfl := Option.some.inj hstep
                  exact ⟨rfl, rfl, fun _ => rfl⟩
                · exact deliver_frame hstep
              dsimp only at hmedia hfires
              rw [hrunning] at hmedia
              exact .looped port .poll thread _ (some message) rx worker outputs hthread hrunning
                (.message message rx hpop) hfires (hframe.1.trans hmedia)
                (hframe.2.1.trans htranscriber) fun id => (hframe.2.2 id).trans (hcalls id)
      | drain => exact hquiet _ .drain hstep
      | read arrivals => exact hquiet _ (.read arrivals) hstep
      | stop => exact .stopped port thread hthread hrunning (Option.some.inj hstep).symm
    · contradiction

/-- Every step of the server is one of the kinds. -/
theorem serverStep_of_step {input : ServerInput} {outputs : List SendAudio}
    (hstep : server.step deployment input = some (next, outputs)) :
    ServerStep deployment server next input outputs := by
  cases input with
  | arrive request =>
      obtain ⟨rfl, rfl⟩ := Prod.mk.inj (Option.some.inj hstep)
      refine .arrived request rfl rfl fun id => ?_
      unfold callAt
      rw [List.getElem?_append]
      by_cases hid : id = server.calls.length
      · subst hid
        simp
      · rw [if_neg hid]
        split
        · rfl
        · rename_i hge
          have hpast : server.calls.length < id := by omega
          have hpos : id - server.calls.length ≠ 0 := by omega
          rw [List.getElem?_eq_none_iff.mpr hpast.le, List.getElem?_eq_none_iff.mpr]
          simp only [List.length_cons, List.length_nil]
          omega
  | advance id keys env =>
      obtain ⟨moved, hadvance, hmoved⟩ := Option.map_eq_some_iff.mp hstep
      obtain ⟨rfl, rfl⟩ := Prod.mk.inj hmoved
      unfold advance at hadvance
      split at hadvance
      · contradiction
      · rename_i call hcall
        split at hadvance
        · rename_i hkeys
          split at hadvance
          · contradiction
          · rename_i action haction
            have hopens : server.channelOpen deployment = true →
                deployment.enableTranscription = true :=
              fun hopen => (Bool.and_eq_true_iff.mp hopen).1
            have hfollows : Follows deployment.portOf (server.channelOpen deployment)
                server.mediaOpen call.request call.point action :=
              follows_action hopens hkeys haction
            obtain ⟨effect, after, hcallStep, hcalls, haffects⟩ :=
              callStep_of_act hcall hfollows hadvance
            have hat : server.callAt id = some (call.request, call.point) := by
              unfold callAt
              rw [hcall]
              rfl
            exact .called id keys env call.request call.point after effect hat hcallStep hcalls
              haffects
        · contradiction
  | media port input =>
      obtain ⟨moved, hmedia, hmoved⟩ := Option.map_eq_some_iff.mp hstep
      obtain ⟨rfl, rfl⟩ := Prod.mk.inj hmoved
      exact serverStep_of_mediaStep hmedia
  | transcribe env =>
      have htranscribe : server.transcribe deployment env = some (next, outputs) := hstep
      unfold transcribe at htranscribe
      split at htranscribe
      · rename_i hrunning
        split at htranscribe
        · contradiction
        · rename_i command commands hpop
          obtain ⟨hnext, rfl⟩ := Prod.mk.inj (Option.some.inj htranscribe)
          exact .transcribed env command commands hrunning hpop hnext.symm
      · contradiction

end Inversion

/-- A step of the server with the states around it. -/
abbrev ServerMove (σ δ : Type) := Transition (Server σ δ) ServerInput SendAudio

theorem serverStep_of_fires {deployment : Deployment σ δ} {move : ServerMove σ δ}
    (hfires : (machine deployment).Fires move) :
    ServerStep deployment move.pre move.post move.input move.outputs :=
  serverStep_of_step hfires

end Server
end Grpc
end MediaServer
