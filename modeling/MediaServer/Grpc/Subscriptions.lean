import MediaServer.Foundation.HashMap
import MediaServer.Foundation.Machine
import MediaServer.Foundation.Receiver
import MediaServer.Grpc.SignalingSvc

/-!
# Subscriptions to transcriptions

`subscribe_transcription` and `poll_and_distribute_transcriptions` of
`SignalingSvc`.  Each subscriber has a bounded channel of its own, whose sender is
kept under the session subscribed to.  One task polls for results and sends each of
them to the senders of its session with `try_send`, under the read lock of
`transcription_subscribers`; a new subscriber waits for the write lock.  Streams are
read, and closed, at any time, also between two sends of one update.

A sender is named by the position of its channel in the order in which the channels
were created.
-/

namespace MediaServer
namespace Grpc

open Foundation Transcription

structure TranscriptionUpdate where
  sessionId : UInt64
  endpointId : UInt64
  text : String
  startMs : UInt64
  endMs : UInt64
  deriving DecidableEq

/-- The update that is sent for a result. -/
def transcriptionUpdate (result : PolledResult) : TranscriptionUpdate where
  sessionId := result.1
  endpointId := result.2.1
  text := result.2.2.text
  startMs := result.2.2.startMs
  endMs := result.2.2.endMs

/-- `tokio_mpsc::channel(100)` -/
def channelCapacity : Nat := 100

/-- The channel of a subscriber; its receiving half is dropped with the stream. -/
abbrev Subscriber := Receiver TranscriptionUpdate

/-- The subscribers, the channels behind them and the task that distributes. -/
structure Subscriptions where
  /-- `transcription_manager.is_some()` -/
  transcriptionManager : Bool
  /-- the senders of each session -/
  subscribers : HashMap UInt64 (List Nat)
  channels : List Subscriber
  /-- what is left of the results of the round -/
  results : List PolledResult
  /-- the update at hand and the senders it goes to next; the read lock is held -/
  sending : Option (TranscriptionUpdate × List Nat)

/-- Who takes the next step. -/
inductive SubscriptionInput
  /-- a call of `subscribe_transcription` -/
  | subscribe (sessionId : UInt64)
  /-- `manager.poll_results()` at the beginning of a round -/
  | poll (results : List PolledResult)
  /-- the task takes the next result and the read lock -/
  | distribute
  /-- the task sends to the next sender, or gives the lock back -/
  | send
  /-- a stream yields an update -/
  | read (id : Nat)
  /-- a stream is closed -/
  | close (id : Nat)
  deriving DecidableEq

namespace Subscriptions

/-- The service as `main` leaves it. -/
def new (transcriptionManager : Bool) : Subscriptions where
  transcriptionManager := transcriptionManager
  subscribers := HashMap.empty
  channels := []
  results := []
  sending := none

/-- The senders of a session. -/
def senders (svc : Subscriptions) (sessionId : UInt64) : List Nat :=
  (svc.subscribers.get sessionId).getD []

/-- One step; `subscribe` answers with the new subscriber or a status. -/
def step (svc : Subscriptions) :
    SubscriptionInput → Option (Subscriptions × List (Except Status Nat))
  | .subscribe sessionId =>
      if svc.transcriptionManager then
        match svc.sending with
        -- the write lock has to wait
        | some _ => none
        | none =>
            let id := svc.channels.length
            some ({ svc with
              channels := svc.channels ++ [.empty]
              subscribers :=
                svc.subscribers.insert sessionId (svc.senders sessionId ++ [id]) }, [.ok id])
      else some (svc, [.error (.unavailable "Transcription is not enabled on this server")])
  | .poll results =>
      if svc.transcriptionManager ∧ svc.results = [] ∧ svc.sending = none then
        some ({ svc with results := results }, [])
      else none
  | .distribute =>
      match svc.sending, svc.results with
      | none, result :: rest =>
          let update := transcriptionUpdate result
          some ({ svc with
            results := rest
            sending := some (update, svc.senders update.sessionId) }, [])
      | _, _ => none
  | .send =>
      match svc.sending with
      | none => none
      | some (_, []) => some ({ svc with sending := none }, [])
      | some (update, id :: rest) =>
          some ({ svc with
            channels := svc.channels.modify id (·.trySend channelCapacity update)
            sending := some (update, rest) }, [])
  | .read id =>
      match svc.channels[id]? with
      | some subscriber =>
          match subscriber.tryRecv with
          | some (_, next) => some ({ svc with channels := svc.channels.set id next }, [])
          | none => none
      | none => none
  | .close id =>
      match svc.channels[id]? with
      | some subscriber =>
          if subscriber.isLive then
            some ({ svc with channels := svc.channels.set id subscriber.close }, [])
          else none
      | none => none

/-- The service under every order of its calls, rounds and streams. -/
def machine : Machine Subscriptions SubscriptionInput (Except Status Nat) where
  step := step

/-- The steps, one constructor for each way through them. -/
inductive Step (svc : Subscriptions) :
    SubscriptionInput → Subscriptions → List (Except Status Nat) → Prop
  | subscribed (sessionId : UInt64) (hmanager : svc.transcriptionManager = true)
      (hidle : svc.sending = none) :
      Step svc (.subscribe sessionId)
        { svc with
          channels := svc.channels ++ [.empty]
          subscribers := svc.subscribers.insert sessionId
            (svc.senders sessionId ++ [svc.channels.length]) }
        [.ok svc.channels.length]
  | refused (sessionId : UInt64) (hmanager : svc.transcriptionManager = false) :
      Step svc (.subscribe sessionId) svc
        [.error (.unavailable "Transcription is not enabled on this server")]
  | polled (results : List PolledResult) (hmanager : svc.transcriptionManager = true)
      (hdone : svc.results = []) (hidle : svc.sending = none) :
      Step svc (.poll results) { svc with results := results } []
  | distributed (result : PolledResult) (rest : List PolledResult) (hidle : svc.sending = none)
      (hresults : svc.results = result :: rest) :
      Step svc .distribute
        { svc with
          results := rest
          sending := some (transcriptionUpdate result,
            svc.senders (transcriptionUpdate result).sessionId) } []
  | finished (update : TranscriptionUpdate) (hsending : svc.sending = some (update, [])) :
      Step svc .send { svc with sending := none } []
  | sent (update : TranscriptionUpdate) (id : Nat) (rest : List Nat)
      (hsending : svc.sending = some (update, id :: rest)) :
      Step svc .send
        { svc with
          channels := svc.channels.modify id (·.trySend channelCapacity update)
          sending := some (update, rest) } []
  | yielded (id : Nat) (subscriber next : Subscriber) (update : TranscriptionUpdate)
      (hchannel : svc.channels[id]? = some subscriber)
      (hrecv : subscriber.tryRecv = some (update, next)) :
      Step svc (.read id) { svc with channels := svc.channels.set id next } []
  | closed (id : Nat) (subscriber : Subscriber)
      (hchannel : svc.channels[id]? = some subscriber) (hlive : subscriber.isLive = true) :
      Step svc (.close id) { svc with channels := svc.channels.set id subscriber.close } []

/-- Every step is one of these. -/
theorem step_of_fires
    {move : Transition Subscriptions SubscriptionInput (Except Status Nat)}
    (hfires : machine.Fires move) : Step move.pre move.input move.post move.outputs := by
  obtain ⟨svc, input, next, outputs⟩ := move
  have hstep : svc.step input = some (next, outputs) := hfires
  cases input with
  | subscribe sessionId =>
      simp only [step] at hstep
      split at hstep
      · rename_i hmanager
        split at hstep
        · contradiction
        · rename_i hidle
          obtain ⟨rfl, rfl⟩ := by simpa using hstep
          exact .subscribed sessionId hmanager hidle
      · rename_i hmanager
        obtain ⟨rfl, rfl⟩ := by simpa using hstep
        exact .refused sessionId (Bool.eq_false_iff.mpr hmanager)
  | poll results =>
      simp only [step] at hstep
      split at hstep
      · rename_i hround
        obtain ⟨rfl, rfl⟩ := by simpa using hstep
        exact .polled results hround.1 hround.2.1 hround.2.2
      · contradiction
  | distribute =>
      simp only [step] at hstep
      split at hstep
      · rename_i result rest hidle hresults
        obtain ⟨rfl, rfl⟩ := by simpa using hstep
        exact .distributed result rest hidle hresults
      · contradiction
  | send =>
      simp only [step] at hstep
      split at hstep
      · contradiction
      · rename_i update hsending
        obtain ⟨rfl, rfl⟩ := by simpa using hstep
        exact .finished update hsending
      · rename_i update id rest hsending
        obtain ⟨rfl, rfl⟩ := by simpa using hstep
        exact .sent update id rest hsending
  | read id =>
      simp only [step] at hstep
      split at hstep
      · rename_i subscriber hchannel
        split at hstep
        · rename_i update after hrecv
          obtain ⟨rfl, rfl⟩ := by simpa using hstep
          exact .yielded id subscriber after update hchannel hrecv
        · contradiction
      · contradiction
  | close id =>
      simp only [step] at hstep
      split at hstep
      · rename_i subscriber hchannel
        split at hstep
        · rename_i hlive
          obtain ⟨rfl, rfl⟩ := by simpa using hstep
          exact .closed id subscriber hchannel hlive
        · contradiction
      · contradiction

end Subscriptions
end Grpc
end MediaServer
