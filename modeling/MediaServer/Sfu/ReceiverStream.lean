import MediaServer.Sfu.Messages

/-!
# Receiver streams

`interceptor/report/receiver_stream.rs`: which of the last 128 sequence numbers of a stream
were received, and the report on them.  What the source computes in floating point, the
jitter and the delay since the last sender report, comes to a report from outside.
-/

namespace MediaServer
namespace Sfu

open Foundation Transcription

structure ReceiverStream where
  ssrc : UInt32
  receiverSsrc : UInt32
  /-- one bit for each received sequence number; of the words only the first two are used -/
  packets : List (BitVec 64)
  started : Bool
  seqNumCycles : UInt16
  lastSeqNum : Int
  lastReportSeqNum : Int
  lastSenderReport : UInt32
  totalLost : Nat

namespace ReceiverStream

def new (ssrc receiverSsrc : UInt32) : ReceiverStream where
  ssrc := ssrc
  receiverSsrc := receiverSsrc
  packets := List.replicate 128 0
  started := false
  seqNumCycles := 0
  lastSeqNum := 0
  lastReportSeqNum := 0
  lastSenderReport := 0
  totalLost := 0

/-- Where the bit of a sequence number is. -/
def position (stream : ReceiverStream) (seq : UInt16) : Nat := seq.toNat % stream.packets.length

def setReceived (seq : UInt16) (stream : ReceiverStream) : ReceiverStream :=
  let pos := stream.position seq
  { stream with
    packets := stream.packets.modify (pos / 64) fun word => word ||| (1 <<< (pos % 64)) }

def delReceived (seq : UInt16) (stream : ReceiverStream) : ReceiverStream :=
  let pos := stream.position seq
  { stream with
    packets := stream.packets.modify (pos / 64) fun word =>
      word &&& (BitVec.allOnes 64 ^^^ (1 <<< (pos % 64))) }

def getReceived (stream : ReceiverStream) (seq : UInt16) : Bool :=
  let pos := stream.position seq
  (stream.packets.getD (pos / 64) 0 &&& (1 <<< (pos % 64))) ≠ 0

/-- `i as u16` -/
def asU16 (value : Int) : UInt16 := UInt16.ofInt value

/-- `for i in last_seq_num + 1..sequence_number` -/
def delMissing (sequenceNumber : UInt16) (stream : ReceiverStream) : ReceiverStream :=
  (List.range (sequenceNumber.toNat - (stream.lastSeqNum + 1)).toNat).foldl
    (fun next offset => next.delReceived (asU16 (stream.lastSeqNum + 1 + offset))) stream

def processRtp (sequenceNumber : UInt16) (stream : ReceiverStream) : ReceiverStream :=
  if !stream.started then
    { stream.setReceived sequenceNumber with
      started := true
      lastSeqNum := sequenceNumber.toNat
      lastReportSeqNum := sequenceNumber.toNat - 1 }
  else
    let stream := stream.setReceived sequenceNumber
    let diff := sequenceNumber.toNat - stream.lastSeqNum
    if ¬(-0x0FFF ≤ diff ∧ diff ≤ 0) then
      let stream :=
        if diff < -0x0FFF then { stream with seqNumCycles := stream.seqNumCycles + 1 }
        else stream
      { stream.delMissing sequenceNumber with lastSeqNum := sequenceNumber.toNat }
    else stream

def processSenderReport (ntpTime : UInt64) (stream : ReceiverStream) : ReceiverStream :=
  { stream with lastSenderReport := (ntpTime >>> 16).toUInt32 }

/-- `while i != last_seq_num as u16`, which ends within one round of the sequence numbers. -/
def countLost (stream : ReceiverStream) (last : UInt16) : Nat → UInt16 → Nat
  | 0, _ => 0
  | rounds + 1, i =>
      if i = last then 0
      else (if stream.getReceived i then 0 else 1) + stream.countLost last rounds (i + 1)

def totalLostSinceReport (stream : ReceiverStream) : Nat :=
  if stream.lastSeqNum = stream.lastReportSeqNum then 0
  else stream.countLost (asU16 stream.lastSeqNum) 65536 (asU16 (stream.lastReportSeqNum + 1))

/-- `(lost * 256) as f64 / total as f64` as a `u8`: rounded down, and at most 255.  Nothing
divided by nothing is nothing, and something is all there is. -/
def fractionLost (lost : Nat) (total : UInt16) : UInt8 :=
  if total = 0 then if lost = 0 then 0 else 255
  else UInt8.ofNat (min (lost * 256 / total.toNat) 255)

/-- The report, and the stream that starts a new one. -/
def generateReport (jitter delay : UInt32) (stream : ReceiverStream) :
    ReceptionReport × ReceiverStream :=
  let totalSinceReport := asU16 (stream.lastSeqNum - stream.lastReportSeqNum)
  let totalLostSinceReport := stream.totalLostSinceReport
  let totalLost := min (stream.totalLost + totalLostSinceReport) 0xFFFFFF
  let totalLostSinceReport := min totalLostSinceReport 0xFFFFFF
  ({ ssrc := stream.ssrc
     lastSequenceNumber := (stream.seqNumCycles.toUInt32 <<< 16) |||
       UInt32.ofInt stream.lastSeqNum
     lastSenderReport := stream.lastSenderReport
     fractionLost := fractionLost totalLostSinceReport totalSinceReport
     totalLost := UInt32.ofNat totalLost
     delay := delay
     jitter := jitter },
    { stream with totalLost, lastReportSeqNum := stream.lastSeqNum })

end ReceiverStream

end Sfu
end MediaServer
