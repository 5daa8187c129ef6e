import DeviceMetricsExporter.Lib.GoStrings
import DeviceMetricsExporter.NICAgent.Impl.Statistics

/-!
This module contains the statistics of the queue pairs, as `UpdateQPStats` has unmarshalled them, and what
it exports for each queue pair and for each LIF. The values of the gauges are exact.
-/

namespace NICAgent

/--
A number with base 10 and no sign. An empty or malformed string, or one above 64 bits, is 0.
-/
def stringToUint64 (str : String) : UInt64 :=
  if str = "" then
    0
  else
    match digitsValue str.toList with
    | none => 0
    | some val => if val < 2 ^ 64 then UInt64.ofNat val else 0

structure DcqcnStats where
  currByteCounter : String := ""
  numByteCounterExpired : String := ""
  numTimerExpired : String := ""
  numAlphaTimerExpired : String := ""
  numCnpRcvd : String := ""
  numCnpProcessed : String := ""

structure RequesterTxStats where
  numPacket : String := ""
  numSendMsgsWithRke : String := ""
  numLocalAckTimeouts : String := ""
  rnrTimeout : String := ""
  timesSqDrained : String := ""
  numCnpSent : String := ""

structure RequesterRxStats where
  numPacket : String := ""
  numPktsWithEcnMarking : String := ""

structure ResponderTxStats where
  numPacket : String := ""
  rnrError : String := ""
  numSequenceError : String := ""
  numRpByteThresHit : String := ""
  numRpMaxRateHit : String := ""

structure ResponderRxStats where
  numPacket : String := ""
  numSendMsgsWithRke : String := ""
  numPktsWithEcnMarking : String := ""
  numCnpsReceived : String := ""
  maxRecircExceededDrop : String := ""
  numMemWindowInvalid : String := ""
  numDuplWithWrSendOpc : String := ""
  numDuplReadBacktrack : String := ""
  numDuplReadAtomicDrop : String := ""

structure SendQStats where
  reqTx : Option RequesterTxStats := none
  reqRx : Option RequesterRxStats := none
  dcQcn : Option DcqcnStats := none

structure RecvQStats where
  respTx : Option ResponderTxStats := none
  respRx : Option ResponderRxStats := none
  dcQcn : Option DcqcnStats := none

structure QPStats where
  sq : Option SendQStats := none
  rq : Option RecvQStats := none

/--
A queue pair, `specID` is `none` if its `Spec` is nil.
-/
structure QPStatsInfo where
  specID : Option String
  stats : Option QPStats

structure LifQPStats where
  specID : Option String
  qpStatsList : List QPStatsInfo

structure NicQPStats where
  id : String
  lifList : List LifQPStats

inductive QPGauge where
  | qpSqReqTxNumPackets | qpSqReqTxNumSendMsgsRke | qpSqReqTxNumLocalAckTimeouts
  | qpSqReqTxRnrTimeout | qpSqReqTxTimesSQdrained | qpSqReqTxNumCNPsent | qpSqReqRxNumPackets
  | qpSqReqRxNumPacketsEcnMarked | qpSqQcnCurrByteCounter | qpSqQcnNumByteCounterExpired
  | qpSqQcnNumTimerExpired | qpSqQcnNumAlphaTimerExpired | qpSqQcnNumCNPrcvd
  | qpSqQcnNumCNPprocessed | qpRqRspTxNumPackets | qpRqRspTxRnrError | qpRqRspTxNumSequenceError
  | qpRqRspTxRPByteThresholdHits | qpRqRspTxRPMaxRateHits | qpRqRspRxNumPackets
  | qpRqRspRxNumSendMsgsRke | qpRqRspRxNumPacketsEcnMarked | qpRqRspRxNumCNPsReceived
  | qpRqRspRxMaxRecircDrop | qpRqRspRxNumMemWindowInvalid | qpRqRspRxNumDuplWriteSendOpc
  | qpRqRspRxNumDupReadBacktrack | qpRqRspRxNumDupReadDrop | qpRqQcnCurrByteCounter
  | qpRqQcnNumByteCounterExpired | qpRqQcnNumTimerExpired | qpRqQcnNumAlphaTimerExpired
  | qpRqQcnNumCNPrcvd | qpRqQcnNumCNPprocessed
  deriving DecidableEq

inductive LifGauge where
  | lifQpSqReqTxNumPacketTotal | lifQpSqReqTxNumSendMsgsWithRkeTotal
  | lifQpSqReqTxNumLocalAckTimeoutsTotal | lifQpSqReqTxRnrTimeoutTotal
  | lifQpSqReqTxTimesSQdrainedTotal | lifQpSqReqTxNumCNPsentTotal | lifQpSqReqRxNumPacketTotal
  | lifQpSqReqRxNumPktsWithEcnMarkingTotal | lifQpSqQcnCurrByteCounterTotal
  | lifQpSqQcnNumByteCounterExpiredTotal | lifQpSqQcnNumTimerExpiredTotal
  | lifQpSqQcnNumAlphaTimerExpiredTotal | lifQpSqQcnNumCNPrcvdTotal | lifQpSqQcnNumCNPprocessedTotal
  | lifQpRqRspTxNumPacketTotal | lifQpRqRspTxRnrErrorTotal | lifQpRqRspTxNumSequenceErrorTotal
  | lifQpRqRspTxNumRpByteThresHitTotal | lifQpRqRspTxNumRpMaxRateHitTotal
  | lifQpRqRspRxNumPacketTotal | lifQpRqRspRxNumSendMsgsWithRkeTotal
  | lifQpRqRspRxNumPktsWithEcnMarkingTotal | lifQpRqRspRxNumCNPsReceivedTotal
  | lifQpRqRspRxMaxRecircExceededDropTotal | lifQpRqRspRxNumMemWindowInvalidTotal
  | lifQpRqRspRxNumDuplWithWrSendOpcTotal | lifQpRqRspRxNumDuplReadBacktrackTotal
  | lifQpRqRspRxNumDuplReadAtomicDropTotal | lifQpRqQcnCurrByteCounterTotal
  | lifQpRqQcnNumByteCounterExpiredTotal | lifQpRqQcnNumTimerExpiredTotal
  | lifQpRqQcnNumAlphaTimerExpiredTotal | lifQpRqQcnNumCNPrcvdTotal | lifQpRqQcnNumCNPprocessedTotal
  deriving DecidableEq

structure GaugeSet (γ : Type) where
  gauge : γ
  labels : GoMap String String
  value : Nat

structure LifQPExports where
  qpGauges : List (GaugeSet QPGauge)
  lifGauges : List (GaugeSet LifGauge)

structure QPValues where
  sqReqTxNumPacket : Nat
  sqReqTxNumSendMsgsRke : Nat
  sqReqTxNumLocalAckTimeouts : Nat
  sqReqTxRnrTimeout : Nat
  sqReqTxTimesSQdrained : Nat
  sqReqTxNumCNPsent : Nat
  sqReqRxNumPacket : Nat
  sqReqRxNumPacketsEcnMarked : Nat
  rqRspTxNumPacket : Nat
  rqRspTxRnrError : Nat
  rqRspTxNumSequenceError : Nat
  rqRspTxRPByteThresholdHits : Nat
  rqRspTxRPMaxRateHits : Nat
  rqRspRxNumPacket : Nat
  rqRspRxNumSendMsgsRke : Nat
  rqRspRxNumPacketsEcnMarked : Nat
  rqRspRxNumCNPsReceived : Nat
  rqRspRxMaxRecircDrop : Nat
  rqRspRxNumMemWindowInvalid : Nat
  rqRspRxNumDuplWriteSendOpc : Nat
  rqRspRxNumDupReadBacktrack : Nat
  rqRspRxNumDupReadDrop : Nat
  sqQcnCurrByteCounter : Nat
  sqQcnNumByteCounterExpired : Nat
  sqQcnNumTimerExpired : Nat
  sqQcnNumAlphaTimerExpired : Nat
  sqQcnNumCNPrcvd : Nat
  sqQcnNumCNPprocessed : Nat
  rqQcnCurrByteCounter : Nat
  rqQcnNumByteCounterExpired : Nat
  rqQcnNumTimerExpired : Nat
  rqQcnNumAlphaTimerExpired : Nat
  rqQcnNumCNPrcvd : Nat
  rqQcnNumCNPprocessed : Nat

namespace QPStats

def value (str : String) : Nat :=
  (stringToUint64 str).toNat

/--
Only the pointers to the DCQCN blocks are checked, any other nil pointer is dereferenced.
-/
def parse (stats : QPStats) : Option QPValues := do
  let sq ← stats.sq
  let reqTx ← sq.reqTx
  let reqRx ← sq.reqRx
  let rq ← stats.rq
  let respTx ← rq.respTx
  let respRx ← rq.respRx
  return {
    sqReqTxNumPacket := value reqTx.numPacket
    sqReqTxNumSendMsgsRke := value reqTx.numSendMsgsWithRke
    sqReqTxNumLocalAckTimeouts := value reqTx.numLocalAckTimeouts
    sqReqTxRnrTimeout := value reqTx.rnrTimeout
    sqReqTxTimesSQdrained := value reqTx.timesSqDrained
    sqReqTxNumCNPsent := value reqTx.numCnpSent
    sqReqRxNumPacket := value reqRx.numPacket
    sqReqRxNumPacketsEcnMarked := value reqRx.numPktsWithEcnMarking
    rqRspTxNumPacket := value respTx.numPacket
    rqRspTxRnrError := value respTx.rnrError
    rqRspTxNumSequenceError := value respTx.numSequenceError
    rqRspTxRPByteThresholdHits := value respTx.numRpByteThresHit
    rqRspTxRPMaxRateHits := value respTx.numRpMaxRateHit
    rqRspRxNumPacket := value respRx.numPacket
    rqRspRxNumSendMsgsRke := value respRx.numSendMsgsWithRke
    rqRspRxNumPacketsEcnMarked := value respRx.numPktsWithEcnMarking
    rqRspRxNumCNPsReceived := value respRx.numCnpsReceived
    rqRspRxMaxRecircDrop := value respRx.maxRecircExceededDrop
    rqRspRxNumMemWindowInvalid := value respRx.numMemWindowInvalid
    rqRspRxNumDuplWriteSendOpc := value respRx.numDuplWithWrSendOpc
    rqRspRxNumDupReadBacktrack := value respRx.numDuplReadBacktrack
    rqRspRxNumDupReadDrop := value respRx.numDuplReadAtomicDrop
    sqQcnCurrByteCounter := sq.dcQcn.elim 0 (value ·.currByteCounter)
    sqQcnNumByteCounterExpired := sq.dcQcn.elim 0 (value ·.numByteCounterExpired)
    sqQcnNumTimerExpired := sq.dcQcn.elim 0 (value ·.numTimerExpired)
    sqQcnNumAlphaTimerExpired := sq.dcQcn.elim 0 (value ·.numAlphaTimerExpired)
    sqQcnNumCNPrcvd := sq.dcQcn.elim 0 (value ·.numCnpRcvd)
    sqQcnNumCNPprocessed := sq.dcQcn.elim 0 (value ·.numCnpProcessed)
    rqQcnCurrByteCounter := rq.dcQcn.elim 0 (value ·.currByteCounter)
    rqQcnNumByteCounterExpired := rq.dcQcn.elim 0 (value ·.numByteCounterExpired)
    rqQcnNumTimerExpired := rq.dcQcn.elim 0 (value ·.numTimerExpired)
    rqQcnNumAlphaTimerExpired := rq.dcQcn.elim 0 (value ·.numAlphaTimerExpired)
    rqQcnNumCNPrcvd := rq.dcQcn.elim 0 (value ·.numCnpRcvd)
    rqQcnNumCNPprocessed := rq.dcQcn.elim 0 (value ·.numCnpProcessed)
  }

end QPStats

structure LifAggregates where
  sqReqTxNumPackets : Nat := 0
  sqReqTxNumSendMsgsRke : Nat := 0
  sqReqTxNumLocalAckTimeouts : Nat := 0
  sqReqTxRnrTimeout : Nat := 0
  sqReqTxTimesSQdrained : Nat := 0
  sqReqTxNumCNPsent : Nat := 0
  sqReqRxNumPackets : Nat := 0
  sqReqRxNumPacketsEcnMarked : Nat := 0
  sqQcnCurrByteCounter : Nat := 0
  sqQcnNumByteCounterExpired : Nat := 0
  sqQcnNumTimerExpired : Nat := 0
  sqQcnNumAlphaTimerExpired : Nat := 0
  sqQcnNumCNPrcvd : Nat := 0
  sqQcnNumCNPprocessed : Nat := 0
  rqRspTxNumPackets : Nat := 0
  rqRspTxRnrError : Nat := 0
  rqRspTxNumSequenceError : Nat := 0
  rqRspTxRPByteThresholdHits : Nat := 0
  rqRspTxRPMaxRateHits : Nat := 0
  rqRspRxNumPackets : Nat := 0
  rqRspRxNumSendMsgsRke : Nat := 0
  rqRspRxNumPacketsEcnMarked : Nat := 0
  rqRspRxNumCNPsReceived : Nat := 0
  rqRspRxMaxRecircDrop : Nat := 0
  rqRspRxNumMemWindowInvalid : Nat := 0
  rqRspRxNumDuplWriteSendOpc : Nat := 0
  rqRspRxNumDupReadBacktrack : Nat := 0
  rqRspRxNumDupReadDrop : Nat := 0
  rqQcnCurrByteCounter : Nat := 0
  rqQcnNumByteCounterExpired : Nat := 0
  rqQcnNumTimerExpired : Nat := 0
  rqQcnNumAlphaTimerExpired : Nat := 0
  rqQcnNumCNPrcvd : Nat := 0
  rqQcnNumCNPprocessed : Nat := 0

def LifAggregates.add (lifAgg : LifAggregates) (qp : QPValues) : LifAggregates where
  sqReqTxNumPackets := lifAgg.sqReqTxNumPackets + qp.sqReqTxNumPacket
  sqReqTxNumSendMsgsRke := lifAgg.sqReqTxNumSendMsgsRke + qp.sqReqTxNumSendMsgsRke
  sqReqTxNumLocalAckTimeouts := lifAgg.sqReqTxNumLocalAckTimeouts + qp.sqReqTxNumLocalAckTimeouts
  sqReqTxRnrTimeout := lifAgg.sqReqTxRnrTimeout + qp.sqReqTxRnrTimeout
  sqReqTxTimesSQdrained := lifAgg.sqReqTxTimesSQdrained + qp.sqReqTxTimesSQdrained
  sqReqTxNumCNPsent := lifAgg.sqReqTxNumCNPsent + qp.sqReqTxNumCNPsent
  sqReqRxNumPackets := lifAgg.sqReqRxNumPackets + qp.sqReqRxNumPacket
  sqReqRxNumPacketsEcnMarked := lifAgg.sqReqRxNumPacketsEcnMarked + qp.sqReqRxNumPacketsEcnMarked
  sqQcnCurrByteCounter := lifAgg.sqQcnCurrByteCounter + qp.sqQcnCurrByteCounter
  sqQcnNumByteCounterExpired := lifAgg.sqQcnNumByteCounterExpired + qp.sqQcnNumByteCounterExpired
  sqQcnNumTimerExpired := lifAgg.sqQcnNumTimerExpired + qp.sqQcnNumTimerExpired
  sqQcnNumAlphaTimerExpired := lifAgg.sqQcnNumAlphaTimerExpired + qp.sqQcnNumAlphaTimerExpired
  sqQcnNumCNPrcvd := lifAgg.sqQcnNumCNPrcvd + qp.sqQcnNumCNPrcvd
  sqQcnNumCNPprocessed := lifAgg.sqQcnNumCNPprocessed + qp.sqQcnNumCNPprocessed
  rqRspTxNumPackets := lifAgg.rqRspTxNumPackets + qp.rqRspTxNumPacket
  rqRspTxRnrError := lifAgg.rqRspTxRnrError + qp.rqRspTxRnrError
  rqRspTxNumSequenceError := lifAgg.rqRspTxNumSequenceError + qp.rqRspTxNumSequenceError
  rqRspTxRPByteThresholdHits := lifAgg.rqRspTxRPByteThresholdHits + qp.rqRspTxRPByteThresholdHits
  rqRspTxRPMaxRateHits := lifAgg.rqRspTxRPMaxRateHits + qp.rqRspTxRPMaxRateHits
  rqRspRxNumPackets := lifAgg.rqRspRxNumPackets + qp.rqRspRxNumPacket
  rqRspRxNumSendMsgsRke := lifAgg.rqRspRxNumSendMsgsRke + qp.rqRspRxNumSendMsgsRke
  rqRspRxNumPacketsEcnMarked := lifAgg.rqRspRxNumPacketsEcnMarked + qp.rqRspRxNumPacketsEcnMarked
  rqRspRxNumCNPsReceived := lifAgg.rqRspRxNumCNPsReceived + qp.rqRspRxNumCNPsReceived
  rqRspRxMaxRecircDrop := lifAgg.rqRspRxMaxRecircDrop + qp.rqRspRxMaxRecircDrop
  rqRspRxNumMemWindowInvalid := lifAgg.rqRspRxNumMemWindowInvalid + qp.rqRspRxNumMemWindowInvalid
  rqRspRxNumDuplWriteSendOpc := lifAgg.rqRspRxNumDuplWriteSendOpc + qp.rqRspRxNumDuplWriteSendOpc
  rqRspRxNumDupReadBacktrack := lifAgg.rqRspRxNumDupReadBacktrack + qp.rqRspRxNumDupReadBacktrack
  rqRspRxNumDupReadDrop := lifAgg.rqRspRxNumDupReadDrop + qp.rqRspRxNumDupReadDrop
  rqQcnCurrByteCounter := lifAgg.rqQcnCurrByteCounter + qp.rqQcnCurrByteCounter
  rqQcnNumByteCounterExpired := lifAgg.rqQcnNumByteCounterExpired + qp.rqQcnNumByteCounterExpired
  rqQcnNumTimerExpired := lifAgg.rqQcnNumTimerExpired + qp.rqQcnNumTimerExpired
  rqQcnNumAlphaTimerExpired := lifAgg.rqQcnNumAlphaTimerExpired + qp.rqQcnNumAlphaTimerExpired
  rqQcnNumCNPrcvd := lifAgg.rqQcnNumCNPrcvd + qp.rqQcnNumCNPrcvd
  rqQcnNumCNPprocessed := lifAgg.rqQcnNumCNPprocessed + qp.rqQcnNumCNPprocessed

def LifAggregates.exports (lifAgg : LifAggregates) (lifQPLabels : GoMap String String)
    : List (GaugeSet LifGauge) :=
  [
    ⟨.lifQpSqReqTxNumPacketTotal, lifQPLabels, lifAgg.sqReqTxNumPackets⟩,
    ⟨.lifQpSqReqTxNumSendMsgsWithRkeTotal, lifQPLabels, lifAgg.sqReqTxNumSendMsgsRke⟩,
    ⟨.lifQpSqReqTxNumLocalAckTimeoutsTotal, lifQPLabels, lifAgg.sqReqTxNumLocalAckTimeouts⟩,
    ⟨.lifQpSqReqTxRnrTimeoutTotal, lifQPLabels, lifAgg.sqReqTxRnrTimeout⟩,
    ⟨.lifQpSqReqTxTimesSQdrainedTotal, lifQPLabels, lifAgg.sqReqTxTimesSQdrained⟩,
    ⟨.lifQpSqReqTxNumCNPsentTotal, lifQPLabels, lifAgg.sqReqTxNumCNPsent⟩,
    ⟨.lifQpSqReqRxNumPacketTotal, lifQPLabels, lifAgg.sqReqRxNumPackets⟩,
    ⟨.lifQpSqReqRxNumPktsWithEcnMarkingTotal, lifQPLabels, lifAgg.sqReqRxNumPacketsEcnMarked⟩,
    ⟨.lifQpSqQcnCurrByteCounterTotal, lifQPLabels, lifAgg.sqQcnCurrByteCounter⟩,
    ⟨.lifQpSqQcnNumByteCounterExpiredTotal, lifQPLabels, lifAgg.sqQcnNumByteCounterExpired⟩,
    ⟨.lifQpSqQcnNumTimerExpiredTotal, lifQPLabels, lifAgg.sqQcnNumTimerExpired⟩,
    ⟨.lifQpSqQcnNumAlphaTimerExpiredTotal, lifQPLabels, lifAgg.sqQcnNumAlphaTimerExpired⟩,
    ⟨.lifQpSqQcnNumCNPrcvdTotal, lifQPLabels, lifAgg.sqQcnNumCNPrcvd⟩,
    ⟨.lifQpSqQcnNumCNPprocessedTotal, lifQPLabels, lifAgg.sqQcnNumCNPprocessed⟩,
    ⟨.lifQpRqRspTxNumPacketTotal, lifQPLabels, lifAgg.rqRspTxNumPackets⟩,
    ⟨.lifQpRqRspTxRnrErrorTotal, lifQPLabels, lifAgg.rqRspTxRnrError⟩,
    ⟨.lifQpRqRspTxNumSequenceErrorTotal, lifQPLabels, lifAgg.rqRspTxNumSequenceError⟩,
    ⟨.lifQpRqRspTxNumRpByteThresHitTotal, lifQPLabels, lifAgg.rqRspTxRPByteThresholdHits⟩,
    ⟨.lifQpRqRspTxNumRpMaxRateHitTotal, lifQPLabels, lifAgg.rqRspTxRPMaxRateHits⟩,
    ⟨.lifQpRqRspRxNumPacketTotal, lifQPLabels, lifAgg.rqRspRxNumPackets⟩,
    ⟨.lifQpRqRspRxNumSendMsgsWithRkeTotal, lifQPLabels, lifAgg.rqRspRxNumSendMsgsRke⟩,
    ⟨.lifQpRqRspRxNumPktsWithEcnMarkingTotal, lifQPLabels, lifAgg.rqRspRxNumPacketsEcnMarked⟩,
    ⟨.lifQpRqRspRxNumCNPsReceivedTotal, lifQPLabels, lifAgg.rqRspRxNumCNPsReceived⟩,
    ⟨.lifQpRqRspRxMaxRecircExceededDropTotal, lifQPLabels, lifAgg.rqRspRxMaxRecircDrop⟩,
    ⟨.lifQpRqRspRxNumMemWindowInvalidTotal, lifQPLabels, lifAgg.rqRspRxNumMemWindowInvalid⟩,
    ⟨.lifQpRqRspRxNumDuplWithWrSendOpcTotal, lifQPLabels, lifAgg.rqRspRxNumDuplWriteSendOpc⟩,
    ⟨.lifQpRqRspRxNumDuplReadBacktrackTotal, lifQPLabels, lifAgg.rqRspRxNumDupReadBacktrack⟩,
    ⟨.lifQpRqRspRxNumDuplReadAtomicDropTotal, lifQPLabels, lifAgg.rqRspRxNumDupReadDrop⟩,
    ⟨.lifQpRqQcnCurrByteCounterTotal, lifQPLabels, lifAgg.rqQcnCurrByteCounter⟩,
    ⟨.lifQpRqQcnNumByteCounterExpiredTotal, lifQPLabels, lifAgg.rqQcnNumByteCounterExpired⟩,
    ⟨.lifQpRqQcnNumTimerExpiredTotal, lifQPLabels, lifAgg.rqQcnNumTimerExpired⟩,
    ⟨.lifQpRqQcnNumAlphaTimerExpiredTotal, lifQPLabels, lifAgg.rqQcnNumAlphaTimerExpired⟩,
    ⟨.lifQpRqQcnNumCNPrcvdTotal, lifQPLabels, lifAgg.rqQcnNumCNPrcvd⟩,
    ⟨.lifQpRqQcnNumCNPprocessedTotal, lifQPLabels, lifAgg.rqQcnNumCNPprocessed⟩
  ]

namespace QPValues

variable (qp : QPValues)

/-
The gauges of a queue pair in the order of the source, each with its field and its value.
-/

def sqSets : List (String × QPGauge × Nat) :=
  [
    ("QP_SQ_REQ_TX_NUM_PACKET", .qpSqReqTxNumPackets, qp.sqReqTxNumPacket),
    ("QP_SQ_REQ_TX_NUM_SEND_MSGS_WITH_RKE", .qpSqReqTxNumSendMsgsRke, qp.sqReqTxNumSendMsgsRke),
    ("QP_SQ_REQ_TX_NUM_LOCAL_ACK_TIMEOUTS", .qpSqReqTxNumLocalAckTimeouts,
      qp.sqReqTxNumLocalAckTimeouts),
    ("QP_SQ_REQ_TX_RNR_TIMEOUT", .qpSqReqTxRnrTimeout, qp.sqReqTxRnrTimeout),
    ("QP_SQ_REQ_TX_TIMES_SQ_DRAINED", .qpSqReqTxTimesSQdrained, qp.sqReqTxTimesSQdrained),
    ("QP_SQ_REQ_TX_NUM_CNP_SENT", .qpSqReqTxNumCNPsent, qp.sqReqTxNumCNPsent),
    ("QP_SQ_REQ_RX_NUM_PACKET", .qpSqReqRxNumPackets, qp.sqReqRxNumPacket),
    ("QP_SQ_REQ_RX_NUM_PKTS_WITH_ECN_MARKING", .qpSqReqRxNumPacketsEcnMarked,
      qp.sqReqRxNumPacketsEcnMarked)
  ]

def sqDcQcnSets : List (String × QPGauge × Nat) :=
  [
    ("QP_SQ_QCN_CURR_BYTE_COUNTER", .qpSqQcnCurrByteCounter, qp.sqQcnCurrByteCounter),
    ("QP_SQ_QCN_NUM_BYTE_COUNTER_EXPIRED", .qpSqQcnNumByteCounterExpired,
      qp.sqQcnNumByteCounterExpired),
    ("QP_SQ_QCN_NUM_TIMER_EXPIRED", .qpSqQcnNumTimerExpired, qp.sqQcnNumTimerExpired),
    ("QP_SQ_QCN_NUM_ALPHA_TIMER_EXPIRED", .qpSqQcnNumAlphaTimerExpired,
      qp.sqQcnNumAlphaTimerExpired),
    ("QP_SQ_QCN_NUM_CNP_RCVD", .qpSqQcnNumCNPrcvd, qp.sqQcnNumCNPrcvd),
    ("QP_SQ_QCN_NUM_CNP_PROCESSED", .qpSqQcnNumCNPprocessed, qp.sqQcnNumCNPprocessed)
  ]

def rqSets : List (String × QPGauge × Nat) :=
  [
    ("QP_RQ_RSP_TX_NUM_PACKET", .qpRqRspTxNumPackets, qp.rqRspTxNumPacket),
    ("QP_RQ_RSP_TX_RNR_ERROR", .qpRqRspTxRnrError, qp.rqRspTxRnrError),
    ("QP_RQ_RSP_TX_NUM_SEQUENCE_ERROR", .qpRqRspTxNumSequenceError, qp.rqRspTxNumSequenceError),
    ("QP_RQ_RSP_TX_NUM_RP_BYTE_THRES_HIT", .qpRqRspTxRPByteThresholdHits,
      qp.rqRspTxRPByteThresholdHits),
    ("QP_RQ_RSP_TX_NUM_RP_MAX_RATE_HIT", .qpRqRspTxRPMaxRateHits, qp.rqRspTxRPMaxRateHits),
    ("QP_RQ_RSP_RX_NUM_PACKET", .qpRqRspRxNumPackets, qp.rqRspRxNumPacket),
    ("QP_RQ_RSP_RX_NUM_SEND_MSGS_WITH_RKE", .qpRqRspRxNumSendMsgsRke, qp.rqRspRxNumSendMsgsRke),
    ("QP_RQ_RSP_RX_NUM_PKTS_WITH_ECN_MARKING", .qpRqRspRxNumPacketsEcnMarked,
      qp.rqRspRxNumPacketsEcnMarked),
    ("QP_RQ_RSP_RX_NUM_CNPS_RECEIVED", .qpRqRspRxNumCNPsReceived, qp.rqRspRxNumCNPsReceived),
    ("QP_RQ_RSP_RX_MAX_RECIRC_EXCEEDED_DROP", .qpRqRspRxMaxRecircDrop, qp.rqRspRxMaxRecircDrop),
    ("QP_RQ_RSP_RX_NUM_MEM_WINDOW_INVALID", .qpRqRspRxNumMemWindowInvalid,
      qp.rqRspRxNumMemWindowInvalid),
    ("QP_RQ_RSP_RX_NUM_DUPL_WITH_WR_SEND_OPC", .qpRqRspRxNumDuplWriteSendOpc,
      qp.rqRspRxNumDuplWriteSendOpc),
    ("QP_RQ_RSP_RX_NUM_DUPL_READ_BACKTRACK", .qpRqRspRxNumDupReadBacktrack,
      qp.rqRspRxNumDupReadBacktrack),
    ("QP_RQ_RSP_RX_NUM_DUPL_READ_ATOMIC_DROP", .qpRqRspRxNumDupReadDrop, qp.rqRspRxNumDupReadDrop)
  ]

def rqDcQcnSets : List (String × QPGauge × Nat) :=
  [
    ("QP_RQ_QCN_CURR_BYTE_COUNTER", .qpRqQcnCurrByteCounter, qp.rqQcnCurrByteCounter),
    ("QP_RQ_QCN_NUM_BYTE_COUNTER_EXPIRED", .qpRqQcnNumByteCounterExpired,
      qp.rqQcnNumByteCounterExpired),
    ("QP_RQ_QCN_NUM_TIMER_EXPIRED", .qpRqQcnNumTimerExpired, qp.rqQcnNumTimerExpired),
    ("QP_RQ_QCN_NUM_ALPHA_TIMER_EXPIRED", .qpRqQcnNumAlphaTimerExpired,
      qp.rqQcnNumAlphaTimerExpired),
    ("QP_RQ_QCN_NUM_CNP_RCVD", .qpRqQcnNumCNPrcvd, qp.rqQcnNumCNPrcvd),
    ("QP_RQ_QCN_NUM_CNP_PROCESSED", .qpRqQcnNumCNPprocessed, qp.rqQcnNumCNPprocessed)
  ]

end QPValues

structure QPMode where
  debugModeQP : Bool
  fetchQPMetrics : Bool
  fetchLIFAggQPMetrics : Bool
  isFieldEnabled : String → Bool

namespace QPMode

variable (mode : QPMode)

def exportsQPs : Bool :=
  mode.debugModeQP || mode.fetchQPMetrics

def setIfEnabled (labels : GoMap String String) (fieldName : String) (gauge : QPGauge) (value : Nat)
    : List (GaugeSet QPGauge) :=
  if mode.debugModeQP || mode.isFieldEnabled fieldName then [⟨gauge, labels, value⟩] else []

/--
The DCQCN gauges of a queue are set only if the block is there.
-/
def qpExports (labels : GoMap String String) (sqDcQcn rqDcQcn : Bool) (qp : QPValues)
    : List (GaugeSet QPGauge) :=
  let sets := qp.sqSets ++ (if sqDcQcn then qp.sqDcQcnSets else []) ++ qp.rqSets
    ++ (if rqDcQcn then qp.rqDcQcnSets else [])
  sets.flatMap fun (fieldName, gauge, value) => mode.setIfEnabled labels fieldName gauge value

end QPMode

def labelQPID : String := "qp_id"

def exportQPStats.qpGauges (mode : QPMode) (lifQPLabels : GoMap String String) (qp : QPStatsInfo)
    (stats : QPStats) (values : QPValues) : Option (List (GaugeSet QPGauge)) :=
  if mode.exportsQPs then do
    let id ← qp.specID
    let sqDcQcn := (stats.sq.bind (·.dcQcn)).isSome
    let rqDcQcn := (stats.rq.bind (·.dcQcn)).isSome
    return mode.qpExports (lifQPLabels.insert labelQPID id) sqDcQcn rqDcQcn values
  else
    some []

/--
One round of the loop over the queue pairs, on what has been exported and summed up before it.
-/
def exportQPStats.qp (mode : QPMode) (lifQPLabels : GoMap String String)
    (s : List (GaugeSet QPGauge) × LifAggregates) (qp : QPStatsInfo)
    : Option (List (GaugeSet QPGauge) × LifAggregates) := do
  let stats ← qp.stats
  let values ← stats.parse
  let exports ← exportQPStats.qpGauges mode lifQPLabels qp stats values
  return (s.1 ++ exports, if mode.fetchLIFAggQPMetrics then s.2.add values else s.2)

namespace NICAgentClient

variable [CaseMap] (na : NICAgentClient) (workloads : PodWorkloads) (mode : QPMode)

def exportQPStats.lif (nicID : String) (qplif : LifQPStats) : Option LifQPExports := do
  let lifID ← qplif.specID
  -- the methods of a NIC that is not in the inventory dereference a nil pointer
  let nic ← na.nics.lookup nicID
  let lifQPLabels := na.lifQPLabels workloads nicID nic lifID
  let (qpGauges, lifAgg) ← qplif.qpStatsList.foldlM (exportQPStats.qp mode lifQPLabels) ([], {})
  return ⟨qpGauges, if mode.fetchLIFAggQPMetrics then lifAgg.exports lifQPLabels else []⟩

/--
The loop over the NICs of a response. `none` is a nil pointer.
-/
def exportQPStats (rdmaQPStats : List NicQPStats) : Option (List (List LifQPExports)) :=
  rdmaQPStats.mapM fun statsNIC =>
    statsNIC.lifList.mapM (exportQPStats.lif na workloads mode statsNIC.id)

end NICAgentClient

end NICAgent
