import Mathlib.Algebra.GroupWithZero.Nat
import DeviceMetricsExporter.Lib.Loop
import DeviceMetricsExporter.NICAgent.Impl.QueuePairs

/-!
This module contains the aggregates of the LIFs: each of their gauges is set to the sum of its own
counter over the queue pairs of the LIF.
-/

namespace NICAgent

open Loop

namespace QPStats

variable (stats : QPStats)

/-
The blocks of the statistics. All counters of a block that is absent are empty.
-/

def reqTx : RequesterTxStats :=
  (stats.sq.bind (·.reqTx)).getD {}

def reqRx : RequesterRxStats :=
  (stats.sq.bind (·.reqRx)).getD {}

def sqDcQcn : DcqcnStats :=
  (stats.sq.bind (·.dcQcn)).getD {}

def respTx : ResponderTxStats :=
  (stats.rq.bind (·.respTx)).getD {}

def respRx : ResponderRxStats :=
  (stats.rq.bind (·.respRx)).getD {}

def rqDcQcn : DcqcnStats :=
  (stats.rq.bind (·.dcQcn)).getD {}

theorem elim_value {counter : DcqcnStats → String} (hempty : counter {} = "")
    (dcQcn : Option DcqcnStats)
    : dcQcn.elim 0 (fun dcQcn => value (counter dcQcn)) = value (counter (dcQcn.getD {})) := by
  cases dcQcn with
  | none =>
    simp only [Option.elim_none, Option.getD_none, hempty]
    rfl
  | some dcQcn => rfl

end QPStats

namespace LifGauge

def all : List LifGauge :=
  [
    .lifQpSqReqTxNumPacketTotal, .lifQpSqReqTxNumSendMsgsWithRkeTotal,
    .lifQpSqReqTxNumLocalAckTimeoutsTotal, .lifQpSqReqTxRnrTimeoutTotal,
    .lifQpSqReqTxTimesSQdrainedTotal, .lifQpSqReqTxNumCNPsentTotal, .lifQpSqReqRxNumPacketTotal,
    .lifQpSqReqRxNumPktsWithEcnMarkingTotal, .lifQpSqQcnCurrByteCounterTotal,
    .lifQpSqQcnNumByteCounterExpiredTotal, .lifQpSqQcnNumTimerExpiredTotal,
    .lifQpSqQcnNumAlphaTimerExpiredTotal, .lifQpSqQcnNumCNPrcvdTotal,
    .lifQpSqQcnNumCNPprocessedTotal, .lifQpRqRspTxNumPacketTotal, .lifQpRqRspTxRnrErrorTotal,
    .lifQpRqRspTxNumSequenceErrorTotal, .lifQpRqRspTxNumRpByteThresHitTotal,
    .lifQpRqRspTxNumRpMaxRateHitTotal, .lifQpRqRspRxNumPacketTotal,
    .lifQpRqRspRxNumSendMsgsWithRkeTotal, .lifQpRqRspRxNumPktsWithEcnMarkingTotal,
    .lifQpRqRspRxNumCNPsReceivedTotal, .lifQpRqRspRxMaxRecircExceededDropTotal,
    .lifQpRqRspRxNumMemWindowInvalidTotal, .lifQpRqRspRxNumDuplWithWrSendOpcTotal,
    .lifQpRqRspRxNumDuplReadBacktrackTotal, .lifQpRqRspRxNumDuplReadAtomicDropTotal,
    .lifQpRqQcnCurrByteCounterTotal, .lifQpRqQcnNumByteCounterExpiredTotal,
    .lifQpRqQcnNumTimerExpiredTotal, .lifQpRqQcnNumAlphaTimerExpiredTotal,
    .lifQpRqQcnNumCNPrcvdTotal, .lifQpRqQcnNumCNPprocessedTotal
  ]

theorem mem_all (g : LifGauge) : g ∈ all := by
  cases g <;> decide

def source (stats : QPStats) : LifGauge → String
  | .lifQpSqReqTxNumPacketTotal => stats.reqTx.numPacket
  | .lifQpSqReqTxNumSendMsgsWithRkeTotal => stats.reqTx.numSendMsgsWithRke
  | .lifQpSqReqTxNumLocalAckTimeoutsTotal => stats.reqTx.numLocalAckTimeouts
  | .lifQpSqReqTxRnrTimeoutTotal => stats.reqTx.rnrTimeout
  | .lifQpSqReqTxTimesSQdrainedTotal => stats.reqTx.timesSqDrained
  | .lifQpSqReqTxNumCNPsentTotal => stats.reqTx.numCnpSent
  | .lifQpSqReqRxNumPacketTotal => stats.reqRx.numPacket
  | .lifQpSqReqRxNumPktsWithEcnMarkingTotal => stats.reqRx.numPktsWithEcnMarking
  | .lifQpSqQcnCurrByteCounterTotal => stats.sqDcQcn.currByteCounter
  | .lifQpSqQcnNumByteCounterExpiredTotal => stats.sqDcQcn.numByteCounterExpired
  | .lifQpSqQcnNumTimerExpiredTotal => stats.sqDcQcn.numTimerExpired
  | .lifQpSqQcnNumAlphaTimerExpiredTotal => stats.sqDcQcn.numAlphaTimerExpired
  | .lifQpSqQcnNumCNPrcvdTotal => stats.sqDcQcn.numCnpRcvd
  | .lifQpSqQcnNumCNPprocessedTotal => stats.sqDcQcn.numCnpProcessed
  | .lifQpRqRspTxNumPacketTotal => stats.respTx.numPacket
  | .lifQpRqRspTxRnrErrorTotal => stats.respTx.rnrError
  | .lifQpRqRspTxNumSequenceErrorTotal => stats.respTx.numSequenceError
  | .lifQpRqRspTxNumRpByteThresHitTotal => stats.respTx.numRpByteThresHit
  | .lifQpRqRspTxNumRpMaxRateHitTotal => stats.respTx.numRpMaxRateHit
  | .lifQpRqRspRxNumPacketTotal => stats.respRx.numPacket
  | .lifQpRqRspRxNumSendMsgsWithRkeTotal => stats.respRx.numSendMsgsWithRke
  | .lifQpRqRspRxNumPktsWithEcnMarkingTotal => stats.respRx.numPktsWithEcnMarking
  | .lifQpRqRspRxNumCNPsReceivedTotal => stats.respRx.numCnpsReceived
  | .lifQpRqRspRxMaxRecircExceededDropTotal => stats.respRx.maxRecircExceededDrop
  | .lifQpRqRspRxNumMemWindowInvalidTotal => stats.respRx.numMemWindowInvalid
  | .lifQpRqRspRxNumDuplWithWrSendOpcTotal => stats.respRx.numDuplWithWrSendOpc
  | .lifQpRqRspRxNumDuplReadBacktrackTotal => stats.respRx.numDuplReadBacktrack
  | .lifQpRqRspRxNumDuplReadAtomicDropTotal => stats.respRx.numDuplReadAtomicDrop
  | .lifQpRqQcnCurrByteCounterTotal => stats.rqDcQcn.currByteCounter
  | .lifQpRqQcnNumByteCounterExpiredTotal => stats.rqDcQcn.numByteCounterExpired
  | .lifQpRqQcnNumTimerExpiredTotal => stats.rqDcQcn.numTimerExpired
  | .lifQpRqQcnNumAlphaTimerExpiredTotal => stats.rqDcQcn.numAlphaTimerExpired
  | .lifQpRqQcnNumCNPrcvdTotal => stats.rqDcQcn.numCnpRcvd
  | .lifQpRqQcnNumCNPprocessedTotal => stats.rqDcQcn.numCnpProcessed

def valueOf (values : QPValues) : LifGauge → Nat
  | .lifQpSqReqTxNumPacketTotal => values.sqReqTxNumPacket
  | .lifQpSqReqTxNumSendMsgsWithRkeTotal => values.sqReqTxNumSendMsgsRke
  | .lifQpSqReqTxNumLocalAckTimeoutsTotal => values.sqReqTxNumLocalAckTimeouts
  | .lifQpSqReqTxRnrTimeoutTotal => values.sqReqTxRnrTimeout
  | .lifQpSqReqTxTimesSQdrainedTotal => values.sqReqTxTimesSQdrained
  | .lifQpSqReqTxNumCNPsentTotal => values.sqReqTxNumCNPsent
  | .lifQpSqReqRxNumPacketTotal => values.sqReqRxNumPacket
  | .lifQpSqReqRxNumPktsWithEcnMarkingTotal => values.sqReqRxNumPacketsEcnMarked
  | .lifQpSqQcnCurrByteCounterTotal => values.sqQcnCurrByteCounter
  | .lifQpSqQcnNumByteCounterExpiredTotal => values.sqQcnNumByteCounterExpired
  | .lifQpSqQcnNumTimerExpiredTotal => values.sqQcnNumTimerExpired
  | .lifQpSqQcnNumAlphaTimerExpiredTotal => values.sqQcnNumAlphaTimerExpired
  | .lifQpSqQcnNumCNPrcvdTotal => values.sqQcnNumCNPrcvd
  | .lifQpSqQcnNumCNPprocessedTotal => values.sqQcnNumCNPprocessed
  | .lifQpRqRspTxNumPacketTotal => values.rqRspTxNumPacket
  | .lifQpRqRspTxRnrErrorTotal => values.rqRspTxRnrError
  | .lifQpRqRspTxNumSequenceErrorTotal => values.rqRspTxNumSequenceError
  | .lifQpRqRspTxNumRpByteThresHitTotal => values.rqRspTxRPByteThresholdHits
  | .lifQpRqRspTxNumRpMaxRateHitTotal => values.rqRspTxRPMaxRateHits
  | .lifQpRqRspRxNumPacketTotal => values.rqRspRxNumPacket
  | .lifQpRqRspRxNumSendMsgsWithRkeTotal => values.rqRspRxNumSendMsgsRke
  | .lifQpRqRspRxNumPktsWithEcnMarkingTotal => values.rqRspRxNumPacketsEcnMarked
  | .lifQpRqRspRxNumCNPsReceivedTotal => values.rqRspRxNumCNPsReceived
  | .lifQpRqRspRxMaxRecircExceededDropTotal => values.rqRspRxMaxRecircDrop
  | .lifQpRqRspRxNumMemWindowInvalidTotal => values.rqRspRxNumMemWindowInvalid
  | .lifQpRqRspRxNumDuplWithWrSendOpcTotal => values.rqRspRxNumDuplWriteSendOpc
  | .lifQpRqRspRxNumDuplReadBacktrackTotal => values.rqRspRxNumDupReadBacktrack
  | .lifQpRqRspRxNumDuplReadAtomicDropTotal => values.rqRspRxNumDupReadDrop
  | .lifQpRqQcnCurrByteCounterTotal => values.rqQcnCurrByteCounter
  | .lifQpRqQcnNumByteCounterExpiredTotal => values.rqQcnNumByteCounterExpired
  | .lifQpRqQcnNumTimerExpiredTotal => values.rqQcnNumTimerExpired
  | .lifQpRqQcnNumAlphaTimerExpiredTotal => values.rqQcnNumAlphaTimerExpired
  | .lifQpRqQcnNumCNPrcvdTotal => values.rqQcnNumCNPrcvd
  | .lifQpRqQcnNumCNPprocessedTotal => values.rqQcnNumCNPprocessed

def aggregateOf (lifAgg : LifAggregates) : LifGauge → Nat
  | .lifQpSqReqTxNumPacketTotal => lifAgg.sqReqTxNumPackets
  | .lifQpSqReqTxNumSendMsgsWithRkeTotal => lifAgg.sqReqTxNumSendMsgsRke
  | .lifQpSqReqTxNumLocalAckTimeoutsTotal => lifAgg.sqReqTxNumLocalAckTimeouts
  | .lifQpSqReqTxRnrTimeoutTotal => lifAgg.sqReqTxRnrTimeout
  | .lifQpSqReqTxTimesSQdrainedTotal => lifAgg.sqReqTxTimesSQdrained
  | .lifQpSqReqTxNumCNPsentTotal => lifAgg.sqReqTxNumCNPsent
  | .lifQpSqReqRxNumPacketTotal => lifAgg.sqReqRxNumPackets
  | .lifQpSqReqRxNumPktsWithEcnMarkingTotal => lifAgg.sqReqRxNumPacketsEcnMarked
  | .lifQpSqQcnCurrByteCounterTotal => lifAgg.sqQcnCurrByteCounter
  | .lifQpSqQcnNumByteCounterExpiredTotal => lifAgg.sqQcnNumByteCounterExpired
  | .lifQpSqQcnNumTimerExpiredTotal => lifAgg.sqQcnNumTimerExpired
  | .lifQpSqQcnNumAlphaTimerExpiredTotal => lifAgg.sqQcnNumAlphaTimerExpired
  | .lifQpSqQcnNumCNPrcvdTotal => lifAgg.sqQcnNumCNPrcvd
  | .lifQpSqQcnNumCNPprocessedTotal => lifAgg.sqQcnNumCNPprocessed
  | .lifQpRqRspTxNumPacketTotal => lifAgg.rqRspTxNumPackets
  | .lifQpRqRspTxRnrErrorTotal => lifAgg.rqRspTxRnrError
  | .lifQpRqRspTxNumSequenceErrorTotal => lifAgg.rqRspTxNumSequenceError
  | .lifQpRqRspTxNumRpByteThresHitTotal => lifAgg.rqRspTxRPByteThresholdHits
  | .lifQpRqRspTxNumRpMaxRateHitTotal => lifAgg.rqRspTxRPMaxRateHits
  | .lifQpRqRspRxNumPacketTotal => lifAgg.rqRspRxNumPackets
  | .lifQpRqRspRxNumSendMsgsWithRkeTotal => lifAgg.rqRspRxNumSendMsgsRke
  | .lifQpRqRspRxNumPktsWithEcnMarkingTotal => lifAgg.rqRspRxNumPacketsEcnMarked
  | .lifQpRqRspRxNumCNPsReceivedTotal => lifAgg.rqRspRxNumCNPsReceived
  | .lifQpRqRspRxMaxRecircExceededDropTotal => lifAgg.rqRspRxMaxRecircDrop
  | .lifQpRqRspRxNumMemWindowInvalidTotal => lifAgg.rqRspRxNumMemWindowInvalid
  | .lifQpRqRspRxNumDuplWithWrSendOpcTotal => lifAgg.rqRspRxNumDuplWriteSendOpc
  | .lifQpRqRspRxNumDuplReadBacktrackTotal => lifAgg.rqRspRxNumDupReadBacktrack
  | .lifQpRqRspRxNumDuplReadAtomicDropTotal => lifAgg.rqRspRxNumDupReadDrop
  | .lifQpRqQcnCurrByteCounterTotal => lifAgg.rqQcnCurrByteCounter
  | .lifQpRqQcnNumByteCounterExpiredTotal => lifAgg.rqQcnNumByteCounterExpired
  | .lifQpRqQcnNumTimerExpiredTotal => lifAgg.rqQcnNumTimerExpired
  | .lifQpRqQcnNumAlphaTimerExpiredTotal => lifAgg.rqQcnNumAlphaTimerExpired
  | .lifQpRqQcnNumCNPrcvdTotal => lifAgg.rqQcnNumCNPrcvd
  | .lifQpRqQcnNumCNPprocessedTotal => lifAgg.rqQcnNumCNPprocessed

def share (qp : QPStatsInfo) (g : LifGauge) : Nat :=
  qp.stats.elim 0 fun stats => QPStats.value (g.source stats)

theorem aggregateOf_zero (g : LifGauge) : g.aggregateOf {} = 0 := by
  cases g <;> rfl

theorem aggregateOf_add (lifAgg : LifAggregates) (values : QPValues) (g : LifGauge)
    : g.aggregateOf (lifAgg.add values) = g.aggregateOf lifAgg + g.valueOf values := by
  cases g <;> rfl

theorem exports_eq_map (lifAgg : LifAggregates) (labels : GoMap String String)
    : lifAgg.exports labels = all.map fun g => ⟨g, labels, g.aggregateOf lifAgg⟩ := rfl

theorem valueOf_parse {stats : QPStats} {values : QPValues} (h : stats.parse = some values)
    (g : LifGauge) : g.valueOf values = QPStats.value (g.source stats) := by
  simp only [QPStats.parse, Option.bind_eq_bind, Option.bind_eq_some_iff] at h
  rcases h with ⟨sq, hsq, reqTx, hreqTx, reqRx, hreqRx, rq, hrq, respTx, hrespTx, respRx, hrespRx,
    hvalues⟩
  cases hvalues
  have hblocks : stats.reqTx = reqTx ∧ stats.reqRx = reqRx ∧ stats.respTx = respTx
      ∧ stats.respRx = respRx := by
    simp [QPStats.reqTx, QPStats.reqRx, QPStats.respTx, QPStats.respRx, *]
  have hsqDcQcn : stats.sqDcQcn = sq.dcQcn.getD {} := by
    simp [QPStats.sqDcQcn, hsq]
  have hrqDcQcn : stats.rqDcQcn = rq.dcQcn.getD {} := by
    simp [QPStats.rqDcQcn, hrq]
  cases g <;> simp only [source, valueOf, hblocks, hsqDcQcn, hrqDcQcn]
  all_goals
    apply QPStats.elim_value
    rfl

end LifGauge

/--
The pointers that are dereferenced are not nil.
-/
def QPStats.hasBlocks (stats : QPStats) : Bool :=
  (stats.sq.bind (·.reqTx)).isSome && (stats.sq.bind (·.reqRx)).isSome
    && (stats.rq.bind (·.respTx)).isSome && (stats.rq.bind (·.respRx)).isSome

def QPStatsInfo.complete (mode : QPMode) (qp : QPStatsInfo) : Bool :=
  qp.stats.any QPStats.hasBlocks && (!mode.exportsQPs || qp.specID.isSome)

theorem QPStats.isSome_parse (stats : QPStats) : stats.parse.isSome = stats.hasBlocks := by
  rcases stats with ⟨_ | ⟨_ | reqTx, _ | reqRx, _⟩, _ | ⟨_ | respTx, _ | respRx, _⟩⟩ <;> rfl

section QueuePairs

variable (mode : QPMode) (labels : GoMap String String)

theorem isSome_qpGauges (qp : QPStatsInfo) (stats : QPStats) (values : QPValues)
    : (exportQPStats.qpGauges mode labels qp stats values).isSome
      = (!mode.exportsQPs || qp.specID.isSome) := by
  unfold exportQPStats.qpGauges
  cases mode.exportsQPs with
  | false => rfl
  | true =>
    cases qp.specID with
    | none => rfl
    | some id => rfl

theorem isSome_qp (s : List (GaugeSet QPGauge) × LifAggregates) (qp : QPStatsInfo)
    : (exportQPStats.qp mode labels s qp).isSome = qp.complete mode := by
  unfold exportQPStats.qp QPStatsInfo.complete
  cases qp.stats with
  | none => rfl
  | some stats =>
    rw [Option.any_some, ← QPStats.isSome_parse, Option.bind_eq_bind, Option.bind_some]
    cases stats.parse with
    | none => rfl
    | some values =>
      rw [← isSome_qpGauges mode labels qp stats values, Option.bind_eq_bind, Option.bind_some]
      cases exportQPStats.qpGauges mode labels qp stats values with
      | none => rfl
      | some exports => rfl

theorem aggregateOf_qp (hfetch : mode.fetchLIFAggQPMetrics = true)
    {s s' : List (GaugeSet QPGauge) × LifAggregates} {qp : QPStatsInfo}
    (h : exportQPStats.qp mode labels s qp = some s') (g : LifGauge)
    : g.aggregateOf s'.2 = g.aggregateOf s.2 + g.share qp := by
  simp only [exportQPStats.qp, Option.bind_eq_bind, Option.bind_eq_some_iff, hfetch, if_true] at h
  rcases h with ⟨stats, hstats, values, hvalues, exports, -, hs'⟩
  cases hs'
  rw [LifGauge.aggregateOf_add, LifGauge.valueOf_parse hvalues, LifGauge.share, hstats]
  rfl

end QueuePairs

namespace LifQPStats

def total (lif : LifQPStats) (g : LifGauge) : Nat :=
  (lif.qpStatsList.map g.share).sum

end LifQPStats

namespace NICAgentClient

variable [CaseMap] (na : NICAgentClient) (workloads : PodWorkloads) (mode : QPMode)

def completeLif (nicID : String) (lif : LifQPStats) : Bool :=
  lif.specID.isSome && (na.nics.lookup nicID).isSome && lif.qpStatsList.all (·.complete mode)

def lifGaugeLabels (nicID : String) (lif : LifQPStats) : GoMap String String :=
  match lif.specID, na.nics.lookup nicID with
  | some lifID, some nic => na.lifQPLabels workloads nicID nic lifID
  | _, _ => ∅

def lifTotals (nicID : String) (lif : LifQPStats) : List (GaugeSet LifGauge) :=
  LifGauge.all.map fun g => ⟨g, na.lifGaugeLabels workloads nicID lif, lif.total g⟩

theorem lifGauges_lif (hfetch : mode.fetchLIFAggQPMetrics = true) (nicID : String) (lif : LifQPStats)
    : (exportQPStats.lif na workloads mode nicID lif).map (·.lifGauges)
      = if na.completeLif mode nicID lif then some (na.lifTotals workloads nicID lif) else none := by
  unfold exportQPStats.lif completeLif lifTotals lifGaugeLabels
  cases lif.specID with
  | none => rfl
  | some lifID =>
    cases na.nics.lookup nicID with
    | none => rfl
    | some nic =>
      simp only [Option.bind_eq_bind, Option.bind_some, Option.isSome_some, Bool.true_and]
      generalize na.lifQPLabels workloads nicID nic lifID = labels
      have hcomplete := foldlM_isSome (isSome_qp mode labels) lif.qpStatsList ([], {})
      rw [← hcomplete]
      cases hfold : lif.qpStatsList.foldlM (exportQPStats.qp mode labels) ([], {}) with
      | none => rfl
      | some s =>
        have htotal (g : LifGauge) : g.aggregateOf s.2 = lif.total g := by
          have hadd := foldlM_add (fun s => g.aggregateOf s.2) g.share
            (fun _ _ _ h => aggregateOf_qp mode labels hfetch h g) hfold
          rw [LifGauge.aggregateOf_zero, Nat.zero_add] at hadd
          exact hadd
        simp only [Option.bind_some, hfetch, if_true, LifGauge.exports_eq_map, htotal]
        rfl

theorem lifGauges_exportQPStats (hfetch : mode.fetchLIFAggQPMetrics = true)
    (rdmaQPStats : List NicQPStats)
    : (na.exportQPStats workloads mode rdmaQPStats).map (·.map (·.map (·.lifGauges)))
      = if rdmaQPStats.all fun nic => nic.lifList.all (na.completeLif mode nic.id) then
          some (rdmaQPStats.map fun nic => nic.lifList.map (na.lifTotals workloads nic.id))
        else
          none := by
  apply mapM_map_eq
  intro nic
  apply mapM_map_eq
  apply na.lifGauges_lif workloads mode hfetch

end NICAgentClient

end NICAgent
