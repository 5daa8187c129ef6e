import DeviceMetricsExporter.NICAgent.Impl.QPDocument
import DeviceMetricsExporter.NICAgent.Lemmas.QueuePairs

/-!
This module contains when the gauges of the LIFs are the sums of the counters that `nicctl` prints for
their queue pairs. Four of the counters are not unmarshalled, and LIFs with the same labels overwrite
each other.
-/

namespace NICAgent

namespace StatisticsDocument

variable (doc : StatisticsDocument)

/-
The blocks of the statistics. A block that is absent has no members.
-/

def reqTx : JsonMembers :=
  (doc.sendQueue.bind (·.requesterTxStatistics)).getD []

def reqRx : JsonMembers :=
  (doc.sendQueue.bind (·.requesterRxStatistcs)).getD []

def sqDcQcn : JsonMembers :=
  (doc.sendQueue.bind (·.dcqcnStats)).getD []

def respTx : JsonMembers :=
  (doc.receiveQueue.bind (·.responderTxStatistics)).getD []

def respRx : JsonMembers :=
  (doc.receiveQueue.bind (·.responderRxStatistics)).getD []

def rqDcQcn : JsonMembers :=
  (doc.receiveQueue.bind (·.dcqcnStats)).getD []

theorem reqTx_unmarshal : doc.unmarshal.reqTx = RequesterTxStats.unmarshal doc.reqTx := by
  rcases doc with ⟨_ | ⟨_ | _, _, _⟩, _⟩ <;> rfl

theorem reqRx_unmarshal : doc.unmarshal.reqRx = RequesterRxStats.unmarshal doc.reqRx := by
  rcases doc with ⟨_ | ⟨_, _ | _, _⟩, _⟩ <;> rfl

theorem sqDcQcn_unmarshal : doc.unmarshal.sqDcQcn = DcqcnStats.unmarshal doc.sqDcQcn := by
  rcases doc with ⟨_ | ⟨_, _, _ | _⟩, _⟩ <;> rfl

theorem respTx_unmarshal : doc.unmarshal.respTx = ResponderTxStats.unmarshal doc.respTx := by
  rcases doc with ⟨_, _ | ⟨_ | _, _, _⟩⟩ <;> rfl

theorem respRx_unmarshal : doc.unmarshal.respRx = ResponderRxStats.unmarshal doc.respRx := by
  rcases doc with ⟨_, _ | ⟨_, _ | _, _⟩⟩ <;> rfl

theorem rqDcQcn_unmarshal : doc.unmarshal.rqDcQcn = DcqcnStats.unmarshal doc.rqDcQcn := by
  rcases doc with ⟨_, _ | ⟨_, _, _ | _⟩⟩ <;> rfl

end StatisticsDocument

namespace LifGauge

def counter (doc : StatisticsDocument) : LifGauge → String
  | .lifQpSqReqTxNumPacketTotal => doc.reqTx.field "num_packet"
  | .lifQpSqReqTxNumSendMsgsWithRkeTotal => doc.reqTx.field "num_send_msgs_with_invalid_remote_key_error"
  | .lifQpSqReqTxNumLocalAckTimeoutsTotal => doc.reqTx.field "num_local_ack_timeouts"
  | .lifQpSqReqTxRnrTimeoutTotal => doc.reqTx.field "receiver_not_ready_timeout"
  | .lifQpSqReqTxTimesSQdrainedTotal => doc.reqTx.field "times_send_queue_is_drained"
  | .lifQpSqReqTxNumCNPsentTotal => doc.reqTx.field "num_cnp_sent"
  | .lifQpSqReqRxNumPacketTotal => doc.reqRx.field "num_packet"
  | .lifQpSqReqRxNumPktsWithEcnMarkingTotal => doc.reqRx.field "num_packets_with_ecn_marking"
  | .lifQpSqQcnCurrByteCounterTotal => doc.sqDcQcn.field "curr_byte_counter"
  | .lifQpSqQcnNumByteCounterExpiredTotal => doc.sqDcQcn.field "num_byte_counter_expired"
  | .lifQpSqQcnNumTimerExpiredTotal => doc.sqDcQcn.field "num_timer_expired"
  | .lifQpSqQcnNumAlphaTimerExpiredTotal => doc.sqDcQcn.field "num_alpha_timer_expired"
  | .lifQpSqQcnNumCNPrcvdTotal => doc.sqDcQcn.field "num_cnp_rcvd"
  | .lifQpSqQcnNumCNPprocessedTotal => doc.sqDcQcn.field "num_cnp_processed"
  | .lifQpRqRspTxNumPacketTotal => doc.respTx.field "num_packet"
  | .lifQpRqRspTxRnrErrorTotal => doc.respTx.field "receiver_not_ready_rnrerror"
  | .lifQpRqRspTxNumSequenceErrorTotal => doc.respTx.field "num_sequence_error"
  | .lifQpRqRspTxNumRpByteThresHitTotal => doc.respTx.field "num_dcqcn_rp_byte_threshold_hit"
  | .lifQpRqRspTxNumRpMaxRateHitTotal => doc.respTx.field "num_rp_max_rate_hit"
  | .lifQpRqRspRxNumPacketTotal => doc.respRx.field "num_packet"
  | .lifQpRqRspRxNumSendMsgsWithRkeTotal => doc.respRx.field "num_send_msgs_with_invalid_remote_key_error"
  | .lifQpRqRspRxNumPktsWithEcnMarkingTotal => doc.respRx.field "num_packets_with_ecn_marking"
  | .lifQpRqRspRxNumCNPsReceivedTotal => doc.respRx.field "num_cnps_received"
  | .lifQpRqRspRxMaxRecircExceededDropTotal => doc.respRx.field "max_recirculation_exceeded_packet_drop"
  | .lifQpRqRspRxNumMemWindowInvalidTotal => doc.respRx.field "num_mem_window_invalidate_msg"
  | .lifQpRqRspRxNumDuplWithWrSendOpcTotal => doc.respRx.field "num_duplicate_pkts_with_write_send_opcode"
  | .lifQpRqRspRxNumDuplReadBacktrackTotal => doc.respRx.field "num_duplicate_read_atomic_backtrack_pkt"
  | .lifQpRqRspRxNumDuplReadAtomicDropTotal => doc.respRx.field "num_duplicate_read_atomic_drop_pkt"
  | .lifQpRqQcnCurrByteCounterTotal => doc.rqDcQcn.field "curr_byte_counter"
  | .lifQpRqQcnNumByteCounterExpiredTotal => doc.rqDcQcn.field "num_byte_counter_expired"
  | .lifQpRqQcnNumTimerExpiredTotal => doc.rqDcQcn.field "num_timer_expired"
  | .lifQpRqQcnNumAlphaTimerExpiredTotal => doc.rqDcQcn.field "num_alpha_timer_expired"
  | .lifQpRqQcnNumCNPrcvdTotal => doc.rqDcQcn.field "num_cnp_rcvd"
  | .lifQpRqQcnNumCNPprocessedTotal => doc.rqDcQcn.field "num_cnp_processed"

/--
What is unmarshalled instead of a counter whose tag lacks a quote, and whose Go field has another name.
-/
def misread (doc : StatisticsDocument) : LifGauge → Option String
  | .lifQpSqReqTxRnrTimeoutTotal => some (doc.reqTx.field "RNR_TIMEOUT")
  | .lifQpSqReqTxTimesSQdrainedTotal => some (doc.reqTx.field "TIMES_SQ_DRAINED")
  | .lifQpRqRspTxRnrErrorTotal => some (doc.respTx.field "RNR_ERROR")
  | .lifQpRqRspTxNumRpByteThresHitTotal => some (doc.respTx.field "NUM_RP_BYTE_THRES_HIT")
  | _ => none

theorem source_unmarshal (doc : StatisticsDocument) (g : LifGauge)
    : g.source doc.unmarshal = (g.misread doc).getD (g.counter doc) := by
  cases g <;> simp only [source, counter, misread, doc.reqTx_unmarshal, doc.reqRx_unmarshal,
    doc.sqDcQcn_unmarshal, doc.respTx_unmarshal, doc.respRx_unmarshal, doc.rqDcQcn_unmarshal,
    RequesterTxStats.unmarshal, RequesterRxStats.unmarshal, ResponderTxStats.unmarshal,
    ResponderRxStats.unmarshal, DcqcnStats.unmarshal, Option.getD_none, Option.getD_some]
  all_goals
    -- The other fields without a tag have the names of the counters up to case.
    exact JsonMembers.field_congr (by decide +kernel) _

end LifGauge

namespace LifDocument

def sum (lif : LifDocument) (counter : StatisticsDocument → String) : Nat :=
  (lif.queuePair.map fun qp => qp.statistics.elim 0 fun doc => QPStats.value (counter doc)).sum

/--
The counters that are not unmarshalled sum up to what is unmarshalled instead. In what `nicctl` prints
the names of the Go fields do not occur, so that the counters are 0 or empty then.
-/
structure TagsHarmless (lif : LifDocument) : Prop where
  rnrTimeout : lif.sum (·.reqTx.field "RNR_TIMEOUT") = lif.sum (·.reqTx.field "receiver_not_ready_timeout")
  timesSqDrained : lif.sum (·.reqTx.field "TIMES_SQ_DRAINED")
    = lif.sum (·.reqTx.field "times_send_queue_is_drained")
  rnrError : lif.sum (·.respTx.field "RNR_ERROR") = lif.sum (·.respTx.field "receiver_not_ready_rnrerror")
  numRpByteThresHit : lif.sum (·.respTx.field "NUM_RP_BYTE_THRES_HIT")
    = lif.sum (·.respTx.field "num_dcqcn_rp_byte_threshold_hit")

theorem total_unmarshal (lif : LifDocument) (g : LifGauge)
    : lif.unmarshal.total g = lif.sum fun doc => (g.misread doc).getD (g.counter doc) := by
  rw [LifQPStats.total, sum, unmarshal, List.map_map]
  congr 1
  apply List.map_congr_left
  intro qp _
  rw [Function.comp_apply, LifGauge.share, QPDocument.unmarshal]
  cases qp.statistics with
  | none => rfl
  | some doc =>
    simp only [Option.map_some, Option.elim_some]
    rw [LifGauge.source_unmarshal]

theorem tagsHarmless_iff (lif : LifDocument)
    : lif.TagsHarmless ↔ ∀ g : LifGauge, lif.unmarshal.total g = lif.sum g.counter := by
  simp only [total_unmarshal]
  constructor
  . intro h g
    cases g with
    | lifQpSqReqTxRnrTimeoutTotal => exact h.rnrTimeout
    | lifQpSqReqTxTimesSQdrainedTotal => exact h.timesSqDrained
    | lifQpRqRspTxRnrErrorTotal => exact h.rnrError
    | lifQpRqRspTxNumRpByteThresHitTotal => exact h.numRpByteThresHit
    | _ => rfl
  . intro h
    exact ⟨h .lifQpSqReqTxRnrTimeoutTotal, h .lifQpSqReqTxTimesSQdrainedTotal,
      h .lifQpRqRspTxRnrErrorTotal, h .lifQpRqRspTxNumRpByteThresHitTotal⟩

theorem sum_of_perm {lif lif' : LifDocument} (h : lif.queuePair.Perm lif'.queuePair)
    (counter : StatisticsDocument → String) : lif.sum counter = lif'.sum counter :=
  (h.map _).sum_eq

end LifDocument

namespace NICAgentClient

variable [CaseMap] (na : NICAgentClient) (workloads : PodWorkloads) (mode : QPMode)

/--
No nil pointer is dereferenced: the cards are known, the LIFs have a spec, and so have the queue pairs if
they are exported, and no block of the statistics but the ones for DCQCN is absent.
-/
def Complete (docs : List NicDocument) : Prop :=
  ((docs.map NicDocument.unmarshal).all fun nic => nic.lifList.all (na.completeLif mode nic.id)) = true

def labelsOf (nicID : String) (lif : LifDocument) : GoMap String String :=
  na.lifGaugeLabels workloads nicID lif.unmarshal

def SameSeries (labels labels' : GoMap String String) : Prop :=
  ∀ label, labels.lookup label = labels'.lookup label

/--
LIFs whose gauges are the same series have the same sums.
-/
def SeriesAgree (docs : List NicDocument) : Prop :=
  ∀ nic ∈ docs, ∀ lif ∈ nic.lif, ∀ nic' ∈ docs, ∀ lif' ∈ nic'.lif,
    SameSeries (na.labelsOf workloads nic.id lif) (na.labelsOf workloads nic'.id lif') →
      ∀ g : LifGauge, lif.sum g.counter = lif'.sum g.counter

def lifSets (exports : List (List LifQPExports)) : List (GaugeSet LifGauge) :=
  (exports.map (·.map (·.lifGauges))).flatten.flatten

/--
Each gauge of each LIF is set, and only to the sum of its counter.
-/
def SumsExported (docs : List NicDocument) : Prop :=
  ∃ exports, na.updateQPStats workloads mode docs = some exports ∧
    ∀ nic ∈ docs, ∀ lif ∈ nic.lif, ∀ g : LifGauge,
      (∃ e ∈ lifSets exports, e.gauge = g ∧ SameSeries e.labels (na.labelsOf workloads nic.id lif))
        ∧ ∀ e ∈ lifSets exports, e.gauge = g → SameSeries e.labels (na.labelsOf workloads nic.id lif) →
          e.value = lif.sum g.counter

theorem lifSets_updateQPStats (hfetch : mode.fetchLIFAggQPMetrics = true) (docs : List NicDocument)
    : (na.updateQPStats workloads mode docs).map lifSets
        = if (docs.map NicDocument.unmarshal).all
              fun nic => nic.lifList.all (na.completeLif mode nic.id) then
            some ((docs.map NicDocument.unmarshal).map
              fun nic => nic.lifList.map (na.lifTotals workloads nic.id)).flatten.flatten
          else
            none := by
  have hskip : ¬((!mode.debugModeQP && !mode.fetchQPMetrics && !mode.fetchLIFAggQPMetrics) = true) := by
    simp [hfetch]
  have hexport := na.lifGauges_exportQPStats workloads mode hfetch (docs.map NicDocument.unmarshal)
  rw [updateQPStats, if_neg hskip]
  have hmap := congrArg (Option.map fun sets => List.flatten (List.flatten sets)) hexport
  rw [Option.map_map] at hmap
  refine hmap.trans ?_
  split
  . rfl
  . rfl

theorem exists_updateQPStats_iff (hfetch : mode.fetchLIFAggQPMetrics = true) (docs : List NicDocument)
    : (∃ exports, na.updateQPStats workloads mode docs = some exports) ↔ na.Complete mode docs := by
  have hsets := congrArg Option.isSome (na.lifSets_updateQPStats workloads mode hfetch docs)
  rw [Option.isSome_map] at hsets
  rw [← Option.isSome_iff_exists, hsets, Complete]
  split
  . next h => simp [h]
  . next h => simp [h]

variable {na workloads mode}

theorem mem_lifSets_iff (hfetch : mode.fetchLIFAggQPMetrics = true) {docs : List NicDocument}
    {exports : List (List LifQPExports)} (h : na.updateQPStats workloads mode docs = some exports)
    (e : GaugeSet LifGauge)
    : e ∈ lifSets exports ↔ ∃ nic ∈ docs, ∃ lif ∈ nic.lif, ∃ g : LifGauge,
        e = ⟨g, na.labelsOf workloads nic.id lif, lif.unmarshal.total g⟩ := by
  have hsets := na.lifSets_updateQPStats workloads mode hfetch docs
  have hcomplete := (na.exists_updateQPStats_iff workloads mode hfetch docs).mp ⟨exports, h⟩
  rw [Complete] at hcomplete
  rw [h, if_pos hcomplete, Option.map_some, Option.some.injEq] at hsets
  rw [hsets]
  simp only [List.mem_flatten, List.mem_map, labelsOf]
  constructor
  . rintro ⟨sets, ⟨nicSets, ⟨rdma, ⟨nic, hnic, rfl⟩, rfl⟩, hmem⟩, he⟩
    rcases List.mem_map.mp hmem with ⟨lifStats, hlifStats, rfl⟩
    rcases List.mem_map.mp hlifStats with ⟨lif, hlif, rfl⟩
    rcases List.mem_map.mp he with ⟨g, -, rfl⟩
    exact ⟨nic, hnic, lif, hlif, g, rfl⟩
  . rintro ⟨nic, hnic, lif, hlif, g, rfl⟩
    refine ⟨na.lifTotals workloads nic.id lif.unmarshal, ⟨_, ⟨_, ⟨nic, hnic, rfl⟩, rfl⟩, ?_⟩,
      List.mem_map.mpr ⟨g, LifGauge.mem_all g, rfl⟩⟩
    exact List.mem_map.mpr ⟨lif.unmarshal, List.mem_map.mpr ⟨lif, hlif, rfl⟩, rfl⟩

theorem SumsExported.complete (hfetch : mode.fetchLIFAggQPMetrics = true) {docs : List NicDocument}
    (h : na.SumsExported workloads mode docs) : na.Complete mode docs := by
  rcases h with ⟨exports, hexports, -⟩
  exact (na.exists_updateQPStats_iff workloads mode hfetch docs).mp ⟨exports, hexports⟩

theorem SumsExported.total_eq (hfetch : mode.fetchLIFAggQPMetrics = true) {docs : List NicDocument}
    (h : na.SumsExported workloads mode docs) {nic nic' : NicDocument} (hnic : nic ∈ docs)
    (hnic' : nic' ∈ docs) {lif lif' : LifDocument} (hlif : lif ∈ nic.lif) (hlif' : lif' ∈ nic'.lif)
    (hsame : SameSeries (na.labelsOf workloads nic.id lif) (na.labelsOf workloads nic'.id lif'))
    (g : LifGauge) : lif.unmarshal.total g = lif'.sum g.counter := by
  rcases h with ⟨exports, hexports, hsums⟩
  have hmem := (mem_lifSets_iff hfetch hexports _).mpr ⟨nic, hnic, lif, hlif, g, rfl⟩
  exact (hsums nic' hnic' lif' hlif' g).2 _ hmem rfl hsame

theorem SumsExported.tagsHarmless (hfetch : mode.fetchLIFAggQPMetrics = true) {docs : List NicDocument}
    (h : na.SumsExported workloads mode docs) {nic : NicDocument} (hnic : nic ∈ docs)
    {lif : LifDocument} (hlif : lif ∈ nic.lif) : lif.TagsHarmless :=
  lif.tagsHarmless_iff.mpr fun g => h.total_eq hfetch hnic hnic hlif hlif (fun _ => rfl) g

section Instances

def cardWithLifs : NICAgentClient where
  nics := AList.singleton "nic-0"
    { index := "0"
      uuid := "nic-0"
      serialNumber := "SN0"
      firmwareVersion := "1.0"
      lifs := (AList.singleton "lif-0" { name := "eth0" }).insert "lif-1" { name := "eth1" } }
  isKubernetes := false
  k8PodInfoMap := ∅
  staticHostLabels := ∅

def lifAggregation : QPMode where
  debugModeQP := false
  fetchQPMetrics := false
  fetchLIFAggQPMetrics := true
  isFieldEnabled _ := false

def queuePair (id : String) (requesterTx : JsonMembers) (dcqcnStats : Option JsonMembers) : QPDocument where
  specID := some id
  statistics := some
    { sendQueue := some
        { requesterTxStatistics := some requesterTx
          requesterRxStatistcs := some []
          dcqcnStats }
      receiveQueue := some
        { responderTxStatistics := some []
          responderRxStatistics := some [] } }

def twoLifsDocument : NicDocument where
  id := "nic-0"
  lif :=
    [⟨"lif-0",
        [queuePair "1" [("num_packet", "124800"), ("num_local_ack_timeouts", "1")]
            (some [("num_cnp_rcvd", "18")]),
          queuePair "3" [("num_packet", "327680"), ("num_local_ack_timeouts", "8")] none]⟩,
      ⟨"lif-1", [queuePair "2" [("num_packet", "65"), ("receiver_not_ready_timeout", "0")] none]⟩]

/--
The second queue pair of the first LIF in the mock response of a card.
-/
def mockDocument : NicDocument where
  id := "nic-0"
  lif :=
    [⟨"lif-0", [queuePair "3" [("num_packet", "327680"), ("receiver_not_ready_timeout", "4")] none]⟩]

end Instances

end NICAgentClient

end NICAgent
