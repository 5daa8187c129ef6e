import DeviceMetricsExporter.Lib.JsonMembers
import DeviceMetricsExporter.NICAgent.Impl.QueuePairs

/-!
This module contains the answer of `nicctl show rdma queue-pair statistics`, whose counters are the
members of JSON objects, and `UpdateQPStats`, which unmarshals and exports it.
-/

namespace NICAgent

structure SendQueueDocument where
  requesterTxStatistics : Option JsonMembers := none
  requesterRxStatistcs : Option JsonMembers := none
  dcqcnStats : Option JsonMembers := none

structure ReceiveQueueDocument where
  responderTxStatistics : Option JsonMembers := none
  responderRxStatistics : Option JsonMembers := none
  dcqcnStats : Option JsonMembers := none

structure StatisticsDocument where
  sendQueue : Option SendQueueDocument := none
  receiveQueue : Option ReceiveQueueDocument := none

structure QPDocument where
  specID : Option String
  statistics : Option StatisticsDocument

structure LifDocument where
  specID : Option String
  queuePair : List QPDocument

structure NicDocument where
  id : String
  lif : List LifDocument

/-
The names of the fields are those of the json tags, and the names of the Go fields where the tag of the
proto file lacks a quote.
-/

def DcqcnStats.unmarshal (members : JsonMembers) : DcqcnStats where
  currByteCounter := members.field "curr_byte_counter"
  numByteCounterExpired := members.field "num_byte_counter_expired"
  numTimerExpired := members.field "num_timer_expired"
  numAlphaTimerExpired := members.field "num_alpha_timer_expired"
  numCnpRcvd := members.field "num_cnp_rcvd"
  numCnpProcessed := members.field "num_cnp_processed"

def RequesterTxStats.unmarshal (members : JsonMembers) : RequesterTxStats where
  numPacket := members.field "num_packet"
  numSendMsgsWithRke := members.field "num_send_msgs_with_invalid_remote_key_error"
  numLocalAckTimeouts := members.field "NUM_LOCAL_ACK_TIMEOUTS"
  rnrTimeout := members.field "RNR_TIMEOUT"
  timesSqDrained := members.field "TIMES_SQ_DRAINED"
  numCnpSent := members.field "num_cnp_sent"

def RequesterRxStats.unmarshal (members : JsonMembers) : RequesterRxStats where
  numPacket := members.field "num_packet"
  numPktsWithEcnMarking := members.field "num_packets_with_ecn_marking"

def ResponderTxStats.unmarshal (members : JsonMembers) : ResponderTxStats where
  numPacket := members.field "num_packet"
  rnrError := members.field "RNR_ERROR"
  numSequenceError := members.field "NUM_SEQUENCE_ERROR"
  numRpByteThresHit := members.field "NUM_RP_BYTE_THRES_HIT"
  numRpMaxRateHit := members.field "NUM_RP_MAX_RATE_HIT"

def ResponderRxStats.unmarshal (members : JsonMembers) : ResponderRxStats where
  numPacket := members.field "num_packet"
  numSendMsgsWithRke := members.field "num_send_msgs_with_invalid_remote_key_error"
  numPktsWithEcnMarking := members.field "num_packets_with_ecn_marking"
  numCnpsReceived := members.field "num_cnps_received"
  maxRecircExceededDrop := members.field "max_recirculation_exceeded_packet_drop"
  numMemWindowInvalid := members.field "num_mem_window_invalidate_msg"
  numDuplWithWrSendOpc := members.field "num_duplicate_pkts_with_write_send_opcode"
  numDuplReadBacktrack := members.field "num_duplicate_read_atomic_backtrack_pkt"
  numDuplReadAtomicDrop := members.field "num_duplicate_read_atomic_drop_pkt"

def SendQueueDocument.unmarshal (doc : SendQueueDocument) : SendQStats where
  reqTx := doc.requesterTxStatistics.map RequesterTxStats.unmarshal
  reqRx := doc.requesterRxStatistcs.map RequesterRxStats.unmarshal
  dcQcn := doc.dcqcnStats.map DcqcnStats.unmarshal

def ReceiveQueueDocument.unmarshal (doc : ReceiveQueueDocument) : RecvQStats where
  respTx := doc.responderTxStatistics.map ResponderTxStats.unmarshal
  respRx := doc.responderRxStatistics.map ResponderRxStats.unmarshal
  dcQcn := doc.dcqcnStats.map DcqcnStats.unmarshal

def StatisticsDocument.unmarshal (doc : StatisticsDocument) : QPStats where
  sq := doc.sendQueue.map SendQueueDocument.unmarshal
  rq := doc.receiveQueue.map ReceiveQueueDocument.unmarshal

def QPDocument.unmarshal (doc : QPDocument) : QPStatsInfo where
  specID := doc.specID
  stats := doc.statistics.map StatisticsDocument.unmarshal

def LifDocument.unmarshal (doc : LifDocument) : LifQPStats where
  specID := doc.specID
  qpStatsList := doc.queuePair.map QPDocument.unmarshal

def NicDocument.unmarshal (doc : NicDocument) : NicQPStats where
  id := doc.id
  lifList := doc.lif.map LifDocument.unmarshal

/--
The exports for each LIF of each NIC in the answers for all cards. `none` is a nil pointer.
-/
def NICAgentClient.updateQPStats [CaseMap] (na : NICAgentClient) (workloads : PodWorkloads)
    (mode : QPMode) (docs : List NicDocument) : Option (List (List LifQPExports)) :=
  if !mode.debugModeQP && !mode.fetchQPMetrics && !mode.fetchLIFAggQPMetrics then
    some []
  else
    na.exportQPStats workloads mode (docs.map NicDocument.unmarshal)

end NICAgent
