import DeviceMetricsExporter.GPUAgent.Impl.Fields

/-!
This module contains the profiler counters that the GPU metrics are read from.
-/

namespace GPUAgent

/--
The counter that the metrics table has for a field, empty for a field that is not a counter.
-/
def GPUMetricField.alias : GPUMetricField → String
  | GPU_PROF_GRBM_GUI_ACTIVE => "GRBM_GUI_ACTIVE"
  | GPU_PROF_SQ_WAVES => "SQ_WAVES"
  | GPU_PROF_GRBM_COUNT => "GRBM_COUNT"
  | GPU_PROF_FETCH_SIZE => "FETCH_SIZE"
  | GPU_PROF_WRITE_SIZE => "WRITE_SIZE"
  | GPU_PROF_TOTAL_16_OPS => "TOTAL_16_OPS"
  | GPU_PROF_TOTAL_32_OPS => "TOTAL_32_OPS"
  | GPU_PROF_TOTAL_64_OPS => "TOTAL_64_OPS"
  | GPU_PROF_CPC_CPC_STAT_BUSY => "CPC_CPC_STAT_BUSY"
  | GPU_PROF_CPC_CPC_STAT_IDLE => "CPC_CPC_STAT_IDLE"
  | GPU_PROF_CPC_CPC_STAT_STALL => "CPC_CPC_STAT_STALL"
  | GPU_PROF_CPC_CPC_TCIU_BUSY => "CPC_CPC_TCIU_BUSY"
  | GPU_PROF_CPC_CPC_TCIU_IDLE => "CPC_CPC_TCIU_IDLE"
  | GPU_PROF_CPC_CPC_UTCL2IU_BUSY => "CPC_CPC_UTCL2IU_BUSY"
  | GPU_PROF_CPC_CPC_UTCL2IU_IDLE => "CPC_CPC_UTCL2IU_IDLE"
  | GPU_PROF_CPC_CPC_UTCL2IU_STALL => "CPC_CPC_UTCL2IU_STALL"
  | GPU_PROF_CPC_ME1_BUSY_FOR_PACKET_DECODE => "CPC_ME1_BUSY_FOR_PACKET_DECODE"
  | GPU_PROF_CPC_ME1_DC0_SPI_BUSY => "CPC_ME1_DC0_SPI_BUSY"
  | GPU_PROF_CPC_UTCL1_STALL_ON_TRANSLATION => "CPC_UTCL1_STALL_ON_TRANSLATION"
  | GPU_PROF_CPC_ALWAYS_COUNT => "CPC_ALWAYS_COUNT"
  | GPU_PROF_CPC_ADC_VALID_CHUNK_NOT_AVAIL => "CPC_ADC_VALID_CHUNK_NOT_AVAIL"
  | GPU_PROF_CPC_ADC_DISPATCH_ALLOC_DONE => "CPC_ADC_DISPATCH_ALLOC_DONE"
  | GPU_PROF_CPC_ADC_VALID_CHUNK_END => "CPC_ADC_VALID_CHUNK_END"
  | GPU_PROF_CPC_SYNC_FIFO_FULL_LEVEL => "CPC_SYNC_FIFO_FULL_LEVEL"
  | GPU_PROF_CPC_SYNC_FIFO_FULL => "CPC_SYNC_FIFO_FULL"
  | GPU_PROF_CPC_GD_BUSY => "CPC_GD_BUSY"
  | GPU_PROF_CPC_TG_SEND => "CPC_TG_SEND"
  | GPU_PROF_CPC_WALK_NEXT_CHUNK => "CPC_WALK_NEXT_CHUNK"
  | GPU_PROF_CPC_STALLED_BY_SE0_SPI => "CPC_STALLED_BY_SE0_SPI"
  | GPU_PROF_CPC_STALLED_BY_SE1_SPI => "CPC_STALLED_BY_SE1_SPI"
  | GPU_PROF_CPC_STALLED_BY_SE2_SPI => "CPC_STALLED_BY_SE2_SPI"
  | GPU_PROF_CPC_STALLED_BY_SE3_SPI => "CPC_STALLED_BY_SE3_SPI"
  | GPU_PROF_CPC_LTE_ALL => "CPC_LTE_ALL"
  | GPU_PROF_CPC_SYNC_WRREQ_FIFO_BUSY => "CPC_SYNC_WRREQ_FIFO_BUSY"
  | GPU_PROF_CPC_CANE_BUSY => "CPC_CANE_BUSY"
  | GPU_PROF_CPC_CANE_STALL => "CPC_CANE_STALL"
  | GPU_PROF_CPF_CMP_UTCL1_STALL_ON_TRANSLATION => "CPF_CMP_UTCL1_STALL_ON_TRANSLATION"
  | GPU_PROF_CPF_CPF_STAT_BUSY => "CPF_CPF_STAT_BUSY"
  | GPU_PROF_CPF_CPF_STAT_IDLE => "CPF_CPF_STAT_IDLE"
  | GPU_PROF_CPF_CPF_STAT_STALL => "CPF_CPF_STAT_STALL"
  | GPU_PROF_CPF_CPF_TCIU_BUSY => "CPF_CPF_TCIU_BUSY"
  | GPU_PROF_CPF_CPF_TCIU_IDLE => "CPF_CPF_TCIU_IDLE"
  | GPU_PROF_CPF_CPF_TCIU_STALL => "CPF_CPF_TCIU_STALL"
  | GPU_PROF_GUI_UTIL_PERCENT => "GPU_UTIL"
  | GPU_PROF_OCCUPANCY_PERCENT => "OccupancyPercent"
  | GPU_PROF_TENSOR_ACTIVE_PERCENT => "MfmaUtil"
  | GPU_PROF_VALU_PIPE_ISSUE_UTIL => "ValuPipeIssueUtil"
  | GPU_PROF_SM_ACTIVE => "VALUBusy"
  | GPU_PROF_OCCUPANCY_ELAPSED => "MeanOccupancyPerActiveCU"
  | GPU_PROF_OCCUPANCY_PER_ACTIVE_CU => "MeanOccupancyPerActiveCU"
  | GPU_PROF_OCCUPANCY_PER_CU => "MeanOccupancyPerCU"
  | GPU_PROF_SIMD_UTILIZATION => "SIMD_UTILIZATION"
  | _ => ""

/--
The list for one order in which `range` visits the metrics table.
-/
def getAllSupportedProfilerFields (fieldMetricsMap : List GPUMetricField) : List String :=
  (fieldMetricsMap.map GPUMetricField.alias).filter (· ≠ "")

end GPUAgent
