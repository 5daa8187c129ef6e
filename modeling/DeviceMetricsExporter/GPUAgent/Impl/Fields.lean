import Mathlib.Data.List.Basic

/-!
This module contains the fields of the GPU metrics with their names and numbers.
-/

namespace GPUAgent

inductive GPUMetricField where
  | GPU_NODES_TOTAL | GPU_PACKAGE_POWER | GPU_AVERAGE_PACKAGE_POWER | GPU_EDGE_TEMPERATURE
  | GPU_JUNCTION_TEMPERATURE | GPU_MEMORY_TEMPERATURE | GPU_HBM_TEMPERATURE | GPU_GFX_ACTIVITY
  | GPU_UMC_ACTIVITY | GPU_MMA_ACTIVITY | GPU_VCN_ACTIVITY | GPU_JPEG_ACTIVITY | GPU_VOLTAGE
  | GPU_GFX_VOLTAGE | GPU_MEMORY_VOLTAGE | PCIE_SPEED | PCIE_MAX_SPEED | PCIE_BANDWIDTH
  | GPU_ENERGY_CONSUMED | PCIE_REPLAY_COUNT | PCIE_RECOVERY_COUNT | PCIE_REPLAY_ROLLOVER_COUNT
  | PCIE_NACK_SENT_COUNT | PCIE_NACK_RECEIVED_COUNT | GPU_CLOCK | GPU_POWER_USAGE | GPU_TOTAL_VRAM
  | GPU_ECC_CORRECT_TOTAL | GPU_ECC_UNCORRECT_TOTAL | GPU_ECC_CORRECT_SDMA
  | GPU_ECC_UNCORRECT_SDMA | GPU_ECC_CORRECT_GFX | GPU_ECC_UNCORRECT_GFX | GPU_ECC_CORRECT_MMHUB
  | GPU_ECC_UNCORRECT_MMHUB | GPU_ECC_CORRECT_ATHUB | GPU_ECC_UNCORRECT_ATHUB
  | GPU_ECC_CORRECT_BIF | GPU_ECC_UNCORRECT_BIF | GPU_ECC_CORRECT_HDP | GPU_ECC_UNCORRECT_HDP
  | GPU_ECC_CORRECT_XGMI_WAFL | GPU_ECC_UNCORRECT_XGMI_WAFL | GPU_ECC_CORRECT_DF
  | GPU_ECC_UNCORRECT_DF | GPU_ECC_CORRECT_SMN | GPU_ECC_UNCORRECT_SMN | GPU_ECC_CORRECT_SEM
  | GPU_ECC_UNCORRECT_SEM | GPU_ECC_CORRECT_MP0 | GPU_ECC_UNCORRECT_MP0 | GPU_ECC_CORRECT_MP1
  | GPU_ECC_UNCORRECT_MP1 | GPU_ECC_CORRECT_FUSE | GPU_ECC_UNCORRECT_FUSE | GPU_ECC_CORRECT_UMC
  | GPU_ECC_UNCORRECT_UMC | GPU_XGMI_NBR_0_NOP_TX | GPU_XGMI_NBR_0_REQ_TX | GPU_XGMI_NBR_0_RESP_TX
  | GPU_XGMI_NBR_0_BEATS_TX | GPU_XGMI_NBR_1_NOP_TX | GPU_XGMI_NBR_1_REQ_TX
  | GPU_XGMI_NBR_1_RESP_TX | GPU_XGMI_NBR_1_BEATS_TX | GPU_XGMI_NBR_0_TX_THRPUT
  | GPU_XGMI_NBR_1_TX_THRPUT | GPU_XGMI_NBR_2_TX_THRPUT | GPU_XGMI_NBR_3_TX_THRPUT
  | GPU_XGMI_NBR_4_TX_THRPUT | GPU_XGMI_NBR_5_TX_THRPUT | GPU_USED_VRAM | GPU_FREE_VRAM
  | GPU_TOTAL_VISIBLE_VRAM | GPU_USED_VISIBLE_VRAM | GPU_FREE_VISIBLE_VRAM | GPU_TOTAL_GTT
  | GPU_USED_GTT | GPU_FREE_GTT | GPU_ECC_CORRECT_MCA | GPU_ECC_UNCORRECT_MCA
  | GPU_ECC_CORRECT_VCN | GPU_ECC_UNCORRECT_VCN | GPU_ECC_CORRECT_JPEG | GPU_ECC_UNCORRECT_JPEG
  | GPU_ECC_CORRECT_IH | GPU_ECC_UNCORRECT_IH | GPU_ECC_CORRECT_MPIO | GPU_ECC_UNCORRECT_MPIO
  | GPU_HEALTH | GPU_XGMI_LINK_RX | GPU_XGMI_LINK_TX | GPU_VIOLATION_CURRENT_ACCUMULATED_COUNTER
  | GPU_VIOLATION_PROCESSOR_HOT_RESIDENCY_ACCUMULATED | GPU_VIOLATION_PPT_RESIDENCY_ACCUMULATED
  | GPU_VIOLATION_SOCKET_THERMAL_RESIDENCY_ACCUMULATED
  | GPU_VIOLATION_VR_THERMAL_RESIDENCY_ACCUMULATED
  | GPU_VIOLATION_HBM_THERMAL_RESIDENCY_ACCUMULATED | GPU_GFX_BUSY_INSTANTANEOUS
  | GPU_VCN_BUSY_INSTANTANEOUS | GPU_JPEG_BUSY_INSTANTANEOUS | PCIE_RX | PCIE_TX
  | PCIE_BIDIRECTIONAL_BANDWIDTH | GPU_AFID_ERRORS
  | GPU_VIOLATION_PROCESSOR_HOT_RESIDENCY_PERCENTAGE | GPU_VIOLATION_PPT_RESIDENCY_PERCENTAGE
  | GPU_VIOLATION_SOCKET_THERMAL_RESIDENCY_PERCENTAGE
  | GPU_VIOLATION_VR_THERMAL_RESIDENCY_PERCENTAGE | GPU_VIOLATION_HBM_THERMAL_RESIDENCY_PERCENTAGE
  | GPU_VIOLATION_GFX_CLOCK_BELOW_HOST_LIMIT_POWER_ACCUMULATED
  | GPU_VIOLATION_GFX_CLOCK_BELOW_HOST_LIMIT_THERMAL_ACCUMULATED
  | GPU_VIOLATION_LOW_UTILIZATION_ACCUMULATED
  | GPU_VIOLATION_GFX_CLOCK_BELOW_HOST_LIMIT_TOTAL_ACCUMULATED
  | GPU_VIOLATION_GFX_CLOCK_BELOW_HOST_LIMIT_POWER_PERCENTAGE
  | GPU_VIOLATION_GFX_CLOCK_BELOW_HOST_LIMIT_THERMAL_PERCENTAGE
  | GPU_VIOLATION_LOW_UTILIZATION_PERCENTAGE
  | GPU_VIOLATION_GFX_CLOCK_BELOW_HOST_LIMIT_TOTAL_PERCENTAGE | GPU_MAX_CLOCK | GPU_MIN_CLOCK
  | GPU_PROCESS_CU_OCCUPANCY | GPU_VRAM_MAX_BANDWIDTH | GPU_ECC_DEFERRED_TOTAL
  | GPU_ECC_DEFERRED_SDMA | GPU_ECC_DEFERRED_GFX | GPU_ECC_DEFERRED_MMHUB | GPU_ECC_DEFERRED_ATHUB
  | GPU_ECC_DEFERRED_BIF | GPU_ECC_DEFERRED_HDP | GPU_ECC_DEFERRED_XGMI_WAFL | GPU_ECC_DEFERRED_DF
  | GPU_ECC_DEFERRED_SMN | GPU_ECC_DEFERRED_SEM | GPU_ECC_DEFERRED_MP0 | GPU_ECC_DEFERRED_MP1
  | GPU_ECC_DEFERRED_FUSE | GPU_ECC_DEFERRED_UMC | GPU_ECC_DEFERRED_MCA | GPU_ECC_DEFERRED_VCN
  | GPU_ECC_DEFERRED_JPEG | GPU_ECC_DEFERRED_IH | GPU_ECC_DEFERRED_MPIO | GPU_PROF_GRBM_GUI_ACTIVE
  | GPU_PROF_SQ_WAVES | GPU_PROF_GRBM_COUNT | GPU_PROF_CPC_CPC_STAT_BUSY
  | GPU_PROF_CPC_CPC_STAT_IDLE | GPU_PROF_CPC_CPC_STAT_STALL | GPU_PROF_CPC_CPC_TCIU_BUSY
  | GPU_PROF_CPC_CPC_TCIU_IDLE | GPU_PROF_CPC_CPC_UTCL2IU_BUSY | GPU_PROF_CPC_CPC_UTCL2IU_IDLE
  | GPU_PROF_CPC_CPC_UTCL2IU_STALL | GPU_PROF_CPC_ME1_BUSY_FOR_PACKET_DECODE
  | GPU_PROF_CPC_ME1_DC0_SPI_BUSY | GPU_PROF_CPC_UTCL1_STALL_ON_TRANSLATION
  | GPU_PROF_CPC_ALWAYS_COUNT | GPU_PROF_CPC_ADC_VALID_CHUNK_NOT_AVAIL
  | GPU_PROF_CPC_ADC_DISPATCH_ALLOC_DONE | GPU_PROF_CPC_ADC_VALID_CHUNK_END
  | GPU_PROF_CPC_SYNC_FIFO_FULL_LEVEL | GPU_PROF_CPC_SYNC_FIFO_FULL | GPU_PROF_CPC_GD_BUSY
  | GPU_PROF_CPC_TG_SEND | GPU_PROF_CPC_WALK_NEXT_CHUNK | GPU_PROF_CPC_STALLED_BY_SE0_SPI
  | GPU_PROF_CPC_STALLED_BY_SE1_SPI | GPU_PROF_CPC_STALLED_BY_SE2_SPI
  | GPU_PROF_CPC_STALLED_BY_SE3_SPI | GPU_PROF_CPC_LTE_ALL | GPU_PROF_CPC_SYNC_WRREQ_FIFO_BUSY
  | GPU_PROF_CPC_CANE_BUSY | GPU_PROF_CPC_CANE_STALL | GPU_PROF_CPF_CMP_UTCL1_STALL_ON_TRANSLATION
  | GPU_PROF_CPF_CPF_STAT_BUSY | GPU_PROF_CPF_CPF_STAT_IDLE | GPU_PROF_CPF_CPF_STAT_STALL
  | GPU_PROF_CPF_CPF_TCIU_BUSY | GPU_PROF_CPF_CPF_TCIU_IDLE | GPU_PROF_CPF_CPF_TCIU_STALL
  | GPU_PROF_FETCH_SIZE | GPU_PROF_WRITE_SIZE | GPU_PROF_TOTAL_16_OPS | GPU_PROF_TOTAL_32_OPS
  | GPU_PROF_TOTAL_64_OPS | GPU_PROF_GUI_UTIL_PERCENT | GPU_PROF_OCCUPANCY_PERCENT
  | GPU_PROF_TENSOR_ACTIVE_PERCENT | GPU_PROF_VALU_PIPE_ISSUE_UTIL | GPU_PROF_SM_ACTIVE
  | GPU_PROF_OCCUPANCY_ELAPSED | GPU_PROF_OCCUPANCY_PER_ACTIVE_CU | GPU_PROF_OCCUPANCY_PER_CU
  | GPU_PROF_SIMD_UTILIZATION
  deriving DecidableEq

namespace GPUMetricField

def name : GPUMetricField → String
  | GPU_NODES_TOTAL => "GPU_NODES_TOTAL"
  | GPU_PACKAGE_POWER => "GPU_PACKAGE_POWER"
  | GPU_AVERAGE_PACKAGE_POWER => "GPU_AVERAGE_PACKAGE_POWER"
  | GPU_EDGE_TEMPERATURE => "GPU_EDGE_TEMPERATURE"
  | GPU_JUNCTION_TEMPERATURE => "GPU_JUNCTION_TEMPERATURE"
  | GPU_MEMORY_TEMPERATURE => "GPU_MEMORY_TEMPERATURE"
  | GPU_HBM_TEMPERATURE => "GPU_HBM_TEMPERATURE"
  | GPU_GFX_ACTIVITY => "GPU_GFX_ACTIVITY"
  | GPU_UMC_ACTIVITY => "GPU_UMC_ACTIVITY"
  | GPU_MMA_ACTIVITY => "GPU_MMA_ACTIVITY"
  | GPU_VCN_ACTIVITY => "GPU_VCN_ACTIVITY"
  | GPU_JPEG_ACTIVITY => "GPU_JPEG_ACTIVITY"
  | GPU_VOLTAGE => "GPU_VOLTAGE"
  | GPU_GFX_VOLTAGE => "GPU_GFX_VOLTAGE"
  | GPU_MEMORY_VOLTAGE => "GPU_MEMORY_VOLTAGE"
  | PCIE_SPEED => "PCIE_SPEED"
  | PCIE_MAX_SPEED => "PCIE_MAX_SPEED"
  | PCIE_BANDWIDTH => "PCIE_BANDWIDTH"
  | GPU_ENERGY_CONSUMED => "GPU_ENERGY_CONSUMED"
  | PCIE_REPLAY_COUNT => "PCIE_REPLAY_COUNT"
  | PCIE_RECOVERY_COUNT => "PCIE_RECOVERY_COUNT"
  | PCIE_REPLAY_ROLLOVER_COUNT => "PCIE_REPLAY_ROLLOVER_COUNT"
  | PCIE_NACK_SENT_COUNT => "PCIE_NACK_SENT_COUNT"
  | PCIE_NACK_RECEIVED_COUNT => "PCIE_NACK_RECEIVED_COUNT"
  | GPU_CLOCK => "GPU_CLOCK"
  | GPU_POWER_USAGE => "GPU_POWER_USAGE"
  | GPU_TOTAL_VRAM => "GPU_TOTAL_VRAM"
  | GPU_ECC_CORRECT_TOTAL => "GPU_ECC_CORRECT_TOTAL"
  | GPU_ECC_UNCORRECT_TOTAL => "GPU_ECC_UNCORRECT_TOTAL"
  | GPU_ECC_CORRECT_SDMA => "GPU_ECC_CORRECT_SDMA"
  | GPU_ECC_UNCORRECT_SDMA => "GPU_ECC_UNCORRECT_SDMA"
  | GPU_ECC_CORRECT_GFX => "GPU_ECC_CORRECT_GFX"
  | GPU_ECC_UNCORRECT_GFX => "GPU_ECC_UNCORRECT_GFX"
  | GPU_ECC_CORRECT_MMHUB => "GPU_ECC_CORRECT_MMHUB"
  | GPU_ECC_UNCORRECT_MMHUB => "GPU_ECC_UNCORRECT_MMHUB"
  | GPU_ECC_CORRECT_ATHUB => "GPU_ECC_CORRECT_ATHUB"
  | GPU_ECC_UNCORRECT_ATHUB => "GPU_ECC_UNCORRECT_ATHUB"
  | GPU_ECC_CORRECT_BIF => "GPU_ECC_CORRECT_BIF"
  | GPU_ECC_UNCORRECT_BIF => "GPU_ECC_UNCORRECT_BIF"
  | GPU_ECC_CORRECT_HDP => "GPU_ECC_CORRECT_HDP"
  | GPU_ECC_UNCORRECT_HDP => "GPU_ECC_UNCORRECT_HDP"
  | GPU_ECC_CORRECT_XGMI_WAFL => "GPU_ECC_CORRECT_XGMI_WAFL"
  | GPU_ECC_UNCORRECT_XGMI_WAFL => "GPU_ECC_UNCORRECT_XGMI_WAFL"
  | GPU_ECC_CORRECT_DF => "GPU_ECC_CORRECT_DF"
  | GPU_ECC_UNCORRECT_DF => "GPU_ECC_UNCORRECT_DF"
  | GPU_ECC_CORRECT_SMN => "GPU_ECC_CORRECT_SMN"
  | GPU_ECC_UNCORRECT_SMN => "GPU_ECC_UNCORRECT_SMN"
  | GPU_ECC_CORRECT_SEM => "GPU_ECC_CORRECT_SEM"
  | GPU_ECC_UNCORRECT_SEM => "GPU_ECC_UNCORRECT_SEM"
  | GPU_ECC_CORRECT_MP0 => "GPU_ECC_CORRECT_MP0"
  | GPU_ECC_UNCORRECT_MP0 => "GPU_ECC_UNCORRECT_MP0"
  | GPU_ECC_CORRECT_MP1 => "GPU_ECC_CORRECT_MP1"
  | GPU_ECC_UNCORRECT_MP1 => "GPU_ECC_UNCORRECT_MP1"
  | GPU_ECC_CORRECT_FUSE => "GPU_ECC_CORRECT_FUSE"
  | GPU_ECC_UNCORRECT_FUSE => "GPU_ECC_UNCORRECT_FUSE"
  | GPU_ECC_CORRECT_UMC => "GPU_ECC_CORRECT_UMC"
  | GPU_ECC_UNCORRECT_UMC => "GPU_ECC_UNCORRECT_UMC"
  | GPU_XGMI_NBR_0_NOP_TX => "GPU_XGMI_NBR_0_NOP_TX"
  | GPU_XGMI_NBR_0_REQ_TX => "GPU_XGMI_NBR_0_REQ_TX"
  | GPU_XGMI_NBR_0_RESP_TX => "GPU_XGMI_NBR_0_RESP_TX"
  | GPU_XGMI_NBR_0_BEATS_TX => "GPU_XGMI_NBR_0_BEATS_TX"
  | GPU_XGMI_NBR_1_NOP_TX => "GPU_XGMI_NBR_1_NOP_TX"
  | GPU_XGMI_NBR_1_REQ_TX => "GPU_XGMI_NBR_1_REQ_TX"
  | GPU_XGMI_NBR_1_RESP_TX => "GPU_XGMI_NBR_1_RESP_TX"
  | GPU_XGMI_NBR_1_BEATS_TX => "GPU_XGMI_NBR_1_BEATS_TX"
  | GPU_XGMI_NBR_0_TX_THRPUT => "GPU_XGMI_NBR_0_TX_THRPUT"
  | GPU_XGMI_NBR_1_TX_THRPUT => "GPU_XGMI_NBR_1_TX_THRPUT"
  | GPU_XGMI_NBR_2_TX_THRPUT => "GPU_XGMI_NBR_2_TX_THRPUT"
  | GPU_XGMI_NBR_3_TX_THRPUT => "GPU_XGMI_NBR_3_TX_THRPUT"
  | GPU_XGMI_NBR_4_TX_THRPUT => "GPU_XGMI_NBR_4_TX_THRPUT"
  | GPU_XGMI_NBR_5_TX_THRPUT => "GPU_XGMI_NBR_5_TX_THRPUT"
  | GPU_USED_VRAM => "GPU_USED_VRAM"
  | GPU_FREE_VRAM => "GPU_FREE_VRAM"
  | GPU_TOTAL_VISIBLE_VRAM => "GPU_TOTAL_VISIBLE_VRAM"
  | GPU_USED_VISIBLE_VRAM => "GPU_USED_VISIBLE_VRAM"
  | GPU_FREE_VISIBLE_VRAM => "GPU_FREE_VISIBLE_VRAM"
  | GPU_TOTAL_GTT => "GPU_TOTAL_GTT"
  | GPU_USED_GTT => "GPU_USED_GTT"
  | GPU_FREE_GTT => "GPU_FREE_GTT"
  | GPU_ECC_CORRECT_MCA => "GPU_ECC_CORRECT_MCA"
  | GPU_ECC_UNCORRECT_MCA => "GPU_ECC_UNCORRECT_MCA"
  | GPU_ECC_CORRECT_VCN => "GPU_ECC_CORRECT_VCN"
  | GPU_ECC_UNCORRECT_VCN => "GPU_ECC_UNCORRECT_VCN"
  | GPU_ECC_CORRECT_JPEG => "GPU_ECC_CORRECT_JPEG"
  | GPU_ECC_UNCORRECT_JPEG => "GPU_ECC_UNCORRECT_JPEG"
  | GPU_ECC_CORRECT_IH => "GPU_ECC_CORRECT_IH"
  | GPU_ECC_UNCORRECT_IH => "GPU_ECC_UNCORRECT_IH"
  | GPU_ECC_CORRECT_MPIO => "GPU_ECC_CORRECT_MPIO"
  | GPU_ECC_UNCORRECT_MPIO => "GPU_ECC_UNCORRECT_MPIO"
  | GPU_HEALTH => "GPU_HEALTH"
  | GPU_XGMI_LINK_RX => "GPU_XGMI_LINK_RX"
  | GPU_XGMI_LINK_TX => "GPU_XGMI_LINK_TX"
  | GPU_VIOLATION_CURRENT_ACCUMULATED_COUNTER => "GPU_VIOLATION_CURRENT_ACCUMULATED_COUNTER"
  | GPU_VIOLATION_PROCESSOR_HOT_RESIDENCY_ACCUMULATED => "GPU_VIOLATION_PROCESSOR_HOT_RESIDENCY_ACCUMULATED"
  | GPU_VIOLATION_PPT_RESIDENCY_ACCUMULATED => "GPU_VIOLATION_PPT_RESIDENCY_ACCUMULATED"
  | GPU_VIOLATION_SOCKET_THERMAL_RESIDENCY_ACCUMULATED => "GPU_VIOLATION_SOCKET_THERMAL_RESIDENCY_ACCUMULATED"
  | GPU_VIOLATION_VR_THERMAL_RESIDENCY_ACCUMULATED => "GPU_VIOLATION_VR_THERMAL_RESIDENCY_ACCUMULATED"
  | GPU_VIOLATION_HBM_THERMAL_RESIDENCY_ACCUMULATED => "GPU_VIOLATION_HBM_THERMAL_RESIDENCY_ACCUMULATED"
  | GPU_GFX_BUSY_INSTANTANEOUS => "GPU_GFX_BUSY_INSTANTANEOUS"
  | GPU_VCN_BUSY_INSTANTANEOUS => "GPU_VCN_BUSY_INSTANTANEOUS"
  | GPU_JPEG_BUSY_INSTANTANEOUS => "GPU_JPEG_BUSY_INSTANTANEOUS"
  | PCIE_RX => "PCIE_RX"
  | PCIE_TX => "PCIE_TX"
  | PCIE_BIDIRECTIONAL_BANDWIDTH => "PCIE_BIDIRECTIONAL_BANDWIDTH"
  | GPU_AFID_ERRORS => "GPU_AFID_ERRORS"
  | GPU_VIOLATION_PROCESSOR_HOT_RESIDENCY_PERCENTAGE => "GPU_VIOLATION_PROCESSOR_HOT_RESIDENCY_PERCENTAGE"
  | GPU_VIOLATION_PPT_RESIDENCY_PERCENTAGE => "GPU_VIOLATION_PPT_RESIDENCY_PERCENTAGE"
  | GPU_VIOLATION_SOCKET_THERMAL_RESIDENCY_PERCENTAGE => "GPU_VIOLATION_SOCKET_THERMAL_RESIDENCY_PERCENTAGE"
  | GPU_VIOLATION_VR_THERMAL_RESIDENCY_PERCENTAGE => "GPU_VIOLATION_VR_THERMAL_RESIDENCY_PERCENTAGE"
  | GPU_VIOLATION_HBM_THERMAL_RESIDENCY_PERCENTAGE => "GPU_VIOLATION_HBM_THERMAL_RESIDENCY_PERCENTAGE"
  | GPU_VIOLATION_GFX_CLOCK_BELOW_HOST_LIMIT_POWER_ACCUMULATED => "GPU_VIOLATION_GFX_CLOCK_BELOW_HOST_LIMIT_POWER_ACCUMULATED"
  | GPU_VIOLATION_GFX_CLOCK_BELOW_HOST_LIMIT_THERMAL_ACCUMULATED => "GPU_VIOLATION_GFX_CLOCK_BELOW_HOST_LIMIT_THERMAL_ACCUMULATED"
  | GPU_VIOLATION_LOW_UTILIZATION_ACCUMULATED => "GPU_VIOLATION_LOW_UTILIZATION_ACCUMULATED"
  | GPU_VIOLATION_GFX_CLOCK_BELOW_HOST_LIMIT_TOTAL_ACCUMULATED => "GPU_VIOLATION_GFX_CLOCK_BELOW_HOST_LIMIT_TOTAL_ACCUMULATED"
  | GPU_VIOLATION_GFX_CLOCK_BELOW_HOST_LIMIT_POWER_PERCENTAGE => "GPU_VIOLATION_GFX_CLOCK_BELOW_HOST_LIMIT_POWER_PERCENTAGE"
  | GPU_VIOLATION_GFX_CLOCK_BELOW_HOST_LIMIT_THERMAL_PERCENTAGE => "GPU_VIOLATION_GFX_CLOCK_BELOW_HOST_LIMIT_THERMAL_PERCENTAGE"
  | GPU_VIOLATION_LOW_UTILIZATION_PERCENTAGE => "GPU_VIOLATION_LOW_UTILIZATION_PERCENTAGE"
  | GPU_VIOLATION_GFX_CLOCK_BELOW_HOST_LIMIT_TOTAL_PERCENTAGE => "GPU_VIOLATION_GFX_CLOCK_BELOW_HOST_LIMIT_TOTAL_PERCENTAGE"
  | GPU_MAX_CLOCK => "GPU_MAX_CLOCK"
  | GPU_MIN_CLOCK => "GPU_MIN_CLOCK"
  | GPU_PROCESS_CU_OCCUPANCY => "GPU_PROCESS_CU_OCCUPANCY"
  | GPU_VRAM_MAX_BANDWIDTH => "GPU_VRAM_MAX_BANDWIDTH"
  | GPU_ECC_DEFERRED_TOTAL => "GPU_ECC_DEFERRED_TOTAL"
  | GPU_ECC_DEFERRED_SDMA => "GPU_ECC_DEFERRED_SDMA"
  | GPU_ECC_DEFERRED_GFX => "GPU_ECC_DEFERRED_GFX"
  | GPU_ECC_DEFERRED_MMHUB => "GPU_ECC_DEFERRED_MMHUB"
  | GPU_ECC_DEFERRED_ATHUB => "GPU_ECC_DEFERRED_ATHUB"
  | GPU_ECC_DEFERRED_BIF => "GPU_ECC_DEFERRED_BIF"
  | GPU_ECC_DEFERRED_HDP => "GPU_ECC_DEFERRED_HDP"
  | GPU_ECC_DEFERRED_XGMI_WAFL => "GPU_ECC_DEFERRED_XGMI_WAFL"
  | GPU_ECC_DEFERRED_DF => "GPU_ECC_DEFERRED_DF"
  | GPU_ECC_DEFERRED_SMN => "GPU_ECC_DEFERRED_SMN"
  | GPU_ECC_DEFERRED_SEM => "GPU_ECC_DEFERRED_SEM"
  | GPU_ECC_DEFERRED_MP0 => "GPU_ECC_DEFERRED_MP0"
  | GPU_ECC_DEFERRED_MP1 => "GPU_ECC_DEFERRED_MP1"
  | GPU_ECC_DEFERRED_FUSE => "GPU_ECC_DEFERRED_FUSE"
  | GPU_ECC_DEFERRED_UMC => "GPU_ECC_DEFERRED_UMC"
  | GPU_ECC_DEFERRED_MCA => "GPU_ECC_DEFERRED_MCA"
  | GPU_ECC_DEFERRED_VCN => "GPU_ECC_DEFERRED_VCN"
  | GPU_ECC_DEFERRED_JPEG => "GPU_ECC_DEFERRED_JPEG"
  | GPU_ECC_DEFERRED_IH => "GPU_ECC_DEFERRED_IH"
  | GPU_ECC_DEFERRED_MPIO => "GPU_ECC_DEFERRED_MPIO"
  | GPU_PROF_GRBM_GUI_ACTIVE => "GPU_PROF_GRBM_GUI_ACTIVE"
  | GPU_PROF_SQ_WAVES => "GPU_PROF_SQ_WAVES"
  | GPU_PROF_GRBM_COUNT => "GPU_PROF_GRBM_COUNT"
  | GPU_PROF_CPC_CPC_STAT_BUSY => "GPU_PROF_CPC_CPC_STAT_BUSY"
  | GPU_PROF_CPC_CPC_STAT_IDLE => "GPU_PROF_CPC_CPC_STAT_IDLE"
  | GPU_PROF_CPC_CPC_STAT_STALL => "GPU_PROF_CPC_CPC_STAT_STALL"
  | GPU_PROF_CPC_CPC_TCIU_BUSY => "GPU_PROF_CPC_CPC_TCIU_BUSY"
  | GPU_PROF_CPC_CPC_TCIU_IDLE => "GPU_PROF_CPC_CPC_TCIU_IDLE"
  | GPU_PROF_CPC_CPC_UTCL2IU_BUSY => "GPU_PROF_CPC_CPC_UTCL2IU_BUSY"
  | GPU_PROF_CPC_CPC_UTCL2IU_IDLE => "GPU_PROF_CPC_CPC_UTCL2IU_IDLE"
  | GPU_PROF_CPC_CPC_UTCL2IU_STALL => "GPU_PROF_CPC_CPC_UTCL2IU_STALL"
  | GPU_PROF_CPC_ME1_BUSY_FOR_PACKET_DECODE => "GPU_PROF_CPC_ME1_BUSY_FOR_PACKET_DECODE"
  | GPU_PROF_CPC_ME1_DC0_SPI_BUSY => "GPU_PROF_CPC_ME1_DC0_SPI_BUSY"
  | GPU_PROF_CPC_UTCL1_STALL_ON_TRANSLATION => "GPU_PROF_CPC_UTCL1_STALL_ON_TRANSLATION"
  | GPU_PROF_CPC_ALWAYS_COUNT => "GPU_PROF_CPC_ALWAYS_COUNT"
  | GPU_PROF_CPC_ADC_VALID_CHUNK_NOT_AVAIL => "GPU_PROF_CPC_ADC_VALID_CHUNK_NOT_AVAIL"
  | GPU_PROF_CPC_ADC_DISPATCH_ALLOC_DONE => "GPU_PROF_CPC_ADC_DISPATCH_ALLOC_DONE"
  | GPU_PROF_CPC_ADC_VALID_CHUNK_END => "GPU_PROF_CPC_ADC_VALID_CHUNK_END"
  | GPU_PROF_CPC_SYNC_FIFO_FULL_LEVEL => "GPU_PROF_CPC_SYNC_FIFO_FULL_LEVEL"
  | GPU_PROF_CPC_SYNC_FIFO_FULL => "GPU_PROF_CPC_SYNC_FIFO_FULL"
  | GPU_PROF_CPC_GD_BUSY => "GPU_PROF_CPC_GD_BUSY"
  | GPU_PROF_CPC_TG_SEND => "GPU_PROF_CPC_TG_SEND"
  | GPU_PROF_CPC_WALK_NEXT_CHUNK => "GPU_PROF_CPC_WALK_NEXT_CHUNK"
  | GPU_PROF_CPC_STALLED_BY_SE0_SPI => "GPU_PROF_CPC_STALLED_BY_SE0_SPI"
  | GPU_PROF_CPC_STALLED_BY_SE1_SPI => "GPU_PROF_CPC_STALLED_BY_SE1_SPI"
  | GPU_PROF_CPC_STALLED_BY_SE2_SPI => "GPU_PROF_CPC_STALLED_BY_SE2_SPI"
  | GPU_PROF_CPC_STALLED_BY_SE3_SPI => "GPU_PROF_CPC_STALLED_BY_SE3_SPI"
  | GPU_PROF_CPC_LTE_ALL => "GPU_PROF_CPC_LTE_ALL"
  | GPU_PROF_CPC_SYNC_WRREQ_FIFO_BUSY => "GPU_PROF_CPC_SYNC_WRREQ_FIFO_BUSY"
  | GPU_PROF_CPC_CANE_BUSY => "GPU_PROF_CPC_CANE_BUSY"
  | GPU_PROF_CPC_CANE_STALL => "GPU_PROF_CPC_CANE_STALL"
  | GPU_PROF_CPF_CMP_UTCL1_STALL_ON_TRANSLATION => "GPU_PROF_CPF_CMP_UTCL1_STALL_ON_TRANSLATION"
  | GPU_PROF_CPF_CPF_STAT_BUSY => "GPU_PROF_CPF_CPF_STAT_BUSY"
  | GPU_PROF_CPF_CPF_STAT_IDLE => "GPU_PROF_CPF_CPF_STAT_IDLE"
  | GPU_PROF_CPF_CPF_STAT_STALL => "GPU_PROF_CPF_CPF_STAT_STALL"
  | GPU_PROF_CPF_CPF_TCIU_BUSY => "GPU_PROF_CPF_CPF_TCIU_BUSY"
  | GPU_PROF_CPF_CPF_TCIU_IDLE => "GPU_PROF_CPF_CPF_TCIU_IDLE"
  | GPU_PROF_CPF_CPF_TCIU_STALL => "GPU_PROF_CPF_CPF_TCIU_STALL"
  | GPU_PROF_FETCH_SIZE => "GPU_PROF_FETCH_SIZE"
  | GPU_PROF_WRITE_SIZE => "GPU_PROF_WRITE_SIZE"
  | GPU_PROF_TOTAL_16_OPS => "GPU_PROF_TOTAL_16_OPS"
  | GPU_PROF_TOTAL_32_OPS => "GPU_PROF_TOTAL_32_OPS"
  | GPU_PROF_TOTAL_64_OPS => "GPU_PROF_TOTAL_64_OPS"
  | GPU_PROF_GUI_UTIL_PERCENT => "GPU_PROF_GUI_UTIL_PERCENT"
  | GPU_PROF_OCCUPANCY_PERCENT => "GPU_PROF_OCCUPANCY_PERCENT"
  | GPU_PROF_TENSOR_ACTIVE_PERCENT => "GPU_PROF_TENSOR_ACTIVE_PERCENT"
  | GPU_PROF_VALU_PIPE_ISSUE_UTIL => "GPU_PROF_VALU_PIPE_ISSUE_UTIL"
  | GPU_PROF_SM_ACTIVE => "GPU_PROF_SM_ACTIVE"
  | GPU_PROF_OCCUPANCY_ELAPSED => "GPU_PROF_OCCUPANCY_ELAPSED"
  | GPU_PROF_OCCUPANCY_PER_ACTIVE_CU => "GPU_PROF_OCCUPANCY_PER_ACTIVE_CU"
  | GPU_PROF_OCCUPANCY_PER_CU => "GPU_PROF_OCCUPANCY_PER_CU"
  | GPU_PROF_SIMD_UTILIZATION => "GPU_PROF_SIMD_UTILIZATION"

def number : GPUMetricField → Nat
  | GPU_NODES_TOTAL => 0
  | GPU_PACKAGE_POWER => 1
  | GPU_AVERAGE_PACKAGE_POWER => 2
  | GPU_EDGE_TEMPERATURE => 3
  | GPU_JUNCTION_TEMPERATURE => 4
  | GPU_MEMORY_TEMPERATURE => 5
  | GPU_HBM_TEMPERATURE => 6
  | GPU_GFX_ACTIVITY => 7
  | GPU_UMC_ACTIVITY => 8
  | GPU_MMA_ACTIVITY => 9
  | GPU_VCN_ACTIVITY => 10
  | GPU_JPEG_ACTIVITY => 11
  | GPU_VOLTAGE => 12
  | GPU_GFX_VOLTAGE => 13
  | GPU_MEMORY_VOLTAGE => 14
  | PCIE_SPEED => 15
  | PCIE_MAX_SPEED => 16
  | PCIE_BANDWIDTH => 17
  | GPU_ENERGY_CONSUMED => 18
  | PCIE_REPLAY_COUNT => 19
  | PCIE_RECOVERY_COUNT => 20
  | PCIE_REPLAY_ROLLOVER_COUNT => 21
  | PCIE_NACK_SENT_COUNT => 22
  | PCIE_NACK_RECEIVED_COUNT => 23
  | GPU_CLOCK => 24
  | GPU_POWER_USAGE => 25
  | GPU_TOTAL_VRAM => 26
  | GPU_ECC_CORRECT_TOTAL => 27
  | GPU_ECC_UNCORRECT_TOTAL => 28
  | GPU_ECC_CORRECT_SDMA => 29
  | GPU_ECC_UNCORRECT_SDMA => 30
  | GPU_ECC_CORRECT_GFX => 31
  | GPU_ECC_UNCORRECT_GFX => 32
  | GPU_ECC_CORRECT_MMHUB => 33
  | GPU_ECC_UNCORRECT_MMHUB => 34
  | GPU_ECC_CORRECT_ATHUB => 35
  | GPU_ECC_UNCORRECT_ATHUB => 36
  | GPU_ECC_CORRECT_BIF => 37
  | GPU_ECC_UNCORRECT_BIF => 38
  | GPU_ECC_CORRECT_HDP => 39
  | GPU_ECC_UNCORRECT_HDP => 40
  | GPU_ECC_CORRECT_XGMI_WAFL => 41
  | GPU_ECC_UNCORRECT_XGMI_WAFL => 42
  | GPU_ECC_CORRECT_DF => 43
  | GPU_ECC_UNCORRECT_DF => 44
  | GPU_ECC_CORRECT_SMN => 45
  | GPU_ECC_UNCORRECT_SMN => 46
  | GPU_ECC_CORRECT_SEM => 47
  | GPU_ECC_UNCORRECT_SEM => 48
  | GPU_ECC_CORRECT_MP0 => 49
  | GPU_ECC_UNCORRECT_MP0 => 50
  | GPU_ECC_CORRECT_MP1 => 51
  | GPU_ECC_UNCORRECT_MP1 => 52
  | GPU_ECC_CORRECT_FUSE => 53
  | GPU_ECC_UNCORRECT_FUSE => 54
  | GPU_ECC_CORRECT_UMC => 55
  | GPU_ECC_UNCORRECT_UMC => 56
  | GPU_XGMI_NBR_0_NOP_TX => 57
  | GPU_XGMI_NBR_0_REQ_TX => 58
  | GPU_XGMI_NBR_0_RESP_TX => 59
  | GPU_XGMI_NBR_0_BEATS_TX => 60
  | GPU_XGMI_NBR_1_NOP_TX => 61
  | GPU_XGMI_NBR_1_REQ_TX => 62
  | GPU_XGMI_NBR_1_RESP_TX => 63
  | GPU_XGMI_NBR_1_BEATS_TX => 64
  | GPU_XGMI_NBR_0_TX_THRPUT => 65
  | GPU_XGMI_NBR_1_TX_THRPUT => 66
  | GPU_XGMI_NBR_2_TX_THRPUT => 67
  | GPU_XGMI_NBR_3_TX_THRPUT => 68
  | GPU_XGMI_NBR_4_TX_THRPUT => 69
  | GPU_XGMI_NBR_5_TX_THRPUT => 70
  | GPU_USED_VRAM => 71
  | GPU_FREE_VRAM => 72
  | GPU_TOTAL_VISIBLE_VRAM => 73
  | GPU_USED_VISIBLE_VRAM => 74
  | GPU_FREE_VISIBLE_VRAM => 75
  | GPU_TOTAL_GTT => 76
  | GPU_USED_GTT => 77
  | GPU_FREE_GTT => 78
  | GPU_ECC_CORRECT_MCA => 79
  | GPU_ECC_UNCORRECT_MCA => 80
  | GPU_ECC_CORRECT_VCN => 81
  | GPU_ECC_UNCORRECT_VCN => 82
  | GPU_ECC_CORRECT_JPEG => 83
  | GPU_ECC_UNCORRECT_JPEG => 84
  | GPU_ECC_CORRECT_IH => 85
  | GPU_ECC_UNCORRECT_IH => 86
  | GPU_ECC_CORRECT_MPIO => 87
  | GPU_ECC_UNCORRECT_MPIO => 88
  | GPU_HEALTH => 89
  | GPU_XGMI_LINK_RX => 90
  | GPU_XGMI_LINK_TX => 91
  | GPU_VIOLATION_CURRENT_ACCUMULATED_COUNTER => 92
  | GPU_VIOLATION_PROCESSOR_HOT_RESIDENCY_ACCUMULATED => 93
  | GPU_VIOLATION_PPT_RESIDENCY_ACCUMULATED => 94
  | GPU_VIOLATION_SOCKET_THERMAL_RESIDENCY_ACCUMULATED => 95
  | GPU_VIOLATION_VR_THERMAL_RESIDENCY_ACCUMULATED => 96
  | GPU_VIOLATION_HBM_THERMAL_RESIDENCY_ACCUMULATED => 97
  | GPU_GFX_BUSY_INSTANTANEOUS => 98
  | GPU_VCN_BUSY_INSTANTANEOUS => 99
  | GPU_JPEG_BUSY_INSTANTANEOUS => 100
  | PCIE_RX => 101
  | PCIE_TX => 102
  | PCIE_BIDIRECTIONAL_BANDWIDTH => 103
  | GPU_AFID_ERRORS => 104
  | GPU_VIOLATION_PROCESSOR_HOT_RESIDENCY_PERCENTAGE => 105
  | GPU_VIOLATION_PPT_RESIDENCY_PERCENTAGE => 106
  | GPU_VIOLATION_SOCKET_THERMAL_RESIDENCY_PERCENTAGE => 107
  | GPU_VIOLATION_VR_THERMAL_RESIDENCY_PERCENTAGE => 108
  | GPU_VIOLATION_HBM_THERMAL_RESIDENCY_PERCENTAGE => 109
  | GPU_VIOLATION_GFX_CLOCK_BELOW_HOST_LIMIT_POWER_ACCUMULATED => 110
  | GPU_VIOLATION_GFX_CLOCK_BELOW_HOST_LIMIT_THERMAL_ACCUMULATED => 111
  | GPU_VIOLATION_LOW_UTILIZATION_ACCUMULATED => 112
  | GPU_VIOLATION_GFX_CLOCK_BELOW_HOST_LIMIT_TOTAL_ACCUMULATED => 113
  | GPU_VIOLATION_GFX_CLOCK_BELOW_HOST_LIMIT_POWER_PERCENTAGE => 114
  | GPU_VIOLATION_GFX_CLOCK_BELOW_HOST_LIMIT_THERMAL_PERCENTAGE => 115
  | GPU_VIOLATION_LOW_UTILIZATION_PERCENTAGE => 116
  | GPU_VIOLATION_GFX_CLOCK_BELOW_HOST_LIMIT_TOTAL_PERCENTAGE => 117
  | GPU_MAX_CLOCK => 118
  | GPU_MIN_CLOCK => 119
  | GPU_PROCESS_CU_OCCUPANCY => 120
  | GPU_VRAM_MAX_BANDWIDTH => 121
  | GPU_ECC_DEFERRED_TOTAL => 122
  | GPU_ECC_DEFERRED_SDMA => 123
  | GPU_ECC_DEFERRED_GFX => 124
  | GPU_ECC_DEFERRED_MMHUB => 125
  | GPU_ECC_DEFERRED_ATHUB => 126
  | GPU_ECC_DEFERRED_BIF => 127
  | GPU_ECC_DEFERRED_HDP => 128
  | GPU_ECC_DEFERRED_XGMI_WAFL => 129
  | GPU_ECC_DEFERRED_DF => 130
  | GPU_ECC_DEFERRED_SMN => 131
  | GPU_ECC_DEFERRED_SEM => 132
  | GPU_ECC_DEFERRED_MP0 => 133
  | GPU_ECC_DEFERRED_MP1 => 134
  | GPU_ECC_DEFERRED_FUSE => 135
  | GPU_ECC_DEFERRED_UMC => 136
  | GPU_ECC_DEFERRED_MCA => 137
  | GPU_ECC_DEFERRED_VCN => 138
  | GPU_ECC_DEFERRED_JPEG => 139
  | GPU_ECC_DEFERRED_IH => 140
  | GPU_ECC_DEFERRED_MPIO => 141
  | GPU_PROF_GRBM_GUI_ACTIVE => 801
  | GPU_PROF_SQ_WAVES => 802
  | GPU_PROF_GRBM_COUNT => 803
  | GPU_PROF_CPC_CPC_STAT_BUSY => 804
  | GPU_PROF_CPC_CPC_STAT_IDLE => 805
  | GPU_PROF_CPC_CPC_STAT_STALL => 806
  | GPU_PROF_CPC_CPC_TCIU_BUSY => 807
  | GPU_PROF_CPC_CPC_TCIU_IDLE => 808
  | GPU_PROF_CPC_CPC_UTCL2IU_BUSY => 809
  | GPU_PROF_CPC_CPC_UTCL2IU_IDLE => 810
  | GPU_PROF_CPC_CPC_UTCL2IU_STALL => 811
  | GPU_PROF_CPC_ME1_BUSY_FOR_PACKET_DECODE => 812
  | GPU_PROF_CPC_ME1_DC0_SPI_BUSY => 813
  | GPU_PROF_CPC_UTCL1_STALL_ON_TRANSLATION => 814
  | GPU_PROF_CPC_ALWAYS_COUNT => 815
  | GPU_PROF_CPC_ADC_VALID_CHUNK_NOT_AVAIL => 816
  | GPU_PROF_CPC_ADC_DISPATCH_ALLOC_DONE => 817
  | GPU_PROF_CPC_ADC_VALID_CHUNK_END => 818
  | GPU_PROF_CPC_SYNC_FIFO_FULL_LEVEL => 819
  | GPU_PROF_CPC_SYNC_FIFO_FULL => 820
  | GPU_PROF_CPC_GD_BUSY => 821
  | GPU_PROF_CPC_TG_SEND => 822
  | GPU_PROF_CPC_WALK_NEXT_CHUNK => 823
  | GPU_PROF_CPC_STALLED_BY_SE0_SPI => 824
  | GPU_PROF_CPC_STALLED_BY_SE1_SPI => 825
  | GPU_PROF_CPC_STALLED_BY_SE2_SPI => 826
  | GPU_PROF_CPC_STALLED_BY_SE3_SPI => 827
  | GPU_PROF_CPC_LTE_ALL => 828
  | GPU_PROF_CPC_SYNC_WRREQ_FIFO_BUSY => 829
  | GPU_PROF_CPC_CANE_BUSY => 830
  | GPU_PROF_CPC_CANE_STALL => 831
  | GPU_PROF_CPF_CMP_UTCL1_STALL_ON_TRANSLATION => 832
  | GPU_PROF_CPF_CPF_STAT_BUSY => 833
  | GPU_PROF_CPF_CPF_STAT_IDLE => 834
  | GPU_PROF_CPF_CPF_STAT_STALL => 835
  | GPU_PROF_CPF_CPF_TCIU_BUSY => 836
  | GPU_PROF_CPF_CPF_TCIU_IDLE => 837
  | GPU_PROF_CPF_CPF_TCIU_STALL => 838
  | GPU_PROF_FETCH_SIZE => 1000
  | GPU_PROF_WRITE_SIZE => 1001
  | GPU_PROF_TOTAL_16_OPS => 1002
  | GPU_PROF_TOTAL_32_OPS => 1003
  | GPU_PROF_TOTAL_64_OPS => 1004
  | GPU_PROF_GUI_UTIL_PERCENT => 1005
  | GPU_PROF_OCCUPANCY_PERCENT => 1006
  | GPU_PROF_TENSOR_ACTIVE_PERCENT => 1007
  | GPU_PROF_VALU_PIPE_ISSUE_UTIL => 1008
  | GPU_PROF_SM_ACTIVE => 1009
  | GPU_PROF_OCCUPANCY_ELAPSED => 1010
  | GPU_PROF_OCCUPANCY_PER_ACTIVE_CU => 1011
  | GPU_PROF_OCCUPANCY_PER_CU => 1012
  | GPU_PROF_SIMD_UTILIZATION => 1013

def values : List GPUMetricField :=
  [GPU_NODES_TOTAL, GPU_PACKAGE_POWER, GPU_AVERAGE_PACKAGE_POWER, GPU_EDGE_TEMPERATURE,
    GPU_JUNCTION_TEMPERATURE, GPU_MEMORY_TEMPERATURE, GPU_HBM_TEMPERATURE, GPU_GFX_ACTIVITY,
    GPU_UMC_ACTIVITY, GPU_MMA_ACTIVITY, GPU_VCN_ACTIVITY, GPU_JPEG_ACTIVITY, GPU_VOLTAGE,
    GPU_GFX_VOLTAGE, GPU_MEMORY_VOLTAGE, PCIE_SPEED, PCIE_MAX_SPEED, PCIE_BANDWIDTH,
    GPU_ENERGY_CONSUMED, PCIE_REPLAY_COUNT, PCIE_RECOVERY_COUNT, PCIE_REPLAY_ROLLOVER_COUNT,
    PCIE_NACK_SENT_COUNT, PCIE_NACK_RECEIVED_COUNT, GPU_CLOCK, GPU_POWER_USAGE, GPU_TOTAL_VRAM,
    GPU_ECC_CORRECT_TOTAL, GPU_ECC_UNCORRECT_TOTAL, GPU_ECC_CORRECT_SDMA, GPU_ECC_UNCORRECT_SDMA,
    GPU_ECC_CORRECT_GFX, GPU_ECC_UNCORRECT_GFX, GPU_ECC_CORRECT_MMHUB, GPU_ECC_UNCORRECT_MMHUB,
    GPU_ECC_CORRECT_ATHUB, GPU_ECC_UNCORRECT_ATHUB, GPU_ECC_CORRECT_BIF, GPU_ECC_UNCORRECT_BIF,
    GPU_ECC_CORRECT_HDP, GPU_ECC_UNCORRECT_HDP, GPU_ECC_CORRECT_XGMI_WAFL,
    GPU_ECC_UNCORRECT_XGMI_WAFL, GPU_ECC_CORRECT_DF, GPU_ECC_UNCORRECT_DF, GPU_ECC_CORRECT_SMN,
    GPU_ECC_UNCORRECT_SMN, GPU_ECC_CORRECT_SEM, GPU_ECC_UNCORRECT_SEM, GPU_ECC_CORRECT_MP0,
    GPU_ECC_UNCORRECT_MP0, GPU_ECC_CORRECT_MP1, GPU_ECC_UNCORRECT_MP1, GPU_ECC_CORRECT_FUSE,
    GPU_ECC_UNCORRECT_FUSE, GPU_ECC_CORRECT_UMC, GPU_ECC_UNCORRECT_UMC, GPU_XGMI_NBR_0_NOP_TX,
    GPU_XGMI_NBR_0_REQ_TX, GPU_XGMI_NBR_0_RESP_TX, GPU_XGMI_NBR_0_BEATS_TX,
    GPU_XGMI_NBR_1_NOP_TX, GPU_XGMI_NBR_1_REQ_TX, GPU_XGMI_NBR_1_RESP_TX,
    GPU_XGMI_NBR_1_BEATS_TX, GPU_XGMI_NBR_0_TX_THRPUT, GPU_XGMI_NBR_1_TX_THRPUT,
    GPU_XGMI_NBR_2_TX_THRPUT, GPU_XGMI_NBR_3_TX_THRPUT, GPU_XGMI_NBR_4_TX_THRPUT,
    GPU_XGMI_NBR_5_TX_THRPUT, GPU_USED_VRAM, GPU_FREE_VRAM, GPU_TOTAL_VISIBLE_VRAM,
    GPU_USED_VISIBLE_VRAM, GPU_FREE_VISIBLE_VRAM, GPU_TOTAL_GTT, GPU_USED_GTT, GPU_FREE_GTT,
    GPU_ECC_CORRECT_MCA, GPU_ECC_UNCORRECT_MCA, GPU_ECC_CORRECT_VCN, GPU_ECC_UNCORRECT_VCN,
    GPU_ECC_CORRECT_JPEG, GPU_ECC_UNCORRECT_JPEG, GPU_ECC_CORRECT_IH, GPU_ECC_UNCORRECT_IH,
    GPU_ECC_CORRECT_MPIO, GPU_ECC_UNCORRECT_MPIO, GPU_HEALTH, GPU_XGMI_LINK_RX, GPU_XGMI_LINK_TX,
    GPU_VIOLATION_CURRENT_ACCUMULATED_COUNTER, GPU_VIOLATION_PROCESSOR_HOT_RESIDENCY_ACCUMULATED,
    GPU_VIOLATION_PPT_RESIDENCY_ACCUMULATED, GPU_VIOLATION_SOCKET_THERMAL_RESIDENCY_ACCUMULATED,
    GPU_VIOLATION_VR_THERMAL_RESIDENCY_ACCUMULATED,
    GPU_VIOLATION_HBM_THERMAL_RESIDENCY_ACCUMULATED, GPU_GFX_BUSY_INSTANTANEOUS,
    GPU_VCN_BUSY_INSTANTANEOUS, GPU_JPEG_BUSY_INSTANTANEOUS, PCIE_RX, PCIE_TX,
    PCIE_BIDIRECTIONAL_BANDWIDTH, GPU_AFID_ERRORS,
    GPU_VIOLATION_PROCESSOR_HOT_RESIDENCY_PERCENTAGE, GPU_VIOLATION_PPT_RESIDENCY_PERCENTAGE,
    GPU_VIOLATION_SOCKET_THERMAL_RESIDENCY_PERCENTAGE,
    GPU_VIOLATION_VR_THERMAL_RESIDENCY_PERCENTAGE,
    GPU_VIOLATION_HBM_THERMAL_RESIDENCY_PERCENTAGE,
    GPU_VIOLATION_GFX_CLOCK_BELOW_HOST_LIMIT_POWER_ACCUMULATED,
    GPU_VIOLATION_GFX_CLOCK_BELOW_HOST_LIMIT_THERMAL_ACCUMULATED,
    GPU_VIOLATION_LOW_UTILIZATION_ACCUMULATED,
    GPU_VIOLATION_GFX_CLOCK_BELOW_HOST_LIMIT_TOTAL_ACCUMULATED,
    GPU_VIOLATION_GFX_CLOCK_BELOW_HOST_LIMIT_POWER_PERCENTAGE,
    GPU_VIOLATION_GFX_CLOCK_BELOW_HOST_LIMIT_THERMAL_PERCENTAGE,
    GPU_VIOLATION_LOW_UTILIZATION_PERCENTAGE,
    GPU_VIOLATION_GFX_CLOCK_BELOW_HOST_LIMIT_TOTAL_PERCENTAGE, GPU_MAX_CLOCK, GPU_MIN_CLOCK,
    GPU_PROCESS_CU_OCCUPANCY, GPU_VRAM_MAX_BANDWIDTH, GPU_ECC_DEFERRED_TOTAL,
    GPU_ECC_DEFERRED_SDMA, GPU_ECC_DEFERRED_GFX, GPU_ECC_DEFERRED_MMHUB, GPU_ECC_DEFERRED_ATHUB,
    GPU_ECC_DEFERRED_BIF, GPU_ECC_DEFERRED_HDP, GPU_ECC_DEFERRED_XGMI_WAFL, GPU_ECC_DEFERRED_DF,
    GPU_ECC_DEFERRED_SMN, GPU_ECC_DEFERRED_SEM, GPU_ECC_DEFERRED_MP0, GPU_ECC_DEFERRED_MP1,
    GPU_ECC_DEFERRED_FUSE, GPU_ECC_DEFERRED_UMC, GPU_ECC_DEFERRED_MCA, GPU_ECC_DEFERRED_VCN,
    GPU_ECC_DEFERRED_JPEG, GPU_ECC_DEFERRED_IH, GPU_ECC_DEFERRED_MPIO, GPU_PROF_GRBM_GUI_ACTIVE,
    GPU_PROF_SQ_WAVES, GPU_PROF_GRBM_COUNT, GPU_PROF_CPC_CPC_STAT_BUSY,
    GPU_PROF_CPC_CPC_STAT_IDLE, GPU_PROF_CPC_CPC_STAT_STALL, GPU_PROF_CPC_CPC_TCIU_BUSY,
    GPU_PROF_CPC_CPC_TCIU_IDLE, GPU_PROF_CPC_CPC_UTCL2IU_BUSY, GPU_PROF_CPC_CPC_UTCL2IU_IDLE,
    GPU_PROF_CPC_CPC_UTCL2IU_STALL, GPU_PROF_CPC_ME1_BUSY_FOR_PACKET_DECODE,
    GPU_PROF_CPC_ME1_DC0_SPI_BUSY, GPU_PROF_CPC_UTCL1_STALL_ON_TRANSLATION,
    GPU_PROF_CPC_ALWAYS_COUNT, GPU_PROF_CPC_ADC_VALID_CHUNK_NOT_AVAIL,
    GPU_PROF_CPC_ADC_DISPATCH_ALLOC_DONE, GPU_PROF_CPC_ADC_VALID_CHUNK_END,
    GPU_PROF_CPC_SYNC_FIFO_FULL_LEVEL, GPU_PROF_CPC_SYNC_FIFO_FULL, GPU_PROF_CPC_GD_BUSY,
    GPU_PROF_CPC_TG_SEND, GPU_PROF_CPC_WALK_NEXT_CHUNK, GPU_PROF_CPC_STALLED_BY_SE0_SPI,
    GPU_PROF_CPC_STALLED_BY_SE1_SPI, GPU_PROF_CPC_STALLED_BY_SE2_SPI,
    GPU_PROF_CPC_STALLED_BY_SE3_SPI, GPU_PROF_CPC_LTE_ALL, GPU_PROF_CPC_SYNC_WRREQ_FIFO_BUSY,
    GPU_PROF_CPC_CANE_BUSY, GPU_PROF_CPC_CANE_STALL, GPU_PROF_CPF_CMP_UTCL1_STALL_ON_TRANSLATION,
    GPU_PROF_CPF_CPF_STAT_BUSY, GPU_PROF_CPF_CPF_STAT_IDLE, GPU_PROF_CPF_CPF_STAT_STALL,
    GPU_PROF_CPF_CPF_TCIU_BUSY, GPU_PROF_CPF_CPF_TCIU_IDLE, GPU_PROF_CPF_CPF_TCIU_STALL,
    GPU_PROF_FETCH_SIZE, GPU_PROF_WRITE_SIZE, GPU_PROF_TOTAL_16_OPS, GPU_PROF_TOTAL_32_OPS,
    GPU_PROF_TOTAL_64_OPS, GPU_PROF_GUI_UTIL_PERCENT, GPU_PROF_OCCUPANCY_PERCENT,
    GPU_PROF_TENSOR_ACTIVE_PERCENT, GPU_PROF_VALU_PIPE_ISSUE_UTIL, GPU_PROF_SM_ACTIVE,
    GPU_PROF_OCCUPANCY_ELAPSED, GPU_PROF_OCCUPANCY_PER_ACTIVE_CU, GPU_PROF_OCCUPANCY_PER_CU,
    GPU_PROF_SIMD_UTILIZATION]

end GPUMetricField

end GPUAgent
