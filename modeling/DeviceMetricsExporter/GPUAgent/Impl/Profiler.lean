import DeviceMetricsExporter.GPUAgent.Impl.Configs
import DeviceMetricsExporter.Rocprofiler.Impl.Client

/-!
This module contains the GPU client with its profiler client: `InitConfigs` recomputes whether the
profiler is enabled, and the metric requests in between ask the profiler client if it is.
-/

namespace GPUAgent

open Rocprofiler

/--
The configuration of the client and its profiler client with the calls of `GetMetrics` under way.
-/
structure ProfiledClient where
  configs : GPUConfigs
  rocpclient : CallPool ROCProfilerClient CacheCall

def newProfiledClient (handler : GPUHandler) (now : Int) : ProfiledClient where
  configs := newGPUConfigs handler
  rocpclient := ⟨newRocProfilerClient [] now, []⟩

/--
`getProfilerMetrics` is a new metric request, the last two are the steps of the requests under way
and of the surroundings of the profiler client.
-/
inductive ProfiledAction where
  | initConfigs (config : Option GPUMetricConfig)
  | getProfilerMetrics
  | call (i : Nat) (x : Option CmdResult)
  | env (e : ProfilerEnv)

namespace ProfiledClient

def latched (s : ProfiledClient) : GPUConfigs :=
  { s.configs with isDisabledOnFailure := s.rocpclient.shared.pCache.isDisabledOnFailure }

def isProfilerEnabled (handler : GPUHandler) (s : ProfiledClient) : Bool :=
  s.latched.isProfilerEnabled handler

def setFields (s : ProfiledClient) (fields : List String) : ProfiledClient :=
  { s with
    rocpclient :=
      { s.rocpclient with shared := { s.rocpclient.shared with metricFields := fields } } }

def rocpStep (s : ProfiledClient) (a : ProfilerAction) : Option ProfiledClient :=
  (cacheSystem.step s.rocpclient a).map fun rocpclient => { s with rocpclient }

def getProfilerMetrics (handler : GPUHandler) (s : ProfiledClient) : Option ProfiledClient :=
  if !s.isProfilerEnabled handler then some s else s.rocpStep (.start ())

variable [CaseMap]

def initConfigs (handler : GPUHandler) (fields : List String) (s : ProfiledClient)
    (config : Option GPUMetricConfig) : Option ProfiledClient :=
  (s.latched.initConfigs handler config).map fun configs =>
    let s := { s with configs }
    if s.isProfilerEnabled handler then s.setFields fields else s

def step (handler : GPUHandler) (fields : List String) (s : ProfiledClient) (a : ProfiledAction)
    : Option ProfiledClient :=
  match a with
  | .initConfigs config => s.initConfigs handler fields config
  | .getProfilerMetrics => s.getProfilerMetrics handler
  | .call i x => s.rocpStep (.call i x)
  | .env e => s.rocpStep (.env e)

end ProfiledClient

def profiledSystem [CaseMap] (handler : GPUHandler) (fields : List String)
    : TransitionSystem ProfiledClient ProfiledAction where
  step := ProfiledClient.step handler fields

end GPUAgent
