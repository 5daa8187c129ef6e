import DeviceMetricsExporter.Testrunner.Impl.Config

/-!
This module contains the two timeouts of a test: the one `testGPU` waits for over all and the one of
each iteration in `runTest`. A `time.Duration` is a signed 64 bit number of nanoseconds.
-/

namespace Testrunner

abbrev Duration := Int64

def second : Duration := 1000000000

def defaultTestTimeout : UInt64 := 600

namespace TestParameter

variable (testCase : TestParameter)

def overallTimeout : Duration :=
  (testCase.timeoutSeconds.getD 0).toUInt64.toInt64 * second
    * (testCase.iterations.getD 0).toUInt64.toInt64

def handlerTimeout : UInt64 :=
  -- `GetTestHandler` passes no timeout on that is zero
  let timeout := (testCase.timeoutSeconds.getD 0).toUInt64
  if 0 < timeout then timeout else defaultTestTimeout

def iterationTimeout : Duration :=
  testCase.handlerTimeout.toInt64 * second

end TestParameter

end Testrunner
