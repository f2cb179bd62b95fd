import AsyncStage.Retry.Policy

/-!
# Configuration of a stage

A configuration names the step, chooses the order of emission, bounds the entries in
flight and the time of each, and describes how attempts are retried. Retrying needs a
timeout, because without one it might go on forever.
-/

namespace AsyncStage

/-- In which order a stage emits. -/
inductive OutputMode where
  /-- In the order of admission: a slow entry holds back everything behind it. -/
  | ordered
  /-- Records as they are resolved, but none across a watermark. -/
  | unordered
deriving DecidableEq, Repr

structure Config where
  stepId : String := "async_wait"
  mode : OutputMode := .ordered
  /-- The most entries in flight, watermarks included. -/
  capacity : UInt64 := 100
  /-- The time from an entry's first attempt to its result; zero counts as none. -/
  timeout : Option Duration := none
  retry : RetryPolicy := .noRetry
deriving BEq

namespace Config

/-- The timeout that is in effect. -/
def effectiveTimeout (c : Config) : Option Duration := c.timeout.filter fun d => !d.isZero

def checkCapacity (c : Config) : Except ConfigError Unit :=
  if c.capacity = 0 then .error (.zeroCapacity c.stepId) else .ok ()

/-- Refuses to retry without a timeout. -/
def checkRetryTimeout (stepId : String) (retryEnabled : Bool) (timeout : Option Duration) :
    Except ConfigError Unit :=
  if retryEnabled && timeout.isNone then .error (.unboundedRetry stepId) else .ok ()

/-- Checks the capacity, the retry policy and the need for a timeout, in this order. -/
def validate (c : Config) : Except ConfigError Unit := do
  c.checkCapacity
  c.retry.validate
  checkRetryTimeout c.stepId c.retry.isEnabled c.effectiveTimeout

end Config

end AsyncStage
