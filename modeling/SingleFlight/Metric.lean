/-!
# Metrics

Five counters, kept for each cache that asks for them.
-/

namespace SingleFlight

inductive Metric where
  | hit
  | miss
  | put
  | loadFailure
  | lockTimeout
deriving DecidableEq

namespace Metric

def all : List Metric := [hit, miss, put, loadFailure, lockTimeout]

def name : Metric → String
  | hit => "cache_aside_hit_total"
  | miss => "cache_aside_miss_total"
  | put => "cache_aside_put_total"
  | loadFailure => "cache_aside_load_failure_total"
  | lockTimeout => "cache_aside_lock_timeout_total"

/-- What the counter is described as. -/
def description : Metric → String
  | hit => "Lookups that found a cached value or an in-flight computation."
  | miss => "Lookups that started a new computation."
  | put => "Computed values stored in a cache."
  | loadFailure => "Value loader invocations that failed."
  | lockTimeout => "Waiters that gave up on an in-flight computation and loaded directly."

/-- Every counter counts things, without a unit of measure. -/
def unit (_ : Metric) : String := "count"

end Metric

/-- One counter of one cache. -/
structure CounterId where
  metric : Metric
  cache : String
deriving DecidableEq

def CounterId.label (id : CounterId) : String :=
  id.metric.name ++ "\x7bcache=" ++ id.cache ++ "\x7d"

end SingleFlight
