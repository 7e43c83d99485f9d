import JobDashboard.Constant
import JobDashboard.Overflow

/-!
# Usage

The four additive measures of what jobs used, and the ratios made of them. Seconds are binary64
numbers and are added one by one; jobs are counted in 64 bits, and a count that would not fit is an
overflow.
-/

namespace JobDashboard

open Json (Reader RecordField Wire)

inductive Measure where
  | vcpuSeconds
  | memorySeconds
  | instanceSeconds
  | jobCount
deriving DecidableEq

namespace Measure

def all : List Measure := [vcpuSeconds, memorySeconds, instanceSeconds, jobCount]

def name : Measure → String
  | vcpuSeconds => "vcpu_seconds"
  | memorySeconds => "memory_seconds"
  | instanceSeconds => "instance_seconds"
  | jobCount => "job_count"

end Measure

/-- What jobs used. -/
structure Usage where
  vcpuSeconds : Binary64 := .zero
  memorySeconds : Binary64 := .zero
  instanceSeconds : Binary64 := .zero
  jobCount : UInt64 := 0
deriving DecidableEq, Inhabited

namespace Usage

def get (u : Usage) : Measure → Binary64
  | .vcpuSeconds => u.vcpuSeconds
  | .memorySeconds => u.memorySeconds
  | .instanceSeconds => u.instanceSeconds
  | .jobCount => Binary64.ofNat u.jobCount.toNat

def addCounts (a b : UInt64) : Except Overflow UInt64 :=
  if a.toNat + b.toNat < UInt64.size then .ok (a + b) else .error .sum

def add (u v : Usage) : Except Overflow Usage := do
  let jobCount ← addCounts u.jobCount v.jobCount
  return {
    vcpuSeconds := u.vcpuSeconds + v.vcpuSeconds
    memorySeconds := u.memorySeconds + v.memorySeconds
    instanceSeconds := u.instanceSeconds + v.instanceSeconds
    jobCount }

def scaled (u : Usage) (factor : UInt64) : Except Overflow Usage :=
  let f := Binary64.ofNat factor.toNat
  if u.jobCount.toNat * factor.toNat < UInt64.size then
    .ok {
      vcpuSeconds := u.vcpuSeconds * f
      memorySeconds := u.memorySeconds * f
      instanceSeconds := u.instanceSeconds * f
      jobCount := u.jobCount * factor }
  else .error .product

/-- The quotient, or no number when the denominator is a zero, whatever the numerator. -/
def ratio (numerator denominator : Binary64) : Binary64 :=
  if denominator.same .zero then .notANumber else numerator / denominator

/-- The mean duration of a job in seconds. -/
def averageJobDuration (u : Usage) : Binary64 := ratio u.instanceSeconds (u.get .jobCount)

/-- The mean number of cores of a running job. -/
def averageVcpu (u : Usage) : Binary64 := ratio u.vcpuSeconds u.instanceSeconds

/-- The mean memory of a running job in gigabytes; memory is measured in megabytes. -/
def averageMemory (u : Usage) : Binary64 :=
  ratio u.memorySeconds u.instanceSeconds / Binary64.ofNat 1000

/-- The cores in use on average over a window. -/
def vcpuRate (u : Usage) (windowSeconds : Binary64) : Binary64 := ratio u.vcpuSeconds windowSeconds

/-- The memory in use on average over a window, in gigabytes. -/
def memoryRate (u : Usage) (windowSeconds : Binary64) : Binary64 :=
  ratio u.memorySeconds windowSeconds / Binary64.ofNat 1000

/-- The jobs per hour over a window. -/
def jobRate (u : Usage) (windowSeconds : Binary64) : Binary64 :=
  ratio (u.get .jobCount) windowSeconds * Binary64.ofNat 3600

def fields : List (RecordField Usage) := [
  .defaulted "vcpu_seconds" Reader.binary64 fun x u => { u with vcpuSeconds := x },
  .defaulted "memory_seconds" Reader.binary64 fun x u => { u with memorySeconds := x },
  .defaulted "instance_seconds" Reader.binary64 fun x u => { u with instanceSeconds := x },
  .defaulted "job_count" Reader.uint64 fun n u => { u with jobCount := n }]

def read : Reader Usage := .record fields {}

/-- The measures as members, for records that hold more than them. -/
def members (u : Usage) : List (String × Wire) := [
  ("vcpu_seconds", .float u.vcpuSeconds),
  ("memory_seconds", .float u.memorySeconds),
  ("instance_seconds", .float u.instanceSeconds),
  ("job_count", .int u.jobCount.toNat)]

def write (u : Usage) : Wire := .record u.members

end Usage

end JobDashboard
