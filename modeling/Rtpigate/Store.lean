/-
Records of the statistics store.

The lifetime counters of a task are one row of the store.  A load without a row
gives the record of zeros.
-/
import Mathlib

namespace Rtpigate

structure AprsisLifetime where
  rfReceived : Nat := 0
  packetsIgated : Nat := 0
  packetsDropped : Nat := 0
  reconnects : Nat := 0
  dropsStale : Nat := 0
  dropsRfonly : Nat := 0
  dropsQuery : Nat := 0
  dropsThirdparty : Nat := 0
  dropsSat : Nat := 0
  dropsDuplicate : Nat := 0
  dropsMalformed : Nat := 0
  laggedDrops : Nat := 0
  deriving DecidableEq, Repr

def AprsisLifetime.drops (r : AprsisLifetime) : Nat :=
  r.dropsStale + r.dropsRfonly + r.dropsQuery + r.dropsThirdparty + r.dropsSat +
    r.dropsMalformed + r.dropsDuplicate

structure PacketLifetime where
  total : Nat := 0
  heardDirect : Nat := 0
  digipeated : Nat := 0
  decodeErrors : Nat := 0
  deriving DecidableEq, Repr

/-- `Store::load_packet_lifetime` of a readable store. -/
def loadPacketLifetime (row : Option PacketLifetime) : PacketLifetime := row.getD {}

/-- `Store::load_aprsis_lifetime` of a readable store. -/
def loadAprsisLifetime (row : Option AprsisLifetime) : AprsisLifetime := row.getD {}

/-- What `Store::load_telemetry_seq` returns, with what the task does about it: a
row, no row and the number in the legacy file (none when there is no such file or
it does not read), or an error. -/
inductive SeqLoad
  | stored (seq : UInt32)
  | missing (legacy : Option UInt32)
  | failed
  deriving DecidableEq, Repr

/-! ## Time stamps -/

/-- Times in nanoseconds that have a date. -/
def InDates (ns : Int) : Prop :=
  -8334601228800 ≤ ns / 10 ^ 9 ∧ ns / 10 ^ 9 ≤ 8210266876799

instance (ns : Int) : Decidable (InDates ns) := inferInstanceAs (Decidable (_ ∧ _))

def toMicros (ns : Int) : Int := ns / 1000

/-- The epoch for a number of microseconds without a date. -/
def fromMicros (micros : Int) : Int := if InDates (micros * 1000) then micros * 1000 else 0

theorem fromMicros_toMicros {ns : Int} (h : InDates ns) :
    fromMicros (toMicros ns) = toMicros ns * 1000 := by
  have hdate : InDates (toMicros ns * 1000) := by
    unfold InDates toMicros at *
    omega
  rw [fromMicros, if_pos hdate]

theorem toMicros_fromMicros {ns : Int} (h : InDates ns) :
    toMicros (fromMicros (toMicros ns)) = toMicros ns := by
  rw [fromMicros_toMicros h, toMicros, Int.mul_ediv_cancel _ (by decide)]

end Rtpigate
