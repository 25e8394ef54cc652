/-
The listener over restarts.

The process starts, its task takes steps, and it is cancelled or killed.  A load or a
store call may fail at any time.
-/
import Rtpigate.Lib.Machine
import Rtpigate.Listener.Retry

namespace Rtpigate
namespace Listener

open Lib

/-- What the task takes from the configuration. -/
structure Settings (F : Type) where
  satFreqs : List F
  historyHours : Nat

/-- Which loads of a start succeed, and the monotonic clock at the start. -/
structure Loads where
  lifetime : Bool
  stations : Bool
  freqs : Bool
  satPackets : Bool
  instant : Nat

structure Process (F : Type) where
  disk : Disk F
  task : Option (Settings F × Task F)

/-- `ok` says which calls of a step succeed. -/
inductive ProcessInput (F : Type)
  | start (settings : Settings F) (loads : Loads)
  | step (i : Input F) (ok : Nat → Bool)
  | shutdown (orders : Orders) (ok : Nat → Bool)
  | kill

variable {F : Type}

def Loads.seed (loads : Loads) (d : Disk F) : Task F :=
  Task.seed (if loads.lifetime then some (loadPacketLifetime d.packetLifetime) else none)
    (if loads.stations then some d.loadStations else none)
    (if loads.freqs then some d.loadFreqs else none)
    (if loads.satPackets then some (d.loadSatPackets loads.instant) else none)

variable [F64 F] [Display3 F]

def Process.next (pr : Process F) (i : ProcessInput F) : Process F :=
  match i, pr.task with
  | .start settings loads, _ => { pr with task := some (settings, loads.seed pr.disk) }
  | .step i ok, some (c, s) =>
    let stepped := s.step c.satFreqs c.historyHours i
    { disk := pr.disk.applyAll (performed ok stepped.2), task := some (c, stepped.1) }
  | .shutdown orders ok, some (_, s) =>
    { disk := pr.disk.applyAll (performed ok (s.finalFlush orders)), task := none }
  | .step _ _, none | .shutdown _ _, none => pr
  | .kill, _ => { pr with task := none }

omit [F64 F] [Display3 F] in
theorem performed_sublist (ok : Nat → Bool) (calls : List (Call F)) :
    (performed ok calls).Sublist calls := by
  have hsub := (List.filter_sublist (l := calls.zipIdx) (p := fun c => ok c.2)).map Prod.fst
  rwa [List.zipIdx_map_fst] at hsub

omit [Display3 F] in
/-- The row stays, or is the one saved. -/
theorem packetLifetime_performed {calls : List (Call F)} {row : PacketLifetime}
    (h : (calls.filterMap Call.savedRow).Sublist [row]) (d : Disk F) (ok : Nat → Bool) :
    (d.applyAll (performed ok calls)).packetLifetime = d.packetLifetime ∨
      (d.applyAll (performed ok calls)).packetLifetime = some row :=
  applyAll_saves (((performed_sublist ok calls).filterMap Call.savedRow).trans h) d

end Listener
end Rtpigate
