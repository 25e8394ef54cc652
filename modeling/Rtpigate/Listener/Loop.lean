/-
The loops of the listener.

The outer loop joins the multicast group; the inner loop waits for the next of
cancellation, the tick and a frame.  A datagram that does not decode is skipped, and an
error of the socket leads back to the outer loop at once.  A cancelled listener leaves
through the outer loop and flushes what it has not written.
-/
import Rtpigate.Listener.Process

namespace Rtpigate
namespace Listener

open Lib

inductive Phase
  | outer
  | inner
  | ended
  deriving DecidableEq, Repr

structure Loop (F : Type) where
  task : Task F
  backoffSecs : Nat := 5
  phase : Phase := .outer

inductive LoopInput (F : Type)
  | subscribe (ok : Bool)
  | frame (world : FrameWorld F) (fr : AprsFrame F)
  | codecError
  | ioError
  | tick (world : TickWorld)
  | cancel (orders : Orders)

/-- A transaction, a message on the data channel, or a wait. -/
inductive LoopEvent (F : Type)
  | call (c : Call F)
  | send (d : DataItem F)
  | sleep (secs : Nat)

def maxBackoffSecs : Nat := 300

namespace Loop

variable {F : Type} [F64 F] [Display3 F]

/-- The packet that goes out last, after its transactions. -/
def frame (c : Settings F) (world : FrameWorld F) (fr : AprsFrame F) (s : Loop F) :
    Loop F × List (LoopEvent F) :=
  let heard := s.task.frame c.satFreqs world fr
  ({ s with task := heard.1 },
    heard.2.map .call ++ ((packet c.satFreqs world fr).map fun p => .send (.pkt p)).toList)

/-- The statistics go out before the transactions. -/
def tick (c : Settings F) (world : TickWorld) (s : Loop F) : Loop F × List (LoopEvent F) :=
  let statistics := (Listener.tick world.theTime world.utc s.task.counters).2
  let ticked := s.task.tick c.historyHours world
  ({ s with task := ticked.1 },
    [.send (.tlm (.packetStatus statistics)), .send (.tlm (.slicerStatus "slicer_statistics")),
      .send (.tlm (.stationStatus "station_statistics"))] ++ ticked.2.map .call)

def shutdown (orders : Orders) (s : Loop F) : Loop F × List (LoopEvent F) :=
  ({ s with phase := .ended }, (s.task.finalFlush orders).map .call)

/-- One pass of a loop.  Nothing happens on an input the listener does not wait for in
its phase. -/
def step (c : Settings F) (s : Loop F) (i : LoopInput F) : Loop F × List (LoopEvent F) :=
  match s.phase, i with
  | .outer, .subscribe true => ({ s with backoffSecs := 5, phase := .inner }, [])
  | .outer, .subscribe false =>
    ({ s with backoffSecs := min (s.backoffSecs * 2) maxBackoffSecs }, [.sleep s.backoffSecs])
  | .outer, .cancel orders => shutdown orders s
  | .inner, .cancel orders => shutdown orders s
  | .inner, .frame world fr => frame c world fr s
  | .inner, .tick world => tick c world s
  | .inner, .codecError => (s, [])
  | .inner, .ioError => ({ s with phase := .outer }, [])
  | _, _ => (s, [])

end Loop

end Listener
end Rtpigate
