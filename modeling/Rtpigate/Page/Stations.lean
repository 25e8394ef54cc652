/-
The stations panel.

The page keeps the last list of stations and frequencies and shows the first of it, by count,
by distance or by altitude.  A station without the number a tab is about is left out of it.

The distance is a number that the two positions decide on.  Numbers are compared exactly.
-/
import Rtpigate.Listener.Panel

namespace Rtpigate
namespace Page

open Lib Listener

inductive StationsTab
  | topTalkers
  | mostDistant
  | nearest
  | highestAlt
  deriving DecidableEq, Repr

section Panel

variable {F D : Type} [LinearOrder F] [LinearOrder D] (haversineDistance : F → F → F → F → D)

/-- The distance from the own position, where the station has one. -/
def distanceOf (home : F × F) (s : StationEntry F) : WithBot D :=
  match s.latitude, s.longitude with
  | some lat, some lon => haversineDistance home.1 home.2 lat lon
  | _, _ => ⊥

def altitudeOf (s : StationEntry F) : WithBot F := s.altitudeFt

/-- The stations a tab is about. -/
def qualifying (tab : StationsTab) (stations : List (StationEntry F)) : List (StationEntry F) :=
  match tab with
  | .topTalkers => stations
  | .mostDistant | .nearest => stations.filter fun s => s.latitude.isSome && s.longitude.isSome
  | .highestAlt => stations.filter fun s => s.altitudeFt.isSome

/-- The stations of a tab in its order.  Without an own position there is no distance to sort
by. -/
def sorted (home : Option (F × F)) (tab : StationsTab) (stations : List (StationEntry F)) :
    List (StationEntry F) :=
  match tab, home with
  | .topTalkers, _ => descending StationEntry.count (qualifying tab stations)
  | .mostDistant, some home =>
    descending (distanceOf haversineDistance home) (qualifying tab stations)
  | .nearest, some home =>
    descending (OrderDual.toDual ∘ distanceOf haversineDistance home)
      (qualifying tab stations)
  | .mostDistant, none | .nearest, none => qualifying tab stations
  | .highestAlt, _ => descending altitudeOf (qualifying tab stations)

variable [F64 F] [Display3 F]

end Panel

end Page
end Rtpigate
