/-
The hops of a packet.

The digipeater path leaves out the aliases among the via addresses.  It does not ask for
the repeated bits, so a digipeater that is still to come is a hop too.
-/
import Rtpigate.Listener

namespace Rtpigate

/-- A callsign with none of the excluded texts in it. -/
def RealCall (call : String) : Prop := ∀ x ∈ excludedAddrs, ¬ x.toList <:+: call.toList

theorem realCall_iff (call : String) :
    (excludedAddrs.all fun x => !strContains call x) = true ↔ RealCall call := by
  simp only [List.all_eq_true, Bool.not_eq_true', Bool.eq_false_iff, ne_eq, strContains_iff]
  rfl

instance (call : String) : Decidable (RealCall call) := decidable_of_iff _ (realCall_iff call)

/-- The callsigns of the stations that have repeated the frame. -/
def Ax25Meta.repeatedCalls (ax : Ax25Meta) : List String :=
  (ax.via.filter fun h => h.heard).map fun h => h.call

section Hops

variable {F : Type} [F64 F] {decodeTextual : List UInt8 → Option (DecodedPacket F)}
  {clock : MapClock} {frame : AprsFrame F} {mapped : MappedPacket F}

theorem mapFrame_hops (h : mapFrame decodeTextual clock frame = some mapped) :
    ∃ ax, frame.ax25Meta = some ax ∧
      mapped.packet.digipeaterPath =
        (ax.via.filter fun h => RealCall h.call).map (fun h => h.call) ∧
      mapped.packet.hops = mapped.packet.digipeaterPath.length ∧
      mapped.packet.wasDigipeated = ax.via.any fun h => h.heard := by
  rw [mapFrame] at h
  split at h
  · cases h
  · next ax hax =>
    cases h
    refine ⟨ax, hax, ?_, rfl, rfl⟩
    show ((ax.via.map fun h => h.call).filter fun call =>
      excludedAddrs.all fun x => !strContains call x) = _
    rw [List.filter_map]
    congr 1
    refine List.filter_congr fun h _ => ?_
    rw [Function.comp_apply, Bool.eq_iff_iff, realCall_iff, decide_eq_true_eq]

end Hops

/-- Leaving out the hops that are still to come leaves out nothing only if there are
none. -/
theorem sublist_repeatedCalls_iff (ax : Ax25Meta) :
    ((ax.via.filter fun h => RealCall h.call).map fun h => h.call).Sublist ax.repeatedCalls ↔
      ∀ h ∈ ax.via, RealCall h.call → h.heard = true := by
  have hboth : (ax.via.filter fun h => RealCall h.call).filter (fun h => h.heard) =
      (ax.via.filter fun h => h.heard).filter fun h => RealCall h.call :=
    List.filter_comm _ _ _
  constructor
  · intro hsub h hmem hreal
    have hkept := hsub.filter fun call => decide (RealCall call)
    rw [Ax25Meta.repeatedCalls, List.filter_map, List.filter_map] at hkept
    have hself : ((ax.via.filter fun h => RealCall h.call).filter
        ((fun call => decide (RealCall call)) ∘ fun h => h.call)) =
          ax.via.filter fun h => RealCall h.call :=
      List.filter_eq_self.mpr fun h hh => (List.mem_filter.mp hh).2
    have hlen := hkept.length_le
    rw [List.length_map, List.length_map, hself] at hlen
    have hall : (ax.via.filter fun h => RealCall h.call).filter (fun h => h.heard) =
        ax.via.filter fun h => RealCall h.call :=
      List.filter_sublist.eq_of_length_le (hboth ▸ hlen)
    exact List.filter_eq_self.mp hall h (List.mem_filter.mpr ⟨hmem, decide_eq_true hreal⟩)
  · intro hall
    have hself : (ax.via.filter fun h => RealCall h.call).filter (fun h => h.heard) =
        ax.via.filter fun h => RealCall h.call := by
      refine List.filter_eq_self.mpr fun h hh => ?_
      obtain ⟨hmem, hreal⟩ := List.mem_filter.mp hh
      exact hall h hmem (of_decide_eq_true hreal)
    rw [← hself, hboth]
    exact List.filter_sublist.map _

section Path

variable {F : Type} [F64 F] {decodeTextual : List UInt8 → Option (DecodedPacket F)}
  {clock : MapClock} {frame : AprsFrame F} {mapped : MappedPacket F}

/-- The path has the via callsigns without an excluded text, in order, repeated or not.
All of them have repeated the frame exactly if no such via has its bit clear. -/
theorem digipeaterPath_real (h : mapFrame decodeTextual clock frame = some mapped) :
    ∃ ax, frame.ax25Meta = some ax ∧
      (mapped.packet.digipeaterPath.Sublist (ax.via.map fun h => h.call) ∧
        ∀ hop ∈ ax.via, hop.call ∈ mapped.packet.digipeaterPath ↔ RealCall hop.call) ∧
      (mapped.packet.hops = mapped.packet.digipeaterPath.length ∧
        mapped.packet.hops = ax.via.countP fun hop => RealCall hop.call) ∧
      (mapped.packet.wasDigipeated = true ↔ ∃ hop ∈ ax.via, hop.heard = true) ∧
      (mapped.packet.digipeaterPath.Sublist ax.repeatedCalls ↔
        ∀ hop ∈ ax.via, RealCall hop.call → hop.heard = true) := by
  obtain ⟨ax, hax, hpath, hhops, hflag⟩ := mapFrame_hops h
  refine ⟨ax, hax, ⟨?_, ?_⟩, ⟨hhops, ?_⟩, ?_, ?_⟩
  · rw [hpath]
    exact List.filter_sublist.map _
  · intro hop hmem
    rw [hpath, List.mem_map]
    constructor
    · rintro ⟨hop', hmem', hcall⟩
      rw [← hcall]
      exact of_decide_eq_true (List.mem_filter.mp hmem').2
    · intro hreal
      exact ⟨hop, List.mem_filter.mpr ⟨hmem, decide_eq_true hreal⟩, rfl⟩
  · rw [hhops, hpath, List.length_map, List.countP_eq_length_filter]
  · rw [hflag, List.any_eq_true]
  · rw [hpath]
    exact sublist_repeatedCalls_iff ax

end Path

/-! ## A path still to be used -/

def pathMeta (via : List Hop) : Ax25Meta where
  source := "W1AW"
  destination := "APRS"
  via := via
  heardDirect := true
  heardFrom := "W1AW"
  dti := none
  infoOffset := none
  infoInvalidBytes := 0

def pathFrame (via : List Hop) : AprsFrame ℚ :=
  { Listener.sampleFrame "W1AW" [] with ax25Meta := some (pathMeta via) }

def pathPacket (via : List Hop) : MappedPacket ℚ :=
  (mapFrame (fun _ => none) ⟨0, 0⟩ (pathFrame via)).get rfl

theorem mapFrame_pathFrame (via : List Hop) :
    mapFrame (fun _ => none) ⟨0, 0⟩ (pathFrame via) = some (pathPacket via) := rfl

/-- A repeated callsign and a repeated alias. -/
def usedPath : List Hop := [⟨"K1ABC", true⟩, ⟨"WIDE1", true⟩]

def unusedPath : List Hop := [⟨"K1ABC", false⟩]

theorem digipeaterPath_real_usedPath :
    ∃ ax, (pathFrame usedPath).ax25Meta = some ax ∧
      (pathPacket usedPath).packet.digipeaterPath.Sublist ax.repeatedCalls := by
  obtain ⟨ax, hax, -, -, -, hiff⟩ := digipeaterPath_real (mapFrame_pathFrame usedPath)
  refine ⟨ax, hax, hiff.mpr ?_⟩
  cases hax
  decide +kernel

/-- The one digipeater of the path has not repeated the frame, and is a hop. -/
theorem unused_hop_counted :
    mapFrame (fun _ => none) ⟨0, 0⟩ (pathFrame unusedPath) = some (pathPacket unusedPath) ∧
      (pathPacket unusedPath).packet.wasDigipeated = false ∧
      (pathPacket unusedPath).packet.hops = 1 ∧
      (pathPacket unusedPath).packet.digipeaterPath = ["K1ABC"] ∧
      ¬ (pathPacket unusedPath).packet.digipeaterPath.Sublist
        (pathMeta unusedPath).repeatedCalls := by
  refine ⟨rfl, by decide +kernel, by decide +kernel, by decide +kernel, ?_⟩
  decide +kernel

end Rtpigate
