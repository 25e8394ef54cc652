/-
The cap on the watched stations.

Only a request to add a station looks at the number of stations.  A restart takes over
every row of the store, and the store keeps the rows whose removal has failed, was lost
with the process, or was overtaken by the transaction that adds them.  As long as none of
this happens, and every restart can read the store, there is no row without a station in
the list, and the list stays within its cap.
-/
import Rtpigate.Watched

namespace Rtpigate
namespace Watched

open Lib

/-! ## Names -/

/-- The text of a station: not empty, and no white space around it. -/
def Named (station : String) : Prop := station ≠ "" ∧ trim station = station

instance (station : String) : Decidable (Named station) := inferInstanceAs (Decidable (_ ∧ _))

theorem trim_trim (s : String) : trim (trim s) = trim s := by
  have hfront : ((s.toList.dropWhile isWhitespace).rdropWhile isWhitespace).dropWhile isWhitespace =
      (s.toList.dropWhile isWhitespace).rdropWhile isWhitespace := by
    refine List.dropWhile_eq_self_iff.mpr fun hpos => ?_
    have hpre := List.rdropWhile_prefix isWhitespace (s.toList.dropWhile isWhitespace)
    rw [hpre.getElem hpos]
    exact List.dropWhile_get_zero_not isWhitespace s.toList (lt_of_lt_of_le hpos hpre.length_le)
  rw [trim, trim, String.toList_ofList, hfront, List.rdropWhile_idempotent]

/-! ## Restarts -/

/-- A step of a request, a transaction that fails, or a restart.  `loaded` says whether
the rows can be read. -/
inductive ProcessInput
  | request (i : Input)
  | fail (i : Nat)
  | restart (loaded : Bool)
  deriving DecidableEq, Repr

namespace Server

/-- The requests in flight are lost with the process. -/
def next (s : Server) : ProcessInput → Server × List Answer
  | .request i => step s i
  | .fail i => ({ s with flight := s.flight.eraseIdx i }, [])
  | .restart loaded =>
    ({ list := if loaded then loadWatchedStations s.disk else [], disk := s.disk }, [])

/-- At most `MAX_WATCHED` stations, all different, all named. -/
structure Within (list : List String) : Prop where
  capped : list.length ≤ MAX_WATCHED
  nodup : list.Nodup
  named : ∀ station ∈ list, Named station

/-- The stations of the list, of the rows and of the additions in flight are named, and
the list is within the cap. -/
structure Sound (s : Server) : Prop where
  list : Within s.list
  rows : ∀ station, (s.disk[station]?).isSome = true → Named station
  flight : ∀ station time, .put station time ∈ s.flight → Named station

/-- What leaves no row behind.  A removal that overtakes an addition of the same station,
fails, or is lost with the process, is of a station that is listed again, or that has no
row without it.  A restart reads the store if there are rows in it. -/
def Kept (s : Server) : ProcessInput → Prop
  | .request i =>
    match i with
    | .commit k => ∀ r ∈ s.flight[k]?, r.isDrop = true →
        r.key ∈ s.list ∨ ∀ q ∈ s.flight.take k, q.Exchange r
    | .post _ | .delete _ | .readClock _ _ => True
  | .fail k => ∀ r ∈ s.flight[k]?, r.isDrop = true →
      r.key ∈ s.list ∨ Pending.view s.disk (s.flight.eraseIdx k) r.key = none
  | .restart true => ∀ r ∈ s.flight, r.isDrop = true → r.key ∈ s.list ∨ s.disk[r.key]? = none
  | .restart false => s.disk.size = 0

instance (s : Server) : (i : ProcessInput) → Decidable (s.Kept i)
  | .request i =>
    match i with
    | .commit k => inferInstanceAs (Decidable (∀ r ∈ s.flight[k]?, _))
    | .post _ | .delete _ | .readClock _ _ => inferInstanceAs (Decidable True)
  | .fail k => inferInstanceAs (Decidable (∀ r ∈ s.flight[k]?, _))
  | .restart true => inferInstanceAs (Decidable (∀ r ∈ s.flight, _))
  | .restart false => inferInstanceAs (Decidable (_ = _))

/-- What the store is going to hold is in the list. -/
def Covered (s : Server) : Prop := ∀ station, (s.view station).isSome = true → station ∈ s.list

variable {s : Server}

theorem within_nil : Within [] where
  capped := Nat.zero_le _
  nodup := List.nodup_nil
  named _ h := by cases h

theorem sound_start : Sound (start ∅) where
  list := by
    rw [show (start ∅).list = [] by decide]
    exact within_nil
  rows station h := by
    rw [start, Std.ExtTreeMap.getElem?_empty] at h
    cases h
  flight _ _ h := by cases h

/-! ## Requests -/

theorem Sound.post (h : s.Sound) (body : String) : (Watched.post body s).1.Sound := by
  rcases post_cases body s with hsame | ⟨hne, hnew, hfree, hpost⟩
  · rw [hsame]
    exact h
  have hnamed : Named (trim body) := ⟨hne, trim_trim body⟩
  rw [hpost]
  refine ⟨⟨?_, ?_, ?_⟩, h.rows, ?_⟩
  · show (s.list ++ [trim body]).length ≤ MAX_WATCHED
    rw [List.length_append, List.length_singleton]
    exact hfree
  · show (s.list ++ [trim body]).Nodup
    rw [← List.concat_eq_append]
    exact h.list.nodup.concat hnew
  · intro station hmem
    rcases List.mem_append.mp hmem with hold | hlast
    · exact h.list.named station hold
    · rw [List.mem_singleton.mp hlast]
      exact hnamed
  · intro station time hmem
    rcases List.mem_append.mp hmem with hold | hlast
    · exact h.flight station time hold
    · obtain ⟨rfl, -⟩ := Pending.put.inj (List.mem_singleton.mp hlast)
      exact hnamed

theorem Sound.delete (h : s.Sound) (station : String) : (Watched.delete station s).1.Sound where
  list :=
    { capped := (List.length_filter_le _ _).trans h.list.capped
      nodup := h.list.nodup.filter _
      named := fun a ha => h.list.named a (List.mem_of_mem_filter ha) }
  rows := h.rows
  flight a time hmem := by
    rcases List.mem_append.mp hmem with hold | hlast
    · exact h.flight a time hold
    · cases List.mem_singleton.mp hlast

theorem Sound.readClock (h : s.Sound) (i : Nat) (now : Int) :
    (Watched.readClock i now s).Sound := by
  rw [Watched.readClock]
  split
  · next station hget =>
    refine ⟨h.list, h.rows, fun a time hmem => ?_⟩
    rcases List.mem_or_eq_of_mem_set hmem with hold | hnew
    · exact h.flight a time hold
    · obtain ⟨rfl, -⟩ := Pending.put.inj hnew
      exact h.flight a none (List.mem_of_getElem? hget)
  · exact h

theorem Sound.forget (h : s.Sound) (i : Nat) :
    Sound { s with flight := s.flight.eraseIdx i } where
  list := h.list
  rows := h.rows
  flight a time hmem := h.flight a time (List.mem_of_mem_eraseIdx hmem)

/-- A row appears for a station whose addition commits only. -/
theorem apply_rows {r : Pending String Int} {d : Disk} {station : String}
    (h : ((r.apply d)[station]?).isSome = true) :
    (d[station]?).isSome = true ∨ ∃ time, r = .put station time := by
  cases r with
  | drop a =>
    rw [Pending.apply, Table.getElem?_erase_ite] at h
    split at h
    · cases h
    · exact Or.inl h
  | put a time =>
    cases time with
    | none => exact Or.inl h
    | some t =>
      rw [Pending.apply, Table.getElem?_insert_ite] at h
      split at h
      · next ha => exact Or.inr ⟨some t, by rw [ha]⟩
      · exact Or.inl h

theorem Sound.commit (h : s.Sound) (i : Nat) : (Watched.commit i s).Sound := by
  rw [Watched.commit]
  split
  · exact h
  · exact h
  · next r _ hget =>
    refine ⟨h.list, fun station hsome => ?_, (h.forget i).flight⟩
    rcases apply_rows hsome with hold | ⟨time, rfl⟩
    · exact h.rows station hold
    · exact h.flight station time (List.mem_of_getElem? hget)

theorem Sound.request (h : s.Sound) (i : Input) : (step s i).1.Sound := by
  cases i with
  | post body => exact h.post body
  | delete station => exact h.delete station
  | readClock i now => exact h.readClock i now
  | commit i => exact h.commit i

/-! ## Rows -/

theorem covered_start (disk : Disk) : Covered (start disk) := fun station h =>
  ((agrees_start disk).mem station).mpr h

theorem Covered.post (h : s.Covered) (body : String) : (Watched.post body s).1.Covered := by
  rcases post_cases body s with hsame | ⟨-, -, -, hpost⟩
  · rw [hsame]
    exact h
  have hview : ∀ a, (Watched.post body s).1.view a =
      if trim body = a then some none else s.view a := by
    intro a
    rw [hpost]
    exact Pending.view_concat
  intro station hsome
  rw [hview] at hsome
  rw [hpost]
  by_cases hkey : trim body = station
  · rw [hkey]
    exact List.mem_append_right _ List.mem_cons_self
  · rw [if_neg hkey] at hsome
    exact List.mem_append_left _ (h station hsome)

theorem Covered.delete (h : s.Covered) (station : String) :
    (Watched.delete station s).1.Covered := by
  intro a hview
  have hconcat : (Watched.delete station s).1.view a = if station = a then none else s.view a :=
    Pending.view_concat
  rw [hconcat] at hview
  by_cases hkey : station = a
  · rw [if_pos hkey] at hview
    cases hview
  · rw [if_neg hkey] at hview
    exact List.mem_filter.mpr ⟨h a hview, decide_eq_true fun heq => hkey heq.symm⟩

theorem Covered.readClock (h : s.Covered) (i : Nat) (now : Int) :
    (Watched.readClock i now s).Covered := by
  rcases readClock_cases i now s with hsame | ⟨station, hget, hlist⟩
  · rw [hsame]
    exact h
  intro a hview
  rw [hlist]
  rw [view_readClock hget] at hview
  by_cases hread : a = station ∧ station ∉ (s.flight.drop (i + 1)).map Pending.key
  · refine h a ?_
    rw [hread.1, view_of_put hget hread.2]
    rfl
  · rw [if_neg hread] at hview
    exact h a hview

/-- A request leaves the flight, whether it has reached the store or not. -/
theorem Covered.settle (h : s.Covered) {i : Nat} {r : Pending String Int} {disk : Disk}
    (hget : s.flight[i]? = some r) (hdisk : ∀ a, r.key ≠ a → disk[a]? = s.disk[a]?)
    (hdrop : r.isDrop = true → r.key ∉ (s.flight.drop (i + 1)).map Pending.key →
      r.key ∈ s.list ∨ Pending.view disk (s.flight.eraseIdx i) r.key = none) :
    Covered { s with disk := disk, flight := s.flight.eraseIdx i } := by
  intro a hsome
  change (Pending.view disk (s.flight.eraseIdx i) a).isSome = true at hsome
  have hcovered := h a
  rw [view, flight_split hget] at hcovered
  rw [List.eraseIdx_eq_take_drop_succ] at hsome hdrop
  by_cases hkey : r.key = a
  · subst hkey
    by_cases hlater : r.key ∈ (s.flight.drop (i + 1)).map Pending.key
    · rw [List.append_cons] at hcovered
      rw [Pending.view_of_later hlater disk s.disk _ (s.flight.take i ++ [r])] at hsome
      exact hcovered hsome
    · rw [Pending.view_last hlater] at hcovered
      cases r with
      | put station time => exact hcovered rfl
      | drop station =>
        rcases hdrop rfl hlater with hmem | hnone
        · exact hmem
        · rw [hnone] at hsome
          cases hsome
  · rw [Pending.view_other hkey (hdisk a hkey)] at hsome
    exact hcovered hsome

theorem Covered.fail (h : s.Covered) {i : Nat} (hkept : s.Kept (.fail i)) :
    Covered { s with flight := s.flight.eraseIdx i } := by
  cases hget : s.flight[i]? with
  | none =>
    rw [List.eraseIdx_of_length_le (List.getElem?_eq_none_iff.mp hget)]
    exact h
  | some r => exact h.settle hget (fun _ _ => rfl) fun hdrop _ => hkept r hget hdrop

theorem Covered.commit (h : s.Covered) {i : Nat} (hkept : s.Kept (.request (.commit i))) :
    (Watched.commit i s).Covered := by
  rw [Watched.commit]
  split
  · exact h
  · exact h
  · next r _ hget =>
    refine h.settle hget (fun a hkey => Pending.getElem?_apply_of_ne hkey) fun hdrop hlater => ?_
    refine (hkept r hget hdrop).imp id fun hfree => ?_
    have hnone : r.outcome = none := by
      cases r with
      | put => cases hdrop
      | drop => rfl
    have hready : r.outcome ≠ some none := by
      rw [hnone]
      exact fun h => by cases h
    rw [List.eraseIdx_eq_take_drop_succ, Pending.view_commit hready hfree,
      Pending.view_last hlater, hnone]

/-- A restart that loses no removal finds rows of listed stations only. -/
theorem Covered.loaded_mem (h : s.Covered) (hkept : s.Kept (.restart true)) {station : String}
    (hrow : station ∈ loadWatchedStations s.disk) : station ∈ s.list := by
  rw [mem_loadWatchedStations] at hrow
  cases hview : s.view station with
  | some v =>
    refine h station ?_
    rw [hview]
    rfl
  | none =>
    rcases Pending.view_eq_none hview with hnone | ⟨r, hr, hkey, hdrop⟩
    · rw [hnone] at hrow
      cases hrow
    · rcases hkept r hr hdrop with hmem | hnone
      · rwa [hkey] at hmem
      · rw [hkey] at hnone
        rw [hnone] at hrow
        cases hrow

/-- The rows that a restart finds are all different, so there are no more of them than
stations in the list. -/
theorem Covered.restart_within (h : s.Covered) (hsound : s.Sound)
    (hkept : s.Kept (.restart true)) : Within (loadWatchedStations s.disk) where
  capped := by
    have hsub : loadWatchedStations s.disk ⊆ s.list := fun _ hrow => h.loaded_mem hkept hrow
    exact ((agrees_start s.disk).nodup.subperm hsub).length_le.trans hsound.list.capped
  nodup := (agrees_start s.disk).nodup
  named station hmem := hsound.rows station (mem_loadWatchedStations.mp hmem)

/-! ## The cap -/

theorem next_covered {i : ProcessInput} (hkept : s.Kept i) (h : s.Covered) :
    (next s i).1.Covered := by
  cases i with
  | request i =>
    cases i with
    | post body => exact h.post body
    | delete station => exact h.delete station
    | readClock i now => exact h.readClock i now
    | commit i => exact h.commit hkept
  | fail i => exact h.fail hkept
  | restart loaded =>
    cases loaded with
    | true => exact covered_start s.disk
    | false =>
      intro station hsome
      have hempty : s.disk = ∅ := by
        rw [← Std.ExtTreeMap.isEmpty_iff, Std.ExtTreeMap.isEmpty_eq_size_beq_zero, hkept]
        rfl
      rw [view_quiet rfl, Option.isSome_map] at hsome
      change (s.disk[station]?).isSome = true at hsome
      rw [hempty, Std.ExtTreeMap.getElem?_empty] at hsome
      cases hsome

theorem next_sound {i : ProcessInput} (hkept : s.Kept i) (hcovered : s.Covered) (h : s.Sound) :
    (next s i).1.Sound := by
  cases i with
  | request i => exact h.request i
  | fail i => exact h.forget i
  | restart loaded =>
    cases loaded with
    | true => exact ⟨hcovered.restart_within h hkept, h.rows, fun _ _ hmem => by cases hmem⟩
    | false => exact ⟨within_nil, h.rows, fun _ _ hmem => by cases hmem⟩

/-- The list stays within its cap in every state of a run whose steps leave no row behind. -/
theorem watched_within (is : List ProcessInput)
    (hkept : ∀ js i, js ++ [i] <+: is → (Lib.run next (start ∅) js).1.Kept i) :
    ∀ js, js <+: is → Within (Lib.run next (start ∅) js).1.list := by
  intro js hpre
  have hrun : (Lib.run next (start ∅) js).1.Covered ∧ (Lib.run next (start ∅) js).1.Sound := by
    refine run_guarded (P := fun s => s.Covered ∧ s.Sound)
      ⟨covered_start ∅, sound_start⟩ (fun s i hok h => ?_) js
      fun ks i hks => hkept ks i (hks.trans hpre)
    exact ⟨next_covered hok h.1, next_sound hok h.1 h.2⟩
  exact hrun.2.list

/-- Requests to add the stations `n`, `n + 1`, …, each of them complete before the next. -/
def added : Nat → Nat → List ProcessInput
  | _, 0 => []
  | n, count + 1 =>
    [.request (.post (Nat.repr n)), .request (.readClock 0 (n * 1000)), .request (.commit 0)] ++
      added (n + 1) count

/-- Two stations, the removal of one of them, an addition that is not stored, and a restart. -/
def removedAndRestarted : List ProcessInput :=
  added 0 2 ++ [.request (.delete "0"), .request (.commit 0), .request (.post "7"), .fail 0,
    .restart true, .request (.post "8")]

theorem watched_within_restarted :
    Within (Lib.run next (start ∅) removedAndRestarted).1.list :=
  watched_within removedAndRestarted (forall_prefix_of_take (by decide +kernel))
    removedAndRestarted List.prefix_rfl

/-- The deletion of the first station overtakes the transaction that adds it.  Its row
is left behind, and the restart brings back 21 stations. -/
def overfull : List ProcessInput :=
  [.request (.post "0"), .request (.delete "0"), .request (.commit 1),
    .request (.readClock 0 0), .request (.commit 0)] ++ added 1 20 ++ [.restart true]

theorem overfull_not_within :
    ¬ ∀ js, js <+: overfull → Within (Lib.run next (start ∅) js).1.list := by
  intro h
  have hcount : (Lib.run next (start ∅) overfull).1.list.length = 21 := by decide +kernel
  have hcap := (h overfull List.prefix_rfl).capped
  rw [hcount] at hcap
  exact absurd hcap (by decide)

end Server

end Watched
end Rtpigate
