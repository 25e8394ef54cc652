/-
The watched stations.

The list in memory is changed under its lock, and the store in one transaction some
time after the lock is released.  The clock for the row of a new station is read in
between.  The store brings back the list as long as no request overtakes another for
the same station on its way to the store, and the clocks are read in the order of the
list.
-/
import Rtpigate.Lib.InFlight
import Rtpigate.Lib.Machine
import Rtpigate.Lib.Ordered
import Rtpigate.Store

namespace Rtpigate
namespace Watched

open Lib

def MAX_WATCHED : Nat := 20

/-- `char::is_whitespace`. -/
def isWhitespace (c : Char) : Bool :=
  let n := c.toNat
  (9 ≤ n && n ≤ 13) || n == 32 || n == 0x85 || n == 0xA0 || n == 0x1680 ||
    (0x2000 ≤ n && n ≤ 0x200A) || n == 0x2028 || n == 0x2029 || n == 0x202F || n == 0x205F ||
    n == 0x3000

def trim (s : String) : String :=
  String.ofList ((s.toList.dropWhile isWhitespace).rdropWhile isWhitespace)

inductive StatusCode
  | badRequest
  | conflict
  deriving DecidableEq, Repr

/-- A response: the list, or an error. -/
abbrev Answer : Type := Except StatusCode (List String)

/-! ## The store -/

/-- The stations, each with the microseconds of when it was added. -/
abbrev Disk : Type := Table String Int

/-- The rows come by callsign, and the sort by time is stable. -/
def sortedRows (d : Disk) : List (String × Int) := d.toList.insertionSort fun a b => a.2 ≤ b.2

def loadWatchedStations (d : Disk) : List String := (sortedRows d).map Prod.fst

/-! ## The server -/

/-- The list, the store, and the requests whose transactions are still to come, in the
order in which they have held the lock. -/
structure Server where
  list : List String
  disk : Disk
  flight : List (Pending String Int) := []

/-- A request holds the lock, reads the clock for its row, or commits.  The last two
name the request by its place among those in flight. -/
inductive Input
  | post (body : String)
  | delete (station : String)
  | readClock (i : Nat) (now : Int)
  | commit (i : Nat)
  deriving DecidableEq, Repr

def post (body : String) (s : Server) : Server × List Answer :=
  let station := trim body
  if station.isEmpty then (s, [.error .badRequest])
  else if s.list.any (· == station) then (s, [.ok s.list])
  else if MAX_WATCHED ≤ s.list.length then (s, [.error .conflict])
  else
    let updated := s.list ++ [station]
    ({ s with list := updated, flight := s.flight ++ [.put station none] }, [.ok updated])

def delete (station : String) (s : Server) : Server × List Answer :=
  let updated := s.list.filter (· ≠ station)
  ({ s with list := updated, flight := s.flight ++ [.drop station] }, [.ok updated])

def readClock (i : Nat) (now : Int) (s : Server) : Server :=
  match s.flight[i]? with
  | some (.put station none) =>
    { s with flight := s.flight.set i (.put station (some (toMicros now))) }
  | _ => s

def commit (i : Nat) (s : Server) : Server :=
  match s.flight[i]? with
  | none | some (.put _ none) => s
  | some r => { s with disk := r.apply s.disk, flight := s.flight.eraseIdx i }

def step (s : Server) : Input → Server × List Answer
  | .post body => post body s
  | .delete station => delete station s
  | .readClock i now => (readClock i now s, [])
  | .commit i => (commit i s, [])

namespace Server

/-- What the store is going to hold of a station. -/
def view (s : Server) (station : String) : Option (Option Int) :=
  Pending.view s.disk s.flight station

/-- The stations of a list whose times are known. -/
def timed (view : String → Option (Option Int)) (list : List String) : List (String × Int) :=
  list.filterMap fun station => (view station).join.map fun t => (station, t)

/-- The known times are in the order of the list. -/
def InOrder (view : String → Option (Option Int)) (list : List String) : Prop :=
  (timed view list).Pairwise Earlier

instance (view : String → Option (Option Int)) (list : List String) :
    Decidable (InOrder view list) := inferInstanceAs (Decidable (List.Pairwise _ _))

/-- A clock that is read fits the order of the list, unless the station is not listed
for this request, and a transaction overtakes none for the same station that held the
lock before it. -/
def Safe (s : Server) : Input → Prop
  | .post _ | .delete _ => True
  | .readClock i now => ∀ r ∈ s.flight[i]?, r.outcome = some none →
      r.key ∈ (s.flight.drop (i + 1)).map Pending.key ∨
        InOrder (Function.update s.view r.key (some (some (toMicros now)))) s.list
  | .commit i => ∀ r ∈ s.flight[i]?, ∀ q ∈ s.flight.take i, q.Exchange r

instance (s : Server) : (i : Input) → Decidable (s.Safe i)
  | .post _ | .delete _ => inferInstanceAs (Decidable True)
  | .readClock i _ => inferInstanceAs (Decidable (∀ r ∈ s.flight[i]?, _))
  | .commit i => inferInstanceAs (Decidable (∀ r ∈ s.flight[i]?, _))

/-- The store is going to hold the stations of the list, in the order of the list. -/
structure Agrees (s : Server) : Prop where
  nodup : s.list.Nodup
  mem : ∀ station, station ∈ s.list ↔ (s.view station).isSome = true
  order : InOrder s.view s.list

variable {s : Server} {view view' : String → Option (Option Int)} {list : List String}

theorem timed_congr (h : ∀ station ∈ list, view station = view' station) :
    timed view list = timed view' list :=
  List.filterMap_congr fun station hs => by rw [h station hs]

theorem mem_timed {e : String × Int} :
    e ∈ timed view list ↔ e.1 ∈ list ∧ (view e.1).join = some e.2 := by
  rw [timed, List.mem_filterMap]
  constructor
  · intro ⟨station, hmem, he⟩
    obtain ⟨t, ht, rfl⟩ := Option.map_eq_some_iff.mp he
    exact ⟨hmem, ht⟩
  · intro ⟨hmem, ht⟩
    exact ⟨e.1, hmem, by rw [ht]; rfl⟩

/-! ## Steps -/

/-- A station is added at the end, or nothing happens. -/
theorem post_cases (body : String) (s : Server) : (Watched.post body s).1 = s ∨
    trim body ≠ "" ∧ trim body ∉ s.list ∧ s.list.length < MAX_WATCHED ∧
      (Watched.post body s).1 =
        { s with
          list := s.list ++ [trim body]
          flight := s.flight ++ [.put (trim body) none] } := by
  have hpost : Watched.post body s =
      if (trim body).isEmpty then (s, [.error .badRequest])
      else if s.list.any (· == trim body) then (s, [.ok s.list])
      else if MAX_WATCHED ≤ s.list.length then (s, [.error .conflict])
      else ({ s with
        list := s.list ++ [trim body]
        flight := s.flight ++ [.put (trim body) none] }, [.ok (s.list ++ [trim body])]) := rfl
  rw [hpost]
  generalize trim body = station
  by_cases hempty : station.isEmpty = true
  · rw [if_pos hempty]
    exact Or.inl rfl
  rw [if_neg hempty]
  by_cases hmem : s.list.any (· == station) = true
  · rw [if_pos hmem]
    exact Or.inl rfl
  rw [if_neg hmem]
  by_cases hfull : MAX_WATCHED ≤ s.list.length
  · rw [if_pos hfull]
    exact Or.inl rfl
  rw [if_neg hfull]
  refine Or.inr ⟨fun h => hempty (by rw [h]; rfl), fun h => hmem ?_, not_le.mp hfull, rfl⟩
  exact List.any_eq_true.mpr ⟨station, h, beq_self_eq_true _⟩

theorem Agrees.post (h : s.Agrees) (body : String) : (Watched.post body s).1.Agrees := by
  rcases post_cases body s with hsame | ⟨-, hnew, -, hpost⟩
  · rw [hsame]
    exact h
  generalize (Watched.post body s).1 = s' at hpost ⊢
  generalize trim body = station at hnew hpost
  have hlist : s'.list = s.list ++ [station] := by rw [hpost]
  have hview : ∀ a, s'.view a = if station = a then some none else s.view a := by
    intro a
    rw [hpost]
    exact Pending.view_concat
  refine ⟨?_, fun a => ?_, ?_⟩
  · rw [hlist, List.nodup_append]
    refine ⟨h.nodup, List.nodup_singleton _, fun a ha b hb heq => hnew ?_⟩
    rw [← List.mem_singleton.mp hb, ← heq]
    exact ha
  · rw [hlist, hview, List.mem_append, List.mem_singleton, h.mem]
    by_cases ha : station = a
    · simp [ha]
    · simp [ha, Ne.symm ha]
  · have hold : ∀ a ∈ s.list, s'.view a = s.view a := by
      intro a ha
      rw [hview, if_neg fun heq : station = a => hnew (heq ▸ ha)]
    -- the time of the new station is not known yet
    have hnone : timed s'.view [station] = [] := by
      simp only [timed, List.filterMap_cons, List.filterMap_nil, hview, if_true]
      rfl
    rw [InOrder, hlist, timed, List.filterMap_append]
    show (timed s'.view s.list ++ timed s'.view [station]).Pairwise Earlier
    rw [hnone, List.append_nil, timed_congr hold]
    exact h.order

theorem Agrees.delete (h : s.Agrees) (station : String) :
    (Watched.delete station s).1.Agrees := by
  have hview : ∀ a, (Watched.delete station s).1.view a =
      if station = a then none else s.view a := fun a => Pending.view_concat
  refine ⟨h.nodup.filter _, fun a => ?_, ?_⟩
  · rw [hview]
    show a ∈ s.list.filter (· ≠ station) ↔ _
    rw [List.mem_filter, h.mem, decide_eq_true_eq]
    by_cases ha : station = a
    · simp [ha]
    · simp [ha, Ne.symm ha]
  · have hold : ∀ a ∈ s.list.filter (· ≠ station), (Watched.delete station s).1.view a =
        s.view a := by
      intro a ha
      have hne : a ≠ station := by simpa using (List.mem_filter.mp ha).2
      rw [hview, if_neg hne.symm]
    show (timed _ (s.list.filter (· ≠ station))).Pairwise Earlier
    rw [timed_congr hold]
    exact h.order.sublist (List.filter_sublist.filterMap _)

theorem flight_split {i : Nat} {r : Pending String Int} (h : s.flight[i]? = some r) :
    s.flight = s.flight.take i ++ r :: s.flight.drop (i + 1) := by
  obtain ⟨hi, rfl⟩ := List.getElem?_eq_some_iff.mp h
  rw [← List.drop_eq_getElem_cons hi, List.take_append_drop]

/-- The clock is read for a request that waits for it, or nothing happens. -/
theorem readClock_cases (i : Nat) (now : Int) (s : Server) : Watched.readClock i now s = s ∨
    ∃ station, s.flight[i]? = some (.put station none) ∧
      (Watched.readClock i now s).list = s.list := by
  rw [Watched.readClock]
  split
  · next station hget => exact Or.inr ⟨station, hget, rfl⟩
  · exact Or.inl rfl

/-- A clock that is read is what will be on disk, unless a later request decides. -/
theorem view_readClock {i : Nat} {station : String} (hget : s.flight[i]? = some (.put station none))
    (now : Int) (a : String) : (Watched.readClock i now s).view a =
      if a = station ∧ station ∉ (s.flight.drop (i + 1)).map Pending.key
      then some (some (toMicros now)) else s.view a := by
  have hread : Watched.readClock i now s =
      { s with flight := s.flight.set i (.put station (some (toMicros now))) } := by
    simp only [Watched.readClock, hget]
  have hset : s.flight.set i (.put station (some (toMicros now))) =
      s.flight.take i ++ .put station (some (toMicros now)) :: s.flight.drop (i + 1) := by
    obtain ⟨hi, -⟩ := List.getElem?_eq_some_iff.mp hget
    rw [List.set_eq_take_append_cons_drop, if_pos hi]
  rw [hread]
  show Pending.view s.disk (s.flight.set i _) a = if _ then _ else Pending.view s.disk s.flight a
  rw [hset, Pending.view_know, ← flight_split hget]

/-- A request to add a station that no later one undoes. -/
theorem view_of_put {i : Nat} {station : String} (hget : s.flight[i]? = some (.put station none))
    (hlater : station ∉ (s.flight.drop (i + 1)).map Pending.key) :
    s.view station = some none := by
  rw [view, Pending.view, flight_split hget, Pending.latest_split,
    latest_eq_none_iff.mpr hlater, Option.none_or,
    if_pos (show (Pending.put station none : Pending String Int).key = station from rfl)]
  rfl

theorem Agrees.readClock (h : s.Agrees) {i : Nat} {now : Int} (hsafe : s.Safe (.readClock i now)) :
    (Watched.readClock i now s).Agrees := by
  rcases readClock_cases i now s with hsame | ⟨station, hget, hlist⟩
  · rw [hsame]
    exact h
  have hview := view_readClock hget now
  by_cases hlater : station ∈ (s.flight.drop (i + 1)).map Pending.key
  · have hsame : (Watched.readClock i now s).view = s.view := by
      funext a
      rw [hview, if_neg fun ha => ha.2 hlater]
    exact ⟨hlist ▸ h.nodup, by rw [hlist, hsame]; exact h.mem, by rw [hlist, hsame]; exact h.order⟩
  · have hupdate : (Watched.readClock i now s).view =
        Function.update s.view station (some (some (toMicros now))) := by
      funext a
      rw [hview, Function.update_apply]
      by_cases ha : a = station
      · rw [if_pos ⟨ha, hlater⟩, if_pos ha]
      · rw [if_neg fun h => ha h.1, if_neg ha]
    refine ⟨hlist ▸ h.nodup, fun a => ?_, ?_⟩
    · rw [hlist, hupdate, h.mem, Function.update_apply]
      split
      · next ha => rw [ha, view_of_put hget hlater]; exact iff_of_true rfl rfl
      · rfl
    · rw [hlist, hupdate]
      exact (hsafe _ hget rfl).resolve_left hlater

theorem Agrees.commit (h : s.Agrees) {i : Nat} (hsafe : s.Safe (.commit i)) :
    (Watched.commit i s).Agrees := by
  rw [Watched.commit]
  rw [Safe] at hsafe
  split
  · exact h
  · exact h
  · next r hready hget =>
    have hsplit := flight_split hget
    have hview : Server.view { s with disk := r.apply s.disk, flight := s.flight.eraseIdx i } =
        s.view := by
      funext a
      have houtcome : r.outcome ≠ some none := by
        cases r with
        | drop => exact fun h => by cases h
        | put a v =>
          cases v with
          | none => exact absurd rfl (hready a)
          | some v => exact fun h => by cases h
      show Pending.view (r.apply s.disk) (s.flight.eraseIdx i) a = Pending.view s.disk s.flight a
      rw [List.eraseIdx_eq_take_drop_succ, Pending.view_commit houtcome (hsafe r hget), ← hsplit]
    exact ⟨h.nodup, hview ▸ h.mem, hview ▸ h.order⟩

theorem step_agrees {i : Input} (hsafe : s.Safe i) (h : s.Agrees) : (step s i).1.Agrees := by
  cases i with
  | post body => exact h.post body
  | delete station => exact h.delete station
  | readClock i now => exact h.readClock hsafe
  | commit i => exact h.commit hsafe

/-! ## Runs -/

/-- The server as it starts. -/
def start (disk : Disk) : Server := { list := loadWatchedStations disk, disk }

theorem sortedRows_earlier (d : Disk) : (sortedRows d).Pairwise Earlier :=
  insertionSort_earlier (d.ordered_keys_toList.imp compare_lt_iff_lt.mp)

theorem mem_sortedRows {d : Disk} {e : String × Int} : e ∈ sortedRows d ↔ d[e.1]? = some e.2 := by
  rw [sortedRows, List.mem_insertionSort]
  exact Std.ExtTreeMap.mem_toList_iff_getElem?_eq_some

theorem mem_loadWatchedStations {d : Disk} {station : String} :
    station ∈ loadWatchedStations d ↔ (d[station]?).isSome = true := by
  rw [loadWatchedStations, List.mem_map, Option.isSome_iff_exists]
  constructor
  · rintro ⟨e, he, rfl⟩
    exact ⟨e.2, mem_sortedRows.mp he⟩
  · intro ⟨t, ht⟩
    exact ⟨(station, t), mem_sortedRows.mpr ht, rfl⟩

theorem view_quiet (hflight : s.flight = []) (station : String) :
    s.view station = (s.disk[station]?).map some := by
  rw [view, hflight, Pending.view_nil]

/-- With no request in flight, the rows in the order of the list are the sorted rows. -/
theorem timed_eq_sortedRows (hflight : s.flight = [])
    (hmem : ∀ station, station ∈ s.list ↔ (s.view station).isSome = true)
    (horder : InOrder s.view s.list) : timed s.view s.list = sortedRows s.disk := by
  refine eq_of_ordered (fun _ _ => Earlier.asymm) horder (sortedRows_earlier _) fun e => ?_
  rw [mem_timed, hmem, mem_sortedRows, view_quiet hflight]
  cases s.disk[e.1]? <;> simp

/-- With no request in flight, the list is made of the rows. -/
theorem timed_fst (hflight : s.flight = [])
    (hmem : ∀ station, station ∈ s.list ↔ (s.view station).isSome = true) :
    (timed s.view s.list).map Prod.fst = s.list := by
  have hfst : ∀ l : List String, (∀ a ∈ l, a ∈ s.list) → (timed s.view l).map Prod.fst = l := by
    intro l
    induction l with
    | nil => exact fun _ => rfl
    | cons a l ih =>
      intro hl
      have hsome := (hmem a).mp (hl a List.mem_cons_self)
      rw [view_quiet hflight, Option.isSome_map] at hsome
      obtain ⟨t, ht⟩ := Option.isSome_iff_exists.mp hsome
      have hview : (s.view a).join.map (fun t => (a, t)) = some (a, t) := by
        rw [view_quiet hflight, ht]
        rfl
      simp only [timed, List.filterMap_cons, hview, List.map_cons]
      exact congrArg (a :: ·) (ih fun b hb => hl b (List.mem_cons_of_mem a hb))
  exact hfst s.list fun _ h => h

theorem agrees_start (disk : Disk) : (start disk).Agrees := by
  have hmem : ∀ station, station ∈ (start disk).list ↔
      ((start disk).view station).isSome = true := by
    intro station
    rw [view_quiet rfl, Option.isSome_map]
    exact mem_loadWatchedStations
  have htimed : timed (start disk).view (start disk).list = sortedRows disk := by
    show timed _ ((sortedRows disk).map Prod.fst) = _
    rw [timed, List.filterMap_map]
    conv_rhs => rw [← List.filterMap_some (l := sortedRows disk)]
    refine List.filterMap_congr fun e he => ?_
    show ((start disk).view e.1).join.map _ = _
    rw [view_quiet rfl]
    show ((disk[e.1]?).map some).join.map _ = _
    rw [mem_sortedRows.mp he]
    rfl
  refine ⟨?_, hmem, ?_⟩
  · refine List.pairwise_map.mpr ((sortedRows_earlier disk).imp_of_mem fun {a b} ha hb hab heq => ?_)
    have hrow := mem_sortedRows.mp ha
    rw [heq, mem_sortedRows.mp hb] at hrow
    have hab' : a = b := Prod.ext heq (Option.some.inj hrow).symm
    subst hab'
    exact hab.asymm hab
  · rw [InOrder, htimed]
    exact sortedRows_earlier disk

theorem Agrees.quiet (h : s.Agrees) (hflight : s.flight = []) :
    loadWatchedStations s.disk = s.list := by
  rw [loadWatchedStations, ← timed_eq_sortedRows hflight h.mem h.order]
  exact timed_fst hflight h.mem

/-- Once no request is in flight, the store brings back the list, if no transaction has
overtaken another for the same station and the clocks were read in the order of the
list. -/
theorem watched_agrees (disk : Disk) (is : List Input)
    (hsafe : ∀ js i, js ++ [i] <+: is → (Lib.run step (start disk) js).1.Safe i)
    (hdone : (Lib.run step (start disk) is).1.flight = []) :
    loadWatchedStations (Lib.run step (start disk) is).1.disk =
      (Lib.run step (start disk) is).1.list :=
  (run_guarded (agrees_start disk) (fun _ _ hok h => step_agrees hok h) is hsafe).quiet hdone

/-- Two stations are added at the same time, their transactions exchanged. -/
def exchanged : List Input :=
  [.post "W1AW", .post "W2AW", .readClock 0 1000, .readClock 1 1001000, .commit 1, .commit 0]

theorem watched_agrees_exchanged :
    loadWatchedStations (Lib.run step (start ∅) exchanged).1.disk =
      (Lib.run step (start ∅) exchanged).1.list :=
  watched_agrees ∅ exchanged (forall_prefix_of_take (by decide +kernel)) (by decide +kernel)

/-- The deletion of a station overtakes the transaction that adds it. -/
theorem overtaken_station_returns :
    let s := Lib.run step (start ∅)
      [.post "W1AW", .delete "W1AW", .commit 1, .readClock 0 1000, .commit 0]
    (loadWatchedStations (∅ : Disk) = (start ∅).list ∧ s.1.flight = []) ∧
      s.1.list = [] ∧ loadWatchedStations s.1.disk = ["W1AW"] := by
  decide +kernel

end Server

end Watched
end Rtpigate
