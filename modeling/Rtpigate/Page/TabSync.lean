/-
The tabs and the watched list.

The page opens a tab when the server has put the station on its list, and closes it before
the server has taken the station off.  A load opens the tabs of the list as the server sent
it.  Each station can be looked at on its own: as long as its requests do not overlap, its
tab is open exactly if the station is on the list, whenever no request is under way.
-/
import Rtpigate.Lib.Machine
import Rtpigate.Page.Tabs

namespace Rtpigate
namespace Page
namespace Tabs

open Lib

variable {F : Type}

/-- The requests that open or close the tab of a station, or change the list there. -/
def Request.about (station : String) : Request → Bool
  | .getWatched => true
  | .postWatched s | .deleteWatched s => decide (s = station)
  | .satellitePackets | .stationPackets _ => false

def View.isOpen (v : View F) (station : String) : Bool := (v.stationTabs[station]?).isSome

def World.underway (w : World F) (station : String) : List (Xhr F) :=
  w.calls.filter fun x => x.request.about station

/-- What a request under way says about the list, while the tab is closed. -/
def Xhr.Fits (station : String) (listed : Prop) (x : Xhr F) : Prop :=
  x.awaited = true ∧
    match x.request, x.answer with
    | .getWatched, none | .deleteWatched _, none => True
    | .getWatched, some (.watched [.ok list]) => station ∈ list ↔ listed
    | .postWatched _, some (.watched [.ok _]) => listed
    | .postWatched _, none | .postWatched _, some (.watched [.error _]) => ¬ listed
    | .deleteWatched _, some _ => ¬ listed
    | _, _ => False

/-- Nothing is under way for the station, and its tab is open if it is listed; or there is
one request, and the tab is closed. -/
inductive World.Agrees (station : String) (w : World F) : Prop
  | settled (hnone : w.underway station = [])
      (hopen : w.view.isOpen station = true ↔ station ∈ w.watched.list)
  | underway (x : Xhr F) (hone : w.underway station = [x])
      (hclosed : w.view.isOpen station = false)
      (hfits : x.Fits station (station ∈ w.watched.list))

/-- No other station is posted that the server takes for this one. -/
def World.Distinct (station : String) (w : World F) : Prop :=
  ∀ x ∈ w.calls, ∀ s, x.request = .postWatched s → s ≠ station → Watched.trim s ≠ station

/-- The user does not ask for the station, or load the page again, while a request for it is
under way; none of these is lost; and nobody else changes the list there. -/
def World.Orderly (station : String) (w : World F) : Input F → Prop
  | .watched (.post body) => Watched.trim body ≠ station
  | .watched (.delete s) => s ≠ station
  | .load => w.underway station = []
  | .watch s => if s = station then w.underway station = [] else Watched.trim s ≠ station
  | .lose k => ∀ x ∈ w.calls[k]?, x.request.about station = false
  | .watched (.readClock _ _) | .watched (.commit _) | .listener _ | .rfpacket _ _ | .close _
  | .choose _ | .serve _ _ _ | .answer _ _ => True

/-! ## The list -/

theorem post_list {station body : String} (h : Watched.trim body ≠ station) (s : Watched.Server) :
    station ∈ (Watched.post body s).1.list ↔ station ∈ s.list := by
  rcases Watched.Server.post_cases body s with heq | ⟨-, -, -, heq⟩
  · rw [heq]
  · rw [heq]
    show station ∈ s.list ++ [Watched.trim body] ↔ _
    rw [List.mem_append, List.mem_singleton, or_iff_left fun he => h he.symm]

theorem delete_list {station s : String} (h : s ≠ station) (server : Watched.Server) :
    station ∈ (Watched.delete s server).1.list ↔ station ∈ server.list := by
  show station ∈ server.list.filter (· ≠ s) ↔ _
  rw [List.mem_filter, decide_eq_true_eq]
  exact and_iff_left fun he => h he.symm

theorem delete_not_listed (station : String) (server : Watched.Server) :
    station ∉ (Watched.delete station server).1.list := by
  intro hmem
  exact of_decide_eq_true (List.mem_filter.mp hmem).2 rfl

/-- A station is listed when the answer says so, and is not put there otherwise. -/
theorem post_answer {station : String} (h : Watched.trim station = station) (s : Watched.Server) :
    (∃ list, (Watched.post station s).2 = [.ok list] ∧
        station ∈ (Watched.post station s).1.list) ∨
      ∃ e, (Watched.post station s).2 = [.error e] ∧ (Watched.post station s).1.list = s.list := by
  have hpost : Watched.post station s =
      if station.isEmpty then (s, [.error .badRequest])
      else if s.list.any (· == station) then (s, [.ok s.list])
      else if Watched.MAX_WATCHED ≤ s.list.length then (s, [.error .conflict])
      else ({ s with
        list := s.list ++ [station]
        flight := s.flight ++ [.put station none] }, [.ok (s.list ++ [station])]) := by
    rw [Watched.post, h]
  rw [hpost]
  split
  · exact Or.inr ⟨_, rfl, rfl⟩
  split
  · next hany =>
    obtain ⟨s', hs', heq⟩ := List.any_eq_true.mp hany
    exact Or.inl ⟨_, rfl, eq_of_beq heq ▸ hs'⟩
  split
  · exact Or.inr ⟨_, rfl, rfl⟩
  · exact Or.inl ⟨_, rfl, List.mem_append_right _ List.mem_cons_self⟩

/-! ## The tabs -/

theorem openStationTab_isOpen (s : String) (activate : Bool) (v : View F) (station : String) :
    (openStationTab s activate v).view.isOpen station = true ↔
      v.isOpen station = true ∨ s = station := by
  rw [openStationTab]
  cases hget : v.stationTabs[s]? with
  | some rows =>
    have hview : (if activate then activatePacketTab (some s) v else v).isOpen station =
        v.isOpen station := by cases activate <;> rfl
    show (if activate then activatePacketTab (some s) v else v).isOpen station = true ↔ _
    rw [hview]
    refine ⟨Or.inl, fun h => h.elim id fun he => ?_⟩
    rw [View.isOpen, ← he, hget]
    rfl
  | none =>
    have hview : (openStationTab s activate v).view.isOpen station =
        ((v.stationTabs.insert s [])[station]?).isSome := by
      rw [openStationTab, hget]
      cases activate <;> rfl
    rw [openStationTab, hget] at hview
    rw [hview, Table.getElem?_insert_ite]
    by_cases hs : s = station
    · rw [if_pos hs]
      exact iff_of_true rfl (Or.inr hs)
    · rw [if_neg hs, or_iff_left hs]
      rfl

theorem openStationTab_sent (s : String) (activate : Bool) (v : View F) :
    ∀ r ∈ (openStationTab s activate v).sent, ∃ s', r = .stationPackets s' := by
  rw [openStationTab]
  split
  · exact fun _ hr => by cases hr
  · exact fun r hr => ⟨s, List.mem_singleton.mp hr⟩

theorem restoreWatchedTabs_open (list : List String) (v : View F) (station : String) :
    ((restoreWatchedTabs list v).view.isOpen station = true ↔
        v.isOpen station = true ∨ station ∈ list) ∧
      ∀ r ∈ (restoreWatchedTabs list v).sent, ∃ s, r = .stationPackets s := by
  have hall : ∀ (list : List String) (e : Effect F),
      (∀ r ∈ e.sent, ∃ s, r = .stationPackets s) →
      ((list.foldl (fun e s => e.then (openStationTab s false)) e).view.isOpen station = true ↔
          e.view.isOpen station = true ∨ station ∈ list) ∧
        ∀ r ∈ (list.foldl (fun e s => e.then (openStationTab s false)) e).sent,
          ∃ s, r = .stationPackets s := by
    intro list
    induction list with
    | nil => exact fun e h => ⟨by simp, h⟩
    | cons s list ih =>
      intro e h
      have hsent : ∀ r ∈ (e.then (openStationTab s false)).sent, ∃ s', r = .stationPackets s' :=
        fun r hr => (List.mem_append.mp hr).elim (h r) (openStationTab_sent s false e.view r)
      obtain ⟨hopen, hrest⟩ := ih (e.then (openStationTab s false)) hsent
      refine ⟨hopen.trans ?_, hrest⟩
      rw [show (e.then (openStationTab s false)).view = (openStationTab s false e.view).view from rfl,
        openStationTab_isOpen, List.mem_cons, or_assoc, eq_comm (a := s)]
  exact hall list { view := v } fun _ hr => by cases hr

theorem backfillStationTab_isOpen [F64 F] [JsonNumber F] (s : String)
    (packets : List (RTPPacket F)) (v : View F) (station : String) :
    (backfillStationTab s packets v).view.isOpen station = v.isOpen station := by
  rw [backfillStationTab]
  cases hget : v.stationTabs[s]? with
  | none => rfl
  | some rows =>
    show ((v.stationTabs.insert s _)[station]?).isSome = _
    rw [Table.getElem?_insert_ite]
    split
    · next hs =>
      rw [View.isOpen, ← hs, hget]
      rfl
    · rfl

theorem onRfpacket_isOpen [F64 F] [JsonNumber F] (now : Int) (data : RTPPacket F) (v : View F)
    (station : String) : (onRfpacket now data v).view.isOpen station = v.isOpen station := by
  have hroute : ∀ v : View F, (routeToStationTab data v).isOpen station = v.isOpen station := by
    intro v
    rw [routeToStationTab]
    split
    · rfl
    · cases hget : v.stationTabs[data.source]? with
      | none => rfl
      | some rows =>
        dsimp only
        cases addPacketRow STATION_MAX_ROWS data rows with
        | none => rfl
        | some rows' =>
          show ((v.stationTabs.insert data.source rows')[station]?).isSome = _
          rw [Table.getElem?_insert_ite]
          split
          · next hs =>
            rw [View.isOpen, ← hs, hget]
            rfl
          · rfl
  rw [onRfpacket]
  cases addPacketRow MAX_PACKETS data v.packetBody with
  | none => rfl
  | some body =>
    show View.isOpen (if data.isSatellite then _ else _ : View F) station = _
    split
    · exact hroute _
    · exact hroute _

theorem onRfpacket_sent [F64 F] [JsonNumber F] (now : Int) (data : RTPPacket F) (v : View F) :
    (onRfpacket now data v).sent = [] := by
  rw [onRfpacket]
  cases addPacketRow MAX_PACKETS data v.packetBody with
  | none => rfl
  | some body => rfl

/-! ## Requests under way -/

section Places

variable {α : Type*} {p : α → Bool} {l : List α} {k : Nat} {x y : α}

theorem eq_take_cons_drop (hget : l[k]? = some x) : l = l.take k ++ x :: l.drop (k + 1) := by
  obtain ⟨hk, rfl⟩ := List.getElem?_eq_some_iff.mp hget
  rw [List.getElem_cons_drop, List.take_append_drop]

theorem filter_eraseIdx (hget : l[k]? = some x) (hx : p x = false) :
    (l.eraseIdx k).filter p = l.filter p := by
  conv => rhs; rw [eq_take_cons_drop hget]
  rw [List.eraseIdx_eq_take_drop_succ, List.filter_append, List.filter_append,
    List.filter_cons_of_neg (ne_true_of_eq_false hx)]

theorem filter_set (hget : l[k]? = some x) (hx : p x = false) (hy : p y = false) :
    (l.set k y).filter p = l.filter p := by
  conv => rhs; rw [eq_take_cons_drop hget]
  rw [List.set_eq_take_append_cons_drop, if_pos (List.getElem?_eq_some_iff.mp hget).1,
    List.filter_append, List.filter_append, List.filter_cons_of_neg (ne_true_of_eq_false hy),
    List.filter_cons_of_neg (ne_true_of_eq_false hx)]

/-- An item that is the only one of its kind is taken away, or becomes another one. -/
theorem filter_only {z : α} (hget : l[k]? = some x) (hx : p x = true) (hone : l.filter p = [z]) :
    z = x ∧ (l.eraseIdx k).filter p = [] ∧ ∀ y, p y = true → (l.set k y).filter p = [y] := by
  have hk : k < l.length := (List.getElem?_eq_some_iff.mp hget).1
  rw [eq_take_cons_drop hget, List.filter_append, List.filter_cons_of_pos hx] at hone
  obtain ⟨hbefore, hrest⟩ : (l.take k).filter p = [] ∧ x :: (l.drop (k + 1)).filter p = [z] := by
    cases htake : (l.take k).filter p with
    | nil => exact ⟨rfl, by rwa [htake] at hone⟩
    | cons a as =>
      rw [htake] at hone
      have hlen := congrArg List.length hone
      simp at hlen
  obtain ⟨hzx, hafter⟩ := List.cons.inj hrest
  refine ⟨hzx.symm, ?_, fun y hy => ?_⟩
  · rw [List.eraseIdx_eq_take_drop_succ, List.filter_append, hbefore, hafter]
    rfl
  · rw [List.set_eq_take_append_cons_drop, if_pos hk, List.filter_append,
      List.filter_cons_of_pos hy, hbefore, hafter]
    rfl

end Places

/-! ## Steps -/

section Steps

variable {w w' : World F} {station : String}

theorem World.Agrees.congr (h : w.Agrees station)
    (hunder : w'.underway station = w.underway station)
    (hopen : w'.view.isOpen station = w.view.isOpen station)
    (hlisted : station ∈ w'.watched.list ↔ station ∈ w.watched.list) : w'.Agrees station := by
  cases h with
  | settled hnone h => exact .settled (hunder.trans hnone) (by rw [hopen, hlisted]; exact h)
  | underway x hone hclosed hfits =>
    exact .underway x (hunder.trans hone) (hopen.trans hclosed) (by rw [hlisted]; exact hfits)

/-- Requests for the history of a station do not matter. -/
theorem underway_act (w : World F) {e : Effect F}
    (hsent : ∀ r ∈ e.sent, Request.about station r = false) :
    (w.act e).1.underway station = w.underway station := by
  show (w.calls ++ e.sent.map _).filter _ = w.calls.filter _
  rw [List.filter_append, List.append_right_eq_self, List.filter_eq_nil_iff]
  intro x hx
  obtain ⟨r, hr, rfl⟩ := List.mem_map.mp hx
  exact ne_true_of_eq_false (hsent r hr)

theorem underway_act_one (w : World F) {e : Effect F} {r : Request} (hsent : e.sent = [r])
    (hr : r.about station = true) (hnone : w.underway station = []) :
    (w.act e).1.underway station = [{ request := r }] := by
  show (w.calls ++ e.sent.map _).filter _ = _
  have hnone : w.calls.filter (fun x => x.request.about station) = [] := hnone
  rw [List.filter_append, hnone, hsent]
  exact List.filter_cons_of_pos (p := fun x : Xhr F => x.request.about station) hr

theorem World.Agrees.load (hnone : w.underway station = []) : w.load.1.Agrees station := by
  refine .underway { request := .getWatched } ?_ rfl ⟨rfl, trivial⟩
  have hold : (w.calls.map fun x => { x with awaited := false }).filter
      (fun x => x.request.about station) = [] := by
    rw [List.filter_map]
    show (w.underway station).map _ = []
    rw [hnone]
    rfl
  show ((w.calls.map fun x => { x with awaited := false }) ++ _).filter _ = _
  rw [List.filter_append, hold]
  rfl

theorem World.Agrees.watch (h : w.Agrees station) {s : String}
    (hs : s = station → w.underway station = []) :
    (w.act (watchStation s w.view)).1.Agrees station := by
  rw [watchStation]
  split
  · exact h.congr (underway_act w fun _ hr => by cases hr) rfl Iff.rfl
  split
  · exact h.congr (underway_act w fun _ hr => by cases hr) rfl Iff.rfl
  · next hclosed =>
    split
    · exact h.congr (underway_act w fun _ hr => by cases hr) rfl Iff.rfl
    · by_cases hne : s = station
      · subst hne
        have hnone := hs rfl
        have hshut : w.view.isOpen s = false := by
          rw [View.isOpen, hclosed]
          rfl
        refine .underway { request := .postWatched s }
          (underway_act_one w rfl (decide_eq_true rfl) hnone) hshut ⟨rfl, ?_⟩
        cases h with
        | settled _ hopen =>
          intro hlisted
          rw [hopen.mpr hlisted] at hshut
          cases hshut
        | underway x hone => exact absurd (hone.symm.trans hnone) (List.cons_ne_nil _ _)
      · refine h.congr (underway_act w fun r hr => ?_) rfl Iff.rfl
        rw [List.mem_singleton.mp hr]
        exact decide_eq_false hne

theorem World.Agrees.close (h : w.Agrees station) (s : String) :
    (w.act (closeStationTab s w.view)).1.Agrees station := by
  rw [closeStationTab]
  cases hget : w.view.stationTabs[s]? with
  | none => exact h.congr (underway_act w fun _ hr => by cases hr) rfl Iff.rfl
  | some rows =>
    have hview : ∀ station, View.isOpen (if w.view.active = some s then activatePacketTab none
        { w.view with stationTabs := w.view.stationTabs.erase s } else
        { w.view with stationTabs := w.view.stationTabs.erase s }) station =
          if s = station then false else w.view.isOpen station := by
      intro station
      have herase : ((w.view.stationTabs.erase s)[station]?).isSome =
          if s = station then false else w.view.isOpen station := by
        rw [Table.getElem?_erase_ite]
        split <;> rfl
      split <;> exact herase
    by_cases hs : s = station
    · subst hs
      have hopen : w.view.isOpen s = true := by
        rw [View.isOpen, hget]
        rfl
      cases h with
      | underway x hone hclosed => exact absurd (hopen.symm.trans hclosed) Bool.noConfusion
      | settled hnone _ =>
        refine .underway { request := .deleteWatched s }
          (underway_act_one w rfl (decide_eq_true rfl) hnone) ?_ ⟨rfl, trivial⟩
        exact (hview s).trans (if_pos rfl)
    · refine h.congr (underway_act w fun r hr => ?_) ((hview station).trans (if_neg hs)) Iff.rfl
      rw [List.mem_singleton.mp hr]
      exact decide_eq_false hs

/-- The server changes the list of another station, or none. -/
theorem handle_other {w : World F} {request : Request} (habout : request.about station = false)
    (hpost : ∀ s, request = .postWatched s → s ≠ station → Watched.trim s ≠ station)
    (instant : Nat) (readable : Bool) :
    station ∈ (w.handle instant readable request).1.watched.list ↔ station ∈ w.watched.list := by
  cases request with
  | satellitePackets | stationPackets s => exact Iff.rfl
  | getWatched => cases habout
  | postWatched s => exact post_list (hpost s rfl (of_decide_eq_false habout)) w.watched
  | deleteWatched s => exact delete_list (of_decide_eq_false habout) w.watched

/-- A request that fits is served with an answer that fits. -/
theorem handle_fits {w : World F} {request : Request} (htrim : Watched.trim station = station)
    (habout : request.about station = true)
    (hfits : Xhr.Fits (F := F) station (station ∈ w.watched.list) { request := request })
    (instant : Nat) (readable : Bool) :
    Xhr.Fits station (station ∈ (w.handle instant readable request).1.watched.list)
      { request := request, answer := some (w.handle instant readable request).2 } := by
  refine ⟨rfl, ?_⟩
  cases request with
  | satellitePackets | stationPackets s => cases habout
  | getWatched => exact Iff.rfl
  | deleteWatched s =>
    rw [← show s = station from of_decide_eq_true habout]
    exact delete_not_listed s w.watched
  | postWatched s =>
    obtain rfl : s = station := of_decide_eq_true habout
    have hfree : s ∉ w.watched.list := hfits.2
    rcases post_answer htrim w.watched with ⟨list, hanswer, hmem⟩ | ⟨e, hanswer, hlist⟩
    · simp only [World.handle, hanswer]
      exact hmem
    · simp only [World.handle, hanswer, hlist]
      exact hfree

theorem handle_view (w : World F) (instant : Nat) (readable : Bool) (request : Request) :
    (w.handle instant readable request).1.view = w.view := by
  cases request <;> rfl

theorem World.Agrees.serve (h : w.Agrees station) (htrim : Watched.trim station = station)
    (hdistinct : w.Distinct station) (k instant : Nat) (readable : Bool) :
    (w.serve k instant readable).Agrees station := by
  rw [World.serve]
  split
  · next request awaited hget =>
    have hview : ∀ calls : List (Xhr F), View.isOpen
        ({ (w.handle instant readable request).1 with calls := calls } : World F).view station =
          w.view.isOpen station := by
      intro _
      show (w.handle instant readable request).1.view.isOpen station = _
      rw [handle_view]
    cases habout : request.about station with
    | false =>
      refine h.congr (filter_set hget habout habout) (hview _) (handle_other habout ?_ _ _)
      intro s hs
      exact hdistinct _ (List.mem_of_getElem? hget) s hs
    | true =>
      cases h with
      | settled hnone _ =>
        have hnot := List.filter_eq_nil_iff.mp hnone _ (List.mem_of_getElem? hget)
        exact absurd habout hnot
      | underway x hone hclosed hfits =>
        obtain ⟨rfl, -, hset⟩ := filter_only hget habout hone
        obtain rfl : awaited = true := hfits.1
        exact .underway _ (hset _ habout) ((hview _).trans hclosed)
          (handle_fits htrim habout hfits instant readable)
  · exact h

/-- The requests for histories are the only ones an answer leads to. -/
theorem onload_sent [F64 F] [JsonNumber F] (now : Int) (request : Request) (answer : Answer F)
    (v : View F) : ∀ r ∈ (onload now request answer v).sent, ∃ s, r = .stationPackets s := by
  unfold onload
  split
  · exact fun _ hr => by cases hr
  · exact (restoreWatchedTabs_open _ v "").2
  · exact openStationTab_sent _ true v
  · exact fun _ hr => by cases hr
  · intro r hr
    rw [backfillStationTab] at hr
    split at hr <;> cases hr
  · exact fun _ hr => by cases hr

theorem about_of_history {rs : List Request} (h : ∀ r ∈ rs, ∃ s, r = .stationPackets s) :
    ∀ r ∈ rs, r.about station = false := by
  intro r hr
  obtain ⟨s, rfl⟩ := h r hr
  rfl

/-- An answer for another station opens and closes no tab of this one. -/
theorem onload_other [F64 F] [JsonNumber F] {request : Request}
    (habout : request.about station = false) (now : Int) (answer : Answer F) (v : View F) :
    (onload now request answer v).view.isOpen station = v.isOpen station := by
  unfold onload
  split
  · rfl
  · cases habout
  · next s _ =>
    have hne : ¬ s = station := of_decide_eq_false habout
    exact Bool.eq_iff_iff.mpr ((openStationTab_isOpen s true v station).trans (or_iff_left hne))
  · rfl
  · next s ps => exact backfillStationTab_isOpen s ps v station
  · rfl

/-- The answer to the request that was under way leaves the tab as the list is. -/
theorem onload_settles [F64 F] [JsonNumber F] {request : Request} {answer : Answer F}
    {listed : Prop} (habout : request.about station = true)
    (hfits : Xhr.Fits station listed { request := request, answer := some answer }) (now : Int)
    {v : View F} (hclosed : v.isOpen station = false) :
    (onload now request answer v).view.isOpen station = true ↔ listed := by
  have hshut : ¬ v.isOpen station = true := ne_true_of_eq_false hclosed
  obtain ⟨-, hfits⟩ := hfits
  cases request with
  | satellitePackets | stationPackets s => cases habout
  | deleteWatched s =>
    refine iff_of_false hshut ?_
    cases answer <;> exact hfits
  | getWatched =>
    cases answer with
    | packets ps => cases hfits
    | watched r =>
      rcases r with - | ⟨e | list, - | ⟨r, rs⟩⟩
      · cases hfits
      · cases hfits
      · cases hfits
      · have hopen := (restoreWatchedTabs_open list v station).1
        exact hopen.trans ((or_iff_right hshut).trans hfits)
      · cases hfits
  | postWatched s =>
    cases answer with
    | packets ps => cases hfits
    | watched r =>
      rcases r with - | ⟨e | list, - | ⟨r, rs⟩⟩
      · cases hfits
      · cases e <;> exact iff_of_false hshut hfits
      · cases hfits
      · have hs : s = station := of_decide_eq_true habout
        exact iff_of_true ((openStationTab_isOpen s true v station).mpr (Or.inr hs)) hfits
      · cases hfits

theorem World.Agrees.answer [F64 F] [JsonNumber F] (h : w.Agrees station) (k : Nat) (now : Int) :
    (w.answer k now).1.Agrees station := by
  rw [World.answer]
  split
  · next request answer awaited hget =>
    cases habout : request.about station with
    | false =>
      have hrest : ({ w with calls := w.calls.eraseIdx k } : World F).Agrees station :=
        h.congr (filter_eraseIdx hget habout) rfl Iff.rfl
      cases awaited with
      | false => exact hrest
      | true =>
        have hsent := onload_sent now request answer w.view
        exact hrest.congr (underway_act _ (about_of_history hsent))
          (onload_other habout now answer w.view) Iff.rfl
    | true =>
      cases h with
      | settled hnone _ =>
        have hnot := List.filter_eq_nil_iff.mp hnone _ (List.mem_of_getElem? hget)
        exact absurd habout hnot
      | underway x hone hclosed hfits =>
        obtain ⟨rfl, hrest, -⟩ := filter_only hget habout hone
        obtain rfl : awaited = true := hfits.1
        have hsent := onload_sent now request answer w.view
        exact .settled ((underway_act _ (about_of_history hsent)).trans hrest)
          (onload_settles habout hfits now hclosed)
  · exact h

/-! ## Stations that are told apart -/

/-- A request under way stays what it is. -/
theorem World.Distinct.kept (h : w.Distinct station)
    (hcalls : ∀ x ∈ w'.calls, ∃ y ∈ w.calls, y.request = x.request) : w'.Distinct station := by
  intro x hx s hs
  obtain ⟨y, hy, heq⟩ := hcalls x hx
  exact h y hy s (heq.trans hs)

theorem World.Distinct.act (h : w.Distinct station) {e : Effect F}
    (hsent : ∀ s, .postWatched s ∈ e.sent → s ≠ station → Watched.trim s ≠ station) :
    (w.act e).1.Distinct station := by
  intro x hx s hs
  rcases List.mem_append.mp hx with hx | hx
  · exact h x hx s hs
  · obtain ⟨r, hr, rfl⟩ := List.mem_map.mp hx
    exact hsent s (hs ▸ hr)

theorem World.Distinct.erase (h : w.Distinct station) (k : Nat) :
    ({ w with calls := w.calls.eraseIdx k } : World F).Distinct station :=
  h.kept fun x hx => ⟨x, List.mem_of_mem_eraseIdx hx, rfl⟩

variable [F64 F] [Display3 F] [JsonNumber F] {satFreqs : List F} {historyHours : Nat}

theorem World.Agrees.step (h : w.Agrees station) (hdistinct : w.Distinct station)
    (htrim : Watched.trim station = station) {i : Input F} (hi : w.Orderly station i) :
    (w.step satFreqs historyHours i).1.Agrees station := by
  cases i with
  | listener a => exact h.congr rfl rfl Iff.rfl
  | watched i =>
    refine h.congr rfl rfl ?_
    cases i with
    | post body => exact post_list hi w.watched
    | delete s => exact delete_list hi w.watched
    | readClock i now =>
      show station ∈ (Watched.readClock i now w.watched).list ↔ _
      rw [Watched.readClock]
      split <;> rfl
    | commit i =>
      show station ∈ (Watched.commit i w.watched).list ↔ _
      rw [Watched.commit]
      split <;> rfl
  | choose s =>
    refine h.congr rfl ?_ Iff.rfl
    show (chooseTab s w.view).isOpen station = _
    rw [chooseTab]
    split <;> rfl
  | lose k =>
    cases hget : w.calls[k]? with
    | none =>
      have hsame : w.calls.eraseIdx k = w.calls :=
        List.eraseIdx_of_length_le (List.getElem?_eq_none_iff.mp hget)
      rw [World.step, hsame]
      exact h
    | some x => exact h.congr (filter_eraseIdx hget (hi x hget)) rfl Iff.rfl
  | load => exact .load hi
  | rfpacket now data =>
    refine h.congr (underway_act w fun r hr => ?_)
      (onRfpacket_isOpen now data w.view station) Iff.rfl
    rw [onRfpacket_sent] at hr
    cases hr
  | watch s => exact h.watch fun hs => (if_pos hs).mp hi
  | close s => exact h.close s
  | serve k instant readable => exact h.serve htrim hdistinct k instant readable
  | answer k now => exact h.answer k now

end Steps

instance World.Orderly.decidable (station : String) (w : World F) :
    (i : Input F) → Decidable (w.Orderly station i)
  | .watched (.post body) => inferInstanceAs (Decidable (Watched.trim body ≠ station))
  | .watched (.delete s) => inferInstanceAs (Decidable (s ≠ station))
  | .load => inferInstanceAs (Decidable (w.underway station = []))
  | .watch s =>
    inferInstanceAs (Decidable
      (if s = station then w.underway station = [] else Watched.trim s ≠ station))
  | .lose k =>
    inferInstanceAs (Decidable (∀ x ∈ w.calls[k]?, x.request.about station = false))
  | .watched (.readClock _ _) | .watched (.commit _) | .listener _ | .rfpacket _ _ | .close _
  | .choose _ | .serve _ _ _ | .answer _ _ => inferInstanceAs (Decidable True)

end Tabs
end Page
end Rtpigate
