import LaluneServer.AutoMatch.Steps

/- The battle servers that the matchmaker knows, with the clock and the one-off timers of
   their entries. Every registration makes a timer whose handler remembers the region and the
   address; every heart beat sets it anew. A list holds an address once, so a timer is named by
   the region of the list and the address. -/
namespace LaluneServer.AutoMatch
open Std (TreeMap)
open Transition

def PvPServerRegister.id (reg : PvPServerRegister) : IpPort := ⟨reg.ip, reg.port⟩

def PvPServerHeartBeat.id (beat : PvPServerHeartBeat) : IpPort := ⟨beat.ip, beat.port⟩

def pvpServerTimeout : Nat := 90 * 1000000

/-- The tables, the time, the deadlines of the timers that wait and the expiry handlers that
    are queued; then two ghosts: the region of the latest registration of an address, and the
    time of its latest registration or heart beat. -/
structure BattleServers where
  ams : AutoMatchServer := {}
  now : Nat := 0
  deadlines : Int × IpPort → Option Nat := fun _ => none
  queued : List (Int × IpPort) := []
  latest : IpPort → Option Int := fun _ => none
  arrived : IpPort → Option Nat := fun _ => none

inductive ServerEvent
  | serverRegister (session : Session) (reg : PvPServerRegister)
  | serverHeartBeat (session : Session) (beat : PvPServerHeartBeat)
  | elapse (microseconds : Nat)
  | expire (region : Int) (id : IpPort)
  | runTimeout (index : Nat)
  deriving DecidableEq, Repr

namespace BattleServers
variable (order : PrioritySort) (w : BattleServers)

def listed (region : Int) : List IpPort := (w.ams.serverList region).map PvPServerInfo.id

/-- An entry that is replaced or erased takes its timer along, but not a handler that is
    queued already; nor does setting a timer anew revoke that handler. -/
def step : ServerEvent → Option BattleServers
  | .serverRegister session reg => some { w with
      ams := (w.ams.serverRegister order session reg).ams
      deadlines :=
        Function.update w.deadlines (reg.region, reg.id) (some (w.now + pvpServerTimeout))
      latest := Function.update w.latest reg.id (some reg.region)
      arrived := Function.update w.arrived reg.id (some w.now) }
  | .serverHeartBeat session beat => some { w with
      ams := w.ams.serverHeartBeat session beat
      deadlines :=
        match w.ams.findServer beat.id session with
        | none => w.deadlines
        | some entry =>
          Function.update w.deadlines (entry.1, beat.id) (some (w.now + pvpServerTimeout))
      arrived := Function.update w.arrived beat.id (some w.now) }
  | .elapse microseconds => some { w with now := w.now + microseconds }
  | .expire region id => (w.deadlines (region, id)).bind fun deadline =>
      if deadline ≤ w.now then
        some { w with
          deadlines := Function.update w.deadlines (region, id) none
          queued := w.queued ++ [(region, id)] }
      else none
  | .runTimeout index => w.queued[index]?.map fun timer => { w with
      ams := w.ams.serverTimeout timer.1 timer.2
      deadlines := Function.update w.deadlines timer none
      queued := w.queued.eraseIdx index }

/-- An address registers only where it is listed, and nothing arrives from an address whose
    timer has expired until the handler has run. -/
def timely : ServerEvent → Prop
  | .serverRegister _ reg =>
    (∀ entry ∈ w.ams.serversByRegion.toList,
      reg.id ∈ entry.2.map PvPServerInfo.id → entry.1 = reg.region) ∧
    ∀ timer ∈ w.queued, timer.2 ≠ reg.id
  | .serverHeartBeat _ beat => ∀ timer ∈ w.queued, timer.2 ≠ beat.id
  | _ => True

instance (w : BattleServers) : ∀ e, Decidable (w.timely e)
  | .serverRegister .. => inferInstanceAs (Decidable (_ ∧ _))
  | .serverHeartBeat .. => inferInstanceAs (Decidable (∀ _ ∈ _, _))
  | .elapse _ | .expire .. | .runTimeout _ => isTrue trivial

structure InPlace : Prop where
  once : ∀ region, (w.listed region).Nodup
  unique : ∀ region other id, id ∈ w.listed region → id ∈ w.listed other → region = other
  latest : ∀ region id, id ∈ w.listed region → w.latest id = some region
  sorted : ∀ region, (w.ams.serverList region).Pairwise byPriority

structure Timed : Prop where
  once : ∀ region, (w.listed region).Nodup
  latest : ∀ region id, id ∈ w.listed region → w.latest id = some region
  sorted : ∀ region, (w.ams.serverList region).Pairwise byPriority
  waits : ∀ region id, id ∈ w.listed region → ∃ t, w.arrived id = some t ∧
    (w.deadlines (region, id) = some (t + pvpServerTimeout) ∧ (region, id) ∉ w.queued ∨
      w.deadlines (region, id) = none ∧ (region, id) ∈ w.queued ∧ t + pvpServerTimeout ≤ w.now)
  gone : ∀ region id, id ∉ w.listed region →
    w.deadlines (region, id) = none ∧ (region, id) ∉ w.queued
  queued : w.queued.Nodup

end BattleServers

namespace AutoMatchServer

section lists
variable {info : PvPServerInfo} {id : IpPort} {session : Session} {list updated : ServerList}

theorem registerInfo_ids (info : PvPServerInfo) (list : ServerList) :
    (registerInfo info list).map PvPServerInfo.id =
      if info.id ∈ list.map PvPServerInfo.id then list.map PvPServerInfo.id
      else list.map PvPServerInfo.id ++ [info.id] := by
  induction list with
  | nil => rfl
  | cons other rest ih =>
    unfold registerInfo
    by_cases same : other.id = info.id
    · simp [same]
    · have apart : info.id ≠ other.id := Ne.symm same
      rw [if_neg same, List.map_cons, ih]
      simp only [List.map_cons, List.mem_cons, apart, false_or]
      split <;> rfl

theorem mem_registerInfo (info : PvPServerInfo) (list : ServerList) :
    id ∈ (registerInfo info list).map PvPServerInfo.id ↔
      id = info.id ∨ id ∈ list.map PvPServerInfo.id := by
  rw [registerInfo_ids]
  split
  · rename_i known
    exact ⟨.inr, fun both => both.elim (fun same => same ▸ known) (fun known => known)⟩
  · rw [List.mem_append, List.mem_singleton, or_comm]

theorem nodup_registerInfo (once : (list.map PvPServerInfo.id).Nodup) :
    ((registerInfo info list).map PvPServerInfo.id).Nodup := by
  rw [registerInfo_ids]
  split
  · exact once
  · rename_i new
    exact List.nodup_append.mpr ⟨once, List.nodup_singleton _, by
      rintro a known b last rfl
      exact new (List.mem_singleton.mp last ▸ known)⟩

theorem updateSession_some (found : updateSession id session list = some updated) :
    id ∈ list.map PvPServerInfo.id ∧
      updated.map PvPServerInfo.id = list.map PvPServerInfo.id ∧
      updated.map PvPServerInfo.priority = list.map PvPServerInfo.priority := by
  induction list generalizing updated with
  | nil => contradiction
  | cons info rest ih =>
    unfold updateSession at found
    split at found
    · rename_i same
      cases found
      exact ⟨by simp [same], rfl, rfl⟩
    · obtain ⟨tail, inside, rfl⟩ := Option.map_eq_some_iff.mp found
      obtain ⟨known, ids, priorities⟩ := ih inside
      exact ⟨List.mem_cons_of_mem _ known, by simp [ids], by simp [priorities]⟩

theorem updateSession_none (absent : updateSession id session list = none) :
    id ∉ list.map PvPServerInfo.id := by
  induction list with
  | nil => exact List.not_mem_nil
  | cons info rest ih =>
    unfold updateSession at absent
    split at absent
    · contradiction
    · rename_i other
      have later := ih (Option.map_eq_none_iff.mp absent)
      simp only [List.map_cons, List.mem_cons, not_or]
      exact ⟨Ne.symm other, later⟩

theorem sorted_of_priorities (same : updated.map PvPServerInfo.priority =
    list.map PvPServerInfo.priority) (sorted : list.Pairwise byPriority) :
    updated.Pairwise byPriority := by
  have pairs (l : ServerList) : l.Pairwise byPriority ↔
      (l.map PvPServerInfo.priority).Pairwise (· ≤ ·) := by
    rw [List.pairwise_map]
    rfl
  rw [pairs, same, ← pairs]
  exact sorted

theorem eraseP_ids (id : IpPort) (list : ServerList) :
    (list.eraseP (fun info => info.id = id)).map PvPServerInfo.id =
      (list.map PvPServerInfo.id).erase id := by
  induction list with
  | nil => rfl
  | cons info rest ih =>
    by_cases same : info.id = id
    · simp [same]
    · simp [same, ih]

end lists

section lookups
variable {ams : AutoMatchServer} {id : IpPort} {session : Session} {region other : Int}

theorem serverList_insert (ams : AutoMatchServer) (region other : Int) (list : ServerList) :
    ({ ams with serversByRegion := ams.serversByRegion.insert region list }).serverList other =
      if other = region then list else ams.serverList other := by
  unfold serverList
  rw [TreeMap.getElem?_insert]
  by_cases same : other = region
  · simp [same]
  · simp [same, Ne.symm same]

theorem findServer_some {entry : Int × ServerList}
    (found : ams.findServer id session = some entry) :
    updateSession id session (ams.serverList entry.1) = some entry.2 := by
  obtain ⟨here, member, updated⟩ := List.exists_of_findSome?_eq_some found
  obtain ⟨list, changed, rfl⟩ := Option.map_eq_some_iff.mp updated
  have held := TreeMap.mem_toList_iff_getElem?_eq_some.mp member
  unfold serverList
  rw [held]
  exact changed

theorem findServer_none (missing : ams.findServer id session = none) (region : Int) :
    id ∉ (ams.serverList region).map PvPServerInfo.id := by
  unfold serverList
  cases held : ams.serversByRegion[region]? with
  | none => exact List.not_mem_nil
  | some list =>
    have member := TreeMap.mem_toList_iff_getElem?_eq_some.mpr held
    have absent := List.findSome?_eq_none_iff.mp missing _ member
    exact updateSession_none (Option.map_eq_none_iff.mp absent)

theorem serverRegister_serverList (order : PrioritySort) (reg : PvPServerRegister) :
    (ams.serverRegister order session reg).ams.serverList other =
      if other = reg.region then order.sort (registerInfo
        { id := reg.id, session := session, region := reg.region, priority := reg.priority }
        (ams.serverList reg.region))
      else ams.serverList other :=
  serverList_insert ams reg.region other _

theorem serverTimeout_serverList :
    (ams.serverTimeout region id).serverList other =
      if other = region then (ams.serverList region).eraseP (fun info => info.id = id)
      else ams.serverList other := by
  unfold serverTimeout
  split
  · rename_i missing
    split
    · rename_i same
      rw [same]
      simp [serverList, missing]
    · rfl
  · rename_i list held
    rw [serverList_insert]
    simp [serverList, held]

theorem serverHeartBeat_serverList (beat : PvPServerHeartBeat) (other : Int) :
    ((ams.serverHeartBeat session beat).serverList other).map PvPServerInfo.id =
        (ams.serverList other).map PvPServerInfo.id ∧
      ((ams.serverHeartBeat session beat).serverList other).map PvPServerInfo.priority =
        (ams.serverList other).map PvPServerInfo.priority := by
  unfold serverHeartBeat
  split
  · exact ⟨rfl, rfl⟩
  · rename_i entry found
    obtain ⟨_, ids, priorities⟩ := updateSession_some (findServer_some found)
    rw [serverList_insert]
    split
    · rename_i same
      rw [same]
      exact ⟨ids, priorities⟩
    · exact ⟨rfl, rfl⟩

end lookups

end AutoMatchServer

namespace BattleServers
variable {order : PrioritySort} {w v : BattleServers} {e : ServerEvent} {id : IpPort}
  {region other : Int} {session : Session}

theorem mem_listed_register (order : PrioritySort) {reg : PvPServerRegister}
    (lists : v.ams = (w.ams.serverRegister order session reg).ams) :
    id ∈ v.listed other ↔ other = reg.region ∧ id = reg.id ∨ id ∈ w.listed other := by
  unfold listed
  rw [lists, AutoMatchServer.serverRegister_serverList]
  split
  · rename_i same
    rw [((order.perm _).map _).mem_iff, AutoMatchServer.mem_registerInfo, same]
    simp
  · rename_i apart
    simp [apart]

theorem listed_of_timely {reg : PvPServerRegister} (inTime : w.timely (.serverRegister session reg))
    (known : reg.id ∈ w.listed region) : region = reg.region := by
  unfold listed AutoMatchServer.serverList at known
  cases held : w.ams.serversByRegion[region]? with
  | none => simp [held] at known
  | some list =>
    rw [held] at known
    exact inTime.1 (region, list) (TreeMap.mem_toList_iff_getElem?_eq_some.mpr held) known

theorem timed_register (timed : w.Timed) {reg : PvPServerRegister}
    (inTime : w.timely (.serverRegister session reg))
    (moved : w.step order (.serverRegister session reg) = some v) : v.Timed := by
  have member {id : IpPort} {other : Int} :
      id ∈ v.listed other ↔ other = reg.region ∧ id = reg.id ∨ id ∈ w.listed other := by
    cases moved
    exact mem_listed_register order rfl
  have home {other : Int} (known : reg.id ∈ v.listed other) : other = reg.region := by
    rcases member.mp known with ⟨same, _⟩ | before
    · exact same
    · exact listed_of_timely inTime before
  cases moved
  refine ⟨?_, ?_, ?_, ?_, ?_, timed.queued⟩
  · intro other
    change (((w.ams.serverRegister order session reg).ams.serverList other).map
      PvPServerInfo.id).Nodup
    rw [AutoMatchServer.serverRegister_serverList]
    split
    · rw [((order.perm _).map _).nodup_iff]
      exact AutoMatchServer.nodup_registerInfo (timed.once reg.region)
    · exact timed.once other
  · intro other id known
    by_cases same : id = reg.id
    · subst same
      rw [home known]
      exact Function.update_self _ _ _
    · have before := (member.mp known).resolve_left (fun new => same new.2)
      exact (Function.update_of_ne same _ _).trans (timed.latest other id before)
  · intro other
    change ((w.ams.serverRegister order session reg).ams.serverList other).Pairwise byPriority
    rw [AutoMatchServer.serverRegister_serverList]
    split
    · exact order.sorted _
    · exact timed.sorted other
  · intro other id known
    by_cases same : id = reg.id
    · subst same
      refine ⟨w.now, Function.update_self _ _ _, .inl ⟨?_, ?_⟩⟩
      · rw [home known]
        exact Function.update_self _ _ _
      · exact fun due => inTime.2 _ due rfl
    · have before := (member.mp known).resolve_left (fun new => same new.2)
      obtain ⟨t, arrived, waits⟩ := timed.waits other id before
      refine ⟨t, (Function.update_of_ne same _ _).trans arrived, ?_⟩
      have apart : (other, id) ≠ (reg.region, reg.id) := fun both => same (Prod.ext_iff.mp both).2
      simp only [Function.update_of_ne apart]
      exact waits
  · intro other id unknown
    have new : ¬(other = reg.region ∧ id = reg.id) := fun new => unknown (member.mpr (.inl new))
    obtain ⟨idle, quiet⟩ := timed.gone other id (fun before => unknown (member.mpr (.inr before)))
    have apart : (other, id) ≠ (reg.region, reg.id) := fun both => new (Prod.ext_iff.mp both)
    exact ⟨(Function.update_of_ne apart _ _).trans idle, quiet⟩

theorem heartBeat_cases {beat : PvPServerHeartBeat}
    (moved : w.step order (.serverHeartBeat session beat) = some v) :
    (∀ region, beat.id ∉ w.listed region) ∧ v.deadlines = w.deadlines ∨
      ∃ region, beat.id ∈ w.listed region ∧ v.deadlines =
        Function.update w.deadlines (region, beat.id) (some (w.now + pvpServerTimeout)) := by
  cases moved
  cases found : w.ams.findServer beat.id session with
  | none => exact .inl ⟨AutoMatchServer.findServer_none found, rfl⟩
  | some entry =>
    exact .inr ⟨entry.1,
      (AutoMatchServer.updateSession_some (AutoMatchServer.findServer_some found)).1, rfl⟩

theorem deadlines_heartBeat (timed : w.Timed) {beat : PvPServerHeartBeat}
    (known : beat.id ∈ w.listed region)
    (moved : w.step order (.serverHeartBeat session beat) = some v) :
    v.deadlines =
      Function.update w.deadlines (region, beat.id) (some (w.now + pvpServerTimeout)) := by
  rcases heartBeat_cases moved with ⟨unknown, _⟩ | ⟨here, inside, deadlines⟩
  · exact absurd known (unknown region)
  · have same := timed.latest here beat.id inside
    rw [timed.latest region beat.id known] at same
    rw [deadlines, Option.some.inj same]

theorem listed_heartBeat {beat : PvPServerHeartBeat}
    (moved : w.step order (.serverHeartBeat session beat) = some v) (other : Int) :
    v.listed other = w.listed other := by
  cases moved
  exact (AutoMatchServer.serverHeartBeat_serverList beat other).1

theorem timed_heartBeat (timed : w.Timed) {beat : PvPServerHeartBeat}
    (inTime : w.timely (.serverHeartBeat session beat))
    (moved : w.step order (.serverHeartBeat session beat) = some v) : v.Timed := by
  have anew {region : Int} (known : beat.id ∈ w.listed region) :=
    deadlines_heartBeat timed known moved
  have listed := listed_heartBeat moved
  have others {other : Int} {id : IpPort} (apart : id ∉ w.listed other ∨ id ≠ beat.id) :
      v.deadlines (other, id) = w.deadlines (other, id) := by
    rcases heartBeat_cases moved with ⟨_, same⟩ | ⟨region, inside, set⟩
    · rw [same]
    · rw [set, Function.update_of_ne]
      intro both
      cases both
      exact apart.elim (fun unknown => unknown inside) (fun other => other rfl)
  have arrived : v.arrived = Function.update w.arrived beat.id (some w.now) := by
    cases moved
    rfl
  have same_rest : v.queued = w.queued ∧ v.latest = w.latest ∧ v.now = w.now := by
    cases moved
    exact ⟨rfl, rfl, rfl⟩
  obtain ⟨queued, latest, now⟩ := same_rest
  constructor
  · intro other
    rw [listed]
    exact timed.once other
  · intro other id known
    rw [listed] at known
    rw [latest]
    exact timed.latest other id known
  · intro other
    cases moved
    exact AutoMatchServer.sorted_of_priorities
      (AutoMatchServer.serverHeartBeat_serverList beat other).2 (timed.sorted other)
  · intro other id known
    rw [listed] at known
    rw [arrived, queued, now]
    by_cases same : id = beat.id
    · subst same
      rw [anew known]
      exact ⟨w.now, Function.update_self _ _ _, .inl ⟨Function.update_self _ _ _,
        fun due => inTime _ due rfl⟩⟩
    · rw [Function.update_of_ne same, others (.inr same)]
      exact timed.waits other id known
  · intro other id unknown
    rw [listed] at unknown
    rw [others (.inl unknown), queued]
    exact timed.gone other id unknown
  · rw [queued]
    exact timed.queued

theorem timed_elapse (timed : w.Timed) (microseconds : Nat) :
    Timed { w with now := w.now + microseconds } := by
  refine ⟨timed.once, timed.latest, timed.sorted, ?_, timed.gone, timed.queued⟩
  intro region id known
  obtain ⟨t, arrived, waits⟩ := timed.waits region id known
  exact ⟨t, arrived, waits.imp_right fun ⟨idle, due, silent⟩ =>
    ⟨idle, due, Nat.le_add_right_of_le silent⟩⟩

theorem timed_expire (timed : w.Timed) (moved : w.step order (.expire region id) = some v) :
    v.Timed := by
  obtain ⟨deadline, waiting, moved⟩ := Option.bind_eq_some_iff.mp moved
  split at moved
  · rename_i reached
    cases moved
    have known : id ∈ w.listed region := by
      by_contra unknown
      rw [(timed.gone region id unknown).1] at waiting
      contradiction
    obtain ⟨t, arrived, ⟨until_then, quiet⟩ | ⟨idle, _⟩⟩ := timed.waits region id known
    · rw [until_then] at waiting
      cases waiting
      refine ⟨timed.once, timed.latest, timed.sorted, ?_, ?_, ?_⟩
      · intro other x inside
        by_cases same : (other, x) = (region, id)
        · cases same
          exact ⟨t, arrived, .inr ⟨Function.update_self _ _ _,
            List.mem_append_right _ (List.mem_singleton.mpr rfl), reached⟩⟩
        · obtain ⟨u, before, waits⟩ := timed.waits other x inside
          refine ⟨u, before, ?_⟩
          simp only [Function.update_of_ne same, List.mem_append, List.mem_singleton, same,
            or_false]
          exact waits
      · intro other x unknown
        have same : (other, x) ≠ (region, id) := by
          rintro both
          cases both
          exact unknown known
        simp only [Function.update_of_ne same, List.mem_append, List.mem_singleton, same, or_false]
        exact timed.gone other x unknown
      · exact List.nodup_append.mpr ⟨timed.queued, List.nodup_singleton _, by
          rintro a due b last rfl
          exact quiet (List.mem_singleton.mp last ▸ due)⟩
    · rw [idle] at waiting
      contradiction
  · contradiction

theorem mem_listed_runTimeout (id : IpPort) (other : Int) {timer : Int × IpPort}
    (timed : w.Timed) (lists : v.ams = w.ams.serverTimeout timer.1 timer.2) :
    id ∈ v.listed other ↔ (other, id) ≠ timer ∧ id ∈ w.listed other := by
  unfold listed
  rw [lists, AutoMatchServer.serverTimeout_serverList]
  split
  · rename_i here
    have once : ((w.ams.serverList timer.1).map PvPServerInfo.id).Nodup := timed.once timer.1
    rw [AutoMatchServer.eraseP_ids, once.mem_erase_iff, here]
    refine and_congr_left fun _ => not_congr ?_
    exact ⟨fun same => Prod.ext rfl same, fun same => (Prod.ext_iff.mp same).2⟩
  · rename_i apart
    refine ⟨fun known => ⟨fun same => apart (Prod.ext_iff.mp same).1, known⟩, fun known => known.2⟩

theorem timed_runTimeout (timed : w.Timed) {index : Nat}
    (moved : w.step order (.runTimeout index) = some v) : v.Timed := by
  obtain ⟨timer, found, rfl⟩ := Option.map_eq_some_iff.mp moved
  have member {id : IpPort} {other : Int} := @mem_listed_runTimeout w { w with
    ams := w.ams.serverTimeout timer.1 timer.2
    deadlines := Function.update w.deadlines timer none
    queued := w.queued.eraseIdx index } id other timer timed rfl
  obtain ⟨inside, rfl⟩ := List.getElem?_eq_some_iff.mp found
  have left {key : Int × IpPort} : key ∈ w.queued.eraseIdx index ↔
      key ≠ w.queued[index] ∧ key ∈ w.queued := by
    rw [← timed.queued.erase_getElem index inside, timed.queued.mem_erase_iff]
  refine ⟨?_, ?_, ?_, ?_, ?_, timed.queued.sublist (List.eraseIdx_sublist _ _)⟩
  · intro other
    change (((w.ams.serverTimeout _ _).serverList other).map PvPServerInfo.id).Nodup
    rw [AutoMatchServer.serverTimeout_serverList]
    split
    · rw [AutoMatchServer.eraseP_ids]
      exact (timed.once _).erase _
    · exact timed.once other
  · intro other id known
    exact timed.latest other id (member.mp known).2
  · intro other
    change ((w.ams.serverTimeout _ _).serverList other).Pairwise byPriority
    rw [AutoMatchServer.serverTimeout_serverList]
    split
    · exact (timed.sorted _).sublist List.eraseP_sublist
    · exact timed.sorted other
  · intro other id known
    obtain ⟨apart, before⟩ := member.mp known
    obtain ⟨t, arrived, waits⟩ := timed.waits other id before
    refine ⟨t, arrived, ?_⟩
    simp only [Function.update_of_ne apart, left, apart, ne_eq, not_false_eq_true, true_and]
    exact waits
  · intro other id unknown
    by_cases same : (other, id) = w.queued[index]
    · rw [left, same]
      exact ⟨Function.update_self _ _ _, fun still => still.1 rfl⟩
    · have before : id ∉ w.listed other := fun known => unknown (member.mpr ⟨same, known⟩)
      obtain ⟨idle, quiet⟩ := timed.gone other id before
      exact ⟨(Function.update_of_ne same _ _).trans idle, fun still => quiet (left.mp still).2⟩

theorem timed_step (timed : w.Timed) (inTime : w.timely e) (moved : w.step order e = some v) :
    v.Timed := by
  cases e with
  | serverRegister session reg => exact timed_register timed inTime moved
  | serverHeartBeat session beat => exact timed_heartBeat timed inTime moved
  | elapse microseconds =>
    cases moved
    exact timed_elapse timed microseconds
  | expire region id => exact timed_expire timed moved
  | runTimeout index => exact timed_runTimeout timed moved

theorem timed_initial : Timed {} := by
  have empty (region : Int) : listed {} region = [] := by
    simp [listed, AutoMatchServer.serverList]
  refine ⟨?_, ?_, ?_, ?_, ?_, List.nodup_nil⟩
  · intro region
    rw [empty]
    exact List.nodup_nil
  · intro region id known
    simp [empty] at known
  · intro region
    simp [AutoMatchServer.serverList]
  · intro region id known
    simp [empty] at known
  · intro region id _
    exact ⟨rfl, List.not_mem_nil⟩

theorem Timed.inPlace (timed : w.Timed) : w.InPlace := by
  refine ⟨timed.once, ?_, timed.latest, timed.sorted⟩
  intro region other id here there
  have same := timed.latest region id here
  rw [timed.latest other id there] at same
  exact (Option.some.inj same).symm

theorem silent_of_removed (timed : w.Timed) (moved : w.step order e = some v)
    (known : id ∈ w.listed region) (removed : id ∉ v.listed region) :
    ∃ t, w.arrived id = some t ∧ t + pvpServerTimeout ≤ w.now := by
  cases e with
  | serverRegister session reg =>
    cases moved
    exact absurd ((mem_listed_register order rfl).mpr (.inr known)) removed
  | serverHeartBeat session beat =>
    rw [listed_heartBeat moved] at removed
    exact absurd known removed
  | elapse microseconds =>
    cases moved
    exact absurd known removed
  | expire other x =>
    obtain ⟨deadline, _, moved⟩ := Option.bind_eq_some_iff.mp moved
    split at moved
    · cases moved
      exact absurd known removed
    · contradiction
  | runTimeout index =>
    obtain ⟨timer, found, rfl⟩ := Option.map_eq_some_iff.mp moved
    obtain ⟨t, arrived, ⟨_, quiet⟩ | ⟨_, _, silent⟩⟩ := timed.waits region id known
    · refine absurd ((mem_listed_runTimeout id region timed rfl).mpr ⟨?_, known⟩) removed
      rintro rfl
      exact quiet (List.mem_of_getElem? found)
    · exact ⟨t, arrived, silent⟩

/-- In every run that is timely, the directory is in place; a heart beat sets the timer of the
    latest registration of its address, and an entry is removed only after the silence. -/
theorem directory_right_while_timely (order : PrioritySort) {w : BattleServers}
    (run : Reach (step order) timely {} w) :
    w.InPlace ∧ ∀ e v, w.timely e → w.step order e = some v →
      (∀ session beat region, e = .serverHeartBeat session beat → beat.id ∈ w.listed region →
        w.latest beat.id = some region ∧ v.deadlines =
          Function.update w.deadlines (region, beat.id) (some (w.now + pvpServerTimeout))) ∧
      (∀ region id, id ∈ w.listed region → id ∉ v.listed region →
        ∃ t, w.arrived id = some t ∧ t + pvpServerTimeout ≤ w.now) := by
  have timed : w.Timed := reach_invariant Timed timed_initial
    (fun _ _ _ timed inTime moved => timed_step timed inTime moved) run
  refine ⟨timed.inPlace, fun e v inTime moved => ⟨?_, ?_⟩⟩
  · rintro session beat region rfl known
    exact ⟨timed.latest region beat.id known, deadlines_heartBeat timed known moved⟩
  · intro region id known removed
    exact silent_of_removed timed moved known removed

def silentServer : List ServerEvent :=
  [.serverRegister 8 ⟨"10.0.0.1", 6677, 1, 2⟩, .serverRegister 9 ⟨"10.0.0.2", 6677, 1, 1⟩,
    .elapse 60000000, .serverHeartBeat 8 ⟨"10.0.0.1", 6677⟩, .elapse 60000000,
    .expire 1 ⟨"10.0.0.2", 6677⟩, .runTimeout 0]

theorem directory_right_after_silence : ∃ w, Reach (step insertionOrder) timely {} w ∧
    w.listed 1 = [⟨"10.0.0.1", 6677⟩] ∧ w.InPlace := by
  obtain ⟨w, run, listed⟩ := execWithin_any (step insertionOrder) timely {} silentServer
    (fun w => decide (w.listed 1 = [⟨"10.0.0.1", 6677⟩])) (by decide +kernel)
  exact ⟨w, run, of_decide_eq_true listed, (directory_right_while_timely insertionOrder run).1⟩

theorem listed_in_two_regions : ¬ ∀ order w,
    Reach (step order) always {} w → w.InPlace := by
  intro all
  obtain ⟨w, run, both⟩ := execWithin_any (step insertionOrder) (fun _ _ => True) {}
    [.serverRegister 8 ⟨"10.0.0.1", 6677, 1, 1⟩, .serverRegister 8 ⟨"10.0.0.1", 6677, 2, 1⟩]
    (fun w => decide (⟨"10.0.0.1", 6677⟩ ∈ w.listed 1 ∧ ⟨"10.0.0.1", 6677⟩ ∈ w.listed 2))
    (by decide +kernel)
  obtain ⟨first, second⟩ := of_decide_eq_true both
  have same := (all insertionOrder w run).unique 1 2 _ first second
  contradiction

end BattleServers

end LaluneServer.AutoMatch
