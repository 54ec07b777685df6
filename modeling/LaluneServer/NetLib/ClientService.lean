import LaluneServer.Lib.Transition

/- NetLib_NewClient: the thread with an io_service that the clients share, which is started for
   the first client and left to end behind the last one. Critical sections are single steps, and
   so is a post. Clients on a thread of the caller and the servers are left out. -/
namespace LaluneServer.NetLib

open Transition

/-- A thread_withioservice by its number; a client keeps the io_service it was built on. -/
structure ServiceClient where
  rawPtr : Nat
  ioService : Option Nat
  deriving DecidableEq, Repr

structure Deletion where
  client : ServiceClient
  ioService : Option Nat
  deriving DecidableEq, Repr

/-- The globals of NetLib.cpp, and what threads and handlers are on their way with. -/
structure ClientService where
  runningThreads : Int := 0
  runningObjs : Int := 0
  refCount : Int := 0
  virtualWork : Option Nat := none
  th : Option Nat := none
  /-- How many objects of thread_withioservice were made. -/
  made : Nat := 0
  services : List Nat := []
  /-- Threads behind `delete this` and before their last critical section. -/
  ending : Nat := 0
  /-- Calls of NetLib_NewClient behind their critical section. -/
  constructing : Nat := 0
  clients : List ServiceClient := []
  posted : List Deletion := []
  deleting : List Deletion := []
  deriving DecidableEq, Repr

inductive ServiceEvent
  | newClient
  | construct (rawPtr : Nat)
  | release (c : ServiceClient)
  | startDeletion (d : Deletion)
  | finishDeletion (d : Deletion)
  | runReturns (service : Nat)
  | threadFinishes
  deriving DecidableEq, Repr

namespace ClientService

/-- A client lives from the critical section that counts it. -/
def liveClients (s : ClientService) : Nat := s.constructing + s.clients.length

def pendingDeletions (s : ClientService) : Nat := s.posted.length + s.deleting.length

def startIoserviceIfnot (s : ClientService) : ClientService :=
  match s.virtualWork with
  | some _ => s
  | none =>
    { s with
      th := some s.made
      virtualWork := some s.made
      made := s.made + 1
      services := s.made :: s.services
      runningThreads := s.runningThreads + 1 }

def stopIoservice (s : ClientService) : ClientService := { s with virtualWork := none }

/-- The critical section of NetLib_NewClient. -/
def newClient (s : ClientService) : ClientService :=
  startIoserviceIfnot
    { s with
      runningObjs := s.runningObjs + 1
      refCount := s.refCount + 1
      constructing := s.constructing + 1 }

def construct (s : ClientService) (rawPtr : Nat) : ClientService :=
  { s with
    constructing := s.constructing - 1
    clients := { rawPtr := rawPtr, ioService := s.th } :: s.clients }

/-- The deleter of the last shared_ptr posts to the io_service of the present `th`. -/
def release (s : ClientService) (c : ServiceClient) : ClientService :=
  { s with
    clients := s.clients.erase c
    posted := s.posted ++ [{ client := c, ioService := s.th }] }

def startDeletion (s : ClientService) (d : Deletion) : ClientService :=
  { s with
    posted := s.posted.erase d
    deleting := d :: s.deleting }

/-- The critical section at the end of the handler. -/
def finishDeletion (s : ClientService) (d : Deletion) : ClientService :=
  let counted := { s with deleting := s.deleting.erase d, refCount := s.refCount - 1 }
  let stopped := if counted.refCount = 0 then counted.stopIoservice else counted
  { stopped with runningObjs := stopped.runningObjs - 1 }

/-- `io_service::run` returns when there is no work and no handler left; then `delete this`. -/
def runReturns (s : ClientService) (service : Nat) : ClientService :=
  { s with
    services := s.services.erase service
    ending := s.ending + 1 }

def threadFinishes (s : ClientService) : ClientService :=
  { s with
    ending := s.ending - 1
    runningThreads := s.runningThreads - 1 }

def handlers (s : ClientService) (service : Nat) : List Deletion :=
  (s.posted ++ s.deleting).filter fun d => d.ioService = some service

def Idle (s : ClientService) (io : Option Nat) : Prop :=
  (∃ service ∈ s.services, io = some service) ∧ ∀ d ∈ s.deleting, d.ioService ≠ io

instance (s : ClientService) (io : Option Nat) : Decidable (s.Idle io) :=
  inferInstanceAs (Decidable (_ ∧ _))

def step (s : ClientService) : ServiceEvent → Option ClientService
  | .newClient => some s.newClient
  | .construct rawPtr => if 0 < s.constructing then some (s.construct rawPtr) else none
  | .release c => if c ∈ s.clients then some (s.release c) else none
  | .startDeletion d =>
    if d ∈ s.posted ∧ s.Idle d.ioService then some (s.startDeletion d) else none
  | .finishDeletion d => if d ∈ s.deleting then some (s.finishDeletion d) else none
  | .runReturns service =>
    if service ∈ s.services ∧ s.virtualWork ≠ some service ∧ s.handlers service = [] then
      some (s.runReturns service)
    else none
  | .threadFinishes => if 0 < s.ending then some s.threadFinishes else none

/-- While something is counted, the virtual work keeps the io_service of `th`, and everything
    that is there uses this one. -/
structure Kept (s : ClientService) : Prop where
  counted : s.refCount = s.liveClients + s.pendingDeletions
  working : s.virtualWork ≠ none ↔ 0 < s.liveClients + s.pendingDeletions
  current : ∀ service, s.virtualWork = some service → s.th = some service ∧ service ∈ s.services
  clients : ∀ c ∈ s.clients, c.ioService = s.th
  deletions : ∀ d ∈ s.posted ++ s.deleting, d.ioService = s.th
  numbered : ∀ service ∈ s.services, service < s.made
  distinct : s.services.Nodup
  objs : s.runningObjs = s.refCount
  threads : s.runningThreads = s.services.length + s.ending

section steps
variable {s : ClientService}

theorem kept_start : Kept {} := by
  refine ⟨rfl, ?_, ?_, ?_, ?_, ?_, List.nodup_nil, rfl, rfl⟩
  · exact ⟨fun some => absurd rfl some, fun counted => absurd counted (by decide)⟩
  · intro service works
    contradiction
  · intro c live
    exact absurd live List.not_mem_nil
  · intro d pending
    exact absurd pending List.not_mem_nil
  · intro service made
    exact absurd made List.not_mem_nil

theorem nothing_left (kept : Kept s) (idle : s.virtualWork = none) :
    s.constructing = 0 ∧ s.clients = [] ∧ s.posted = [] ∧ s.deleting = [] := by
  have none : s.liveClients + s.pendingDeletions = 0 := by
    have := kept.working
    simp only [idle, ne_eq, not_true_eq_false, false_iff] at this
    omega
  unfold liveClients pendingDeletions at none
  refine ⟨by omega, ?_, ?_, ?_⟩
  · exact List.length_eq_zero_iff.mp (by omega)
  · exact List.length_eq_zero_iff.mp (by omega)
  · exact List.length_eq_zero_iff.mp (by omega)

theorem kept_newClient (kept : Kept s) : Kept s.newClient := by
  have counted := kept.counted
  have objs := kept.objs
  unfold newClient startIoserviceIfnot
  split
  · rename_i service works
    change s.virtualWork = some service at works
    refine ⟨?_, ?_, kept.current, kept.clients, kept.deletions, kept.numbered, kept.distinct,
      ?_, kept.threads⟩
    · simp only [liveClients, pendingDeletions] at counted ⊢
      omega
    · simp only [liveClients, works]
      refine ⟨fun _ => by omega, fun _ => Option.some_ne_none service⟩
    · simp only [objs]
  · rename_i idle
    obtain ⟨_, clients, posted, deleting⟩ := nothing_left kept idle
    refine ⟨?_, ?_, ?_, ?_, ?_, ?_, ?_, ?_, ?_⟩
    · simp only [liveClients, pendingDeletions] at counted ⊢
      omega
    · simp only [liveClients]
      refine ⟨fun _ => by omega, fun _ => Option.some_ne_none _⟩
    · intro service works
      cases works
      exact ⟨rfl, List.mem_cons_self⟩
    · intro c live
      rw [show s.clients = [] from clients] at live
      exact absurd live List.not_mem_nil
    · intro d pending
      rw [show s.posted ++ s.deleting = [] by rw [posted, deleting]; rfl] at pending
      exact absurd pending List.not_mem_nil
    · intro service member
      rcases List.mem_cons.mp member with rfl | earlier
      · exact Nat.lt_succ_self _
      · exact Nat.lt_succ_of_lt (kept.numbered service earlier)
    · refine List.nodup_cons.mpr ⟨fun earlier => ?_, kept.distinct⟩
      exact Nat.lt_irrefl _ (kept.numbered _ earlier)
    · simp only [objs]
    · have threads := kept.threads
      simp only [List.length_cons]
      omega

theorem kept_construct (kept : Kept s) (waits : 0 < s.constructing) (rawPtr : Nat) :
    Kept (s.construct rawPtr) := by
  have live : (s.construct rawPtr).liveClients = s.liveClients := by
    simp only [liveClients, construct, List.length_cons]
    omega
  refine ⟨?_, ?_, kept.current, ?_, kept.deletions, kept.numbered, kept.distinct, kept.objs,
    kept.threads⟩
  · rw [live]
    exact kept.counted
  · rw [live]
    exact kept.working
  · intro c member
    rcases List.mem_cons.mp member with rfl | earlier
    · rfl
    · exact kept.clients c earlier

theorem kept_release (kept : Kept s) {c : ServiceClient} (member : c ∈ s.clients) :
    Kept (s.release c) := by
  have total : (s.release c).liveClients + (s.release c).pendingDeletions =
      s.liveClients + s.pendingDeletions := by
    have length := List.length_erase_of_mem member
    have positive := List.length_pos_of_mem member
    simp only [liveClients, pendingDeletions, release, List.length_append, List.length_singleton]
    omega
  have counted := kept.counted
  refine ⟨?_, ?_, kept.current, ?_, ?_, kept.numbered, kept.distinct, kept.objs, kept.threads⟩
  · change s.refCount = _
    omega
  · rw [total]
    exact kept.working
  · intro other live
    exact kept.clients other (List.mem_of_mem_erase live)
  · intro d pending
    rcases List.mem_append.mp pending with posted | deleting
    · rcases List.mem_append.mp posted with earlier | added
      · exact kept.deletions d (List.mem_append_left _ earlier)
      · rw [List.mem_singleton.mp added]
        rfl
    · exact kept.deletions d (List.mem_append_right _ deleting)

theorem kept_startDeletion (kept : Kept s) {d : Deletion} (member : d ∈ s.posted) :
    Kept (s.startDeletion d) := by
  have pending : (s.startDeletion d).pendingDeletions = s.pendingDeletions := by
    have length := List.length_erase_of_mem member
    have positive := List.length_pos_of_mem member
    simp only [pendingDeletions, startDeletion, List.length_cons]
    omega
  refine ⟨?_, ?_, kept.current, kept.clients, ?_, kept.numbered, kept.distinct, kept.objs,
    kept.threads⟩
  · rw [pending]
    exact kept.counted
  · rw [pending]
    exact kept.working
  · intro other found
    rcases List.mem_append.mp found with posted | deleting
    · exact kept.deletions other (List.mem_append_left _ (List.mem_of_mem_erase posted))
    · rcases List.mem_cons.mp deleting with rfl | earlier
      · exact kept.deletions other (List.mem_append_left _ member)
      · exact kept.deletions other (List.mem_append_right _ earlier)

theorem kept_finishDeletion (kept : Kept s) {d : Deletion} (member : d ∈ s.deleting) :
    Kept (s.finishDeletion d) := by
  have length := List.length_erase_of_mem member
  have positive := List.length_pos_of_mem member
  have counted := kept.counted
  have objs := kept.objs
  have works : s.virtualWork ≠ none := by
    refine kept.working.mpr ?_
    unfold pendingDeletions
    omega
  have remaining : ∀ other ∈ s.posted ++ s.deleting.erase d, other.ioService = s.th := by
    intro other found
    rcases List.mem_append.mp found with posted | deleting
    · exact kept.deletions other (List.mem_append_left _ posted)
    · exact kept.deletions other (List.mem_append_right _ (List.mem_of_mem_erase deleting))
  unfold liveClients pendingDeletions at counted
  unfold finishDeletion
  by_cases last : s.refCount - 1 = 0
  · simp only [last, if_true]
    refine ⟨?_, ?_, ?_, kept.clients, remaining, kept.numbered, kept.distinct, ?_, kept.threads⟩
    · simp only [liveClients, pendingDeletions, stopIoservice]
      omega
    · simp only [liveClients, pendingDeletions, stopIoservice]
      refine ⟨fun some => absurd rfl some, fun left => ?_⟩
      omega
    · intro service none
      contradiction
    · simp only [stopIoservice]
      omega
  · simp only [last, if_false]
    refine ⟨?_, ?_, kept.current, kept.clients, remaining, kept.numbered, kept.distinct, ?_,
      kept.threads⟩
    · simp only [liveClients, pendingDeletions]
      omega
    · simp only [liveClients, pendingDeletions]
      refine ⟨fun _ => ?_, fun _ => works⟩
      omega
    · simp only
      omega

theorem kept_runReturns (kept : Kept s) {service : Nat} (member : service ∈ s.services)
    (free : s.virtualWork ≠ some service) : Kept (s.runReturns service) := by
  refine ⟨kept.counted, kept.working, ?_, kept.clients, kept.deletions, ?_,
    kept.distinct.erase service, kept.objs, ?_⟩
  · intro other works
    have current := kept.current other works
    refine ⟨current.1, (List.mem_erase_of_ne ?_).mpr current.2⟩
    rintro rfl
    exact free works
  · intro other found
    exact kept.numbered other (List.mem_of_mem_erase found)
  · have length := List.length_erase_of_mem member
    have positive := List.length_pos_of_mem member
    have threads := kept.threads
    simp only [runReturns]
    omega

theorem kept_threadFinishes (kept : Kept s) (ends : 0 < s.ending) : Kept s.threadFinishes := by
  refine ⟨kept.counted, kept.working, kept.current, kept.clients, kept.deletions, kept.numbered,
    kept.distinct, kept.objs, ?_⟩
  have threads := kept.threads
  simp only [threadFinishes]
  omega

theorem kept_step (kept : Kept s) {e : ServiceEvent} {t : ClientService}
    (moved : step s e = some t) : Kept t := by
  cases e with
  | newClient =>
    cases moved
    exact kept_newClient kept
  | construct rawPtr =>
    obtain ⟨waits, same⟩ := Option.ite_none_right_eq_some.mp moved
    cases same
    exact kept_construct kept waits rawPtr
  | release c =>
    obtain ⟨member, same⟩ := Option.ite_none_right_eq_some.mp moved
    cases same
    exact kept_release kept member
  | startDeletion d =>
    obtain ⟨⟨member, _⟩, same⟩ := Option.ite_none_right_eq_some.mp moved
    cases same
    exact kept_startDeletion kept member
  | finishDeletion d =>
    obtain ⟨member, same⟩ := Option.ite_none_right_eq_some.mp moved
    cases same
    exact kept_finishDeletion kept member
  | runReturns service =>
    obtain ⟨⟨member, free, _⟩, same⟩ := Option.ite_none_right_eq_some.mp moved
    cases same
    exact kept_runReturns kept member free
  | threadFinishes =>
    obtain ⟨ends, same⟩ := Option.ite_none_right_eq_some.mp moved
    cases same
    exact kept_threadFinishes kept ends

theorem kept_reach (run : Reach step always {} s) : Kept s :=
  reach_invariant Kept kept_start (fun _ _ _ kept _ moved => kept_step kept moved) run

theorem both_counts_zero_iff (run : Reach step always {} s) :
    s.runningThreads = 0 ∧ s.runningObjs = 0 ↔
      s.services = [] ∧ s.ending = 0 ∧ s.liveClients + s.pendingDeletions = 0 := by
  have kept := kept_reach run
  have counted := kept.counted
  rw [kept.threads, kept.objs, ← List.length_eq_zero_iff]
  omega

/-- The io_service of the present `th` outlives its clients: while one of them lives or its
    deletion is pending, the virtual work keeps it, and `th` is not deleted. -/
theorem service_outlives_clients (run : Reach step always {} s) :
    s.refCount = s.liveClients + s.pendingDeletions ∧
    (s.virtualWork ≠ none ↔ 0 < s.liveClients + s.pendingDeletions) ∧
    (∀ c ∈ s.clients, c.ioService = s.th) ∧
    (∀ d ∈ s.posted ++ s.deleting, d.ioService = s.th) ∧
    (0 < s.liveClients + s.pendingDeletions → ∃ service ∈ s.services, s.th = some service) ∧
    ∀ service t, step s (.runReturns service) = some t → s.th = some service →
      s.liveClients + s.pendingDeletions = 0 := by
  have kept := kept_reach run
  refine ⟨kept.counted, kept.working, kept.clients, kept.deletions, ?_, ?_⟩
  · intro counted
    obtain ⟨service, works⟩ := Option.ne_none_iff_exists'.mp (kept.working.mpr counted)
    exact ⟨service, (kept.current service works).2, (kept.current service works).1⟩
  · intro service t returned present
    obtain ⟨⟨_, free, _⟩, _⟩ := Option.ite_none_right_eq_some.mp returned
    refine Nat.eq_zero_of_not_pos fun left => ?_
    obtain ⟨other, works⟩ := Option.ne_none_iff_exists'.mp (kept.working.mpr left)
    have same := (kept.current other works).1.symm.trans present
    exact free (works.trans same)

end steps

def twoThreads : List ServiceEvent :=
  let first : ServiceClient := { rawPtr := 16, ioService := some 0 }
  [.newClient, .construct 16, .release first,
    .startDeletion { client := first, ioService := some 0 },
    .finishDeletion { client := first, ioService := some 0 }, .newClient, .construct 32]

theorem second_service_outlives_its_client : ∃ s, Reach step always {} s ∧ s.services = [1, 0] ∧
    s.refCount = s.liveClients + s.pendingDeletions ∧ ∀ c ∈ s.clients, c.ioService = s.th := by
  have ran : (exec step {} twoThreads).map (fun s => s.services) = some [1, 0] := by
    decide +kernel
  obtain ⟨s, ran, services⟩ := Option.map_eq_some_iff.mp ran
  have outlives := service_outlives_clients (exec_reach ran)
  exact ⟨s, exec_reach ran, services, outlives.1, outlives.2.2.1⟩

end ClientService

end LaluneServer.NetLib
