import LaluneServer.Account.AccountServer

/- The ids of successful responses: unique, and one more than the id of the document. -/
namespace LaluneServer.Account

open NetLib ServerCommon Transition

def Answer.Truthful (documents : List Document) (a : Answer) : Prop :=
  a.response.code = .none → ∃ d ∈ documents, ∃ insertion : Insertion,
    a.request = some (d, insertion) ∧ insertion.stored = true ∧
      a.response.uid = d.id ∧ a.response.usr = d.usr ∧ a.response.pwd = d.pwd

def Answer.Inserted (a : Answer) : Prop :=
  ∃ d, a.request = some (d, .returned "")

def successfulIds (answers : List Answer) : List Int :=
  (answers.filter (fun a => a.response.code = .none)).map (fun a => a.response.uid)

namespace World

def answeredIds (w : World) : List Int := successfulIds w.answers

def Truthful (w : World) : Prop := ∀ a ∈ w.answers, a.Truthful w.documents

def tasks (w : World) : List Task := (w.process.map AccountServer.tasks).getD []

def usedIds (w : World) : List Int := w.tasks.map Task.uid ++ w.answeredIds

end World

def Answer.Shifted (documents : List Document) (a : Answer) : Prop :=
  a.response.code = .none → ∃ d ∈ documents, a.request = some (d, .returned "") ∧
    a.response.uid = d.id + 1 ∧ a.response.usr = d.usr ∧ a.response.pwd = d.pwd

def Task.Recorded (documents : List Document) (task : Task) : Prop :=
  task.uid = task.document.id + 1 ∧
    (∀ insertion ∈ task.insertion, insertion.stored = true → task.document ∈ documents)

structure Registered (w : World) : Prop where
  shifted : ∀ a ∈ w.answers, a.Shifted w.documents
  successful : ∀ a ∈ w.answers, a.Inserted → a.response.code = .none
  recorded : ∀ task ∈ w.tasks, task.Recorded w.documents
  distinct : w.usedIds.Nodup
  below : ∀ server ∈ w.process, ∀ uid ∈ w.usedIds, uid ≤ server.nextUserId

section documents
variable {documents more : List Document}

theorem Answer.Shifted.mono {a : Answer} (shifted : a.Shifted documents)
    (kept : documents ⊆ more) : a.Shifted more := by
  intro success
  obtain ⟨d, member, facts⟩ := shifted success
  exact ⟨d, kept member, facts⟩

theorem Task.Recorded.mono {task : Task} (recorded : task.Recorded documents)
    (kept : documents ⊆ more) : task.Recorded more :=
  ⟨recorded.1, fun insertion inserted stored => kept (recorded.2 insertion inserted stored)⟩

theorem World.subset_store (stored : Bool) (document : Document) :
    documents ⊆ World.store stored document documents := by
  unfold World.store
  split
  · exact List.subset_append_left _ _
  · exact List.Subset.refl _

theorem World.mem_store (document : Document) :
    document ∈ World.store true document documents := by
  simp [World.store]

end documents

theorem serverFailed_code : serverFailed.code ≠ .none := by decide

theorem Task.response_success (task : Task) (insertion : Insertion) :
    (task.response insertion).code = .none ↔ insertion = .returned "" := by
  cases insertion with
  | thrown stored => simp [Task.response, serverFailed]
  | returned errmsg =>
    by_cases text : 0 < errmsg.length
    · have other : errmsg ≠ "" := by
        rintro rfl
        simp at text
      simp only [Task.response, if_pos text, Insertion.returned.injEq, other, iff_false]
      split
      · simp [duplicateUsername]
      · exact serverFailed_code
    · have empty : errmsg = "" := by
        rw [← String.length_eq_zero_iff]
        omega
      subst empty
      simp [Task.response]

theorem Task.response_returned (task : Task) :
    task.response (.returned "") =
      { code := .none, uid := task.uid, usr := task.document.usr, pwd := task.document.pwd } := by
  simp [Task.response]

theorem increment_some {n next : Int} (counted : increment n = some next) : next = n + 1 := by
  unfold increment at counted
  split at counted
  · exact (Option.some.inj counted).symm
  · contradiction

namespace World

inductive Occurs (platform : Platform) (w : World) : World → Prop
  | kept : Occurs platform w w
  | started {next : Int} (stopped : w.process = none)
      (above : ∀ d ∈ w.documents, d.id < next) :
      Occurs platform w { w with process := some { nextUserId := next } }
  | crashed {server : AccountServer} (running : w.process = some server) :
      Occurs platform w (w.crash server)
  | failed {session : Session} {operationId : BitVec 32} :
      Occurs platform w
        { w with answers := w.answers ++ [⟨session, operationId, serverFailed, none⟩] }
  | requested {server : AccountServer} {session : Session} {operationId : BitVec 32}
      (running : w.process = some server) :
      Occurs platform w
        { w with
          process := some
            { nextUserId := server.nextUserId + 1
              tasks := server.tasks ++
                [newTask platform session operationId server.nextUserId] } }
  | inserted {server : AccountServer} {i : Nat} {task : Task} {insertion : Insertion}
      (running : w.process = some server) (present : server.tasks[i]? = some task) :
      Occurs platform w (w.insert server i task insertion)
  | replied {server : AccountServer} {i : Nat} {task : Task} {insertion : Insertion}
      (running : w.process = some server) (present : server.tasks[i]? = some task)
      (finished : task.insertion = some insertion) :
      Occurs platform w (w.reply server i task insertion)
  | late {document : Document} {orphans : List Document} :
      Occurs platform w { w with documents := w.documents ++ [document], orphans := orphans }

section step
variable {platform : Platform} {w t : World}

theorem occurs_start {connection : Connection} (stopped : w.process = none)
    (moved : w.start connection = some t) : Occurs platform w t := by
  cases connection with
  | authorised =>
    cases largest : (w.documents.map Document.id).max? with
    | none =>
      simp only [start, largest, Option.some.injEq] at moved
      exact moved ▸ .kept
    | some id =>
      simp only [start, largest, Option.map_eq_some_iff] at moved
      obtain ⟨next, counted, rfl⟩ := moved
      refine .started stopped (fun d member => ?_)
      have bound := (List.max?_eq_some_iff.mp largest).2 d.id (List.mem_map_of_mem member)
      have := increment_some counted
      omega
  | throws | notOk | authFailed =>
    cases moved
    exact .kept

theorem occurs_autoRegister {server : AccountServer} {session : Session}
    {operationId : BitVec 32} {connection : Connection} (running : w.process = some server)
    (moved : w.autoRegister platform server session operationId connection = some t) :
    Occurs platform w t := by
  cases connection with
  | authorised =>
    simp only [autoRegister, AccountServer.getNextUserId, Option.map_map,
      Option.map_eq_some_iff] at moved
    obtain ⟨next, counted, rfl⟩ := moved
    cases increment_some counted
    exact .requested running
  | throws | notOk | authFailed =>
    cases moved
    exact .failed

theorem occurs_recv {server : AccountServer} {session : Session} {data : Bytes}
    {connection : Connection} (running : w.process = some server)
    (moved : w.recvFinishHandler platform server session data connection = some t) :
    Occurs platform w t := by
  unfold recvFinishHandler at moved
  split at moved
  · split at moved
    · split at moved
      · cases moved
        exact .kept
      · exact occurs_autoRegister running moved
    · cases moved
      exact .kept
  · cases moved
    exact .kept

theorem occurs_of_step {e : Event} (moved : w.step platform e = some t) :
    Occurs platform w t := by
  cases e with
  | start connection =>
    simp only [step, Option.ite_none_left_eq_some] at moved
    exact occurs_start (by simpa using moved.1) moved.2
  | crash =>
    simp only [step, Option.map_eq_some_iff] at moved
    obtain ⟨server, running, rfl⟩ := moved
    exact .crashed running
  | recv session data connection =>
    simp only [step, Option.bind_eq_some_iff] at moved
    obtain ⟨server, running, moved⟩ := moved
    exact occurs_recv running moved
  | insert i insertion =>
    simp only [step, Option.bind_eq_some_iff] at moved
    obtain ⟨server, running, task, present, moved⟩ := moved
    simp only [Option.ite_none_right_eq_some, Option.some.injEq] at moved
    exact moved.2 ▸ .inserted running present
  | reply i =>
    simp only [step, Option.bind_eq_some_iff, Option.map_eq_some_iff] at moved
    obtain ⟨server, running, task, present, insertion, finished, rfl⟩ := moved
    exact .replied running present finished
  | lateInsert i =>
    simp only [step, Option.map_eq_some_iff] at moved
    obtain ⟨document, _, rfl⟩ := moved
    exact .late

end step

section preserved
variable {platform : Platform} {w t : World}

theorem tasks_of_running {server : AccountServer} (running : w.process = some server) :
    w.tasks = server.tasks := by
  simp [tasks, running]

theorem usedIds_of_running {server : AccountServer} (running : w.process = some server) :
    w.usedIds = server.tasks.map Task.uid ++ w.answeredIds := by
  rw [usedIds, tasks_of_running running]

theorem successfulIds_append (answers : List Answer) (a : Answer) :
    successfulIds (answers ++ [a]) =
      successfulIds answers ++ if a.response.code = .none then [a.response.uid] else [] := by
  by_cases success : a.response.code = .none
  · simp [successfulIds, success]
  · simp [successfulIds, success]

theorem answered_stored (inv : Registered w) {uid : Int} (member : uid ∈ w.answeredIds) :
    ∃ d ∈ w.documents, uid = d.id + 1 := by
  simp only [answeredIds, successfulIds, List.mem_map, List.mem_filter,
    decide_eq_true_eq] at member
  obtain ⟨a, ⟨present, success⟩, rfl⟩ := member
  obtain ⟨d, stored, _, shifted, _⟩ := inv.shifted a present success
  exact ⟨d, stored, shifted⟩

theorem registered_started (inv : Registered w) {next : Int}
    (above : ∀ d ∈ w.documents, d.id < next) :
    Registered { w with process := some { nextUserId := next } } := by
  have ids : usedIds { w with process := some { nextUserId := next } } = w.answeredIds := by
    simp [usedIds, tasks, answeredIds]
  refine ⟨inv.shifted, inv.successful, by simp [tasks], ?_, ?_⟩
  · rw [ids]
    exact (List.nodup_append.mp inv.distinct).2.1
  · intro server started uid member
    cases started
    rw [ids] at member
    obtain ⟨d, stored, rfl⟩ := answered_stored inv member
    exact above d stored

theorem registered_crashed (inv : Registered w) (server : AccountServer) :
    Registered (w.crash server) := by
  refine ⟨inv.shifted, inv.successful, by simp [tasks, crash], ?_, by simp [crash]⟩
  exact (List.nodup_append.mp inv.distinct).2.1

theorem registered_failed (inv : Registered w) (session : Session) (operationId : BitVec 32) :
    Registered { w with answers := w.answers ++ [⟨session, operationId, serverFailed, none⟩] } := by
  have ids : usedIds { w with answers := w.answers ++ [⟨session, operationId, serverFailed, none⟩] }
      = w.usedIds := by
    simp [usedIds, tasks, answeredIds, successfulIds_append, serverFailed_code]
  refine ⟨?_, ?_, inv.recorded, ids ▸ inv.distinct, ids ▸ inv.below⟩
  · intro a member
    rcases List.mem_append.mp member with old | new
    · exact inv.shifted a old
    · rw [List.mem_singleton.mp new]
      exact fun success => absurd success serverFailed_code
  · rintro a member ⟨d, inserted⟩
    rcases List.mem_append.mp member with old | new
    · exact inv.successful a old ⟨d, inserted⟩
    · rw [List.mem_singleton.mp new] at inserted
      contradiction

theorem registered_requested (inv : Registered w) {server : AccountServer}
    (running : w.process = some server) (session : Session) (operationId : BitVec 32) :
    Registered { w with
      process := some
        { nextUserId := server.nextUserId + 1
          tasks := server.tasks ++
            [newTask platform session operationId server.nextUserId] } } := by
  have bound := inv.below server running
  have distinct := inv.distinct
  rw [usedIds_of_running running] at bound distinct
  refine ⟨inv.shifted, inv.successful, ?_, ?_, ?_⟩
  · intro task member
    rcases List.mem_append.mp member with old | new
    · exact inv.recorded task (tasks_of_running running ▸ old)
    · rw [List.mem_singleton.mp new]
      exact ⟨rfl, by simp [newTask]⟩
  · have fresh : ∀ uid ∈ server.tasks.map Task.uid ++ w.answeredIds,
        uid ≠ server.nextUserId + 1 := by
      intro uid member
      have := bound uid member
      omega
    have whole := List.nodup_middle.mpr (List.nodup_cons.mpr
      ⟨fun member => fresh _ member rfl, distinct⟩)
    simpa [usedIds, tasks, newTask, answeredIds] using whole
  · intro started process uid member
    cases process
    simp only [usedIds, tasks, Option.map_some, Option.getD_some, List.map_append,
      List.append_assoc, List.mem_append, List.map_cons, List.map_nil,
      List.mem_singleton] at member bound
    rcases member with old | new | answered
    · have := bound uid (.inl old)
      dsimp only
      omega
    · exact Int.le_of_eq new
    · have := bound uid (.inr answered)
      dsimp only
      omega

theorem registered_inserted (inv : Registered w) {server : AccountServer}
    (running : w.process = some server) {i : Nat} {task : Task}
    (present : server.tasks[i]? = some task) (insertion : Insertion) :
    Registered (w.insert server i task insertion) := by
  have kept : w.documents ⊆ store insertion.stored task.document w.documents :=
    subset_store insertion.stored task.document
  have member : task ∈ w.tasks :=
    tasks_of_running running ▸ List.mem_of_getElem? present
  have uids : (server.tasks.set i { task with insertion := some insertion }).map Task.uid =
      server.tasks.map Task.uid := by
    obtain ⟨bound, rfl⟩ := List.getElem?_eq_some_iff.mp present
    have unchanged := List.set_getElem_self (show i < (server.tasks.map Task.uid).length by simpa using bound)
    rw [List.getElem_map] at unchanged
    rw [List.map_set, unchanged]
  have ids : usedIds (w.insert server i task insertion) = w.usedIds := by
    rw [usedIds_of_running running]
    simp only [usedIds, tasks, World.insert, Option.map_some, Option.getD_some, uids]
    exact congrArg _ rfl
  refine ⟨?_, inv.successful, ?_, ids ▸ inv.distinct, ?_⟩
  · exact fun a answered => (inv.shifted a answered).mono kept
  · intro other changed
    rcases List.mem_or_eq_of_mem_set changed with old | rfl
    · exact (inv.recorded other (tasks_of_running running ▸ old)).mono kept
    · refine ⟨(inv.recorded task member).1, ?_⟩
      intro outcome inserted stored
      cases inserted
      simp only [World.insert, stored]
      exact mem_store task.document
  · intro next process
    cases process
    rw [ids]
    exact inv.below server running

theorem perm_eraseIdx {tasks : List Task} {i : Nat} {task : Task}
    (present : tasks[i]? = some task) :
    (tasks.map Task.uid).Perm (task.uid :: (tasks.eraseIdx i).map Task.uid) := by
  obtain ⟨bound, rfl⟩ := List.getElem?_eq_some_iff.mp present
  exact (List.getElem_cons_eraseIdx_perm bound).symm.map Task.uid

theorem registered_replied (inv : Registered w) {server : AccountServer}
    (running : w.process = some server) {i : Nat} {task : Task} {insertion : Insertion}
    (present : server.tasks[i]? = some task) (finished : task.insertion = some insertion) :
    Registered (w.reply server i task insertion) := by
  have member : task ∈ w.tasks :=
    tasks_of_running running ▸ List.mem_of_getElem? present
  have recorded := inv.recorded task member
  have perm : w.usedIds.Perm
      (task.uid :: ((server.tasks.eraseIdx i).map Task.uid ++ w.answeredIds)) := by
    rw [usedIds_of_running running]
    exact (perm_eraseIdx present).append_right _
  have sub : (usedIds (w.reply server i task insertion)).Subperm w.usedIds := by
    refine List.Subperm.trans ?_ perm.symm.subperm
    simp only [usedIds, tasks, reply, answeredIds, Option.map_some, Option.getD_some,
      successfulIds_append]
    split
    · rename_i success
      have carried : (task.response insertion).uid = task.uid := by
        obtain rfl := (task.response_success insertion).mp success
        rw [task.response_returned]
      rw [carried, ← List.append_assoc]
      exact (List.perm_append_singleton _ _).subperm
    · rw [List.append_nil]
      exact (List.sublist_cons_self _ _).subperm
  obtain ⟨ids, same, kept⟩ := sub
  refine ⟨?_, ?_, ?_, same.nodup_iff.mp (inv.distinct.sublist kept), ?_⟩
  · intro a answered
    rcases List.mem_append.mp answered with old | new
    · exact inv.shifted a old
    · rw [List.mem_singleton.mp new]
      intro success
      obtain rfl := (task.response_success insertion).mp success
      refine ⟨task.document, recorded.2 _ finished rfl, rfl, ?_⟩
      rw [task.response_returned]
      exact ⟨recorded.1, rfl, rfl⟩
  · rintro a answered ⟨d, inserted⟩
    rcases List.mem_append.mp answered with old | new
    · exact inv.successful a old ⟨d, inserted⟩
    · rw [List.mem_singleton.mp new] at inserted ⊢
      simp only [Option.some.injEq, Prod.mk.injEq] at inserted
      exact (task.response_success insertion).mpr inserted.2
  · intro other left
    exact inv.recorded other
      (tasks_of_running running ▸ List.mem_of_mem_eraseIdx left)
  · intro next process uid used
    cases process
    exact inv.below server running uid (kept.subset (same.mem_iff.mpr used))

theorem registered_late (inv : Registered w) (document : Document) (orphans : List Document) :
    Registered { w with documents := w.documents ++ [document], orphans := orphans } := by
  have kept : w.documents ⊆ w.documents ++ [document] := List.subset_append_left _ _
  exact ⟨fun a member => (inv.shifted a member).mono kept, inv.successful,
    fun task member => (inv.recorded task member).mono kept, inv.distinct, inv.below⟩

theorem registered_step {e : Event} (inv : Registered w)
    (moved : w.step platform e = some t) : Registered t := by
  cases occurs_of_step moved with
  | kept => exact inv
  | started _ above => exact registered_started inv above
  | crashed _ => exact registered_crashed inv _
  | failed => exact registered_failed inv _ _
  | requested running => exact registered_requested inv running _ _
  | inserted running present => exact registered_inserted inv running present _
  | replied running present finished => exact registered_replied inv running present finished
  | late => exact registered_late inv _ _

theorem registered_run {documents : List Document}
    (run : Reach (step platform) always { documents := documents } w) : Registered w := by
  refine reach_invariant Registered ?_ (fun _ _ _ inv _ moved => registered_step inv moved) run
  exact ⟨by simp, by simp, by simp [tasks],
    by simp [usedIds, tasks, answeredIds, successfulIds], by simp⟩

theorem truthful_iff_none_inserted (inv : Registered w) :
    w.Truthful ↔ ∀ a ∈ w.answers, ¬a.Inserted := by
  constructor
  · rintro truthful a answered inserted
    have success := inv.successful a answered inserted
    obtain ⟨d, _, sent, shifted, _⟩ := inv.shifted a answered success
    obtain ⟨d', _, insertion, sent', _, exact_id, _⟩ := truthful a answered success
    rw [sent] at sent'
    cases sent'
    omega
  · intro none_inserted a answered success
    obtain ⟨d, _, sent, _⟩ := inv.shifted a answered success
    exact absurd ⟨d, sent⟩ (none_inserted a answered)

end preserved
end World

/-- Ids of successful responses are unique, also over restarts, but each is one more
    than the id that was stored: the responses are truthful as long as no request whose
    insert gave no error is answered. -/
theorem account_ids_unique_and_shifted (platform : Platform) (documents : List Document)
    {w : World} (run : Reach (World.step platform) always { documents := documents } w) :
    w.answeredIds.Nodup ∧ (∀ a ∈ w.answers, a.Shifted w.documents) ∧
      (w.Truthful ↔ ∀ a ∈ w.answers, ¬a.Inserted) := by
  have inv := World.registered_run run
  exact ⟨(List.nodup_append.mp inv.distinct).2.1, inv.shifted,
    World.truthful_iff_none_inserted inv⟩

def examplePlatform : Platform :=
  { headerEx := straightParser
    autoRegister := fun _ => some ()
    autoRegisterRequest := 7
    draw := 833279
    draw_low := by decide
    draw_high := by decide }

def exampleDocument : Document := { id := 1, usr := "guest1", pwd := "833279" }

def exampleRequest : Bytes := buildMsg 7 { operationId := some 9 } []

theorem shifted_over_restart : ∃ w,
    Reach (World.step examplePlatform) always { documents := [exampleDocument] } w ∧
      w.answeredIds = [3, 4] ∧ w.answeredIds.Nodup ∧
      (∀ a ∈ w.answers, a.Shifted w.documents) ∧
      (w.Truthful ↔ ∀ a ∈ w.answers, ¬a.Inserted) := by
  obtain ⟨w, run, facts⟩ := execWithin_any (World.step examplePlatform) (fun _ _ => True)
    { documents := [exampleDocument] }
    [.start .authorised, .recv 1 exampleRequest .authorised, .insert 0 (.returned ""), .reply 0,
      .recv 2 exampleRequest .authorised, .insert 0 (.thrown false), .reply 0, .crash,
      .start .authorised, .recv 1 exampleRequest .authorised, .insert 0 (.returned ""),
      .reply 0]
    (fun w => decide (w.answeredIds = [3, 4])) (by decide +kernel)
  exact ⟨w, run, of_decide_eq_true facts,
    account_ids_unique_and_shifted examplePlatform [exampleDocument] run⟩

/-- The first account: stored under id 2 and answered with id 3. -/
theorem answered_id_not_stored : ¬∀ platform documents w,
    Reach (World.step platform) always { documents := documents } w → w.Truthful := by
  intro all
  obtain ⟨w, run, facts⟩ := execWithin_any (World.step examplePlatform) (fun _ _ => True)
    { documents := [exampleDocument] }
    [.start .authorised, .recv 1 exampleRequest .authorised, .insert 0 (.returned ""), .reply 0]
    (fun w => decide (w.answeredIds = [3] ∧ ∀ d ∈ w.documents, d.id ≠ 3)) (by decide +kernel)
  obtain ⟨answered, apart⟩ := of_decide_eq_true facts
  have member : (3 : Int) ∈ w.answeredIds := by simp [answered]
  simp only [World.answeredIds, successfulIds, List.mem_map, List.mem_filter,
    decide_eq_true_eq] at member
  obtain ⟨a, ⟨present, success⟩, carried⟩ := member
  obtain ⟨d, stored, _, _, _, truthful, _⟩ := all _ _ w run a present success
  exact apart d stored (truthful ▸ carried)

end LaluneServer.Account
