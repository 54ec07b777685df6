import LaluneServer.Lib.Transition
import LaluneServer.ServerCommon.Frame

/- AccountServer: automatic registration under ids from one counter, which is loaded
   from the largest stored id when the server starts. -/
namespace LaluneServer.Account

open NetLib ServerCommon

abbrev Session := Nat

structure Document where
  id : Int
  usr : String
  pwd : String
  deriving DecidableEq, Repr

inductive ErrorCode
  | none
  | serverFailed
  | duplicateUsername
  deriving DecidableEq, Repr

structure AutoRegisterResponce where
  code : ErrorCode
  errStr : String := ""
  uid : Int := 0
  usr : String := ""
  pwd : String := ""
  deriving DecidableEq, Repr

inductive Connection
  | throws
  | notOk
  | authFailed
  | authorised
  deriving DecidableEq, Repr

/-- What insert and getLastError come to. An exception leaves open whether the
    document was stored. -/
inductive Insertion
  | returned (errmsg : String)
  | thrown (stored : Bool)
  deriving DecidableEq, Repr

def Insertion.stored : Insertion → Bool
  | .returned errmsg => errmsg.length = 0
  | .thrown stored => stored

/-- The code that is not part of the server: parsers, the number of the request type
    and the first draw of a generator with the default seed. -/
structure Platform where
  headerEx : HeaderExParser
  autoRegister : Bytes → Option Unit
  autoRegisterRequest : Nat
  draw : Nat
  draw_low : 100000 ≤ draw
  draw_high : draw ≤ 999999

structure Task where
  session : Session
  operationId : BitVec 32
  uid : Int
  document : Document
  insertion : Option Insertion := none
  deriving DecidableEq, Repr

def longLongMax : Int := 2 ^ 63 - 1

/-- The increment of a long long, undefined at the largest one. -/
def increment (n : Int) : Option Int := if n < longLongMax then some (n + 1) else none

structure AccountServer where
  nextUserId : Int
  tasks : List Task := []
  deriving DecidableEq, Repr

def AccountServer.getNextUserId (server : AccountServer) : Option (Int × AccountServer) :=
  (increment server.nextUserId).map
    (fun next => (server.nextUserId, { server with nextUserId := next }))

def serverFailed : AutoRegisterResponce := { code := .serverFailed, errStr := "server failed" }

def duplicateUsername : AutoRegisterResponce :=
  { code := .duplicateUsername, errStr := "duplicate username" }

def Task.response (task : Task) : Insertion → AutoRegisterResponce
  | .thrown _ => serverFailed
  | .returned errmsg =>
    if 0 < errmsg.length then
      if "dup key".toList <:+: errmsg.toList then duplicateUsername else serverFailed
    else
      { code := .none, uid := task.uid, usr := task.document.usr, pwd := task.document.pwd }

/-- The document is built with `uid++`: it gets the old value, the variable the new one. -/
def newTask (platform : Platform) (session : Session) (operationId : BitVec 32) (uid : Int) :
    Task :=
  { session := session
    operationId := operationId
    uid := uid + 1
    document := { id := uid, usr := "guest" ++ toString uid, pwd := toString platform.draw } }

structure Answer where
  session : Session
  operationId : BitVec 32
  response : AutoRegisterResponce
  request : Option (Document × Insertion) := none
  deriving DecidableEq, Repr

/-- The database, the process if it runs, and inserts that a dead process had sent. -/
structure World where
  documents : List Document
  process : Option AccountServer := none
  orphans : List Document := []
  answers : List Answer := []
  deriving DecidableEq, Repr

inductive Event
  | start (connection : Connection)
  | crash
  | recv (session : Session) (data : Bytes) (connection : Connection)
  | insert (task : Nat) (insertion : Insertion)
  | reply (task : Nat)
  | lateInsert (orphan : Nat)
  deriving DecidableEq, Repr

namespace World

/-- The part of `main` that loads the next user id. -/
def start (w : World) : Connection → Option World
  | .authorised =>
    match (w.documents.map Document.id).max? with
    | none => some w
    | some id =>
      (increment id).map (fun next => { w with process := some { nextUserId := next } })
  | _ => some w

def sent (task : Task) : Option Document :=
  if task.insertion = none then some task.document else none

def crash (w : World) (server : AccountServer) : World :=
  { w with
    process := none
    orphans := w.orphans ++ server.tasks.filterMap sent }

def autoRegister (platform : Platform) (w : World) (server : AccountServer)
    (session : Session) (operationId : BitVec 32) : Connection → Option World
  | .authorised =>
    server.getNextUserId.map (fun given =>
      { w with
        process := some { given.2 with
          tasks := server.tasks ++ [newTask platform session operationId given.1] } })
  | _ => some { w with answers := w.answers ++ [⟨session, operationId, serverFailed, none⟩] }

def recvFinishHandler (platform : Platform) (w : World) (server : AccountServer)
    (session : Session) (data : Bytes) (connection : Connection) : Option World :=
  if msgHeaderBaseSize ≤ msgLength data then
    if msgType data = platform.autoRegisterRequest then
      match parseMsgOpId platform.headerEx platform.autoRegister data with
      | none => some w
      | some (operationId, _) => w.autoRegister platform server session operationId connection
    else some w
  else some w

def store (stored : Bool) (document : Document) (documents : List Document) : List Document :=
  if stored then documents ++ [document] else documents

def insert (w : World) (server : AccountServer) (i : Nat) (task : Task)
    (insertion : Insertion) : World :=
  { w with
    documents := store insertion.stored task.document w.documents
    process := some { server with
      tasks := server.tasks.set i { task with insertion := some insertion } } }

def reply (w : World) (server : AccountServer) (i : Nat) (task : Task) (insertion : Insertion) :
    World :=
  { w with
    process := some { server with tasks := server.tasks.eraseIdx i }
    answers := w.answers ++
      [⟨task.session, task.operationId, task.response insertion, some (task.document, insertion)⟩] }

def step (platform : Platform) (w : World) : Event → Option World
  | .start connection => if w.process.isSome then none else w.start connection
  | .crash => w.process.map w.crash
  | .recv session data connection =>
    w.process.bind (fun server => w.recvFinishHandler platform server session data connection)
  | .insert i insertion =>
    w.process.bind (fun server => server.tasks[i]?.bind (fun task =>
      if task.insertion = none then some (w.insert server i task insertion) else none))
  | .reply i =>
    w.process.bind (fun server => server.tasks[i]?.bind (fun task =>
      task.insertion.map (w.reply server i task)))
  | .lateInsert i =>
    w.orphans[i]?.map (fun document =>
      { w with documents := w.documents ++ [document], orphans := w.orphans.eraseIdx i })

end World

end LaluneServer.Account
