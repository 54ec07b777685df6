import LaluneServer.Control.AddressCopies

/- The copies of all servers over a run. In step means: the messages on the way to a server
   that said Hello make its copy exact, if each of them fits when it is received. -/
namespace LaluneServer.Control

open Std (TreeMap)
open Transition InverseIndex NetLibPlus ServerCommon

section control
variable {c d : ControlServer} {server : IPPort} {session : Session}

theorem copy_of_same {node : Node} (copy : Copy c server node)
    (same : d.serversInfo = c.serversInfo) : Copy d server node := by
  refine ⟨?_, ?_⟩
  · unfold Exact
    rw [same]
    exact copy.entries
  · rw [same]
    exact copy.myServerId

structure Greeting (c d : ControlServer) (session : Session) (server : IPPort)
    (replies : List Reply) (addr : AddressInfo) (news : Message) : Prop where
  started : d.duringStartup = c.duringStartup
  sessions : d.server2session = c.server2session.insert server session
  known : d.serversInfo[server]? = some addr
  replies : replies = ⟨session, .helloResult addr.serverId⟩ ::
    ((if c.duringStartup then [] else d.informAddressInfo news) ++
      if c.duringStartup then [] else [⟨session, .addrInfoRefresh d.generateAddressList⟩])
  news : (news = .addrInfoRestart addr.serverId ∧ d.serversInfo = c.serversInfo) ∨
    (news = .addrInfoAdd addr ∧ Own server addr ∧ c.serversInfo[server]? = none ∧
      ∀ l : IPPort, d.serversInfo[l]? = if server = l then some addr else c.serversInfo[l]?)

theorem sayHello_greets (c : ControlServer) (session : Session) (server : IPPort)
    (serverType : BitVec 32) : ∃ addr news, Greeting c
      (c.sayHello session server.1 (Directory.helloOf server serverType)).1 session server
      (c.sayHello session server.1 (Directory.helloOf server serverType)).2 addr news := by
  have address : (server.1, Int32.ofBitVec server.2.toBitVec) = server := by
    rw [Int32.ofBitVec_toBitVec]
  unfold ControlServer.sayHello Directory.helloOf
  simp only [address, ↓reduceIte, ControlServer.helloStarted]
  cases known : (c.attach session server).serversInfo[server]? with
  | none =>
    refine ⟨((c.attach session server).addServer server serverType).2,
      .addrInfoAdd ((c.attach session server).addServer server serverType).2, rfl, rfl, ?_, rfl,
      Or.inr ⟨rfl, address, known, ?_⟩⟩
    · simp only [ControlServer.helloNew, ControlServer.addServer]
      rw [find_insertIfNew_of_free known, if_pos rfl]
    · intro l
      simp only [ControlServer.helloNew, ControlServer.addServer]
      rw [find_insertIfNew_of_free known]
      rfl
  | some addr =>
    exact ⟨addr, .addrInfoRestart addr.serverId, rfl, rfl, known, rfl, Or.inl ⟨rfl, rfl⟩⟩

variable {replies : List Reply} {addr : AddressInfo} {news : Message}

theorem Greeting.addressed (greeting : Greeting c d session server replies addr news)
    (addressed : Addressed c) : Addressed d := by
  rcases greeting.news with ⟨_, same⟩ | ⟨_, owner, _, known⟩
  · unfold Addressed
    rw [same]
    exact addressed
  · intro k a there
    rw [known] at there
    split at there
    · rename_i here
      obtain rfl := Option.some.inj there
      exact here ▸ owner
    · exact addressed k a there

theorem Greeting.copy_of_other (greeting : Greeting c d session server replies addr news)
    (registered : d.Registered) (addressed : Addressed d) {delegate : Int → Bool} {k : IPPort}
    (other : server ≠ k) {node : Node} (usable : Usable node) (copy : Copy c k node)
    (fits : Fits k node news) : Copy d k (node.recvFinishHandler delegate news) := by
  rcases greeting.news with ⟨rfl, same⟩ | ⟨rfl, _, free, known⟩
  · exact copy_of_same copy same
  · exact copy_add copy usable registered addressed other known free fits

/-- The server itself gets its id, skips the news and is told everything. -/
theorem Greeting.copy_of_own (greeting : Greeting c d session server replies addr news)
    (registered : d.Registered) (addressed : Addressed d) {delegate : Int → Bool} {node : Node}
    (usable : Usable node)
    (fits : AllFit delegate server node
      [.helloResult addr.serverId, news, .addrInfoRefresh d.generateAddressList]) :
    Copy d server ([.helloResult addr.serverId, news,
      .addrInfoRefresh d.generateAddressList].foldl (Node.recvFinishHandler delegate) node) := by
  have skipped : Node.recvFinishHandler delegate { node with myServerId := addr.serverId } news =
      { node with myServerId := addr.serverId } := by
    rcases greeting.news with ⟨rfl, _⟩ | ⟨rfl, _⟩
    · rfl
    · show Node.updateAddress delegate { node with myServerId := addr.serverId } addr = _
      unfold Node.updateAddress
      rw [if_neg (fun apart => apart rfl)]
  have refresh : Fits server (Node.recvFinishHandler delegate
      { node with myServerId := addr.serverId } news) (.addrInfoRefresh d.generateAddressList) :=
    fits.2.2.1
  show Copy d server (Node.recvFinishHandler delegate (Node.recvFinishHandler delegate
    { node with myServerId := addr.serverId } news) (.addrInfoRefresh d.generateAddressList))
  rw [skipped] at refresh ⊢
  refine copy_refresh registered addressed ⟨usable.up, usable.named⟩ ?_ refresh
  intro a known
  rw [Option.some.inj (greeting.known.symm.trans known)]

theorem messagesTo_inform {k : IPPort} (current : c.server2session[k]? = some session)
    (once : ∀ l : IPPort, c.server2session[l]? = some session → l = k) (m : Message) :
    Directory.messagesTo session (c.informAddressInfo m) = [m] := by
  have entries := filter_toList_of_once current once
  unfold Directory.messagesTo ControlServer.informAddressInfo
  rw [List.filter_map, List.map_map]
  show List.map (fun _ => m) (c.server2session.toList.filter (fun entry => entry.2 = session)) = _
  rw [entries]
  rfl

end control

namespace Directory
variable {delegate : Int → Bool} {controlServer : ServerInfo} {w v : Directory} {k server : IPPort}
  {s session : Session}

/-- Every server that is connected, has said Hello after the startup phase and has
    processed what was sent to it knows exactly the other servers. -/
def Converged (w : Directory) : Prop :=
  ∀ server s, w.connections server = some s → (w.links s).greeted = true →
    (w.links s).down = [] → Exact w.control server (w.nodes server).registry

/-- Messages fit when they are received, ids are left for a Hello, and no Hello of a lost
    session comes after one of the session that replaced it. -/
def keepsUp (w : Directory) : DirectoryEvent → Prop
  | .handleHello session =>
    (∀ hello ∈ (w.links session).up.head?, (w.control.sayHello session
      (w.links session).owner.1 hello).1.serversInfo.size < 2 ^ 32 - 1) ∧
    ∀ s ∈ w.connections (w.links session).owner, s = session ∨ (w.links s).greeted = false
  | .receive server => ∀ s ∈ w.connections server, ∀ message ∈ (w.links s).down.head?,
    Fits server (w.nodes server) message
  | _ => True

instance (w : Directory) : (e : DirectoryEvent) → Decidable (w.keepsUp e)
  | .handleHello _ => inferInstanceAs (Decidable ((∀ _ ∈ _, _) ∧ ∀ _ ∈ _, _))
  | .receive _ => inferInstanceAs (Decidable (∀ _ ∈ _, ∀ _ ∈ _, _))
  | .connect _ | .drop _ | .restart _ | .sayHello .. | .serverTimeout _ | .startupTimer =>
    isTrue trivial

/-- A session with a Hello after the startup phase: what is on its way leads to an exact
    copy. -/
structure Told (delegate : Int → Bool) (w : Directory) (k : IPPort) (s : Session) : Prop where
  started : w.control.duringStartup = false
  current : w.control.server2session[k]? = some s
  copy : AllFit delegate k (w.nodes k) (w.links s).down →
    Copy w.control k ((w.links s).down.foldl (Node.recvFinishHandler delegate) (w.nodes k))

structure Wired (w : Directory) : Prop where
  owners : ∀ (k : IPPort) (s : Session), w.control.server2session[k]? = some s →
    s < w.sessions ∧ (w.links s).owner = k
  connected : ∀ k s, w.connections k = some s → s < w.sessions ∧ (w.links s).owner = k
  hellos : ∀ s, ∀ hello ∈ (w.links s).up,
    s < w.sessions ∧ ∃ t, hello = helloOf (w.links s).owner t

structure InStep (delegate : Int → Bool) (w : Directory) : Prop where
  registered : w.control.Registered
  addressed : Addressed w.control
  wired : Wired w
  usable : ∀ k, Usable (w.nodes k)
  told : ∀ k s, w.connections k = some s → (w.links s).greeted = true → Told delegate w k s

theorem setLink_same (w : Directory) (session : Session) (link : Link) :
    (w.setLink session link).links session = link := if_pos rfl

theorem setLink_other (w : Directory) (link : Link) (other : s ≠ session) :
    (w.setLink session link).links s = w.links s := if_neg other

theorem Wired.setLink (wired : Wired w) {link : Link}
    (owner : link.owner = (w.links session).owner)
    (hellos : ∀ hello ∈ link.up,
      session < w.sessions ∧ ∃ t, hello = helloOf (w.links session).owner t) :
    Wired (w.setLink session link) := by
  have owners : ∀ s, ((w.setLink session link).links s).owner = (w.links s).owner := by
    intro s
    by_cases here : s = session
    · rw [here, setLink_same, owner]
    · rw [setLink_other w link here]
  refine ⟨?_, ?_, ?_⟩
  · intro k s held
    rw [owners]
    exact wired.owners k s held
  · intro k s connection
    rw [owners]
    exact wired.connected k s connection
  · intro s hello member
    rw [owners]
    by_cases here : s = session
    · rw [here, setLink_same] at member
      rw [here]
      exact hellos hello member
    · rw [setLink_other w link here] at member
      exact wired.hellos s hello member

theorem InStep.converged (inv : InStep delegate w) : w.Converged := by
  intro server s connection greeted done
  have copy := (inv.told server s connection greeted).copy
  rw [done] at copy
  exact (copy trivial).entries

theorem Wired.once (wired : Wired w) (connection : w.connections k = some s) (l : IPPort)
    (held : w.control.server2session[l]? = some s) : l = k :=
  (wired.owners l s held).2.symm.trans (wired.connected k s connection).2

theorem Told.reacted (told : Told delegate w k s) (usable : Usable (w.nodes k))
    {reaction : ControlServer × List Reply} (started : reaction.1.duringStartup = false)
    (current : reaction.1.server2session[k]? = some s)
    (effect : ∀ node, Usable node → Copy w.control k node →
      AllFit delegate k node (messagesTo s reaction.2) → Copy reaction.1 k
        ((messagesTo s reaction.2).foldl (Node.recvFinishHandler delegate) node)) :
    Told delegate (w.reacted reaction) k s := by
  refine ⟨started, current, ?_⟩
  intro fit
  obtain ⟨before, after⟩ := allFit_append.mp fit
  show Copy reaction.1 k (((w.links s).down ++ messagesTo s reaction.2).foldl _ _)
  rw [List.foldl_append]
  exact effect _ (usable_received usable _) (told.copy before) after

theorem inStep_reacted (inv : InStep delegate w) {reaction : ControlServer × List Reply}
    (registered : reaction.1.Registered) (addressed : Addressed reaction.1)
    (sessions : reaction.1.server2session = w.control.server2session)
    (started : w.control.duringStartup = false → reaction.1.duringStartup = false)
    (effect : ∀ (k : IPPort) s, w.control.server2session[k]? = some s →
      (∀ l : IPPort, w.control.server2session[l]? = some s → l = k) → ∀ node, Usable node →
        Copy w.control k node → AllFit delegate k node (messagesTo s reaction.2) →
          Copy reaction.1 k
            ((messagesTo s reaction.2).foldl (Node.recvFinishHandler delegate) node)) :
    InStep delegate (w.reacted reaction) := by
  refine ⟨registered, addressed, ⟨?_, inv.wired.connected, inv.wired.hellos⟩, inv.usable, ?_⟩
  · intro k s held
    exact inv.wired.owners k s (sessions ▸ held)
  · intro k s connection greeted
    have told := inv.told k s connection greeted
    refine told.reacted (inv.usable k) (started told.started) ?_
      (effect k s told.current (inv.wired.once connection))
    rw [sessions]
    exact told.current

theorem inStep_serverTimeout (inv : InStep delegate w) (ipPort : IPPort) :
    InStep delegate (w.reacted (w.control.serverTimeout ipPort)) := by
  unfold ControlServer.serverTimeout
  cases known : w.control.serversInfo[ipPort]? with
  | none =>
    exact inStep_reacted inv inv.registered inv.addressed rfl id (fun _ _ _ _ _ _ copy _ => copy)
  | some addr =>
    have erased : ∀ l : IPPort, (w.control.removeServer ipPort addr).serversInfo[l]? =
        if ipPort = l then none else w.control.serversInfo[l]? := by
      intro l
      exact find_erase _ _ _
    refine inStep_reacted inv (ControlServer.registered_removeServer inv.registered known) ?_ rfl
      id ?_
    · intro k a there
      rw [erased] at there
      split at there
      · contradiction
      · exact inv.addressed k a there
    · intro k s current once node usable copy _
      simp only [messagesTo_inform current once]
      exact @copy_remove delegate _ _ _ _ _ _ copy usable inv.registered known erased

theorem inStep_startupTimer (inv : InStep delegate w) :
    InStep delegate (w.reacted w.control.startupTimer) := by
  refine inStep_reacted inv
    (ControlServer.registered_of_same inv.registered rfl rfl rfl) inv.addressed rfl
    (fun _ => rfl) ?_
  intro k s current once node usable copy fit
  unfold ControlServer.startupTimer at fit ⊢
  simp only [messagesTo_inform current once] at fit ⊢
  refine copy_of_same (copy_refresh inv.registered inv.addressed usable copy.myServerId fit.1) rfl

theorem messagesTo_greeting {c d : ControlServer} {replies : List Reply} {addr : AddressInfo}
    {news : Message} (greeting : Greeting c d session server replies addr news)
    (started : c.duringStartup = false) (current : d.server2session[k]? = some s)
    (once : ∀ l : IPPort, d.server2session[l]? = some s → l = k) :
    messagesTo s replies = if s = session then
      [.helloResult addr.serverId, news, .addrInfoRefresh d.generateAddressList] else [news] := by
  have broadcast := messagesTo_inform current once news
  rw [greeting.replies, started]
  unfold messagesTo at broadcast ⊢
  simp only [Bool.false_eq_true, ↓reduceIte, List.filter_cons, List.filter_append, List.filter_nil]
  split
  · rename_i here
    have here : session = s := of_decide_eq_true here
    rw [if_pos here.symm, List.map_cons, List.map_append, broadcast]
    rfl
  · rename_i other
    have other : ¬session = s := fun same => other (decide_eq_true same)
    rw [if_neg (Ne.symm other), List.map_append, broadcast]
    rfl

theorem told_own (inv : InStep delegate w) {link : Link}
    {reaction : ControlServer × List Reply} {addr : AddressInfo} {news : Message}
    (greeting : Greeting w.control reaction.1 session k reaction.2 addr news)
    (registered : reaction.1.Registered) (addressed : Addressed reaction.1)
    (started : w.control.duringStartup = false) (connection : w.connections k = some session)
    (down : link.down = (w.links session).down) :
    Told delegate ((w.setLink session link).reacted reaction) k session := by
  have current : reaction.1.server2session[k]? = some session := by
    rw [greeting.sessions, find_insert, if_pos rfl]
  have once : ∀ l : IPPort, reaction.1.server2session[l]? = some session → l = k := by
    intro l held
    rw [greeting.sessions, find_insert] at held
    split at held
    · rename_i here
      exact here.symm
    · exact inv.wired.once connection l held
  have messages := messagesTo_greeting greeting started current once
  rw [if_pos rfl] at messages
  refine ⟨greeting.started.trans started, current, ?_⟩
  simp only [reacted, setLink_same, messages, down]
  intro fit
  rw [List.foldl_append]
  exact greeting.copy_of_own registered addressed (usable_received (inv.usable k) _)
    (allFit_append.mp fit).2

theorem told_other (inv : InStep delegate w) {link : Link} {owner : IPPort}
    {reaction : ControlServer × List Reply} {addr : AddressInfo} {news : Message}
    (greeting : Greeting w.control reaction.1 session owner reaction.2 addr news)
    (registered : reaction.1.Registered) (addressed : Addressed reaction.1)
    (connection : w.connections k = some s) (greeted : (w.links s).greeted = true)
    (foreign : owner ≠ k) (other : s ≠ session) :
    Told delegate ((w.setLink session link).reacted reaction) k s := by
  have told := inv.told k s connection greeted
  have current : reaction.1.server2session[k]? = some s := by
    rw [greeting.sessions, find_insert, if_neg foreign]
    exact told.current
  have once : ∀ l : IPPort, reaction.1.server2session[l]? = some s → l = k := by
    intro l held
    rw [greeting.sessions, find_insert] at held
    split at held
    · exact absurd (Option.some.inj held).symm other
    · exact inv.wired.once connection l held
  have before : Told delegate (w.setLink session link) k s := by
    refine ⟨told.started, told.current, ?_⟩
    rw [setLink_other w link other]
    exact told.copy
  refine before.reacted (inv.usable k) (greeting.started.trans told.started) current ?_
  intro node usable copy fit
  rw [messagesTo_greeting greeting told.started current once, if_neg other] at fit ⊢
  exact greeting.copy_of_other registered addressed foreign usable copy fit.1

theorem inStep_handleHello (inv : InStep delegate w) (fits : w.keepsUp (.handleHello session))
    (moved : w.handleHello session = some v) : InStep delegate v := by
  unfold handleHello at moved
  cases up : (w.links session).up with
  | nil => simp [up] at moved
  | cons hello rest =>
    have waiting : hello ∈ (w.links session).up := by
      rw [up]
      exact List.mem_cons_self
    obtain ⟨inside, serverType, rfl⟩ := inv.wired.hellos session hello waiting
    simp only [up, Option.some.injEq] at moved
    have registered := ControlServer.registered_sayHello inv.registered
      (fits.1 _ (by rw [up]; rfl))
    obtain ⟨addr, news, greeting⟩ :=
      sayHello_greets w.control session (w.links session).owner serverType
    have addressed := greeting.addressed inv.addressed
    generalize w.control.sayHello session (w.links session).owner.1
      (helloOf (w.links session).owner serverType) = reaction at moved registered greeting addressed
    obtain ⟨_, owner, wired⟩ : ∃ link : Link, link = { w.links session with
        up := rest, greeted := (w.links session).greeted || ! w.control.duringStartup } ∧
        Wired (w.setLink session link) := by
      refine ⟨_, rfl, inv.wired.setLink rfl ?_⟩
      intro other member
      exact inv.wired.hellos session other (by rw [up]; exact List.mem_cons_of_mem _ member)
    subst owner moved
    refine ⟨registered, addressed, ⟨?_, wired.connected, wired.hellos⟩, inv.usable, ?_⟩
    · intro k s held
      simp only [reacted, greeting.sessions, find_insert] at held
      split at held
      · rename_i here
        obtain rfl := Option.some.inj held
        refine ⟨inside, ?_⟩
        show ((w.setLink session _).links session).owner = k
        rw [setLink_same]
        exact here
      · exact wired.owners k s held
    · intro k s connection greeted
      have greeted : ((w.setLink session _).links s).greeted = true := greeted
      by_cases here : s = session
      · subst here
        have same := (inv.wired.connected k s connection).2
        rw [setLink_same, Bool.or_eq_true, Bool.not_eq_true'] at greeted
        have started : w.control.duringStartup = false := by
          rcases greeted with before | now
          · exact (inv.told k s connection before).started
          · exact now
        exact told_own inv (same ▸ greeting) registered addressed started connection rfl
      · rw [setLink_other w _ here] at greeted
        refine told_other inv greeting registered addressed connection greeted ?_ here
        rintro rfl
        rcases fits.2 s connection with same | silent
        · exact here same
        · rw [silent] at greeted
          contradiction

theorem inStep_receive (inv : InStep delegate w) (fits : w.keepsUp (.receive server))
    (moved : w.receive delegate server = some v) : InStep delegate v := by
  obtain ⟨session, connection, moved⟩ := Option.bind_eq_some_iff.mp moved
  cases down : (w.links session).down with
  | nil => simp [down] at moved
  | cons message rest =>
    have fit := fits session connection message (by rw [down]; rfl)
    simp only [down, Option.some.injEq] at moved
    have wired : Wired (w.setLink session { w.links session with down := rest }) :=
      inv.wired.setLink rfl (inv.wired.hellos session)
    subst moved
    refine ⟨inv.registered, inv.addressed, ⟨wired.owners, wired.connected, wired.hellos⟩, ?_, ?_⟩
    · intro k
      simp only [setNode, setLink]
      split
      · exact usable_recvFinishHandler (inv.usable server) message
      · exact inv.usable k
    · intro k s other greeted
      have owner := (inv.wired.connected k s other).2
      have spoken : ((w.setLink session _).links s).greeted = true := greeted
      by_cases here : s = session
      · subst here
        rw [setLink_same] at spoken
        have same := (inv.wired.connected server s connection).2
        obtain rfl : k = server := owner.symm.trans same
        have told := inv.told k s other spoken
        refine ⟨told.started, told.current, ?_⟩
        have copy := told.copy
        rw [down] at copy
        simp only [setNode, setLink, ↓reduceIte]
        exact fun fitting => copy ⟨fit, fitting⟩
      · rw [setLink_other w _ here] at spoken
        have told := inv.told k s other spoken
        have elsewhere : k ≠ server := by
          rintro rfl
          exact here (Option.some.inj (other.symm.trans connection))
        refine ⟨told.started, told.current, ?_⟩
        simp only [setNode, setLink, here, elsewhere, ↓reduceIte]
        exact told.copy

theorem inStep_lost (inv : InStep delegate w) (nodes : IPPort → Node)
    (usable : ∀ k, Usable (nodes k)) (kept : ∀ k, k ≠ server → nodes k = w.nodes k) :
    InStep delegate { w.setConnection server none with nodes := nodes } := by
  have still : ∀ k s, (w.setConnection server none).connections k = some s →
      k ≠ server ∧ w.connections k = some s := by
    intro k s connection
    simp only [setConnection] at connection
    split at connection
    · contradiction
    · rename_i other
      exact ⟨other, connection⟩
  refine ⟨inv.registered, inv.addressed, ⟨inv.wired.owners, ?_, inv.wired.hellos⟩, usable, ?_⟩
  · intro k s connection
    exact inv.wired.connected k s (still k s connection).2
  · intro k s connection greeted
    obtain ⟨other, before⟩ := still k s connection
    have told := inv.told k s before greeted
    refine ⟨told.started, told.current, ?_⟩
    show AllFit delegate k (nodes k) (w.links s).down →
      Copy w.control k ((w.links s).down.foldl _ (nodes k))
    rw [kept k other]
    exact told.copy

theorem inStep_connect (inv : InStep delegate w) (moved : w.connect server = some v) :
    InStep delegate v := by
  unfold connect at moved
  split at moved
  · contradiction
  · cases moved
    have old : ∀ s, s < w.sessions →
        (w.setLink w.sessions { owner := server }).links s = w.links s :=
      fun s inside => setLink_other w _ (Nat.ne_of_lt inside)
    refine ⟨inv.registered, inv.addressed, ⟨?_, ?_, ?_⟩, inv.usable, ?_⟩
    · intro k s held
      obtain ⟨inside, owner⟩ := inv.wired.owners k s held
      refine ⟨Nat.lt_succ_of_lt inside, ?_⟩
      show ((w.setLink w.sessions _).links s).owner = k
      rw [old s inside, owner]
    · intro k s connection
      simp only [setConnection] at connection
      show s < w.sessions + 1 ∧ ((w.setLink w.sessions _).links s).owner = k
      split at connection
      · rename_i here
        obtain rfl := Option.some.inj connection
        rw [setLink_same]
        exact ⟨Nat.lt_succ_self _, here.symm⟩
      · obtain ⟨inside, owner⟩ := inv.wired.connected k s connection
        rw [old s inside]
        exact ⟨Nat.lt_succ_of_lt inside, owner⟩
    · intro s hello member
      have member : hello ∈ ((w.setLink w.sessions { owner := server }).links s).up := member
      show s < w.sessions + 1 ∧ ∃ t, hello = helloOf ((w.setLink w.sessions _).links s).owner t
      by_cases here : s = w.sessions
      · rw [here, setLink_same] at member
        contradiction
      · rw [setLink_other w _ here] at member ⊢
        obtain ⟨inside, named⟩ := inv.wired.hellos s hello member
        exact ⟨Nat.lt_succ_of_lt inside, named⟩
    · intro k s connection greeted
      have greeted : ((w.setLink w.sessions { owner := server }).links s).greeted = true := greeted
      simp only [setConnection] at connection
      split at connection
      · obtain rfl := Option.some.inj connection
        rw [setLink_same] at greeted
        contradiction
      · have inside := (inv.wired.connected k s connection).1
        rw [old s inside] at greeted
        have told := inv.told k s connection greeted
        refine ⟨told.started, told.current, ?_⟩
        show AllFit delegate k (w.nodes k) ((w.setLink w.sessions _).links s).down → _
        simp only [setConnection, old s inside]
        exact told.copy

theorem inStep_sayHello (inv : InStep delegate w) {serverType : BitVec 32}
    (moved : w.sayHello server serverType = some v) : InStep delegate v := by
  obtain ⟨session, connection, rfl⟩ := Option.map_eq_some_iff.mp moved
  obtain ⟨inside, owner⟩ := inv.wired.connected server session connection
  refine ⟨inv.registered, inv.addressed, inv.wired.setLink rfl ?_, inv.usable, ?_⟩
  · intro hello member
    rcases List.mem_append.mp member with before | last
    · exact inv.wired.hellos session hello before
    · refine ⟨inside, serverType, ?_⟩
      rw [List.mem_singleton.mp last, owner]
  · intro k s other greeted
    by_cases here : s = session
    · subst here
      rw [setLink_same] at greeted
      have told := inv.told k s other greeted
      refine ⟨told.started, told.current, ?_⟩
      rw [setLink_same]
      exact told.copy
    · rw [setLink_other w _ here] at greeted
      have told := inv.told k s other greeted
      refine ⟨told.started, told.current, ?_⟩
      rw [setLink_other w _ here]
      exact told.copy

theorem inStep_step (inv : InStep delegate w) {e : DirectoryEvent} (fits : w.keepsUp e)
    (moved : w.step delegate controlServer e = some v) : InStep delegate v := by
  cases e with
  | connect server => exact inStep_connect inv moved
  | drop server =>
    cases moved
    exact inStep_lost inv w.nodes inv.usable (fun _ _ => rfl)
  | restart server =>
    cases moved
    refine inStep_lost inv (fun k => if k = server then
      Node.initialized delegate controlServer else w.nodes k) ?_ (fun k other => if_neg other)
    intro k
    split
    · exact usable_initialized controlServer
    · exact inv.usable k
  | sayHello server serverType => exact inStep_sayHello inv moved
  | handleHello session => exact inStep_handleHello inv fits moved
  | serverTimeout ipPort =>
    cases moved
    exact inStep_serverTimeout inv ipPort
  | startupTimer =>
    cases moved
    exact inStep_startupTimer inv
  | receive server => exact inStep_receive inv fits moved

theorem inStep_initialized (serverTypeMax : Nat) :
    InStep delegate (initialized delegate controlServer serverTypeMax) := by
  refine ⟨ControlServer.registered_initialized serverTypeMax, ?_, ⟨?_, ?_, ?_⟩,
    fun _ => usable_initialized controlServer, ?_⟩
  · intro k addr known
    simp [initialized, ControlServer.initialized] at known
  · intro k s held
    simp [initialized, ControlServer.initialized] at held
  · intro k s connection
    contradiction
  · intro s hello member
    contradiction
  · intro k s connection
    contradiction

/-- In every run whose messages fit the copies converge. -/
theorem directory_converges_while_messages_fit {serverTypeMax : Nat}
    (run : Reach (step delegate controlServer) keepsUp
      (initialized delegate controlServer serverTypeMax) w) : w.Converged := by
  have inv : InStep delegate w := by
    refine reach_invariant (InStep delegate) (inStep_initialized serverTypeMax) ?_ run
    intro s e t inv fits moved
    exact inStep_step inv fits moved
  exact inv.converged

def firstServer : IPPort := (0x0a000001, 80)

def secondServer : IPPort := (0x0a000002, 81)

def bothKnown : List DirectoryEvent :=
  [.startupTimer, .connect firstServer, .sayHello firstServer 5, .handleHello 0,
    .connect secondServer, .sayHello secondServer 6, .handleHello 1, .receive secondServer,
    .receive secondServer, .receive secondServer]

def reconnects : List DirectoryEvent :=
  [.connect secondServer, .sayHello secondServer 6, .handleHello 2, .receive secondServer,
    .receive secondServer, .receive secondServer]

def exampleStart : Directory := initialized (fun _ => false) ⟨0x0a0000ff, 90, 1, 0⟩ 13

def knowsFirst (w : Directory) : Bool :=
  w.connections secondServer = some 2 ∧ (w.links 2).greeted = true ∧ (w.links 2).down = [] ∧
    ((w.nodes secondServer).registry.serverinfos[(1 : Int)]?).isSome = true

theorem converged_after_reconnect : ∃ w,
    Reach (step (fun _ => false) ⟨0x0a0000ff, 90, 1, 0⟩) keepsUp
      (initialized (fun _ => false) ⟨0x0a0000ff, 90, 1, 0⟩ 13) w ∧
      knowsFirst w = true ∧ w.Converged := by
  obtain ⟨w, run, known⟩ := execWithin_any (step (fun _ => false) ⟨0x0a0000ff, 90, 1, 0⟩) keepsUp
    exampleStart (bothKnown ++ [.drop secondServer] ++ reconnects) knowsFirst (by decide +kernel)
  exact ⟨w, run, known, directory_converges_while_messages_fit run⟩

/-- The first server times out while the second is away, and stays in its copy. -/
theorem stale_after_reconnect : ¬ ∀ w,
    Reach (step (fun _ => false) ⟨0x0a0000ff, 90, 1, 0⟩) (fun _ _ => True)
      (initialized (fun _ => false) ⟨0x0a0000ff, 90, 1, 0⟩ 13) w → w.Converged := by
  intro all
  obtain ⟨w, run, test⟩ := execWithin_any (step (fun _ => false) ⟨0x0a0000ff, 90, 1, 0⟩)
    (fun _ _ => True) exampleStart
    (bothKnown ++ [.drop secondServer, .serverTimeout firstServer] ++ reconnects)
    (fun w => knowsFirst w && w.control.serversInfo.toList.all (fun entry =>
      entry.2.serverId.toInt ≠ 1)) (by decide +kernel)
  obtain ⟨known, gone⟩ := Bool.and_eq_true_iff.mp test
  obtain ⟨connection, greeted, done, entry⟩ := of_decide_eq_true known
  obtain ⟨info, entry⟩ := Option.isSome_iff_exists.mp entry
  obtain ⟨k, addr, _, listed, id, _⟩ :=
    (all w run secondServer 2 connection greeted done 1 info (by decide)).mp entry
  have absent := List.all_eq_true.mp gone (k, addr)
    (TreeMap.mem_toList_iff_getElem?_eq_some.mpr listed)
  simp [id] at absent

end Directory

end LaluneServer.Control
