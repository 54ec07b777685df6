import LaluneServer.AutoMatch.BattleServers
import LaluneServer.Pvp.BattleService

/- The game that two players are told exists on a battle server, with the init data that they
   are told, until it has been played and left. -/
namespace LaluneServer.Pvp

open AutoMatch AutoMatchServer InverseIndex Transition
open Std (TreeMap)

section directory
variable {present : Session → IpPort → Prop} {ams after : AutoMatchServer} {session : Session}

structure Placed (present : Session → IpPort → Prop) (ams : AutoMatchServer) : Prop where
  once : ∀ region, ((ams.serverList region).map PvPServerInfo.id).Nodup
  places : ∀ region, ∀ info ∈ ams.serverList region, present info.session info.id

theorem placed_of_same (placed : Placed present ams)
    (same : after.serversByRegion = ams.serversByRegion) : Placed present after := by
  have lists : ∀ region, after.serverList region = ams.serverList region := by
    intro region
    unfold serverList
    rw [same]
  constructor
  · intro region
    rw [lists]
    exact placed.once region
  · intro region
    rw [lists]
    exact placed.places region

theorem of_mem_registerInfo {info other : PvPServerInfo} {list : ServerList}
    (member : other ∈ registerInfo info list) : other = info ∨ other ∈ list := by
  induction list with
  | nil => exact .inl (List.mem_singleton.mp member)
  | cons first rest ih =>
    unfold registerInfo at member
    split at member
    · rcases List.mem_cons.mp member with same | later
      · exact .inl same
      · exact .inr (List.mem_cons_of_mem _ later)
    · rcases List.mem_cons.mp member with same | later
      · exact .inr (same ▸ List.mem_cons_self ..)
      · exact (ih later).imp_right (List.mem_cons_of_mem _)

theorem of_mem_updateSession {id : IpPort} {list updated : ServerList} {other : PvPServerInfo}
    (found : updateSession id session list = some updated) (member : other ∈ updated) :
    other.id = id ∧ other.session = session ∨ other ∈ list := by
  induction list generalizing updated with
  | nil => contradiction
  | cons first rest ih =>
    unfold updateSession at found
    split at found
    · rename_i same
      cases found
      rcases List.mem_cons.mp member with rfl | later
      · exact .inl ⟨same, rfl⟩
      · exact .inr (List.mem_cons_of_mem _ later)
    · obtain ⟨tail, inside, rfl⟩ := Option.map_eq_some_iff.mp found
      rcases List.mem_cons.mp member with rfl | later
      · exact .inr (List.mem_cons_self ..)
      · exact (ih inside later).imp_right (List.mem_cons_of_mem _)

theorem placed_register (order : PrioritySort) {reg : PvPServerRegister}
    (placed : Placed present ams) (here : present session reg.id) :
    Placed present (ams.serverRegister order session reg).ams := by
  constructor
  · intro region
    rw [serverRegister_serverList]
    split
    · rw [((order.perm _).map _).nodup_iff]
      exact nodup_registerInfo (placed.once reg.region)
    · exact placed.once region
  · intro region info member
    rw [serverRegister_serverList] at member
    split at member
    · rcases of_mem_registerInfo ((order.perm _).mem_iff.mp member) with rfl | before
      · exact here
      · exact placed.places _ info before
    · exact placed.places region info member

theorem placed_heartBeat {beat : PvPServerHeartBeat} (placed : Placed present ams)
    (here : present session beat.id) : Placed present (ams.serverHeartBeat session beat) := by
  constructor
  · intro region
    rw [(serverHeartBeat_serverList beat region).1]
    exact placed.once region
  · intro region info member
    unfold serverHeartBeat at member
    split at member
    · exact placed.places region info member
    · rename_i entry found
      rw [serverList_insert] at member
      split at member
      · rcases of_mem_updateSession (findServer_some found) member with ⟨id, at_session⟩ | before
        · rw [id, at_session]
          exact here
        · exact placed.places _ info before
      · exact placed.places region info member

theorem placed_timeout {region : Int} (id : IpPort) (placed : Placed present ams) :
    Placed present (ams.serverTimeout region id) := by
  constructor
  · intro other
    rw [serverTimeout_serverList]
    split
    · exact (placed.once region).sublist (List.eraseP_sublist.map _)
    · exact placed.once other
  · intro other info member
    rw [serverTimeout_serverList] at member
    split at member
    · exact placed.places _ info (List.mem_of_mem_eraseP member)
    · exact placed.places other info member

theorem placed_matchRequest {isConnected : Session → Bool} {gameId : String}
    {rolls : Rolls × Rolls} {request : MatchRequest} (placed : Placed present ams) :
    Placed present (ams.matchRequest isConnected gameId rolls session request).ams := by
  refine placed_of_same placed ?_
  cases waiting : ams.waitingUsers[matchKey request]? with
  | none => rw [matchRequest_waits waiting, startWaiting]
  | some opponent =>
    rw [matchRequest_pairs waiting, leaveQueue]
    unfold pairUsers
    split
    · rfl
    · rfl

theorem placed_createGameResponseGot {response : CreateGameResponse}
    (placed : Placed present ams) : Placed present (ams.createGameResponseGot response).ams := by
  refine placed_of_same placed ?_
  unfold createGameResponseGot
  split
  · rfl
  · rfl

theorem placed_matchCancel (placed : Placed present ams) :
    Placed present (ams.matchCancel session) := by
  refine placed_of_same placed ?_
  unfold matchCancel
  split
  · rfl
  · rfl

end directory

/-- The game was created on the server: it is still there, or it was running and deserted
    when it was destroyed. -/
def BattleService.Hosts (b : BattleService) (server : Nat) (gameId : String)
    (initData : GameInitData) : Prop :=
  (∃ entry ∈ (b.servers server).games,
    entry.gameId = gameId ∧ entry.server.gameInitData = initData) ∨
  ∃ entry, (server, entry) ∈ b.ended ∧ entry.gameId = gameId ∧
    entry.server.gameInitData = initData ∧ entry.server.state = .running ∧
      entry.server.terminals = []

def requestId : Message → Option String
  | .createGame request => some request.gameId
  | _ => none

def requestIds (messages : List Message) : List String := messages.filterMap requestId

namespace BattleService

section
variable (address : Nat → IpPort) (b : BattleService)

def At (session : Session) (id : IpPort) : Prop :=
  ∃ link, b.links[session]? = some link ∧ address link.server = id

def Asked (id : IpPort) (gameId : String) (initData : GameInitData) : Prop :=
  ∃ game, (gameId, game) ∈ b.lobby.world.created ∧ game.server = id ∧
    game.gameInitData = initData

def Speaks (server : Nat) : BattleMessage → Prop
  | .register request => request.id = address server
  | .heartBeat beat => beat.id = address server
  | .createGameResponse response => response.retValue = 0 ∧
      ∃ initData, b.Asked (address server) response.gameId initData ∧
        b.Hosts server response.gameId initData

structure Carries (link : Link) : Prop where
  up : ∀ message ∈ link.up, b.Speaks address link.server message
  down : ∀ request, .createGame request ∈ link.down →
    b.Asked (address link.server) request.gameId request.gameInitData
  once : (requestIds link.down).Nodup
  unhosted : ∀ gameId ∈ requestIds link.down, ∀ entry ∈ (b.servers link.server).games,
    entry.gameId ≠ gameId

/-- No failure is told, and a success only of a game that the server at the address was asked
    for and that a server that was asked for it has created. -/
def Right (response : MatchResponse) : Prop :=
  response.retValue ≠ .createFail ∧ (response.retValue = .success →
    b.Asked ⟨response.gameServerIp, response.gameServerPort⟩ response.gameUuid
        response.gameInitData ∧
      ∃ server, b.Asked (address server) response.gameUuid response.gameInitData ∧
        b.Hosts server response.gameUuid response.gameInitData)

def Tells (reply : Reply) : Prop :=
  ∀ response, reply.message = .matchResponse response → b.Right address response

end

structure Sound {Data : Type*} (codec : GameCodec Data) (address : Nat → IpPort)
    (b : BattleService) : Prop where
  fair : b.lobby.Fair
  servers : ∀ server, PvpServer.Inv codec (b.servers server) ∧ (b.servers server).Idle
  known : ∀ server, ∀ entry ∈ (b.servers server).games,
    ∃ made ∈ b.lobby.world.created, made.1 = entry.gameId
  placed : Placed (b.At address) b.lobby.world.ams
  links : ∀ (session : Session) link, b.links[session]? = some link → b.Carries address link
  apart : ∀ (session other : Session) link link', b.links[session]? = some link →
    b.links[other]? = some link' → session ≠ other → link.server = link'.server →
      ∀ gameId ∈ requestIds link.down, gameId ∉ requestIds link'.down
  told : ∀ reply ∈ b.lobby.world.replies, b.Tells address reply

section later
variable {address : Nat → IpPort} {b after : BattleService}

structure Later (b after : BattleService) : Prop where
  created : ∀ made ∈ b.lobby.world.created, made ∈ after.lobby.world.created
  hosts : ∀ server gameId initData,
    b.Hosts server gameId initData → after.Hosts server gameId initData

theorem Later.asked (later : Later b after) {id : IpPort} {gameId : String}
    {initData : GameInitData} (asked : b.Asked id gameId initData) :
    after.Asked id gameId initData := by
  obtain ⟨game, made, server, same⟩ := asked
  exact ⟨game, later.created _ made, server, same⟩

theorem Later.speaks (later : Later b after) {server : Nat} {message : BattleMessage}
    (speaks : b.Speaks address server message) : after.Speaks address server message := by
  cases message with
  | register request => exact speaks
  | heartBeat beat => exact speaks
  | createGameResponse response =>
    obtain ⟨fine, initData, asked, hosts⟩ := speaks
    exact ⟨fine, initData, later.asked asked, later.hosts _ _ _ hosts⟩

theorem Later.tells (later : Later b after) {reply : Reply} (tells : b.Tells address reply) :
    after.Tells address reply := by
  intro response message
  obtain ⟨fine, told⟩ := tells response message
  refine ⟨fine, fun success => ?_⟩
  obtain ⟨named, server, asked, hosts⟩ := told success
  exact ⟨later.asked named, server, later.asked asked, later.hosts _ _ _ hosts⟩

end later

section links
variable {Data : Type*} {codec : GameCodec Data} {address : Nat → IpPort} {b : BattleService}

theorem At.unique {session : Session} {id other : IpPort} (first : b.At address session id)
    (second : b.At address session other) : id = other := by
  obtain ⟨link, held, rfl⟩ := first
  obtain ⟨link', held', rfl⟩ := second
  rw [held] at held'
  rw [Option.some.inj held']

theorem Carries.with_links {link : Link} (carries : b.Carries address link)
    (links : TreeMap Session Link) : Carries address { b with links := links } link :=
  ⟨carries.up, carries.down, carries.once, carries.unhosted⟩

theorem sound_put (sound : b.Sound codec address) {session : Session} {link : Link}
    (carries : b.Carries address link)
    (same : ∀ old, b.links[session]? = some old → link.server = old.server ∧
      ∀ gameId ∈ requestIds link.down, gameId ∈ requestIds old.down)
    (new : b.links[session]? = none → requestIds link.down = []) :
    Sound codec address { b with links := b.links.insert session link } := by
  have present : ∀ other id, b.At address other id →
      At address { b with links := b.links.insert session link } other id := by
    rintro other id ⟨old, held, rfl⟩
    by_cases here : session = other
    · subst here
      refine ⟨link, (find_insert ..).trans (if_pos rfl), ?_⟩
      rw [(same old held).1]
    · exact ⟨old, (find_insert ..).trans ((if_neg here).trans held), rfl⟩
  -- the requests on the way were on the way before
  have earlier : ∀ (other : Session) (changed : Link),
      (b.links.insert session link)[other]? = some changed →
        ∀ gameId ∈ requestIds changed.down, ∃ old, b.links[other]? = some old ∧
          changed.server = old.server ∧ gameId ∈ requestIds old.down := by
    intro other changed held gameId member
    rw [find_insert] at held
    split at held
    · rename_i here
      cases held
      subst here
      cases before : b.links[session]? with
      | none =>
        rw [new before] at member
        contradiction
      | some old =>
        obtain ⟨server, kept⟩ := same old before
        exact ⟨old, rfl, server, kept gameId member⟩
    · exact ⟨changed, held, rfl, member⟩
  refine ⟨sound.fair, sound.servers, sound.known, ?_, ?_, ?_, sound.told⟩
  · exact ⟨sound.placed.once, fun region info member =>
      present _ _ (sound.placed.places region info member)⟩
  · intro other changed held
    rw [find_insert] at held
    split at held
    · cases held
      exact carries.with_links _
    · exact (sound.links other changed held).with_links _
  · intro first second one two held held' differ server gameId member member'
    obtain ⟨old, before, sameServer, kept⟩ := earlier first one held gameId member
    obtain ⟨old', before', sameServer', kept'⟩ := earlier second two held' gameId member'
    refine sound.apart first second old old' before before' differ ?_ gameId kept kept'
    rw [← sameServer, ← sameServer', server]

theorem Sound.congr_links (sound : b.Sound codec address) {links : TreeMap Session Link}
    (same : ∀ session : Session, links[session]? = b.links[session]?) :
    Sound codec address { b with links := links } := by
  refine ⟨sound.fair, sound.servers, sound.known, ?_, ?_, ?_, sound.told⟩
  · refine ⟨sound.placed.once, fun region info member => ?_⟩
    obtain ⟨link, held, id⟩ := sound.placed.places region info member
    exact ⟨link, (same _).trans held, id⟩
  · intro session link held
    exact (sound.links session link ((same session).symm.trans held)).with_links _
  · intro session other link link' held held'
    exact sound.apart session other link link' ((same session).symm.trans held)
      ((same other).symm.trans held')

theorem hosts_setServer {server : Nat} {s : PvpServer}
    (games : ∀ old ∈ (b.servers server).games,
      (∃ entry ∈ s.games, PvpServer.SameGame old entry) ∨
        old.created ∉ s.games.map GameEntry.created ∧ old.server.state = .running ∧
          old.server.terminals = []) : Later b (b.setServer server s) := by
  refine ⟨fun made held => held, fun other gameId initData hosts => ?_⟩
  rcases hosts with ⟨old, held, id, same⟩ | ⟨old, held, facts⟩
  · by_cases here : other = server
    · subst here
      rcases games old held with ⟨entry, kept, _, id', same'⟩ | ⟨gone, ran, left⟩
      · refine .inl ⟨entry, ?_, id'.trans id, same'.trans same⟩
        simp only [setServer, Function.update_self]
        exact kept
      · refine .inr ⟨old, List.mem_append_right _ ?_, id, same, ran, left⟩
        exact List.mem_map_of_mem (List.mem_filter.mpr ⟨held, by simpa using gone⟩)
    · refine .inl ⟨old, ?_, id, same⟩
      simp only [setServer, Function.update_of_ne here]
      exact held
  · exact .inr ⟨old, List.mem_append_left _ held, facts⟩

theorem sound_setServer (sound : b.Sound codec address) {server : Nat} {s : PvpServer}
    (inv : PvpServer.Inv codec s) (idle : s.Idle) (later : Later b (b.setServer server s))
    (known : ∀ entry ∈ s.games, ∃ made ∈ b.lobby.world.created, made.1 = entry.gameId)
    (unhosted : ∀ (session : Session) link, b.links[session]? = some link →
      link.server = server → ∀ gameId ∈ requestIds link.down, ∀ entry ∈ s.games,
        entry.gameId ≠ gameId) : Sound codec address (b.setServer server s) := by
  refine ⟨sound.fair, ?_, ?_, sound.placed, ?_, sound.apart, ?_⟩
  · intro other
    by_cases here : other = server
    · subst here
      simp only [setServer, Function.update_self]
      exact ⟨inv, idle⟩
    · simp only [setServer, Function.update_of_ne here]
      exact sound.servers other
  · intro other
    by_cases here : other = server
    · subst here
      simp only [setServer, Function.update_self]
      exact known
    · simp only [setServer, Function.update_of_ne here]
      exact sound.known other
  · intro session link held
    have carries := sound.links session link held
    refine ⟨fun message member => later.speaks (carries.up message member), ?_, carries.once, ?_⟩
    · exact fun request member => later.asked (carries.down request member)
    · by_cases here : link.server = server
      · simp only [setServer, here, Function.update_self]
        exact unhosted session link held here
      · simp only [setServer, Function.update_of_ne here]
        exact carries.unhosted
  · exact fun reply member => later.tells (sound.told reply member)

end links

section handlers
variable {Data : Type*} {codec : GameCodec Data} {address : Nat → IpPort}
  {b after : BattleService} {order : PrioritySort}

structure Adds (address : Nat → IpPort) (b : BattleService) (lobby : Lobby) (said : List Reply)
    (made : List (String × GameInfo)) : Prop where
  fair : lobby.Fair
  replies : lobby.world.replies = b.lobby.world.replies ++ said
  created : lobby.world.created = b.lobby.world.created ++ made
  placed : Placed (b.At address) lobby.world.ams
  asks : ∀ session request, .createGame request ∈ messagesFor session said →
    (∀ entry ∈ b.lobby.world.created, entry.1 ≠ request.gameId) ∧
      ∃ id game, b.At address session id ∧ (request.gameId, game) ∈ made ∧
        game.server = id ∧ game.gameInitData = request.gameInitData
  once : ∀ session, (requestIds (messagesFor session said)).Nodup
  apart : ∀ session other id, session ≠ other → b.At address session id →
    b.At address other id → ∀ gameId ∈ requestIds (messagesFor session said),
      gameId ∉ requestIds (messagesFor other said)
  tells : ∀ reply ∈ said, b.Tells address reply

theorem requestIds_append (first later : List Message) :
    requestIds (first ++ later) = requestIds first ++ requestIds later :=
  List.filterMap_append

theorem mem_requestIds {messages : List Message} {gameId : String}
    (member : gameId ∈ requestIds messages) :
    ∃ request, .createGame request ∈ messages ∧ request.gameId = gameId := by
  obtain ⟨message, held, same⟩ := List.mem_filterMap.mp member
  cases message with
  | createGame request => exact ⟨request, held, Option.some.inj same⟩
  | matchResponse response => contradiction
  | registerResponse response => contradiction

theorem requestIds_of_mem {messages : List Message} {request : CreateGame}
    (held : .createGame request ∈ messages) : request.gameId ∈ requestIds messages :=
  List.mem_filterMap.mpr ⟨_, held, rfl⟩

theorem down_push (link : Link) (replies : List Reply) (session : Session) :
    ∃ more, (link.push replies session).down = link.down ++ more ∧
      (more = [] ∨ more = messagesFor session replies) := by
  unfold Link.push
  split
  · exact ⟨[], (List.append_nil _).symm, .inl rfl⟩
  · exact ⟨_, rfl, .inr rfl⟩

theorem push_frame (link : Link) (replies : List Reply) (session : Session) :
    (link.push replies session).server = link.server ∧
      (link.push replies session).up = link.up := by
  unfold Link.push
  split
  · exact ⟨rfl, rfl⟩
  · exact ⟨rfl, rfl⟩

theorem push_requests {lobby : Lobby} {said : List Reply} {made : List (String × GameInfo)}
    (adds : Adds address b lobby said made) {session : Session} {link : Link} {gameId : String}
    (member : gameId ∈ requestIds (link.push said session).down) :
    gameId ∈ requestIds link.down ∨
      gameId ∈ requestIds (messagesFor session said) ∧
        ∀ entry ∈ b.lobby.world.created, entry.1 ≠ gameId := by
  obtain ⟨more, down, new⟩ := down_push link said session
  rw [down, requestIds_append] at member
  rcases List.mem_append.mp member with old | pushed
  · exact .inl old
  · rcases new with none_new | said_now
    · rw [none_new] at pushed
      contradiction
    · rw [said_now] at pushed
      obtain ⟨request, held, same⟩ := mem_requestIds pushed
      exact .inr ⟨pushed, same ▸ (adds.asks session request held).1⟩

theorem asked_of_carried (sound : b.Sound codec address) {session : Session} {link : Link}
    (held : b.links[session]? = some link) {gameId : String}
    (member : gameId ∈ requestIds link.down) :
    ∃ entry ∈ b.lobby.world.created, entry.1 = gameId := by
  obtain ⟨request, carried, same⟩ := mem_requestIds member
  obtain ⟨game, made, _⟩ := (sound.links session link held).down request carried
  exact ⟨_, made, same⟩

theorem carries_push (sound : b.Sound codec address) {lobby : Lobby} {said : List Reply}
    {made : List (String × GameInfo)} (adds : Adds address b lobby said made)
    {session : Session} {link : Link} (held : b.links[session]? = some link)
    (links : TreeMap Session Link) :
    Carries address { b with lobby := lobby, links := links } (link.push said session) := by
  have later : Later b { b with lobby := lobby, links := links } := by
    refine ⟨fun entry before => ?_, fun server gameId initData hosts => hosts⟩
    change entry ∈ lobby.world.created
    rw [adds.created]
    exact List.mem_append_left _ before
  have carries := sound.links session link held
  obtain ⟨server, up⟩ := push_frame link said session
  obtain ⟨more, down, new⟩ := down_push link said session
  refine ⟨?_, ?_, ?_, ?_⟩
  · rw [server, up]
    exact fun message member => later.speaks (carries.up message member)
  · rw [server, down]
    intro request member
    rcases List.mem_append.mp member with old | pushed
    · exact later.asked (carries.down request old)
    · rcases new with none_new | said_now
      · rw [none_new] at pushed
        contradiction
      · rw [said_now] at pushed
        obtain ⟨_, id, game, here, inside, served, initData⟩ := adds.asks session request pushed
        refine ⟨game, ?_, ?_, initData⟩
        · change (request.gameId, game) ∈ lobby.world.created
          rw [adds.created]
          exact List.mem_append_right _ inside
        · rw [served]
          exact here.unique ⟨link, held, rfl⟩
  · rw [down, requestIds_append]
    refine List.nodup_append.mpr ⟨carries.once, ?_, ?_⟩
    · rcases new with none_new | said_now
      · rw [none_new]
        exact List.nodup_nil
      · rw [said_now]
        exact adds.once session
    · intro gameId old other pushed same
      rcases new with none_new | said_now
      · rw [none_new] at pushed
        contradiction
      · rw [said_now, ← same] at pushed
        obtain ⟨request, carried, here⟩ := mem_requestIds pushed
        obtain ⟨entry, before, known⟩ := asked_of_carried sound held old
        exact (adds.asks session request carried).1 entry before (known.trans here.symm)
  · rw [server]
    intro gameId member entry hosted
    rcases push_requests adds member with old | ⟨_, fresh⟩
    · exact carries.unhosted gameId old entry hosted
    · obtain ⟨before, made, known⟩ := sound.known link.server entry hosted
      rw [← known]
      exact fresh before made

theorem sound_adds (sound : b.Sound codec address) {lobby : Lobby} {said : List Reply}
    {made : List (String × GameInfo)} (adds : Adds address b lobby said made) :
    Sound codec address { b with lobby := lobby, links := b.links.map (Link.push said) } := by
  have find : ∀ session : Session, (b.links.map (Link.push said))[session]? =
      b.links[session]?.map (Link.push said session) := fun _ => TreeMap.getElem?_map
  have later : Later b { b with lobby := lobby, links := b.links.map (Link.push said) } := by
    refine ⟨fun entry before => ?_, fun server gameId initData hosts => hosts⟩
    change entry ∈ lobby.world.created
    rw [adds.created]
    exact List.mem_append_left _ before
  refine ⟨adds.fair, sound.servers, ?_, ?_, ?_, ?_, ?_⟩
  · intro server entry hosted
    obtain ⟨before, made, known⟩ := sound.known server entry hosted
    exact ⟨before, later.created before made, known⟩
  · refine ⟨adds.placed.once, fun region info member => ?_⟩
    obtain ⟨link, held, id⟩ := adds.placed.places region info member
    refine ⟨link.push said info.session, ?_, ?_⟩
    · change (b.links.map (Link.push said))[info.session]? = _
      rw [find, held, Option.map_some]
    · rw [(push_frame link said _).1, id]
  · intro session pushed held
    rw [find] at held
    obtain ⟨link, before, rfl⟩ := Option.map_eq_some_iff.mp held
    exact carries_push sound adds before _
  · intro session other one two held held' differ server gameId member member'
    rw [find] at held held'
    obtain ⟨link, before, rfl⟩ := Option.map_eq_some_iff.mp held
    obtain ⟨link', before', rfl⟩ := Option.map_eq_some_iff.mp held'
    rw [(push_frame link said _).1, (push_frame link' said _).1] at server
    rcases push_requests adds member with old | ⟨new, fresh⟩
    · rcases push_requests adds member' with old' | ⟨_, fresh⟩
      · exact sound.apart session other link link' before before' differ server gameId old old'
      · obtain ⟨entry, made, known⟩ := asked_of_carried sound before old
        exact fresh entry made known
    · rcases push_requests adds member' with old' | ⟨new', _⟩
      · obtain ⟨entry, made, known⟩ := asked_of_carried sound before' old'
        exact fresh entry made known
      · exact adds.apart session other (address link.server) differ ⟨link, before, rfl⟩
          ⟨link', before', by rw [server]⟩ gameId new new'
  · intro reply member
    change reply ∈ lobby.world.replies at member
    rw [adds.replies] at member
    rcases List.mem_append.mp member with old | new
    · exact later.tells (sound.told reply old)
    · exact later.tells (adds.tells reply new)

theorem adds_quiet {lobby : Lobby} {said : List Reply} {made : List (String × GameInfo)}
    (fair : lobby.Fair) (replies : lobby.world.replies = b.lobby.world.replies ++ said)
    (created : lobby.world.created = b.lobby.world.created ++ made)
    (placed : Placed (b.At address) lobby.world.ams)
    (silent : ∀ reply ∈ said, requestId reply.message = none)
    (tells : ∀ reply ∈ said, b.Tells address reply) : Adds address b lobby said made := by
  have none_asked : ∀ session, requestIds (messagesFor session said) = [] := by
    intro session
    refine List.filterMap_eq_nil_iff.mpr (fun message member => ?_)
    obtain ⟨reply, held, rfl⟩ := List.mem_map.mp member
    exact silent reply (List.mem_of_mem_filter held)
  refine ⟨fair, replies, created, placed, ?_, ?_, ?_, tells⟩
  · intro session request member
    have asked := requestIds_of_mem member
    rw [none_asked] at asked
    contradiction
  · intro session
    rw [none_asked]
    exact List.nodup_nil
  · intro session other id _ _ _ gameId member
    rw [none_asked] at member
    contradiction

theorem told_both (address : Nat → IpPort) (b : BattleService)
    {sessions : Session × Session} {response : MatchResponse}
    (right : b.Right address response) : ∀ reply ∈ replyBoth sessions response,
      requestId reply.message = none ∧ b.Tells address reply := by
  intro reply member
  simp only [replyBoth, List.mem_cons, List.not_mem_nil, or_false] at member
  rcases member with rfl | rfl
  · refine ⟨rfl, fun told message => ?_⟩
    cases message
    exact right
  · refine ⟨rfl, fun told message => ?_⟩
    cases message
    exact right

theorem requestIds_match (servers : ServerList) (request : CreateGame) (rest : List Reply)
    (silent : ∀ reply ∈ rest, requestId reply.message = none) (session : Session) :
    requestIds (messagesFor session (servers.map (fun info =>
      ⟨info.session, .createGame request⟩) ++ rest)) =
        (servers.filter (fun info => info.session = session)).map (fun _ => request.gameId) := by
  have none_left : requestIds (messagesFor session rest) = [] := by
    refine List.filterMap_eq_nil_iff.mpr (fun message member => ?_)
    obtain ⟨reply, held, rfl⟩ := List.mem_map.mp member
    exact silent reply (List.mem_of_mem_filter held)
  have split : messagesFor session (servers.map (fun info =>
      (⟨info.session, .createGame request⟩ : Reply)) ++ rest) =
      messagesFor session (servers.map (fun info => ⟨info.session, .createGame request⟩)) ++
        messagesFor session rest := by
    unfold messagesFor
    rw [List.filter_append, List.map_append]
  rw [split, requestIds_append, none_left, List.append_nil]
  clear split
  induction servers with
  | nil => rfl
  | cons info more ih =>
    by_cases here : info.session = session
    · simp only [messagesFor, List.map_cons, List.filter_cons, here, decide_true, if_true,
        requestIds, List.filterMap_cons, requestId] at ih ⊢
      rw [ih]
    · simp only [messagesFor, List.map_cons, List.filter_cons, here, decide_false,
        Bool.false_eq_true, if_false] at ih ⊢
      exact ih

theorem entry_unique {servers : ServerList} (once : (servers.map PvPServerInfo.id).Nodup)
    (places : ∀ info ∈ servers, b.At address info.session info.id) {id : IpPort}
    {info other : PvPServerInfo} (member : info ∈ servers) (member' : other ∈ servers)
    (here : b.At address info.session id) (here' : b.At address other.session id) :
    info = other := by
  have same : info.id = other.id :=
    ((places info member).unique here).trans ((places other member').unique here').symm
  exact List.inj_on_of_nodup_map once member member' same

theorem adds_match {lobby : Lobby} (fair : lobby.Fair) (gameId : String) (rolls : Rolls × Rolls)
    {opponent user : WaitingUser} {servers : ServerList} {rest : List Reply}
    (fresh : ∀ entry ∈ b.lobby.world.created, entry.1 ≠ gameId)
    (replies : lobby.world.replies = b.lobby.world.replies ++ (servers.map (fun info =>
      ⟨info.session, .createGame (gameRequest gameId rolls opponent user)⟩) ++ rest))
    (created : lobby.world.created = b.lobby.world.created ++ servers.map (fun info =>
      (gameId, newGame (gameRequest gameId rolls opponent user) (opponent.1, user.1) info)))
    (placed : Placed (b.At address) lobby.world.ams)
    (once : (servers.map PvPServerInfo.id).Nodup)
    (places : ∀ info ∈ servers, b.At address info.session info.id)
    (refused : ∀ reply ∈ rest, requestId reply.message = none ∧ b.Tells address reply) :
    Adds address b lobby (servers.map (fun info =>
      ⟨info.session, .createGame (gameRequest gameId rolls opponent user)⟩) ++ rest)
      (servers.map (fun info =>
        (gameId, newGame (gameRequest gameId rolls opponent user) (opponent.1, user.1) info))) := by
  have silent : ∀ reply ∈ rest, requestId reply.message = none :=
    fun reply member => (refused reply member).1
  have ids := requestIds_match servers (gameRequest gameId rolls opponent user) rest silent
  refine ⟨fair, replies, created, placed, ?_, ?_, ?_, ?_⟩
  · intro session request member
    obtain ⟨reply, held, message⟩ := List.mem_map.mp member
    obtain ⟨held, here⟩ := List.mem_filter.mp held
    rcases List.mem_append.mp held with asked | other
    · obtain ⟨info, chosen, rfl⟩ := List.mem_map.mp asked
      cases message
      simp only [decide_eq_true_eq] at here
      exact ⟨fresh, info.id, _, here ▸ places info chosen, List.mem_map_of_mem chosen, rfl, rfl⟩
    · have nothing := silent reply other
      rw [message] at nothing
      contradiction
  · intro session
    rw [ids]
    cases chosen : servers.filter (fun info => info.session = session) with
    | nil => exact List.nodup_nil
    | cons one more =>
      cases more with
      | nil => exact List.nodup_singleton _
      | cons two more =>
        have inside : ∀ info ∈ one :: two :: more, info ∈ servers ∧ info.session = session := by
          intro info member
          rw [← chosen, List.mem_filter, decide_eq_true_eq] at member
          exact member
        obtain ⟨first, here⟩ := inside one (by simp)
        obtain ⟨second, here'⟩ := inside two (by simp)
        have same : one = two := entry_unique once places first second (places one first)
          (here'.trans here.symm ▸ places one first)
        have distinct : (one :: two :: more).Nodup := chosen ▸ (once.of_map _).filter _
        simp [same] at distinct
  · intro session other id differ here here' same member member'
    rw [ids] at member member'
    obtain ⟨one, picked, _⟩ := List.mem_map.mp member
    obtain ⟨two, picked', _⟩ := List.mem_map.mp member'
    obtain ⟨chosen, at_session⟩ := List.mem_filter.mp picked
    obtain ⟨chosen', at_other⟩ := List.mem_filter.mp picked'
    rw [decide_eq_true_eq] at at_session at_other
    rw [← at_session] at here
    rw [← at_other] at here'
    refine differ ?_
    rw [← at_session, ← at_other, entry_unique once places chosen chosen' here here']
  · intro reply member
    rcases List.mem_append.mp member with asked | other
    · obtain ⟨info, _, rfl⟩ := List.mem_map.mp asked
      intro response message
      contradiction
    · exact (refused reply other).2

def Backed (address : Nat → IpPort) (b : BattleService) : AutoMatch.Event → Prop
  | .createGameResponse id response => response.retValue = 0 ∧
      ∃ server initData, id = address server ∧ b.Asked id response.gameId initData ∧
        b.Hosts server response.gameId initData
  | .serverRegister session reg => b.At address session reg.id
  | .serverHeartBeat session beat => b.At address session beat.id
  | _ => True

theorem adds_matchRequest (sound : b.Sound codec address) {session : Session}
    {request : MatchRequest} {gameId : String} {rolls : Rolls × Rolls} {lobby : Lobby}
    (fair : lobby.Fair) (fresh : ∀ entry ∈ b.lobby.world.created, entry.1 ≠ gameId)
    (same : lobby.world = b.lobby.world.record (b.lobby.world.ams.matchRequest
      b.lobby.world.isConnected gameId rolls session request)) :
    ∃ said made, Adds address b lobby said made := by
  have placed : Placed (b.At address) lobby.world.ams := by
    rw [same]
    exact placed_matchRequest sound.placed
  cases waiting : b.lobby.world.ams.waitingUsers[matchKey request]? with
  | none =>
    rw [matchRequest_waits waiting] at same
    refine ⟨[], [], adds_quiet fair ?_ ?_ placed (by simp) (by simp)⟩
    · rw [same]
      rfl
    · rw [same]
      rfl
  | some opponent =>
    rw [matchRequest_pairs waiting] at same
    by_cases twice : opponent.2 = request.userId
    · have refused : ∀ reply ∈ replyBoth (opponent.1, session)
          { retValue := .illegalRequest }, _ :=
        told_both address b ⟨by decide, fun success => by simp at success⟩
      refine ⟨replyBoth (opponent.1, session) { retValue := .illegalRequest }, [],
        adds_quiet fair ?_ ?_ placed (fun reply member => (refused reply member).1)
          (fun reply member => (refused reply member).2)⟩
      · rw [same]
        simp only [World.record, pairUsers_replies, twice, if_true]
      · rw [same]
        simp only [World.record, pairUsers_created, twice, if_true]
    · have replies : lobby.world.replies = b.lobby.world.replies ++
          ((connectedServers b.lobby.world.isConnected (b.lobby.world.ams.serverList 0)).map
            (fun info => ⟨info.session, .createGame
              (gameRequest gameId rolls opponent (session, request.userId))⟩) ++
          if (connectedServers b.lobby.world.isConnected
              (b.lobby.world.ams.serverList 0)).isEmpty then
            replyBoth (opponent.1, session)
              { retValue := .noServer, retInfo := "没有找到可用的服务器" }
          else []) := by
        rw [same]
        simp only [World.record, pairUsers_replies, twice, if_false]
      have created : lobby.world.created = b.lobby.world.created ++
          (connectedServers b.lobby.world.isConnected (b.lobby.world.ams.serverList 0)).map
            (fun info => (gameId, newGame (gameRequest gameId rolls opponent
              (session, request.userId)) (opponent.1, session) info)) := by
        rw [same]
        simp only [World.record, pairUsers_created, twice, if_false]
      refine ⟨_, _, adds_match fair gameId rolls fresh replies created placed ?_ ?_ ?_⟩
      · exact (sound.placed.once 0).sublist (List.filter_sublist.map _)
      · exact fun info member => sound.placed.places 0 info (List.mem_of_mem_filter member)
      · intro reply member
        split at member
        · exact told_both address b ⟨by simp, fun success => by simp at success⟩ reply member
        · contradiction

theorem adds_createGameResponse (sound : b.Sound codec address) {id : IpPort}
    {response : CreateGameResponse} {lobby : Lobby} (fair : lobby.Fair)
    (backed : b.Backed address (.createGameResponse id response))
    (ams : lobby.world.ams = (b.lobby.world.ams.createGameResponseGot response).ams)
    (replies : lobby.world.replies = b.lobby.world.replies ++
      (b.lobby.world.ams.createGameResponseGot response).replies)
    (created : lobby.world.created = b.lobby.world.created ++
      (b.lobby.world.ams.createGameResponseGot response).created) :
    ∃ said made, Adds address b lobby said made := by
  obtain ⟨fine, server, initData, rfl, asked, hosts⟩ := backed
  have placed : Placed (b.At address) lobby.world.ams := by
    rw [ams]
    exact placed_createGameResponseGot sound.placed
  cases filed : b.lobby.world.ams.games[response.gameId]? with
  | none =>
    rw [createGameResponseGot_of_unknown filed] at replies created
    exact ⟨[], [], adds_quiet fair replies created placed (by simp) (by simp)⟩
  | some game =>
    rw [createGameResponseGot_of_game filed] at replies created
    have told : ∀ reply ∈ replyBoth game.sessions (createGameResult game response), _ :=
      told_both address b (by
        rw [createGameResult, if_pos fine]
        refine ⟨by simp, fun _ => ?_⟩
        have named := sound.fair.filed _ game filed
        obtain ⟨askedGame, made, served, same⟩ := asked
        have one : game.gameInitData = askedGame.gameInitData :=
          (sound.fair.one_game _ named _ made rfl).1
        have init : game.gameInitData = initData := one.trans same
        exact ⟨⟨game, named, rfl, rfl⟩, server, ⟨askedGame, made, served, one.symm⟩,
          init ▸ hosts⟩)
    exact ⟨_, _, adds_quiet fair replies created placed
      (fun reply member => (told reply member).1) (fun reply member => (told reply member).2)⟩

theorem sound_handle (sound : b.Sound codec address) {event : AutoMatch.Event}
    (moved : b.handle order event = some after) (backed : b.Backed address event)
    (fresh : b.lobby.distinctIds event) : after.Sound codec address := by
  obtain ⟨lobby, stepped, rfl⟩ := Option.map_eq_some_iff.mp moved
  have fair := Lobby.fair_step sound.fair fresh stepped
  have adds : ∃ said made, Adds address b lobby said made := by
    obtain ⟨world, happened, rfl⟩ := Option.map_eq_some_iff.mp stepped
    have quiet : ∀ {ams : AutoMatchServer}, Placed (b.At address) ams →
        world.ams = ams → world.replies = b.lobby.world.replies →
          world.created = b.lobby.world.created → ∃ said made, Adds address b
            ⟨world, b.lobby.requests ++ requestOf event⟩ said made := by
      intro ams placed held replies created
      refine ⟨[], [], adds_quiet fair ?_ ?_ (held ▸ placed) (by simp) (by simp)⟩
      · exact replies.trans (List.append_nil _).symm
      · exact created.trans (List.append_nil _).symm
    cases event with
    | matchRequest session request gameId rolls =>
      obtain ⟨_, same⟩ := Option.ite_none_right_eq_some.mp happened
      cases same
      exact adds_matchRequest sound fair fresh rfl
    | userDisconnected session =>
      obtain ⟨_, same⟩ := Option.ite_none_right_eq_some.mp happened
      cases same
      exact quiet (placed_matchCancel sound.placed) rfl rfl rfl
    | createGameResponse id response =>
      obtain ⟨_, same⟩ := Option.ite_none_right_eq_some.mp happened
      cases same
      exact adds_createGameResponse sound fair backed rfl rfl rfl
    | serverRegister session reg =>
      cases happened
      refine ⟨_, _, adds_quiet fair rfl rfl (placed_register order sound.placed backed) ?_ ?_⟩
      · intro reply member
        rw [List.mem_singleton.mp member]
        rfl
      · intro reply member response message
        rw [List.mem_singleton.mp member] at message
        contradiction
    | serverHeartBeat session beat =>
      cases happened
      exact quiet (placed_heartBeat sound.placed backed) rfl rfl rfl
    | serverDisconnected session =>
      cases happened
      exact quiet sound.placed rfl rfl rfl
    | serverTimeout region id =>
      cases happened
      exact quiet (placed_timeout id sound.placed) rfl rfl rfl
  obtain ⟨said, made, adds⟩ := adds
  rw [adds.replies, List.drop_left]
  exact sound_adds sound adds

end handlers

section steps
variable {Data : Type*} {codec : GameCodec Data} {address : Nat → IpPort}
  {b after : BattleService} {order : PrioritySort} {session : Session} {link : Link}

theorem of_openLink (opened : b.openLink session = some link) :
    b.links[session]? = some link := by
  exact (Option.filter_eq_some_iff.mp opened).1

theorem sound_up (sound : b.Sound codec address) (held : b.links[session]? = some link)
    {up : List BattleMessage} (speaks : ∀ message ∈ up, b.Speaks address link.server message) :
    Sound codec address { b with links := b.links.insert session { link with up := up } } := by
  have carries := sound.links session link held
  refine sound_put sound ⟨speaks, carries.down, carries.once, carries.unhosted⟩ ?_ ?_
  · intro old before
    rw [held] at before
    cases before
    exact ⟨rfl, fun _ member => member⟩
  · intro free
    rw [held] at free
    contradiction

theorem sound_connect (sound : b.Sound codec address) (new : b.links[session]? = none)
    (server : Nat) : Sound codec address { b with
      links := b.links.insert session
        { server := server, up := PvpServer.start (address server) } } := by
  refine sound_put sound ⟨?_, ?_, List.nodup_nil, ?_⟩ ?_ (fun _ => rfl)
  · intro message member
    simp only [PvpServer.start, List.mem_cons, List.not_mem_nil, or_false] at member
    rcases member with rfl | rfl
    · rfl
    · rfl
  · intro request member
    contradiction
  · intro gameId member
    contradiction
  · intro old held
    rw [new] at held
    contradiction

theorem sound_lose (sound : b.Sound codec address) (held : b.links[session]? = some link) :
    Sound codec address { b with
      links := b.links.insert session { link with up := [], down := [], lost := true } } := by
  refine sound_put sound ⟨?_, ?_, List.nodup_nil, ?_⟩ ?_ (fun _ => rfl)
  · intro message member
    contradiction
  · intro request member
    contradiction
  · intro gameId member
    contradiction
  · intro old before
    rw [held] at before
    cases before
    exact ⟨rfl, fun gameId member => by contradiction⟩

theorem sound_receive (sound : b.Sound codec address) (held : b.links[session]? = some link)
    {message : BattleMessage} {rest : List BattleMessage} (up : link.up = message :: rest)
    (moved : { b with links := b.links.insert session { link with up := rest } }.handle order
      (message.event session (address link.server)) = some after) :
    after.Sound codec address := by
  have carries := sound.links session link held
  have popped := sound_up sound held (fun other member =>
    carries.up other (up ▸ List.mem_cons_of_mem _ member))
  have here : At address { b with links := b.links.insert session { link with up := rest } }
      session (address link.server) := ⟨_, (find_insert ..).trans (if_pos rfl), rfl⟩
  have speaks := carries.up message (up ▸ List.mem_cons_self ..)
  refine sound_handle popped moved ?_ ?_
  · cases message with
    | register request =>
      have same : request.id = address link.server := speaks
      exact same ▸ here
    | heartBeat beat =>
      have same : beat.id = address link.server := speaks
      exact same ▸ here
    | createGameResponse response =>
      obtain ⟨fine, initData, asked, hosts⟩ := speaks
      exact ⟨fine, link.server, initData, rfl, asked, hosts⟩
  · cases message with
    | register request => trivial
    | heartBeat beat => trivial
    | createGameResponse response => trivial

theorem requestIds_cons (message : Message) (rest : List Message) :
    requestIds (message :: rest) = (requestId message).toList ++ requestIds rest := by
  cases message with
  | createGame request => rfl
  | matchResponse response => rfl
  | registerResponse response => rfl

theorem sound_taken (sound : b.Sound codec address) (held : b.links[session]? = some link)
    {message : Message} {rest : List Message} (down : link.down = message :: rest)
    {s : PvpServer} {said : List BattleMessage} (inv : PvpServer.Inv codec s) (idle : s.Idle)
    (games : ∀ old ∈ (b.servers link.server).games,
      ∃ entry ∈ s.games, PvpServer.SameGame old entry)
    (known : ∀ entry ∈ s.games, entry ∈ (b.servers link.server).games ∨
      requestId message = some entry.gameId)
    (speaks : ∀ other ∈ said, Later b (b.setServer link.server s) →
      (b.setServer link.server s).Speaks address link.server other) :
    Sound codec address { b.setServer link.server s with
      links := b.links.insert session { link with up := link.up ++ said, down := rest } } := by
  have carries := sound.links session link held
  have ids : requestIds link.down = (requestId message).toList ++ requestIds rest := by
    rw [down, requestIds_cons]
  have later : Later b (b.setServer link.server s) :=
    hosts_setServer (fun old member => .inl (games old member))
  have once := carries.once
  rw [ids, List.nodup_append] at once
  have popped : Sound codec address
      { b with links := b.links.insert session { link with down := rest } } := by
    refine sound_put sound ⟨carries.up, ?_, once.2.1, ?_⟩ ?_ ?_
    · intro request member
      exact carries.down request (down ▸ List.mem_cons_of_mem _ member)
    · intro gameId member
      exact carries.unhosted gameId (ids ▸ List.mem_append_right _ member)
    · intro old before
      rw [held] at before
      cases before
      exact ⟨rfl, fun gameId member => ids ▸ List.mem_append_right _ member⟩
    · intro free
      rw [held] at free
      contradiction
  have taken : Sound codec address (setServer
      { b with links := b.links.insert session { link with down := rest } } link.server s) := by
    refine sound_setServer popped inv idle ⟨later.created, later.hosts⟩ ?_ ?_
    · intro entry hosted
      rcases known entry hosted with old | asked
      · exact sound.known _ entry old
      · have first : entry.gameId ∈ requestIds link.down := by
          rw [ids, asked]
          exact List.mem_append_left _ (List.mem_singleton_self _)
        exact asked_of_carried sound held first
    · intro other changed found server gameId member entry hosted
      rcases known entry hosted with old | asked
      · exact (popped.links other changed found).unhosted gameId member entry (server ▸ old)
      · rintro rfl
        have first : entry.gameId ∈ requestIds link.down := by
          rw [ids, asked]
          exact List.mem_append_left _ (List.mem_singleton_self _)
        simp only [find_insert] at found
        split at found
        · cases found
          rw [asked] at once
          exact once.2.2 _ (List.mem_singleton_self _) _ member rfl
        · rename_i differ
          exact sound.apart session other link changed held found differ server.symm _ first
            member
  have at_session : (setServer { b with
      links := b.links.insert session { link with down := rest } } link.server s).links[session]? =
        some { link with down := rest } := (find_insert ..).trans (if_pos rfl)
  have told := sound_up taken at_session (fun other (member : other ∈ link.up ++ said) =>
    (List.mem_append.mp member).elim (fun old => later.speaks (carries.up other old))
      (fun new => speaks other new later))
  refine told.congr_links (fun other => ?_)
  simp only [setServer, find_insert]
  split
  · rfl
  · rfl

theorem sound_parse (sound : b.Sound codec address) (held : b.links[session]? = some link)
    {message : Message} {rest : List Message} (down : link.down = message :: rest)
    (gameTime : BitVec 32) :
    Sound codec address
      { b.setServer link.server
          ((b.servers link.server).parseControlMessage gameTime message).1 with
        links := b.links.insert session { link with
          up := link.up ++ ((b.servers link.server).parseControlMessage gameTime message).2
          down := rest } } := by
  obtain ⟨inv, idle⟩ := sound.servers link.server
  have same : ∀ old ∈ (b.servers link.server).games,
      ∃ entry ∈ (b.servers link.server).games, PvpServer.SameGame old entry :=
    fun old member => ⟨old, member, rfl, rfl, rfl⟩
  cases message with
  | createGame request =>
    have carries := sound.links session link held
    have first : request.gameId ∈ requestIds link.down := by
      rw [down]
      exact requestIds_of_mem (List.mem_cons_self ..)
    obtain ⟨entry, answer, met, id, initData, unset⟩ := PvpServer.createGame_new
      gameTime (carries.unhosted request.gameId first)
    have games : ((b.servers link.server).parseControlMessage gameTime
      (.createGame request)).1.games = (b.servers link.server).games ++ [entry] := met
    refine sound_taken sound held down (PvpServer.inv_createGame inv gameTime request) ?_ ?_ ?_ ?_
    · intro kept member
      rw [games] at member
      rcases List.mem_append.mp member with old | new
      · exact idle kept old
      · rw [List.mem_singleton.mp new]
        exact fun _ => unset
    · intro old member
      exact ⟨old, games ▸ List.mem_append_left _ member, rfl, rfl, rfl⟩
    · intro kept member
      rw [games] at member
      rcases List.mem_append.mp member with old | new
      · exact .inl old
      · rw [List.mem_singleton.mp new, id]
        exact .inr rfl
    · intro other member later
      rw [List.mem_singleton.mp member, answer]
      refine ⟨rfl, request.gameInitData, later.asked (carries.down request ?_), .inl ⟨entry, ?_,
        id, initData⟩⟩
      · rw [down]
        exact List.mem_cons_self ..
      · simp only [setServer, Function.update_self]
        rw [games]
        exact List.mem_append_right _ (List.mem_singleton_self _)
  | registerResponse response =>
    exact sound_taken sound held down inv idle same (fun entry member => .inl member)
      (fun other member => absurd member List.not_mem_nil)
  | matchResponse response =>
    exact sound_taken sound held down inv idle same (fun entry member => .inl member)
      (fun other member => absurd member List.not_mem_nil)

theorem game_step {server : Nat} {event : ServerEvent Data}
    (moved : b.step order address codec (.game server event) = some after) :
    (∀ gameTime request, event ≠ .createGame gameTime request) ∧
      ∃ s, (b.servers server).step codec event = some s ∧ b.setServer server s = after := by
  cases event with
  | createGame gameTime request => contradiction
  | newEndpoint key => exact ⟨by simp, Option.map_eq_some_iff.mp moved⟩
  | parseMessage key data order => exact ⟨by simp, Option.map_eq_some_iff.mp moved⟩
  | terminalTimeout key => exact ⟨by simp, Option.map_eq_some_iff.mp moved⟩
  | expire created => exact ⟨by simp, Option.map_eq_some_iff.mp moved⟩
  | triggerUpdate created => exact ⟨by simp, Option.map_eq_some_iff.mp moved⟩
  | triggerUpdateAborted created => exact ⟨by simp, Option.map_eq_some_iff.mp moved⟩

theorem sound_game (sound : b.Sound codec address) {server : Nat} {event : ServerEvent Data}
    {s : PvpServer} (own : ∀ gameTime request, event ≠ .createGame gameTime request)
    (moved : (b.servers server).step codec event = some s) :
    Sound codec address (b.setServer server s) := by
  obtain ⟨inv, idle⟩ := sound.servers server
  have lasting := PvpServer.lasting_step inv.distinct idle own moved
  refine sound_setServer sound (PvpServer.step_inv inv moved) lasting.idle
    (hosts_setServer lasting.games) ?_ ?_
  · intro entry hosted
    obtain ⟨old, before, same⟩ := lasting.ids entry hosted
    rw [← same]
    exact sound.known server old before
  · intro session link held here gameId member entry hosted
    obtain ⟨old, before, same⟩ := lasting.ids entry hosted
    rw [← same]
    exact (sound.links session link held).unhosted gameId member old (here ▸ before)

theorem sound_step {e : BattleEvent Data} (sound : b.Sound codec address)
    (fresh : b.distinctIds e) (moved : b.step order address codec e = some after) :
    after.Sound codec address := by
  cases e with
  | matchRequest session request gameId rolls => exact sound_handle sound moved trivial fresh
  | userDisconnected session => exact sound_handle sound moved trivial trivial
  | serverTimeout region id => exact sound_handle sound moved trivial trivial
  | connect session server =>
    obtain ⟨new, same⟩ := Option.ite_none_left_eq_some.mp moved
    cases same
    refine sound_connect sound ?_ server
    rw [TreeMap.contains_eq_isSome_getElem?] at new
    simpa using new
  | heartBeatTrigger session =>
    obtain ⟨link, opened, rfl⟩ := Option.map_eq_some_iff.mp moved
    have held := of_openLink opened
    refine sound_up sound held (fun message member => ?_)
    rcases List.mem_append.mp member with old | new
    · exact (sound.links session link held).up message old
    · rw [List.mem_singleton.mp new]
      rfl
  | lose session =>
    obtain ⟨link, opened, rfl⟩ := Option.map_eq_some_iff.mp moved
    exact sound_lose sound (of_openLink opened)
  | serverDisconnected session =>
    obtain ⟨_, handled⟩ := Option.ite_none_right_eq_some.mp moved
    exact sound_handle sound handled trivial trivial
  | receive session =>
    obtain ⟨link, opened, moved⟩ := Option.bind_eq_some_iff.mp moved
    cases up : link.up with
    | nil =>
      rw [up] at moved
      contradiction
    | cons message rest =>
      rw [up] at moved
      exact sound_receive sound (of_openLink opened) up moved
  | parseControlMessage session gameTime =>
    obtain ⟨link, opened, moved⟩ := Option.bind_eq_some_iff.mp moved
    cases down : link.down with
    | nil =>
      rw [down] at moved
      contradiction
    | cons message rest =>
      rw [down] at moved
      cases moved
      exact sound_parse sound (of_openLink opened) down gameTime
  | game server event =>
    obtain ⟨own, s, stepped, rfl⟩ := game_step moved
    exact sound_game sound own stepped

theorem sound_initial (codec : GameCodec Data) (address : Nat → IpPort) :
    Sound codec address {} := by
  refine ⟨Lobby.fair_start, ?_, ?_, ⟨?_, ?_⟩, ?_, ?_, ?_⟩
  · intro server
    exact ⟨PvpServer.inv_initial, fun entry member => absurd member List.not_mem_nil⟩
  · intro server entry member
    exact absurd member List.not_mem_nil
  · intro region
    simp [serverList]
  · intro region info member
    simp [serverList] at member
  · intro session link held
    simp at held
  · intro session other link link' held
    simp at held
  · intro reply member
    exact absurd member List.not_mem_nil

end steps

/-- No player is told of a failure, and a game that a player is told exists as told on a
    battle server until it was played and left; it lists the user that the player asked for,
    and it is on the server at the address if no other was asked. A battle server answers
    only what it was asked. -/
structure GamesTold (address : Nat → IpPort) (b : BattleService) : Prop where
  created : ∀ reply ∈ b.lobby.world.replies, ∀ response,
    reply.message = .matchResponse response → response.retValue ≠ .createFail
  hosted : ∀ reply ∈ b.lobby.world.replies, ∀ response, tellsSuccess reply response →
    (∃ user, (reply.session, user) ∈ b.lobby.requests ∧
      ∃ force ∈ response.gameInitData.forces, force.userId = user) ∧
    ∃ server, b.Hosts server response.gameUuid response.gameInitData ∧
      b.lobby.world.asked (address server) response.gameUuid ∧
      ((∀ id, b.lobby.world.asked id response.gameUuid → id = address server) →
        address server = ⟨response.gameServerIp, response.gameServerPort⟩)
  asked : ∀ (session : Session) link, b.links[session]? = some link →
    ∀ response, .createGameResponse response ∈ link.up →
      b.lobby.world.asked (address link.server) response.gameId

theorem gamesTold_of_run {Data : Type*} {order : PrioritySort} {address : Nat → IpPort}
    {codec : GameCodec Data} {b : BattleService}
    (run : Reach (step order address codec) distinctIds {} b) : b.GamesTold address := by
  have sound : b.Sound codec address := reach_invariant (Sound codec address)
    (sound_initial codec address) (fun _ _ _ sound fresh moved => sound_step sound fresh moved) run
  have asked : ∀ {id : IpPort} {gameId : String} {initData : GameInitData},
      b.Asked id gameId initData → b.lobby.world.asked id gameId := by
    rintro id gameId initData ⟨game, made, server, _⟩
    exact ⟨_, made, rfl, server⟩
  refine ⟨?_, ?_, ?_⟩
  · intro reply member response message
    exact (sound.told reply member response message).1
  · intro reply member response ⟨message, success⟩
    obtain ⟨named, server, here, hosts⟩ := (sound.told reply member response message).2 success
    refine ⟨?_, server, hosts, asked here, fun only => (only _ (asked named)).symm⟩
    have covers := sound.fair.replies reply member
    simp only [Lobby.Covers, message] at covers
    obtain ⟨game, made, initData, player⟩ := covers success
    obtain ⟨first, second, _, _, user, other, _, requested, requested', forces⟩ :=
      sound.fair.games _ made
    simp only at requested requested' forces
    rw [← initData, forces]
    rcases player with mine | mine
    · exact ⟨user, mine ▸ requested, _, List.mem_cons_self .., rfl⟩
    · exact ⟨other, mine ▸ requested', _, List.mem_cons_of_mem _ (List.mem_cons_self ..), rfl⟩
  · intro session link held response member
    obtain ⟨_, _, here, _⟩ := (sound.links session link held).up _ member
    exact asked here

end BattleService

end LaluneServer.Pvp
