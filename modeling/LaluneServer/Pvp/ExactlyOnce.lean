import LaluneServer.Pvp.TerminalRuns

/- After its SYNC a terminal hands every packet of its peer to parseMessage once,
   whatever the order and the number of the copies that arrive, and whatever the
   terminal sends in between. -/
namespace LaluneServer.Pvp
open BitWindow

variable {Data : Type*}

/-- What happens to a terminal after the SYNC; a packet of the peer comes with its
    place behind the SYNC, which no function reads. -/
inductive PeerEvent (Data : Type*) where
  | arrives (place : Nat) (message : PvpMessage Data)
  | sends (message : PvpMessage Data) (protoId : BitVec 16)
  | ticks
  deriving DecidableEq, Repr

def PeerEvent.call : PeerEvent Data → TerminalCall Data
  | .arrives _ message => .receiveMessage message
  | .sends message protoId => .sendMessage message protoId
  | .ticks => .resendMessages

def Numbered (syncNo : BitVec 16) : PeerEvent Data → Prop
  | .arrives place message => 0 < place ∧ message.protoId.setWidth 16 ≠ syncProtoId ∧
      message.seqNo.setWidth 16 = nextSeqNo^[place] syncNo
  | _ => True

/-- Every packet arrives within 30 places of the newest one received before it. -/
def InWindow : Nat → List (PeerEvent Data) → Prop
  | _, [] => True
  | newest, .arrives place _ :: es =>
    place ≤ newest + 30 ∧ newest ≤ place + 30 ∧ InWindow (max newest place) es
  | newest, _ :: es => InWindow newest es

def firstArrivals : List Nat → List (PeerEvent Data) → List (Option (PvpMessage Data))
  | _, [] => []
  | seen, .arrives place message :: es =>
    if place ∈ seen then none :: firstArrivals seen es
    else some message :: firstArrivals (seen ++ [place]) es
  | seen, _ :: es => none :: firstArrivals seen es

structure Receiving (syncNo : BitVec 16) (newest : Nat) (seen : List Nat)
    (t : PvpTerminal Data) : Prop where
  open_state : t.state ≠ .disconnected
  window : ReceiverWindow syncNo.toNat (syncNo.toNat + newest) (seen.map (syncNo.toNat + ·)) t

theorem seqNumber_iterate (syncNo : BitVec 16) (place : Nat) :
    nextSeqNo^[place] syncNo = seqNumber (syncNo.toNat + place) := by
  induction place with
  | zero => exact (seqNumber_of_start syncNo).symm
  | succ place ih =>
    rw [Function.iterate_succ_apply', ih, next_seqNumber]
    rfl

section
variable {syncNo : BitVec 16} {newest place : Nat} {seen : List Nat} {t u : PvpTerminal Data}

theorem Receiving.of_same_acks (r : Receiving syncNo newest seen t) (state : u.state = t.state)
    (ackNo : u.ackNo = t.ackNo) (ackBits : u.ackBits = t.ackBits) :
    Receiving syncNo newest seen u :=
  ⟨state ▸ r.open_state, r.window.of_same_acks ackNo ackBits⟩

theorem receiving_sendMessage (r : Receiving syncNo newest seen t) (message : PvpMessage Data)
    (protoId : BitVec 16) : Receiving syncNo newest seen (sendMessage t message protoId).1 := by
  unfold sendMessage handleToSendQueue
  refine sendRounds_preserves (Receiving syncNo newest seen) ?_ ?_ 4 _ (r.of_same_acks rfl rfl rfl)
  · intro t message rest still _ _
    exact still.of_same_acks rfl rfl rfl
  · intro t count still
    exact still.of_same_acks rfl rfl rfl

theorem receiving_resendMessages (r : Receiving syncNo newest seen t) :
    Receiving syncNo newest seen (resendMessages t).1 := by
  obtain ⟨messages, frame, _⟩ := resendMessages_frame t
  rw [frame]
  exact r.of_same_acks rfl rfl rfl

theorem receiveMessage_sync (disconnected : t.state = .disconnected) {sync : PvpMessage Data}
    (isSync : sync.protoId.setWidth 16 = syncProtoId) :
    ∃ u wire, receiveMessage t sync = some ⟨u, wire, none⟩ ∧
      Receiving (sync.seqNo.setWidth 16) 0 [] u := by
  refine ⟨_, _, by rw [receiveMessage, if_pos isSync, if_neg (by simp [disconnected])], ?_⟩
  refine receiving_sendMessage ⟨by simp [acceptSync], receiverWindow_start ?_ rfl⟩ {} syncProtoId
  exact (seqNumber_of_start _).symm

theorem receiveMessage_place (r : Receiving syncNo newest seen t) {message : PvpMessage Data}
    (numbered : Numbered syncNo (.arrives place message)) (ahead : place ≤ newest + 30)
    (behind : newest ≤ place + 30) :
    (place ∈ seen ∧ ∃ u, receiveMessage t message = some ⟨u, [], none⟩ ∧
      Receiving syncNo (max newest place) seen u) ∨
    (place ∉ seen ∧ ∃ u, receiveMessage t message = some ⟨u, [], some message⟩ ∧
      Receiving syncNo (max newest place) (seen ++ [place]) u) := by
  obtain ⟨after, data, number⟩ := numbered
  have places : syncNo.toNat + place ∈ seen.map (syncNo.toNat + ·) ↔ place ∈ seen := by
    simp
  have window : ReceiverWindow syncNo.toNat (syncNo.toNat + newest)
      (seen.map (syncNo.toNat + ·)) { t with totalTimeNoMessage := 0, state := .connected } :=
    r.window.of_same_acks rfl rfl
  rw [receiveMessage_data r.open_state data, number, seqNumber_iterate]
  rcases updateAckInfo_window window (show _ < syncNo.toNat + place by omega) (by omega)
    (by omega) with ⟨known, duplicate⟩ | ⟨fresh, v, accepted, frame, next⟩
  · rw [duplicate]
    refine Or.inl ⟨places.mp known, _, rfl, by simp, ?_⟩
    have upto := (window.bounds _ known).2
    rw [Nat.max_eq_left (by omega)]
    exact window
  · rw [accepted]
    refine Or.inr ⟨fun known => fresh (places.mpr known), _, rfl, ?_⟩
    rw [updateRemoteAckBits_frame]
    refine ⟨?_, ?_⟩
    · show v.state ≠ .disconnected
      rw [frame]
      simp
    · rw [List.map_append, List.map_singleton, ← Nat.add_max_add_left]
      exact next.of_same_acks rfl rfl

theorem runCalls_receiving (es : List (PeerEvent Data)) (r : Receiving syncNo newest seen t)
    (numbered : ∀ e ∈ es, Numbered syncNo e) (inWindow : InWindow newest es) :
    ∃ final, runCalls t (es.map PeerEvent.call) = some (final, firstArrivals seen es) := by
  induction es generalizing t newest seen with
  | nil => exact ⟨t, rfl⟩
  | cons e es ih =>
    have others : ∀ e ∈ es, Numbered syncNo e :=
      fun e mem => numbered e (List.mem_cons_of_mem _ mem)
    rw [List.map_cons]
    cases e with
    | arrives place message =>
      obtain ⟨ahead, behind, later⟩ := inWindow
      unfold firstArrivals
      rcases receiveMessage_place r (numbered _ List.mem_cons_self) ahead behind with
        ⟨known, u, received, next⟩ | ⟨fresh, u, received, next⟩
      · obtain ⟨final, ran⟩ := ih next others later
        rw [if_pos known]
        exact ⟨final, runCalls_cons received ran⟩
      · obtain ⟨final, ran⟩ := ih next others later
        rw [if_neg fresh]
        exact ⟨final, runCalls_cons received ran⟩
    | sends message protoId =>
      obtain ⟨final, ran⟩ := ih (receiving_sendMessage r message protoId) others inWindow
      exact ⟨final, runCalls_cons rfl ran⟩
    | ticks =>
      obtain ⟨final, ran⟩ := ih (receiving_resendMessages r) others inWindow
      exact ⟨final, runCalls_cons rfl ran⟩

end

/-- Each call of the run hands to parseMessage the packet that arrives with it for
    the first time, and nothing else. -/
theorem packets_parsed_exactly_once {t : PvpTerminal Data} (disconnected : t.state = .disconnected)
    {sync : PvpMessage Data} (isSync : sync.protoId.setWidth 16 = syncProtoId)
    (events : List (PeerEvent Data))
    (numbered : ∀ e ∈ events, Numbered (sync.seqNo.setWidth 16) e) (inWindow : InWindow 0 events) :
    ∃ final, runCalls t (.receiveMessage sync :: events.map PeerEvent.call) =
      some (final, none :: firstArrivals [] events) := by
  obtain ⟨u, wire, received, opened⟩ := receiveMessage_sync disconnected isSync
  obtain ⟨final, ran⟩ := runCalls_receiving events opened numbered inWindow
  exact ⟨final, runCalls_cons received ran⟩

def packet (seqNo : BitVec 32) : PvpMessage Unit :=
  { protoId := defaultProtoId.setWidth 32, seqNo := seqNo }

def arrivalsAtWrap : List (PeerEvent Unit) :=
  [.arrives 2 (packet 1), .sends {} defaultProtoId, .arrives 1 (packet 0xffff), .ticks,
    .arrives 2 (packet 1), .arrives 32 (packet 31)]

instance (syncNo : BitVec 16) : (e : PeerEvent Data) → Decidable (Numbered syncNo e)
  | .arrives .. => inferInstanceAs (Decidable (_ ∧ _ ∧ _))
  | .sends .. => isTrue trivial
  | .ticks => isTrue trivial

theorem packets_parsed_once_at_wrap : ∃ final, runCalls newTerminal
    (.receiveMessage { protoId := 2, seqNo := 0xfffe } :: arrivalsAtWrap.map PeerEvent.call) =
      some (final, [none, some (packet 1), none, some (packet 0xffff), none, none,
        some (packet 31)]) :=
  packets_parsed_exactly_once rfl (by decide) arrivalsAtWrap (by decide)
    (by simp [InWindow, arrivalsAtWrap])

end LaluneServer.Pvp
