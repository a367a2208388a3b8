import BevyIroh.Client.Session
import BevyIroh.Lib.Transition

/-!
# Whether a disconnected connection stays so

The handlers of `ConnectionClosed` and `LostConnection` look at the state before they change it.  The
handler of `Connected` does not: a `Connected` that was queued before the application disconnected, or
that the task queues later because it had not seen the close order, makes the connection connected
again.  `disconnected_absorbing_iff` says that this is the only way out of the disconnected state
other than `reconnect`.
-/

set_option autoImplicit false

namespace BevyIroh

open Transition

namespace ClientSideConnection

variable (self : ClientSideConnection)

variable {self} in
/-- What a call on channels keeps: whatever changing the ids, and creating, closing and sending on a
channel keep. -/
theorem call_invariant {P : ClientSideConnection → Prop}
    (hids : ∀ c : ClientSideConnection, ∀ ids, P c → P (c.withIds ids))
    (hcreate : ∀ c : ClientSideConnection, ∀ id config, P c → P (c.createConnectionChannel id config).2)
    (hclose : ∀ c : ClientSideConnection, ∀ id, P c → P (c.internalCloseChannel id).2)
    (hsend : ∀ c : ClientSideConnection, ∀ id payload, P c → P (c.internalSendPayload id payload).2)
    (h : P self) (c : ClientCall) : P (self.call c) := by
  have hsendOn : ∀ id payload, P (self.sendPayloadOn id payload).2 := by
    intro id payload
    rcases self.sendPayloadOn_cases id payload with ⟨-, heq⟩ | ⟨-, heq⟩ <;> rw [heq]
    · exact h
    · exact hsend self id payload h
  cases c with
  | openChannel config =>
    simp only [call]
    rcases ht : self.specific.sendChannelIds.takeId with ⟨e | id, ids⟩
    · rw [openChannel, ht]
      exact hids self ids h
    · rw [(openChannel_of_takeId_ok ht config).1]
      exact hcreate _ id config (hids self ids h)
  | closeChannel id =>
    simp only [call]
    rcases self.closeChannel_snd_eq id with heq | ⟨ids, heq⟩ <;> rw [heq]
    · exact hclose self id h
    · exact hids _ ids (hclose self id h)
  | sendPayloadOn id payload => exact hsendOn id payload
  | sendPayload payload =>
    simp only [call, sendPayload]
    split
    · rename_i id _
      have hid := hsendOn id payload
      split <;> rename_i heq <;> rw [heq] at hid <;> exact hid
    · exact h
  | setDefaultChannel id => exact hids self _ h

/-- The calls on channels change nothing of the specific part but the pool of ids. -/
theorem specific_call (c : ClientCall) :
    ∃ ids, (self.call c).specific = { self.specific with sendChannelIds := ids } := by
  refine call_invariant
    (P := fun c' ↦ ∃ ids, c'.specific = { self.specific with sendChannelIds := ids })
    (fun c' ids h ↦ ?_) (fun c' id config h ↦ ?_) (fun c' id h ↦ ?_) (fun c' id payload h ↦ ?_)
    ⟨_, rfl⟩ c
  · obtain ⟨_, h⟩ := h
    exact ⟨ids, congrArg (fun s : ClientConnection ↦ { s with sendChannelIds := ids }) h⟩
  · rw [PeerConnection.specific_createConnectionChannel]
    exact h
  · rw [PeerConnection.specific_internalCloseChannel]
    exact h
  · rw [PeerConnection.specific_internalSendPayload]
    exact h

@[simp] theorem state_call (c : ClientCall) : (self.call c).specific.state = self.specific.state := by
  obtain ⟨ids, h⟩ := self.specific_call c
  rw [h]

@[simp] theorem fromAsyncClient_call (c : ClientCall) :
    (self.call c).specific.fromAsyncClient = self.specific.fromAsyncClient := by
  obtain ⟨ids, h⟩ := self.specific_call c
  rw [h]

end ClientSideConnection

namespace Session

variable {sharedClientId : Bool} {s s' : Session} {a : SessionAct}

def Disconnected (s : Session) : Prop := s.conn.specific.state = .disconnected

/-- The handler does not take a `Connected` in this step. -/
def TakesNoConnected (s : Session) : SessionAct → Prop
  | .handleAsync _ => ∀ clientId q,
      s.conn.specific.fromAsyncClient.recv ≠ some (.connected clientId, q)
  | _ => True

/-- A disconnected connection stays disconnected in a step, if the handler takes no `Connected`, and
only then. -/
theorem disconnected_step_iff (hs : s.Disconnected) (ha : a ≠ .reconnect)
    (hstep : Step sharedClientId s a s') : s'.Disconnected ↔ s.TakesNoConnected a := by
  have hlost : ∀ {c : ClientSideConnection} (receivers : Bool), c.specific.state = .disconnected →
      (c.handleLost receivers).1.specific.state = .disconnected := fun receivers hc ↦ by
    rw [ClientSideConnection.handleLost, hc]
    exact hc
  cases hstep with
  | call c hf => exact iff_of_true ((s.conn.state_call c).trans hs) trivial
  | disconnect receivers hf hr =>
    refine iff_of_true ?_ trivial
    simp [Disconnected, conn, withConn, ClientSideConnection.disconnect]
  | reconnect | reconnectFailed | reconnectIgnored => exact absurd rfl ha
  | @handleAsync receivers message q hf hq hr =>
    cases message with
    | connected clientId =>
      exact iff_of_false (fun h ↦ by cases h) fun h ↦ h clientId q hq
    | connectionFailed err =>
      refine iff_of_true rfl fun clientId q' hq' ↦ ?_
      rw [hq] at hq'
      cases hq'
    | connectionClosed =>
      refine iff_of_true (hlost _ hs) fun clientId q' hq' ↦ ?_
      rw [hq] at hq'
      cases hq'
  | @handleChannels receivers message q hf hq hr =>
    cases message with
    | lostConnection => exact iff_of_true (hlost _ hs) trivial
  | signal h hq =>
    refine iff_of_true ?_ trivial
    rw [Disconnected, specific_attemptEnded]
    exact hs
  | link hl h => exact iff_of_true ((congrArg ClientConnection.state (h.specific_eq hl)).trans hs) trivial
  | _ => exact iff_of_true hs trivial

/-- **When a disconnected connection stays disconnected until `reconnect` is called**: exactly when,
along the run, the handler takes no `Connected` while the connection is disconnected. -/
theorem disconnected_absorbing_iff {tr : List (SessionAct × Session)}
    (h : Run (Step sharedClientId) s tr) :
    Absorbing Disconnected (· = .reconnect) s tr ↔
      EachStep (Guarded TakesNoConnected Disconnected (· = .reconnect)) s tr :=
  h.absorbing_iff fun hs ha hstep ↦ disconnected_step_iff hs ha hstep

/-- A connection comes up, which is reported, and the application disconnects.  Then the transport is
closed, and the watcher says so: that is ignored. -/
theorem early_disconnect_absorbing : ∃ tr, Run (Step false) (start .opened []) tr ∧ tr.length = 15 ∧
    (last (start .opened []) tr).events = [.connection 0 none] ∧
    (last (start .opened []) tr).conn.specific.fromAsyncClient.received =
      [.connected none, .connectionClosed] ∧
    Disconnected (last (start .opened []) tr) ∧
    Absorbing Disconnected (· = .reconnect) (start .opened []) tr := by
  have hrun : Run (Step false) (start .opened []) _ :=
    .cons (.established rfl) (.cons (.spawnWatcher rfl) (.cons (.spawnRecv rfl)
      (.cons (.spawnSpawner rfl) (.cons (.signal rfl (by decide)) (.cons (.beginFrame rfl)
        (.cons (.handleAsync true rfl rfl fun _ ↦ rfl) (.cons (.endAsync rfl rfl)
          (.cons (.endFrame rfl rfl) (.cons (.disconnect true rfl fun _ ↦ rfl)
            (.cons (.peerClose rfl) (.cons (.transportClosed rfl rfl)
              (.cons (.watcherSignal rfl (by decide)) (.cons (.beginFrame rfl)
                (.cons (.handleAsync true rfl rfl fun _ ↦ rfl) (.nil _)))))))))))))))
  refine ⟨_, hrun, rfl, rfl, rfl, rfl, (disconnected_absorbing_iff hrun).2 ?_⟩
  have hother : ∀ {s : Session} {a : SessionAct}, s.TakesNoConnected a →
      Guarded TakesNoConnected Disconnected (· = .reconnect) s a := fun h _ _ ↦ h
  refine ⟨hother trivial, hother trivial, hother trivial, hother trivial, hother trivial,
    hother trivial, ?_, hother trivial, hother trivial, hother trivial, hother trivial,
    hother trivial, hother trivial, hother trivial, ?_, trivial⟩
  · -- the connection is still coming up
    intro hs
    cases hs
  · rintro - - clientId q hq
    cases hq

/-- The application disconnects after the task has queued `Connected` and before that is handled: the
next run of the handler makes the connection connected, and reports it so. -/
theorem stale_connected_revives : ∃ tr, Run (Step false) (start .opened []) tr ∧
    (last (start .opened []) tr).events = [.connection 0 none] ∧
    ¬ Absorbing Disconnected (· = .reconnect) (start .opened []) tr := by
  have hrun : Run (Step false) (start .opened []) _ :=
    .cons (.established rfl) (.cons (.spawnWatcher rfl) (.cons (.spawnRecv rfl)
      (.cons (.spawnSpawner rfl) (.cons (.signal rfl (by decide))
        (.cons (.disconnect true rfl fun _ ↦ rfl) (.cons (.beginFrame rfl)
          (.cons (.handleAsync true rfl rfl fun _ ↦ rfl) (.nil _))))))))
  refine ⟨_, hrun, rfl, fun hab ↦ ?_⟩
  have hdisconnected := hab [_, _, _, _, _, _] [_, _] [] rfl rfl (by simp)
  cases hdisconnected

end Session

end BevyIroh
