import BevyIroh.Shared.Tasks.Streams

/-!
# Runs of a healthy connection

A connection is healthy when no fault of the transport happens to it, the peer does not close it, and
every payload fits its channel; then the application sends nothing after it has ordered the
connection to close.  `Link.Healthy` says this of one step.

What this adds to `Link.Streaming` is about the end of a task.  A task leaves its loop only when
nothing can be added to its queue any more (`Link.Sealed`), and that is why an empty queue, once the
task has seen it, stays empty.
-/

set_option autoImplicit false

namespace BevyIroh

open Transition

namespace Link

variable {S : Type} {l l' : Link S} {a : LinkAct} {h : ℕ} {t : ChannelTask}

/-- The step is free of faults, the payload fits its channel and is not sent after the order to
close, and that order is a local one. -/
def Healthy (l : Link S) : LinkAct → Prop
  | .send id payload => l.conn.closeSend.log = [] ∧ ∀ c config, l.conn.slot id = some c →
      .createChannel id config c.queues ∈ l.conn.toChannels.sent → config.Fits payload
  | .close _ reason => reason = .localOrder
  | .task _ fault => fault = false
  | .message _ _ fault => fault = false
  | _ => True

theorem Healthy.fitting (ha : l.Healthy a) : l.Fitting a := by
  cases a with
  | send id payload => exact ha.2
  | task h fault => exact ha
  | message h k fault => exact ha
  | _ => trivial

/-- Nothing can be added to these queues: the connection is being closed, or they are those of no
open channel. -/
def Sealed (l : Link S) (h : ℕ) : Prop :=
  l.conn.closeSend.log ≠ [] ∨ ∀ id c, l.conn.slot id = some c → c.queues ≠ h

/-- What holds in every state of a run of a healthy connection. -/
structure HealthyInv (l : Link S) : Prop extends l.Streaming where
  notPeer : .peerClosed ∉ l.conn.closeSend.log
  leaving : ∀ {h t}, l.tasks h = some t → t.phase.Leaving → l.Sealed h
  drained : ∀ {h t}, l.tasks h = some t → t.phase.Drained → (l.conn.queues h).bytes.queued = []

theorem HealthyInv.task_written (hs : l.HealthyInv) (ht : l.tasks h = some t) :
    t.Written (l.conn.queues h).bytes.received :=
  (hs.written ht).resolve_right fun hcut ↦ hs.notPeer hcut.1

theorem healthyInv_fresh (specific : S) (cfg : RecvChannelsConfiguration) :
    (fresh specific cfg).HealthyInv where
  toStreaming := streaming_fresh specific cfg
  notPeer := by simp [fresh, PeerConnection.new]
  leaving := nofun
  drained := nofun

/-! ## Sealed queues -/

/-- Sealed queues stay sealed. -/
theorem Sealed.step (hseal : l.Sealed h) (hs : l.Sound) (hlt : h < l.conn.created)
    (hstep : Step l a l') : l'.Sealed h := by
  rcases hseal with hlog | hslot
  · left
    rcases hstep.log_cases with hlog' | ⟨_, _, -, hlog'⟩ <;> rw [hlog']
    · exact hlog
    · exact List.append_ne_nil_of_left_ne_nil hlog _
  · refine .inr fun id c hc ↦ ?_
    rcases hstep.creation_cases hs with ⟨-, hmono⟩ | ⟨id', config, -, -, -, -, hnew⟩
    · exact hslot id c (hmono id c hc)
    · rw [hnew] at hc
      split_ifs at hc
      · obtain rfl := Option.some.inj hc
        exact Nat.ne_of_gt hlt
      · exact hslot id c hc

/-- Nothing is added to them. -/
theorem Sealed.queued_eq (hseal : l.Sealed h) (ha : l.Healthy a) (hlt : h < l.conn.created)
    (hstep : Step l a l')
    (hreceived : (l'.conn.queues h).bytes.received = (l.conn.queues h).bytes.received) :
    (l'.conn.queues h).bytes.queued = (l.conn.queues h).bytes.queued := by
  rcases hstep.queue_cases hlt with ⟨hsent, -⟩ | ⟨id, p, c, rfl, -, hc, hh, -⟩
  · rw [Mpsc.sent, Mpsc.sent, hreceived] at hsent
    exact List.append_cancel_left hsent
  · exact absurd hh ((hseal.resolve_left (absurd ha.1)) id c hc)

/-- A task that may leave its loop has a sealed queue. -/
theorem Sound.sealed_of_mayLeave (hs : l.Sound) (h : ℕ) (t : ChannelTask)
    (hleave : (l.view h t).MayLeave l.conn.closeSend) : l.Sealed h := by
  have hslots : (l.conn.queues h).close.sent ≠ [] ∨ (l.conn.queues h).close.sender = false ∨
      (l.conn.queues h).bytes.sender = false → l.Sealed h := by
    rintro hq
    refine .inr fun id c hc hh ↦ ?_
    obtain ⟨hbytes, hclose, hsent⟩ := hs.conn.slot_open hc
    simp [← hh, hbytes, hclose, hsent] at hq
  rcases hleave with ⟨r, hr⟩ | hleave
  · rcases Broadcast.log_ne_nil_of_recv hr with hlog | hsender
    · exact .inl hlog
    · refine .inr fun id c hc ↦ ?_
      rw [hs.conn.dropped (hs.conn.closeSender hsender) id] at hc
      cases hc
  · exact hslots hleave

/-! ## The invariant -/

theorem HealthyInv.leaving_step (hs : l.HealthyInv) (hstep : Step l a l') (ha : l.Healthy a)
    (ht : l'.tasks h = some t) (hleaving : t.phase.Leaving) : l'.Sealed h := by
  rcases hstep.task_cases hs.toSound h with ⟨htasks, -⟩ | ⟨msg, -, -, -, htasks⟩ |
    ⟨t₀, v, fault, ht₀, rfl, htask, rfl⟩ | ⟨t₀, _, _, _, mt', _, _, ht₀, rfl, -, -, -, rfl⟩
  · have ht₀ := htasks ▸ ht
    exact (hs.leaving ht₀ hleaving).step hs.toSound (hs.task_lt ht₀) hstep
  · obtain rfl := Option.some.inj (htasks.symm.trans ht)
    exact absurd hleaving (ChannelTask.not_leaving_new _ _ _)
  · obtain rfl : fault = false := ha
    obtain rfl : v.task = t := by simpa [withView] using ht
    exact (htask.mayLeave (hs.task_written ht₀).not_signaling hleaving).elim (hs.leaving ht₀)
      (hs.sealed_of_mayLeave h t₀)
  · obtain rfl : { t₀ with messages := t₀.messages.set _ mt' } = t := by simpa [withView] using ht
    exact hs.leaving ht₀ hleaving

theorem HealthyInv.drained_step (hs : l.HealthyInv) (hstep : Step l a l') (ha : l.Healthy a)
    (ht : l'.tasks h = some t) (hdrained : t.phase.Drained) :
    (l'.conn.queues h).bytes.queued = [] := by
  rcases hstep.task_cases hs.toSound h with ⟨htasks, hreceived⟩ | ⟨msg, -, -, -, htasks⟩ |
    ⟨t₀, v, fault, ht₀, rfl, htask, rfl⟩ | ⟨t₀, _, _, _, mt', _, _, ht₀, rfl, -, -, -, rfl⟩
  · have ht₀ := htasks ▸ ht
    rcases hreceived with hreceived | ⟨hnone, -⟩
    · have hseal := hs.leaving ht₀ hdrained.leaving
      rw [hseal.queued_eq ha (hs.task_lt ht₀) hstep hreceived]
      exact hs.drained ht₀ hdrained
    · cases hnone.symm.trans ht₀
  · obtain rfl := Option.some.inj (htasks.symm.trans ht)
    exact absurd hdrained.leaving (ChannelTask.not_leaving_new _ _ _)
  · obtain rfl : fault = false := ha
    obtain rfl : v.task = t := by simpa [withView] using ht
    simp only [withView, Function.update_self]
    exact htask.queue_drained hs.notPeer (hs.task_written ht₀).not_signaling (hs.drained ht₀) hdrained
  · obtain rfl : { t₀ with messages := t₀.messages.set _ mt' } = t := by simpa [withView] using ht
    simp only [withView, Function.update_self]
    exact hs.drained ht₀ hdrained

/-- **Every step of a healthy connection keeps the invariant.** -/
theorem HealthyInv.step (hs : l.HealthyInv) (ha : l.Healthy a) (hstep : Step l a l') :
    l'.HealthyInv where
  toStreaming := hs.toStreaming.step ha.fitting hstep
  notPeer hpeer := by
    rcases hstep.log_cases with hlog | ⟨receivers, reason, rfl, hlog⟩
    · exact hs.notPeer (hlog ▸ hpeer)
    · obtain rfl : reason = .localOrder := ha
      rcases List.mem_append.1 (hlog ▸ hpeer) with hpeer | hpeer
      · exact hs.notPeer hpeer
      · cases List.mem_singleton.1 hpeer
  leaving := hs.leaving_step hstep ha
  drained := hs.drained_step hstep ha

theorem HealthyInv.of_reachable {l₀ : Link S} (h₀ : l₀.HealthyInv)
    (hr : Reachable Step Healthy l₀ l) : l.HealthyInv :=
  hr.invariant h₀ fun hs ha hstep ↦ hs.step ha hstep

end Link

end BevyIroh
