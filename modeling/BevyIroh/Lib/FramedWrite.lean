import Mathlib.Data.List.Basic

/-!
# Writing frames to a stream

The writing half of a framed stream: an encoder appends the frame of an item to a buffer, and the
buffer is written to the stream a piece at a time, as much as the stream takes.

A call of `send` goes through two stages, `SendProgress`.  It waits with its item while the buffer is
too full (`feeding`); then the item is encoded, and the buffer is written out (`flushing`).  A call
may be abandoned at any time.  While it is flushing nothing is lost by that, the frame is in the
buffer; an item that was still waiting is gone.

`Idle`, `Buffered` and `Writing` say what has been written, all of it against the bytes that *should*
be on the stream in the end, and the lemmas say how the operations lead from one to the other.  They
are about writes that succeed; a write that fails is a step of its own, marked as a fault.
-/

set_option autoImplicit false

variable {ι β ε : Type}

/-- A stream, as far as its sender knows. -/
structure SendStream (β : Type) where
  /-- What the stream has taken. -/
  bytes : List β := []
  /-- The end of the stream was announced. -/
  finished : Bool := false
deriving DecidableEq, Repr

/-- A stream with the buffer in front of it. -/
structure FramedWrite (β : Type) where
  stream : SendStream β := {}
  buffer : List β := []
deriving DecidableEq, Repr

/-- How far a call of `send` has come. -/
inductive SendProgress (ι : Type) where
  /-- The item waits for the buffer to be written out. -/
  | feeding (item : ι)
  /-- The item is encoded, and the buffer is being written out. -/
  | flushing
deriving DecidableEq, Repr

/-- What a call of `send` answers when it is polled. -/
inductive SendResult (ι : Type) where
  | pending (s : SendProgress ι)
  | done
  | failed
deriving DecidableEq, Repr

namespace FramedWrite

/-- The stream takes the first `n` bytes of the buffer. -/
def write (w : FramedWrite β) (n : ℕ) : FramedWrite β where
  stream := { w.stream with bytes := w.stream.bytes ++ w.buffer.take n }
  buffer := w.buffer.drop n

/-- The stream is finished; what is still in the buffer is lost. -/
def finish (w : FramedWrite β) : FramedWrite β := { w with stream.finished := true }

/-- Everything that was encoded. -/
def out (w : FramedWrite β) : List β := w.stream.bytes ++ w.buffer

@[simp] theorem out_write (w : FramedWrite β) (n : ℕ) : (w.write n).out = w.out := by
  simp [out, write]

theorem stream_le_out (w : FramedWrite β) : w.stream.bytes <+: w.out := List.prefix_append _ _

section Send

-- the encoder, and how many bytes the buffer may hold before an item has to wait
variable (enc : ι → List β → Except ε Unit × List β) (boundary : ℕ)

/-- The first poll of `send`, up to the first write. -/
def startSend (w : FramedWrite β) (item : ι) : SendResult ι × FramedWrite β :=
  if w.buffer.length < boundary then
    match enc item w.buffer with
    | (.ok (), buffer) => (.pending .flushing, { w with buffer })
    | (.error _, buffer) => (.failed, { w with buffer })
  else (.pending (.feeding item), w)

/-- A call of `send` goes on.  The flag marks a write that fails. -/
inductive Progress : FramedWrite β → SendProgress ι → Bool → SendResult ι → FramedWrite β → Prop
  | write {w : FramedWrite β} {s : SendProgress ι} {n : ℕ} (hpos : 0 < n)
      (hle : n ≤ w.buffer.length) : Progress w s false (.pending s) (w.write n)
  /-- The buffer is written out, so the item that waits is encoded. -/
  | fed {w : FramedWrite β} {item : ι} (h : w.buffer = []) :
      Progress w (.feeding item) false (w.startSend enc boundary item).1
        (w.startSend enc boundary item).2
  | flushed {w : FramedWrite β} (h : w.buffer = []) : Progress w .flushing false .done w
  | error {w : FramedWrite β} {s : SendProgress ι} (h : w.buffer ≠ []) :
      Progress w s true .failed w

/-! ## What has been written -/

-- the frame of each item, and the items the encoder takes
variable (frame : ι → List β) (accepts : ι → Prop)

/-- The encoder appends the frame of an item it takes. -/
def EncodesAs : Prop := ∀ i, accepts i → ∀ buf, enc i buf = (.ok (), buf ++ frame i)

/-- The bytes are encoded, and partly still in the buffer. -/
structure Buffered (w : FramedWrite β) (total : List β) : Prop where
  finished : w.stream.finished = false
  out : w.out = total

/-- The bytes are on the stream. -/
structure Idle (w : FramedWrite β) (total : List β) : Prop extends Buffered w total where
  buffer : w.buffer = []

/-- The frame of an item that is not yet encoded. -/
def pendingFrame : SendProgress ι → List β
  | .feeding item => frame item
  | .flushing => []

/-- The bytes are on the stream, in the buffer, or those of the item that waits. -/
structure Writing (w : FramedWrite β) (s : SendProgress ι) (total : List β) : Prop where
  finished : w.stream.finished = false
  out : w.out ++ pendingFrame frame s = total
  accepts : ∀ item, s = .feeding item → accepts item

variable {enc boundary frame accepts} {w w' : FramedWrite β} {total : List β}

theorem buffered_new : Buffered ({} : FramedWrite β) [] := ⟨rfl, rfl⟩

theorem idle_new : Idle ({} : FramedWrite β) [] := ⟨buffered_new, rfl⟩

theorem Idle.stream (h : Idle w total) : w.stream = ⟨total, false⟩ := by
  obtain ⟨⟨hfin, hout⟩, hbuf⟩ := h
  rw [FramedWrite.out, hbuf, List.append_nil] at hout
  rw [← hout, ← hfin]

theorem Buffered.stream_le (h : Buffered w total) : w.stream.bytes <+: total :=
  h.out ▸ w.stream_le_out

theorem Writing.stream_le {s : SendProgress ι} (h : Writing frame accepts w s total) :
    w.stream.bytes <+: total :=
  h.out ▸ w.stream_le_out.trans (List.prefix_append _ _)

/-- Abandoning a call that is flushing loses nothing. -/
theorem Writing.buffered (h : Writing frame accepts w .flushing total) : Buffered w total :=
  ⟨h.finished, by simpa [pendingFrame] using h.out⟩

theorem Buffered.write (h : Buffered w total) (n : ℕ) : Buffered (w.write n) total :=
  ⟨h.finished, by rw [out_write, h.out]⟩

/-- An item the encoder takes is on its way from the first poll on. -/
theorem Buffered.startSend (henc : EncodesAs enc frame accepts) (h : Buffered w total) {item : ι}
    (hi : accepts item) (boundary : ℕ) : ∃ s, (w.startSend enc boundary item).1 = .pending s ∧
      Writing frame accepts (w.startSend enc boundary item).2 s (total ++ frame item) := by
  rw [FramedWrite.startSend]
  split_ifs with hlen
  · rw [henc item hi]
    exact ⟨.flushing, rfl, h.finished, by simp [FramedWrite.out, pendingFrame, ← h.out], by simp⟩
  · refine ⟨.feeding item, rfl, h.finished, by rw [h.out]; rfl, ?_⟩
    rintro i ⟨⟩
    exact hi

/-- With an empty buffer the item is encoded at once. -/
theorem Idle.startSend (henc : EncodesAs enc frame accepts) (hb : 0 < boundary)
    (h : Idle w total) {item : ι} (hi : accepts item) :
    (w.startSend enc boundary item).1 = .pending .flushing ∧
      Writing frame accepts (w.startSend enc boundary item).2 .flushing (total ++ frame item) := by
  have hlt : w.buffer.length < boundary := by rwa [h.buffer]
  rw [FramedWrite.startSend, if_pos hlt, henc item hi]
  exact ⟨rfl, h.finished, by simp [FramedWrite.out, pendingFrame, ← h.out], by simp⟩

/-- A call that goes on without a fault either stays on its way, flushing once it is flushing, or is
done, and then everything is on the stream. -/
theorem Writing.progress (henc : EncodesAs enc frame accepts) {s : SendProgress ι}
    {r : SendResult ι} (h : Writing frame accepts w s total)
    (hp : Progress enc boundary w s false r w') :
    (r = .done ∧ Idle w' total) ∨
      ∃ s', r = .pending s' ∧ Writing frame accepts w' s' total ∧ (s = .flushing → s' = .flushing) := by
  cases hp with
  | @write n hpos hle =>
    exact .inr ⟨s, rfl, ⟨h.finished, by rw [out_write, h.out], h.accepts⟩, id⟩
  | @fed item hbuf =>
    have hidle : Buffered w w.out := ⟨h.finished, rfl⟩
    obtain ⟨s', hs', hw'⟩ := hidle.startSend henc (h.accepts item rfl) boundary
    have hout : w.out ++ frame item = total := h.out
    exact .inr ⟨s', hs', hout ▸ hw', nofun⟩
  | flushed hbuf => exact .inl ⟨rfl, h.buffered, hbuf⟩

/-! ### Items the encoder refuses -/

/-- The encoder refuses the item, and leaves the buffer alone. -/
def Refuses (enc : ι → List β → Except ε Unit × List β) (item : ι) : Prop :=
  ∀ buf, ∃ e, enc item buf = (.error e, buf)

theorem Refuses.startSend_of_lt {item : ι} (h : Refuses enc item)
    (hlt : w.buffer.length < boundary) : w.startSend enc boundary item = (.failed, w) := by
  obtain ⟨e, he⟩ := h w.buffer
  rw [FramedWrite.startSend, if_pos hlt, he]

/-- The item is refused at once, or it waits in front of a full buffer. -/
theorem Refuses.startSend {item : ι} (h : Refuses enc item) (w : FramedWrite β) (boundary : ℕ) :
    (w.startSend enc boundary item).2 = w ∧ ((w.startSend enc boundary item).1 = .failed ∨
      (w.startSend enc boundary item).1 = .pending (.feeding item)) := by
  by_cases hlt : w.buffer.length < boundary
  · rw [h.startSend_of_lt hlt]
    exact ⟨rfl, .inl rfl⟩
  · rw [FramedWrite.startSend, if_neg hlt]
    exact ⟨rfl, .inr rfl⟩

/-- It goes on waiting, or is refused; what was encoded stays. -/
theorem Refuses.progress {item : ι} {r : SendResult ι} (h : Refuses enc item)
    (hw : Buffered w total) (hp : Progress enc boundary w (.feeding item) false r w') :
    Buffered w' total ∧ (r = .failed ∨ r = .pending (.feeding item)) := by
  cases hp with
  | write => exact ⟨hw.write _, .inr rfl⟩
  | fed hbuf =>
    obtain ⟨hkept, hr⟩ := h.startSend w boundary
    rw [hkept]
    exact ⟨hw, hr⟩

/-- A call that is under way can always go on. -/
theorem exists_progress (w : FramedWrite β) (s : SendProgress ι) :
    ∃ r w', Progress enc boundary w s false r w' := by
  by_cases hbuf : w.buffer = []
  · cases s with
    | feeding item => exact ⟨_, _, .fed hbuf⟩
    | flushing => exact ⟨_, _, .flushed hbuf⟩
  · exact ⟨_, _, .write Nat.one_pos (List.length_pos_of_ne_nil hbuf)⟩

/-- Nothing is taken back from the stream. -/
theorem Progress.stream_le {s : SendProgress ι} {fault : Bool} {r : SendResult ι}
    (hp : Progress enc boundary w s fault r w') : w.stream.bytes <+: w'.stream.bytes := by
  cases hp with
  | write => exact List.prefix_append _ _
  | @fed item =>
    rw [FramedWrite.startSend]
    split_ifs
    · split <;> exact List.prefix_rfl
    · exact List.prefix_rfl
  | flushed | error => exact List.prefix_rfl

/-! ### What is left of a call -/

/-- The encoder appends no more than the size of the item. -/
def GrowsBy (enc : ι → List β → Except ε Unit × List β) (size : ι → ℕ) : Prop :=
  ∀ i buf, (enc i buf).2.length ≤ buf.length + size i

/-- How much a call of `send` has before it, apart from the bytes in the buffer. -/
def progressLeft (size : ι → ℕ) : SendProgress ι → ℕ
  | .feeding item => size item + 2
  | .flushing => 1

def resultLeft (size : ι → ℕ) : SendResult ι → ℕ
  | .pending s => progressLeft size s
  | _ => 0

variable {size : ι → ℕ}

theorem left_startSend (henc : GrowsBy enc size) (w : FramedWrite β) (item : ι) :
    (w.startSend enc boundary item).2.buffer.length + resultLeft size (w.startSend enc boundary item).1 ≤
      w.buffer.length + (size item + 2) := by
  have hgrows := henc item w.buffer
  rw [FramedWrite.startSend]
  split_ifs with hlt
  · cases henc : enc item w.buffer with
    | mk r buffer =>
      rw [henc] at hgrows
      cases r <;> simp only [resultLeft, progressLeft] at hgrows ⊢ <;> omega
  · exact Nat.le_refl _

/-- **A call that goes on has less before it.** -/
theorem Progress.left_lt (henc : GrowsBy enc size) (hb : 0 < boundary) {s : SendProgress ι}
    {fault : Bool} {r : SendResult ι} (hp : Progress enc boundary w s fault r w') :
    w'.buffer.length + resultLeft size r < w.buffer.length + progressLeft size s := by
  cases hp with
  | @write n hpos hle =>
    simp only [FramedWrite.write, List.length_drop, resultLeft]
    omega
  | @fed item hbuf =>
    have hgrows := henc item w.buffer
    rw [FramedWrite.startSend, if_pos (by rwa [hbuf])]
    rw [hbuf] at hgrows
    cases henc : enc item w.buffer with
    | mk r buffer =>
      rw [hbuf] at henc
      rw [henc] at hgrows
      simp only [List.length_nil] at hgrows
      cases r <;> simp only [resultLeft, progressLeft, hbuf, List.length_nil] at hgrows ⊢ <;> omega
  | flushed hbuf => simp [resultLeft, progressLeft]
  | error hbuf => cases s <;> simp [resultLeft, progressLeft]

end Send

end FramedWrite
