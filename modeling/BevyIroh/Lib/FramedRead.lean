import BevyIroh.Lib.Bytes

/-!
# Incremental decoders and the loop that drives them

A framed reader owns a buffer and a decoder.  Each time bytes arrive it appends them to the buffer
and calls the decoder until the decoder asks for more; at the first error it stops for good.  What
one would like to know about such a reader is that the way the input was cut into chunks does not
matter.  This file proves that once, for every decoder that has three properties:

* an answer it gave on a buffer is not changed by bytes that arrive behind it
  (`item_append`, `fail_append`, `panic_append`);
* asking for more loses nothing: the decoder that asked for more, given more, does what it would
  have done had everything been there from the start (`more_append`);
* each item is paid for, in bytes or in decoder state (`progress`), so that the loop ends.

`Decoder.drain` is the loop on one buffer and `Decoder.feed` the loop over chunks; `drain_flatten`
is the theorem.  For a reader that is looked at between two calls of its decoder there is
`Decoder.Reached`: after consuming `s` the reader has emitted `fs` and stands at `(d, buf)`.

What the items were made of is another question.  `Decoder.Reads` is any sequence of arrivals and
calls, and a decoder that loses no byte in one call (`Decoder.Conserves`) loses none in any of them.

A decoder may panic, and so may whatever its items are handed to, which is why `Decoder.andThen`
composes a decoder with a partial function into a decoder again.
-/

set_option autoImplicit false

namespace FramedRead

variable {σ ι κ ε : Type}

/-- What one call of a decoder answers: an item, a wish for more bytes, an error or a panic.  The
first three come with the decoder state and the buffer after the call. -/
inductive Decoded (σ ι ε : Type) where
  /-- `Ok(Some(item))`. -/
  | item (f : ι) (s : σ) (src : Bytes)
  /-- `Ok(None)`. -/
  | more (s : σ) (src : Bytes)
  /-- `Err(e)`. -/
  | fail (e : ε) (s : σ) (src : Bytes)
  /-- The call panicked. -/
  | panic

/-- A decoder that may be called on a buffer that is still filling up. -/
structure Decoder (σ ι ε : Type) where
  /-- One call. -/
  decode : σ → Bytes → Decoded σ ι ε
  /-- What a decoder state is worth, in the measure that each item decreases. -/
  weight : σ → ℕ
  progress : ∀ {s src f s' src'}, decode s src = .item f s' src' →
    src'.length + weight s' < src.length + weight s
  item_append : ∀ {s src f s' src'} (x : Bytes), decode s src = .item f s' src' →
    decode s (src ++ x) = .item f s' (src' ++ x)
  more_append : ∀ {s src s' src'} (x : Bytes), decode s src = .more s' src' →
    decode s (src ++ x) = decode s' (src' ++ x)
  fail_append : ∀ {s src e s' src'} (x : Bytes), decode s src = .fail e s' src' →
    decode s (src ++ x) = .fail e s' (src' ++ x)
  panic_append : ∀ {s src} (x : Bytes), decode s src = .panic → decode s (src ++ x) = .panic

/-- Where the loop stopped. -/
inductive Stop (σ ε : Type) where
  | more (s : σ) (src : Bytes)
  | fail (e : ε) (s : σ) (src : Bytes)
  | panic

/-- The decoder and the buffer at a stop, unless it was a panic. -/
def Stop.stands : Stop σ ε → Option (σ × Bytes)
  | .more s src => some (s, src)
  | .fail _ s src => some (s, src)
  | .panic => none

/-- The same stop with bytes behind the buffer. -/
def Stop.append : Stop σ ε → Bytes → Stop σ ε
  | .more s src, x => .more s (src ++ x)
  | .fail e s src, x => .fail e s (src ++ x)
  | .panic, _ => .panic

theorem Stop.append_eq_panic {t : Stop σ ε} {x : Bytes} : t.append x = .panic ↔ t = .panic := by
  cases t <;> simp [Stop.append]

@[simp] theorem Stop.append_nil (t : Stop σ ε) : t.append [] = t := by
  cases t <;> simp [Stop.append]

namespace Decoder

variable (D : Decoder σ ι ε)

/-! ## The loop on one buffer -/

/-- **The loop ends**: there is no infinite sequence of calls that each give an item. -/
theorem wellFounded_calls : WellFounded fun b a : σ × Bytes ↦
    ∃ f, D.decode a.1 a.2 = .item f b.1 b.2 := by
  refine Subrelation.wf ?_ (measure fun a : σ × Bytes ↦ a.2.length + D.weight a.1).wf
  rintro b a ⟨f, h⟩
  exact D.progress h

/-- Call the decoder until it asks for more, fails or panics. -/
def drain (s : σ) (src : Bytes) : List ι × Stop σ ε :=
  match _h : D.decode s src with
  | .item f s' src' => (f :: (drain s' src').1, (drain s' src').2)
  | .more s' src' => ([], .more s' src')
  | .fail e s' src' => ([], .fail e s' src')
  | .panic => ([], .panic)
termination_by src.length + D.weight s
decreasing_by all_goals exact D.progress _h

variable {D}

theorem drain_item {s s' : σ} {src src' : Bytes} {f : ι} (h : D.decode s src = .item f s' src') :
    D.drain s src = (f :: (D.drain s' src').1, (D.drain s' src').2) := by
  rw [drain]
  split <;> simp_all

theorem drain_more {s s' : σ} {src src' : Bytes} (h : D.decode s src = .more s' src') :
    D.drain s src = ([], .more s' src') := by
  rw [drain]
  split <;> simp_all

theorem drain_fail {s s' : σ} {src src' : Bytes} {e : ε} (h : D.decode s src = .fail e s' src') :
    D.drain s src = ([], .fail e s' src') := by
  rw [drain]
  split <;> simp_all

theorem drain_panic {s : σ} {src : Bytes} (h : D.decode s src = .panic) :
    D.drain s src = ([], .panic) := by
  rw [drain]
  split <;> simp_all

/-- A decoder that has just asked for more asks for more again, and changes nothing. -/
theorem decode_of_more {s s' : σ} {src src' : Bytes} (h : D.decode s src = .more s' src') :
    D.decode s' src' = .more s' src' := by
  have := D.more_append [] h
  rwa [List.append_nil, List.append_nil, h, eq_comm] at this

/-- Only the first call decides what the loop does. -/
theorem drain_congr {s t : σ} {src tgt : Bytes} (h : D.decode s src = D.decode t tgt) :
    D.drain s src = D.drain t tgt := by
  cases ht : D.decode t tgt with
  | item f s' src' => rw [drain_item ht, drain_item (h.trans ht)]
  | more s' src' => rw [drain_more ht, drain_more (h.trans ht)]
  | fail e s' src' => rw [drain_fail ht, drain_fail (h.trans ht)]
  | panic => rw [drain_panic ht, drain_panic (h.trans ht)]

/-- The loop stops where the decoder asks for more. -/
theorem decode_of_drain_more {s s' : σ} {src src' : Bytes} :
    (D.drain s src).2 = .more s' src' → D.decode s' src' = .more s' src' := by
  induction s, src using drain.induct D with
  | case1 s src f s₁ src₁ h ih => rw [drain_item h]; exact ih
  | case2 s src s₁ src₁ h =>
    rw [drain_more h]
    rintro ⟨⟩
    exact decode_of_more h
  | case3 s src e s₁ src₁ h => rw [drain_fail h]; rintro ⟨⟩
  | case4 s src h => rw [drain_panic h]; rintro ⟨⟩

/-! ## A reader between two calls -/

variable (D)

/-- Starting at `d₀` with an empty buffer, having consumed `s` the reader has emitted `fs` and
stands at decoder state `d` with `buf` unread.  What it will still do with any further input `x`
is what is missing from what the whole loop does on `s ++ x`. -/
def Reached (d₀ : σ) (s : Bytes) (fs : List ι) (d : σ) (buf : Bytes) : Prop :=
  ∀ x, D.drain d₀ (s ++ x) = (fs ++ (D.drain d (buf ++ x)).1, (D.drain d (buf ++ x)).2)

variable {D}

theorem Reached.start (d₀ : σ) : D.Reached d₀ [] [] d₀ [] := fun _ ↦ rfl

/-- Input arrives. -/
theorem Reached.feed {d₀ d : σ} {s buf : Bytes} {fs : List ι} (h : D.Reached d₀ s fs d buf)
    (c : Bytes) : D.Reached d₀ (s ++ c) fs d (buf ++ c) := by
  intro x
  rw [List.append_assoc, List.append_assoc]
  exact h (c ++ x)

/-- The decoder is called and gives an item. -/
theorem Reached.item {d₀ d d' : σ} {s buf buf' : Bytes} {fs : List ι} {f : ι}
    (h : D.Reached d₀ s fs d buf) (hd : D.decode d buf = .item f d' buf') :
    D.Reached d₀ s (fs ++ [f]) d' buf' := by
  intro x
  rw [h x, drain_item (D.item_append x hd), List.append_assoc]
  rfl

/-- The decoder is called and asks for more. -/
theorem Reached.more {d₀ d d' : σ} {s buf buf' : Bytes} {fs : List ι}
    (h : D.Reached d₀ s fs d buf) (hd : D.decode d buf = .more d' buf') :
    D.Reached d₀ s fs d' buf' := by
  intro x
  rw [h x, drain_congr (D.more_append x hd)]

/-- The loop runs on what is unread. -/
theorem Reached.drain {d₀ d d' : σ} {s buf buf' : Bytes} {fs : List ι}
    (h : D.Reached d₀ s fs d buf) (hd : (D.drain d buf).2 = .more d' buf') :
    D.Reached d₀ s (fs ++ (D.drain d buf).1) d' buf' := by
  induction d, buf using drain.induct D generalizing fs with
  | case1 d buf f d₁ buf₁ hdec ih =>
    rw [drain_item hdec] at hd ⊢
    have := ih (h.item hdec) hd
    rwa [List.append_assoc] at this
  | case2 d buf d₁ buf₁ hdec =>
    rw [drain_more hdec] at hd ⊢
    cases hd
    simpa using h.more hdec
  | case3 d buf e d₁ buf₁ hdec => rw [drain_fail hdec] at hd; cases hd
  | case4 d buf hdec => rw [drain_panic hdec] at hd; cases hd

/-- **What has been emitted is the beginning of what the whole input emits.** -/
theorem Reached.emitted_le {d₀ d : σ} {s buf : Bytes} {fs : List ι} (h : D.Reached d₀ s fs d buf)
    (x : Bytes) : fs <+: (D.drain d₀ (s ++ x)).1 := by
  rw [h x]
  exact List.prefix_append _ _

/-- A loop that fails or panics does the same on a longer buffer. -/
theorem drain_append_of_stopped {s : σ} {src : Bytes} (x : Bytes)
    (h : ∀ s' src', (D.drain s src).2 ≠ .more s' src') :
    D.drain s (src ++ x) = ((D.drain s src).1, (D.drain s src).2.append x) := by
  induction s, src using drain.induct D with
  | case1 s src f s₁ src₁ hdec ih =>
    rw [drain_item hdec] at h ⊢
    rw [drain_item (D.item_append x hdec), ih h]
  | case2 s src s₁ src₁ hdec => rw [drain_more hdec] at h; exact absurd rfl (h _ _)
  | case3 s src e s₁ src₁ hdec =>
    rw [drain_fail hdec, drain_fail (D.fail_append x hdec)]
    rfl
  | case4 s src hdec =>
    rw [drain_panic hdec, drain_panic (D.panic_append x hdec)]
    rfl

/-! ## The loop over chunks -/

variable (D)

/-- Append each chunk to the buffer and run the loop, until it fails or panics.  The last
component is the chunks that were not fed. -/
def feed (s : σ) (src : Bytes) : List Bytes → List ι × Stop σ ε × List Bytes
  | [] => ([], .more s src, [])
  | c :: cs =>
    match D.drain s (src ++ c) with
    | (fs, .more s' src') => (fs ++ (feed s' src' cs).1, (feed s' src' cs).2)
    | (fs, t) => (fs, t, cs)

variable {D}

/-- Either all chunks are fed and the reader waits for more, or it stops in the middle of a chunk and
the chunks behind that one are not fed. -/
theorem feed_cases (s : σ) (src : Bytes) (cs : List Bytes) :
    (∃ d buf, (D.feed s src cs).2 = (.more d buf, [])) ∨
      ∃ fed c rest d buf, cs = fed ++ c :: rest ∧ (D.feed s src fed).2 = (.more d buf, []) ∧
        (∀ d' buf', (D.drain d (buf ++ c)).2 ≠ .more d' buf') ∧
        (D.feed s src cs).2 = ((D.drain d (buf ++ c)).2, rest) := by
  induction cs generalizing s src with
  | nil => exact .inl ⟨s, src, rfl⟩
  | cons c cs ih =>
    rcases hd : D.drain s (src ++ c) with ⟨fs, t⟩
    by_cases ht : ∃ d buf, t = .more d buf
    · obtain ⟨d, buf, rfl⟩ := ht
      have hfeed : ∀ cs', (D.feed s src (c :: cs')).2 = (D.feed d buf cs').2 := fun cs' ↦ by
        rw [feed, hd]
      rcases ih d buf with ⟨d', buf', h⟩ | ⟨fed, c', rest, d', buf', rfl, hfed, hstop, h⟩
      · exact .inl ⟨d', buf', (hfeed cs).trans h⟩
      · exact .inr ⟨c :: fed, c', rest, d', buf', rfl, (hfeed fed).trans hfed, hstop,
          (hfeed _).trans h⟩
    · have hne : ∀ d buf, t ≠ .more d buf := fun d buf h ↦ ht ⟨d, buf, h⟩
      refine .inr ⟨[], c, cs, s, src, rfl, rfl, by rwa [hd], ?_⟩
      rw [feed, hd]
      cases t with
      | more d buf => exact absurd rfl (hne d buf)
      | _ => rfl

/-- **Chunk boundaries do not matter.**  Feeding the chunks one by one emits what the loop emits
on the whole input and stops where it stops, the chunks not fed being what is left behind it. -/
theorem drain_flatten {s : σ} {src : Bytes} (h : D.decode s src = .more s src)
    (cs : List Bytes) :
    D.drain s (src ++ cs.flatten) =
      ((D.feed s src cs).1, (D.feed s src cs).2.1.append (D.feed s src cs).2.2.flatten) := by
  induction cs generalizing s src with
  | nil => simp [feed, Stop.append, drain_more h]
  | cons c cs ih =>
    rw [List.flatten_cons, ← List.append_assoc, feed]
    rcases hd : D.drain s (src ++ c) with ⟨fs, t⟩
    cases t with
    | more s' src' =>
      have hr : D.Reached s (src ++ c) ([] ++ (D.drain s (src ++ c)).1) s' src' :=
        Reached.drain (fun x ↦ rfl) (by rw [hd])
      rw [hr cs.flatten, ih (decode_of_drain_more (by rw [hd])), hd]
      rfl
    | fail e s' src' =>
      rw [drain_append_of_stopped _ (by rw [hd]; rintro _ _ ⟨⟩), hd]
    | panic =>
      rw [drain_append_of_stopped _ (by rw [hd]; rintro _ _ ⟨⟩), hd]

/-- A reader that was fed everything and waits has done what the loop does on all of it, and goes on
from there. -/
theorem drain_of_feed {s d : σ} {src buf : Bytes} {fed : List Bytes}
    (h : D.decode s src = .more s src) (hfed : (D.feed s src fed).2 = (.more d buf, [])) :
    (D.drain s (src ++ fed.flatten)).2 = .more d buf ∧
      ∀ x, (D.drain s (src ++ fed.flatten ++ x)).2 = (D.drain d (buf ++ x)).2 := by
  have hall : (D.drain s (src ++ fed.flatten)).2 = .more d buf := by
    rw [drain_flatten h, hfed, List.flatten_nil, Stop.append_nil]
  have hr : D.Reached s (src ++ fed.flatten) ([] ++ (D.drain s (src ++ fed.flatten)).1) d buf :=
    Reached.drain (fun x ↦ rfl) hall
  exact ⟨hall, fun x ↦ by rw [hr x]⟩

/-! ## Where the bytes go -/

variable (D)

/-- Any sequence of arrivals and calls: from `d₀`, with the bytes `s` arrived and the items `fs` given,
the reader stands at `(d, buf)`.  Nothing makes a caller call until it is asked for more, or stop at an
error. -/
inductive Reads (d₀ : σ) : Bytes → List ι → σ → Bytes → Prop
  | start : Reads d₀ [] [] d₀ []
  | arrive {s buf : Bytes} {fs : List ι} {d : σ} (h : Reads d₀ s fs d buf) (c : Bytes) :
      Reads d₀ (s ++ c) fs d (buf ++ c)
  | item {s buf buf' : Bytes} {fs : List ι} {d d' : σ} {f : ι} (h : Reads d₀ s fs d buf)
      (hd : D.decode d buf = .item f d' buf') : Reads d₀ s (fs ++ [f]) d' buf'
  | more {s buf buf' : Bytes} {fs : List ι} {d d' : σ} (h : Reads d₀ s fs d buf)
      (hd : D.decode d buf = .more d' buf') : Reads d₀ s fs d' buf'
  | fail {s buf buf' : Bytes} {fs : List ι} {d d' : σ} {e : ε} (h : Reads d₀ s fs d buf)
      (hd : D.decode d buf = .fail e d' buf') : Reads d₀ s fs d' buf'

/-- Each item is made of the bytes `bytesOf` of it, and a decoder that has taken bytes out of the
buffer for an item to come has them in its state: they are `pending`. -/
structure Conserves (bytesOf : ι → Bytes) (pending : σ → Bytes) : Prop where
  item : ∀ {s src f s' src'}, D.decode s src = .item f s' src' →
    pending s ++ src = bytesOf f ++ (pending s' ++ src')
  more : ∀ {s src s' src'}, D.decode s src = .more s' src' → pending s ++ src = pending s' ++ src'
  fail : ∀ {s src e s' src'}, D.decode s src = .fail e s' src' →
    pending s ++ src = pending s' ++ src'

variable {D}

/-- **Nothing is lost.**  What has arrived is the items, what is pending, and what is unread. -/
theorem Conserves.reads {bytesOf : ι → Bytes} {pending : σ → Bytes} (hD : D.Conserves bytesOf pending)
    {d₀ d : σ} {s buf : Bytes} {fs : List ι} (h₀ : pending d₀ = []) (h : D.Reads d₀ s fs d buf) :
    s = (fs.map bytesOf).flatten ++ (pending d ++ buf) := by
  induction h with
  | start => rw [h₀]; rfl
  | arrive h c ih => rw [ih, List.append_assoc, List.append_assoc]
  | item h hd ih =>
    rw [ih, hD.item hd, List.map_append, List.flatten_append, List.append_assoc, List.map_singleton,
      List.flatten_singleton]
  | more h hd ih => rw [ih, hD.more hd]
  | fail h hd ih => rw [ih, hD.fail hd]

/-- The loop on one buffer is a sequence of calls. -/
theorem Reads.drain {d₀ d d' : σ} {s buf buf' : Bytes} {fs : List ι} (h : D.Reads d₀ s fs d buf)
    (hd : (D.drain d buf).2.stands = some (d', buf')) :
    D.Reads d₀ s (fs ++ (D.drain d buf).1) d' buf' := by
  induction d, buf using drain.induct D generalizing fs with
  | case1 d buf f d₁ buf₁ hdec ih =>
    rw [drain_item hdec] at hd ⊢
    have := ih (h.item hdec) hd
    rwa [List.append_assoc] at this
  | case2 d buf d₁ buf₁ hdec =>
    rw [drain_more hdec] at hd ⊢
    cases hd
    simpa using h.more hdec
  | case3 d buf e d₁ buf₁ hdec =>
    rw [drain_fail hdec] at hd ⊢
    cases hd
    simpa using h.fail hdec
  | case4 d buf hdec =>
    rw [drain_panic hdec] at hd
    cases hd

/-- The loop over chunks is a sequence of arrivals and calls.  When it stops at an error, some chunks
have not arrived. -/
theorem Reads.feed {d₀ d d' : σ} {s buf buf' : Bytes} {fs : List ι} {cs : List Bytes}
    (h : D.Reads d₀ s fs d buf) (hd : (D.feed d buf cs).2.1.stands = some (d', buf')) :
    ∃ fed, cs = fed ++ (D.feed d buf cs).2.2 ∧
      D.Reads d₀ (s ++ fed.flatten) (fs ++ (D.feed d buf cs).1) d' buf' := by
  induction cs generalizing s fs d buf with
  | nil =>
    cases hd
    exact ⟨[], rfl, by simpa [Decoder.feed] using h⟩
  | cons c cs ih =>
    rcases hc : D.drain d (buf ++ c) with ⟨fs', t⟩
    cases t with
    | more d₁ buf₁ =>
      have hdrain := (h.arrive c).drain (by rw [hc]; rfl)
      have hfeed : D.feed d buf (c :: cs) =
          (fs' ++ (D.feed d₁ buf₁ cs).1, (D.feed d₁ buf₁ cs).2) := by rw [Decoder.feed, hc]
      rw [hfeed] at hd ⊢
      obtain ⟨fed, hfed, hreads⟩ := ih hdrain hd
      rw [hc, List.append_assoc, List.append_assoc] at hreads
      exact ⟨c :: fed, congrArg (c :: ·) hfed, hreads⟩
    | fail e d₁ buf₁ =>
      have hfeed : D.feed d buf (c :: cs) = (fs', .fail e d₁ buf₁, cs) := by rw [Decoder.feed, hc]
      rw [hfeed] at hd ⊢
      cases hd
      have hdrain := (h.arrive c).drain (by rw [hc]; rfl)
      rw [hc] at hdrain
      exact ⟨[c], rfl, by simpa using hdrain⟩
    | panic =>
      have hfeed : D.feed d buf (c :: cs) = (fs', .panic, cs) := by rw [Decoder.feed, hc]
      rw [hfeed] at hd
      cases hd

/-! ## Handing the items on -/

/-- The items of a decoder handed to a function that may panic on them. -/
def andThen (D : Decoder σ ι ε) (handle : ι → Option κ) : Decoder σ κ ε where
  decode s src :=
    match D.decode s src with
    | .item f s' src' =>
      match handle f with
      | some g => .item g s' src'
      | none => .panic
    | .more s' src' => .more s' src'
    | .fail e s' src' => .fail e s' src'
    | .panic => .panic
  weight := D.weight
  progress := by
    intro s src f s' src' h
    cases hd : D.decode s src with
    | item g t tgt =>
      rw [hd] at h
      cases hg : handle g with
      | some k => simp only [hg] at h; cases h; exact D.progress hd
      | none => simp [hg] at h
    | _ => rw [hd] at h; cases h
  item_append := by
    intro s src f s' src' x h
    cases hd : D.decode s src with
    | item g t tgt =>
      rw [hd] at h
      cases hg : handle g with
      | some k => simp only [hg] at h; cases h; simp [D.item_append x hd, hg]
      | none => simp [hg] at h
    | _ => rw [hd] at h; cases h
  more_append := by
    intro s src s' src' x h
    cases hd : D.decode s src with
    | more t tgt => rw [hd] at h; cases h; rw [D.more_append x hd]
    | item g t tgt => rw [hd] at h; cases hg : handle g <;> simp [hg] at h
    | _ => rw [hd] at h; cases h
  fail_append := by
    intro s src e s' src' x h
    cases hd : D.decode s src with
    | fail e₁ t tgt => rw [hd] at h; cases h; rw [D.fail_append x hd]
    | item g t tgt => rw [hd] at h; cases hg : handle g <;> simp [hg] at h
    | _ => rw [hd] at h; cases h
  panic_append := by
    intro s src x h
    cases hd : D.decode s src with
    | panic => rw [D.panic_append x hd]
    | item g t tgt =>
      rw [hd] at h
      cases hg : handle g with
      | some k => simp [hg] at h
      | none => simp [D.item_append x hd, hg]
    | _ => rw [hd] at h; cases h

theorem decode_andThen_item {s s' : σ} {src src' : Bytes} {f : ι} {handle : ι → Option κ}
    (h : D.decode s src = .item f s' src') :
    (D.andThen handle).decode s src =
      match handle f with
      | some g => .item g s' src'
      | none => .panic := by
  simp only [andThen, h]

/-- It asks for more when the decoder does. -/
theorem decode_andThen_more {s s' : σ} {src src' : Bytes} {handle : ι → Option κ} :
    (D.andThen handle).decode s src = .more s' src' ↔ D.decode s src = .more s' src' := by
  simp only [andThen]
  cases D.decode s src with
  | item f _ _ => cases hf : handle f <;> simp [hf]
  | _ => simp

/-- **The composition panics** exactly when the decoder does or some item is refused. -/
theorem drain_andThen_panic {s : σ} {src : Bytes} {handle : ι → Option κ} :
    ((D.andThen handle).drain s src).2 = .panic ↔
      (∃ f ∈ (D.drain s src).1, handle f = none) ∨ (D.drain s src).2 = .panic := by
  induction s, src using drain.induct D with
  | case1 s src f s' src' h ih =>
    have hthen := @decode_andThen_item _ _ κ _ D _ _ _ _ _ handle h
    rw [drain_item h]
    cases hg : handle f with
    | some g =>
      rw [hg] at hthen
      rw [drain_item hthen, ih]
      simp [hg]
    | none =>
      rw [hg] at hthen
      rw [drain_panic hthen]
      simp [hg]
  | case2 s src s' src' h =>
    have hthen : (D.andThen handle).decode s src = .more s' src' := decode_andThen_more.2 h
    rw [drain_more h, drain_more hthen]
    simp
  | case3 s src e s' src' h =>
    have hthen : (D.andThen handle).decode s src = .fail e s' src' := by simp only [andThen, h]
    rw [drain_fail h, drain_fail hthen]
    simp
  | case4 s src h =>
    have hthen : (D.andThen handle).decode s src = .panic := by simp only [andThen, h]
    rw [drain_panic h, drain_panic hthen]
    simp

end Decoder

end FramedRead
