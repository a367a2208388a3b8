import BevyIroh.Shared.Reliable.RoundTrip

/-!
# Whether a stream can be read in two ways

The length of a frame is computed in 64 bits and written in 32.  Nothing but the limit of the encoder
stands between the two, and that can be set to anything.  Up to a limit of `2 ^ 32 - 2` the field says
what it should (`LengthExact`).  A payload of `2 ^ 32 - 1` bytes gets a field of zero, which is wrong but
still tells it from all others.  One byte more, and the field wraps around to that of a shorter payload,
so that what is behind it can be read as frames of their own: `framing_iff`.
-/

set_option autoImplicit false

namespace BevyIroh

open Bytes

namespace QuinnetProtocolCodecEncoder

/-- The encoder takes all of these payloads. -/
def AcceptsAll (enc : QuinnetProtocolCodecEncoder) (ps : List Bytes) : Prop :=
  ∀ p ∈ ps, (enc.encode p []).1 = .ok ()

/-- No two lists of payloads leave the same bytes. -/
def Unambiguous (enc : QuinnetProtocolCodecEncoder) : Prop :=
  ∀ ps qs, enc.AcceptsAll ps → enc.AcceptsAll qs → enc.encodeAll ps [] = enc.encodeAll qs [] → ps = qs

/-- The length field written for a payload counts the channel id and the payload. -/
def LengthExact (enc : QuinnetProtocolCodecEncoder) : Prop :=
  ∀ p dst, (enc.encode p []).1 = .ok () →
    beNat (((enc.encode p dst).2.drop dst.length).take reliableFrameLengthFieldLen) =
      protocolHeaderLen + p.length

variable {c : ChannelId} {m : ℕ} {p q : Bytes} {ps : List Bytes}

/-! ## The length field -/

/-- Only the low-order bytes of a number are written. -/
theorem beBytes_mod (v n : ℕ) : beBytes (v % 256 ^ n) n = beBytes v n := by
  have hback := beBytes_beNat (beBytes v n)
  rwa [beNat_beBytes, length_beBytes] at hback

theorem beNat_field (p : Bytes) (rest : Bytes) :
    beNat ((frame c p ++ rest).take reliableFrameLengthFieldLen) =
      (protocolHeaderLen + p.length) % 2 ^ 32 := by
  rw [frame, List.append_assoc, List.take_left' (by simp), beNat_beBytes]
  rfl

theorem lengthExact_iff : (new c m).LengthExact ↔ m < 2 ^ 32 - 1 := by
  constructor
  · intro h
    by_contra hm
    have hp : (List.replicate (2 ^ 32 - 1) (0 : U8)).length = 2 ^ 32 - 1 := List.length_replicate
    have hacc : (new c m).Accepts (List.replicate (2 ^ 32 - 1) 0) := by
      rw [Accepts, hp]
      exact Nat.le_of_not_lt hm
    have hfield := h _ [] (encode_eq_ok.2 hacc)
    rw [encode_of_accepts hacc, List.nil_append, List.length_nil, List.drop_zero,
      ← List.append_nil (frame _ _), beNat_field, hp] at hfield
    exact absurd hfield (by decide)
  · intro hm p dst hok
    have hacc : (new c m).Accepts p := encode_eq_ok.1 hok
    have hlen : p.length ≤ m := hacc
    rw [encode_of_accepts hacc, List.drop_left' rfl, ← List.append_nil (frame _ _), beNat_field]
    exact Nat.mod_eq_of_lt (by rw [protocolHeaderLen, channelIdLen]; omega)

/-! ## Two readings -/

/-- Below `2 ^ 32` the field tells the length. -/
theorem length_eq_of_field (hp : p.length < 2 ^ 32) (hq : q.length < 2 ^ 32) {x y : Bytes}
    (h : frame c p ++ x = frame c q ++ y) : p.length = q.length := by
  have hfield := congrArg (fun s ↦ beNat (s.take reliableFrameLengthFieldLen)) h
  simp only [beNat_field, protocolHeaderLen, channelIdLen] at hfield
  omega

theorem frames_cons_ne_nil {ps : List Bytes} : frames c (p :: ps) ≠ [] := by
  intro h
  have hframe : frame c p = [] := (List.append_eq_nil_iff.1 ((frames_cons c p ps).symm.trans h)).1
  have hlen := length_frame c p
  rw [hframe, List.length_nil, reliableFrameTotalHeaderLen, protocolHeaderLen, channelIdLen] at hlen
  omega

theorem frames_injective {ps qs : List Bytes} (hps : ∀ p ∈ ps, p.length < 2 ^ 32)
    (hqs : ∀ q ∈ qs, q.length < 2 ^ 32) (h : frames c ps = frames c qs) : ps = qs := by
  induction ps generalizing qs with
  | nil =>
    cases qs with
    | nil => rfl
    | cons q qs =>
      exact absurd h.symm frames_cons_ne_nil
  | cons p ps ih =>
    cases qs with
    | nil =>
      exact absurd h frames_cons_ne_nil
    | cons q qs =>
      rw [List.forall_mem_cons] at hps hqs
      rw [frames_cons, frames_cons] at h
      have hlen := length_eq_of_field hps.1 hqs.1 h
      have hframe : (frame c p).length = (frame c q).length := by rw [length_frame, length_frame, hlen]
      obtain ⟨hhead, htail⟩ := List.append_inj h hframe
      rw [frame, frame, hlen] at hhead
      rw [(List.cons.inj (List.append_cancel_left hhead)).2, ih hps.2 hqs.2 htail]

/-- How many empty payloads fill up `2 ^ 32` bytes behind one that is not empty. -/
def wrapCount : ℕ := 858993458

/-- A payload of `2 ^ 32` bytes that is made of frames. -/
def wrapping (c : ChannelId) : Bytes := frames c ([0] :: List.replicate wrapCount [])

theorem length_frames_replicate_nil (c : ChannelId) (n : ℕ) :
    (frames c (List.replicate n [])).length = n * reliableFrameTotalHeaderLen := by
  simp [frames, length_frame]

theorem length_wrapping (c : ChannelId) : (wrapping c).length = 2 ^ 32 := by
  rw [wrapping, frames_cons, List.length_append, length_frames_replicate_nil, length_frame,
    List.length_singleton]
  decide

/-- The field of such a payload has wrapped around to that of an empty one. -/
theorem frame_of_length (h : p.length = 2 ^ 32) : frame c p = frame c [] ++ p := by
  have hfield : beBytes (protocolHeaderLen + 2 ^ 32) reliableFrameLengthFieldLen =
      beBytes protocolHeaderLen reliableFrameLengthFieldLen := by
    rw [← beBytes_mod]
    rfl
  rw [frame, frame, h, hfield, List.length_nil, Nat.add_zero, List.append_assoc]
  rfl

/-- **Its frame can be read as those of shorter payloads.** -/
theorem frames_wrapping (c : ChannelId) :
    frames c [wrapping c] = frames c ([] :: [0] :: List.replicate wrapCount []) := by
  rw [frames_cons, frames_nil, List.append_nil, frame_of_length (length_wrapping c), frames_cons,
    wrapping]

theorem wrapping_ne (c : ChannelId) : [wrapping c] ≠ [] :: [0] :: List.replicate wrapCount [] := by
  intro h
  have htail := congrArg List.tail h
  cases htail

theorem acceptsAll_wrapping (hm : 2 ^ 32 ≤ m) : (new c m).AcceptsAll [wrapping c] ∧
    (new c m).AcceptsAll ([] :: [0] :: List.replicate wrapCount []) := by
  refine ⟨fun p hp ↦ encode_eq_ok.2 ?_, fun p hp ↦ encode_eq_ok.2 ?_⟩ <;> show p.length ≤ m
  · rw [List.mem_singleton.1 hp, length_wrapping]
    exact hm
  · have hle : p.length ≤ 1 := by
      simp only [List.mem_cons, List.mem_replicate] at hp
      rcases hp with rfl | rfl | ⟨-, rfl⟩ <;> simp
    omega

theorem unambiguous_iff : (new c m).Unambiguous ↔ m < 2 ^ 32 := by
  constructor
  · intro h
    by_contra hm
    obtain ⟨hps, hqs⟩ := acceptsAll_wrapping (c := c) (Nat.le_of_not_lt hm)
    refine wrapping_ne c (h _ _ hps hqs ?_)
    rw [encodeAll_of_accepts hps, encodeAll_of_accepts hqs]
    exact frames_wrapping c
  · intro hm ps qs hps hqs h
    rw [encodeAll_of_accepts hps, encodeAll_of_accepts hqs] at h
    exact frames_injective (fun p hp ↦ Nat.lt_of_le_of_lt (encode_eq_ok.1 (hps p hp)) hm)
      (fun q hq ↦ Nat.lt_of_le_of_lt (encode_eq_ok.1 (hqs q hq)) hm) h

end QuinnetProtocolCodecEncoder

open QuinnetProtocolCodecEncoder

/-- **When framing is unambiguous.**  Different lists of payloads leave different bytes, and each length
field says what it should, exactly for the limits below `2 ^ 32 - 1`; the first half alone holds for that
limit, too, and for no higher one. -/
theorem framing_iff (c : ChannelId) (m : ℕ) :
    (((QuinnetProtocolCodecEncoder.new c m).Unambiguous ∧
        (QuinnetProtocolCodecEncoder.new c m).LengthExact) ↔ m < 2 ^ 32 - 1) ∧
      ((QuinnetProtocolCodecEncoder.new c m).Unambiguous ↔ m < 2 ^ 32) := by
  refine ⟨⟨fun h ↦ lengthExact_iff.1 h.2, fun h ↦ ⟨unambiguous_iff.2 ?_, lengthExact_iff.2 h⟩⟩,
    unambiguous_iff⟩
  exact Nat.lt_of_lt_of_le h (by decide)

/-- **A stream with two readings.**  With a limit of `2 ^ 32` bytes the encoder takes one payload of that
length, and leaves the bytes of a list of short payloads. -/
theorem framing_ambiguous :
    ∃ ps qs, (QuinnetProtocolCodecEncoder.new 0 (2 ^ 32)).AcceptsAll ps ∧
      (QuinnetProtocolCodecEncoder.new 0 (2 ^ 32)).AcceptsAll qs ∧
      (QuinnetProtocolCodecEncoder.new 0 (2 ^ 32)).encodeAll ps [] =
        (QuinnetProtocolCodecEncoder.new 0 (2 ^ 32)).encodeAll qs [] ∧ ps ≠ qs := by
  obtain ⟨hps, hqs⟩ := acceptsAll_wrapping (c := 0) (Nat.le_refl (2 ^ 32))
  refine ⟨_, _, hps, hqs, ?_, wrapping_ne 0⟩
  rw [encodeAll_of_accepts hps, encodeAll_of_accepts hqs]
  exact frames_wrapping 0

end BevyIroh
