import BevyIroh.Shared.Reliable.RoundTrip
import Mathlib.Data.List.TakeWhile

/-!
# What a mismatch of the limits loses

The sender of a channel and the receiver of its stream each have a limit, and nothing makes them agree.
`limit_mismatch` says what comes of it: the receiver delivers the payloads before the first one that is
too long for it, fails as soon as the header of that one has arrived, and leaves the rest of the stream
alone, with whatever was in it.
-/

set_option autoImplicit false

namespace BevyIroh

open Bytes FramedRead QuinnetProtocolCodecDecoder

variable {M : ℕ} {c : ChannelId} {p x y : Bytes} {ps good : List Bytes}

/-! ## The frame that is too long -/

/-- With less than five bytes it waits. -/
theorem decode_receiver_short (h : x.length < reliableFrameTotalHeaderLen) :
    reliableStreamReceiver.decode ⟨.head, M⟩ x = .more ⟨.head, M⟩ x := by
  simp only [reliableStreamReceiver, Decoder.andThen, codec, decoded_head_short h]

/-- The payloads are within the limit, and within what the length field can say. -/
def Deliverable (M : ℕ) (ps : List Bytes) : Prop :=
  ∀ p ∈ ps, p.length + 1 ≤ M ∧ p.length + 1 < 2 ^ 32

theorem Deliverable.drain (hgood : Deliverable M good) (rest : Bytes) :
    reliableStreamReceiver.drain ⟨.head, M⟩ (frames c good ++ rest) =
      (good.map (Prod.mk c) ++ (reliableStreamReceiver.drain ⟨.head, M⟩ rest).1,
        (reliableStreamReceiver.drain ⟨.head, M⟩ rest).2) :=
  drain_frames (fun p hp ↦ (hgood p hp).1) (fun p hp ↦ (hgood p hp).2) rest

/-- The receiver at the frame that is too long, of which `x` has arrived. -/
theorem Deliverable.drain_at (hgood : Deliverable M good) (hM : M < p.length + 1)
    (h32 : p.length + 1 < 2 ^ 32) (hx : x <+: frame c p ++ y) :
    reliableStreamReceiver.drain ⟨.head, M⟩ (frames c good ++ x) =
      (good.map (Prod.mk c),
        if x.length < reliableFrameTotalHeaderLen then .more ⟨.head, M⟩ x
        else .fail ⟨.invalidData, .frameSizeTooBig⟩ ⟨.head, M⟩ x) := by
  rw [hgood.drain]
  split_ifs with h
  · rw [Decoder.drain_more (decode_receiver_short h), List.append_nil]
  · rw [Decoder.drain_fail (decode_too_long hM h32 hx (Nat.le_of_not_lt h)), List.append_nil]

/-! ## The whole stream -/

/-- A stream of payloads that all fit is delivered, and the receiver waits at its end. -/
theorem Deliverable.feed (hgood : Deliverable M good) {chunks : List Bytes}
    (hcut : chunks.flatten = frames c good) :
    reliableStreamReceiver.feed (.new M) [] chunks =
      (good.map (Prod.mk c), .more ⟨.head, M⟩ [], []) := by
  have hwhole := Decoder.drain_flatten (decode_receiver_nil M) chunks
  have hall := hgood.drain (c := c) []
  rw [List.append_nil, Decoder.drain_more (decode_receiver_nil M), List.append_nil] at hall
  rw [List.nil_append, hcut, hall] at hwhole
  obtain ⟨hfst, hsnd⟩ := Prod.mk.inj hwhole
  refine Prod.ext hfst.symm ?_
  rcases reliableStreamReceiver.feed_cases ⟨.head, M⟩ [] chunks with
    ⟨d, buf, h⟩ | ⟨fed, chunk, rest, d, buf, -, -, hstop, h⟩
  · rw [h, List.flatten_nil, Stop.append_nil] at hsnd
    obtain ⟨rfl, rfl⟩ := Stop.more.inj hsnd
    exact h
  · rw [h] at hsnd
    cases ht : (reliableStreamReceiver.drain d (buf ++ chunk)).2 with
    | more d' buf' => exact absurd ht (hstop d' buf')
    | _ =>
      rw [ht] at hsnd
      cases hsnd

/-- The receiver stops with the chunk that completes the header of a frame that is too long. -/
theorem Deliverable.feed_too_long (hgood : Deliverable M good) (hM : M < p.length + 1)
    (h32 : p.length + 1 < 2 ^ 32) {chunks : List Bytes}
    (hcut : chunks.flatten = frames c good ++ (frame c p ++ y)) :
    ∃ fed chunk rest buf, chunks = fed ++ chunk :: rest ∧
      fed.flatten.length < (frames c good).length + reliableFrameTotalHeaderLen ∧
      (frames c good).length + reliableFrameTotalHeaderLen ≤ (fed ++ [chunk]).flatten.length ∧
      (fed ++ [chunk]).flatten = frames c good ++ buf ∧
      reliableStreamReceiver.decode ⟨.head, M⟩ buf =
        .fail ⟨.invalidData, .frameSizeTooBig⟩ ⟨.head, M⟩ buf ∧
      reliableStreamReceiver.feed (.new M) [] chunks =
        (good.map (Prod.mk c), .fail ⟨.invalidData, .frameSizeTooBig⟩ ⟨.head, M⟩ buf, rest) := by
  have hlen : ¬ (frame c p ++ y).length < reliableFrameTotalHeaderLen := by simp; omega
  have hwhole := Decoder.drain_flatten (decode_receiver_nil M) chunks
  rw [List.nil_append, hcut, hgood.drain_at hM h32 List.prefix_rfl, if_neg hlen] at hwhole
  obtain ⟨hfst, hsnd⟩ := Prod.mk.inj hwhole
  rcases reliableStreamReceiver.feed_cases ⟨.head, M⟩ [] chunks with
    ⟨d, buf, h⟩ | ⟨fed, chunk, rest, d, buf, rfl, hfed, hstop, h⟩
  · rw [h] at hsnd
    cases hsnd
  · rw [h] at hsnd
    obtain ⟨hfed, hgoes⟩ := Decoder.drain_of_feed (decode_receiver_nil M) hfed
    rw [List.nil_append] at hfed hgoes
    cases ht : (reliableStreamReceiver.drain d (buf ++ chunk)).2 with
    | more d' buf' => exact absurd ht (hstop d' buf')
    | panic =>
      rw [ht] at hsnd
      cases hsnd
    | fail e d' b =>
      rw [ht] at hsnd h
      obtain ⟨rfl, rfl, hb⟩ := Stop.fail.inj hsnd
      have hread : (fed ++ [chunk]).flatten = frames c good ++ b := by
        have hcut' : (fed ++ [chunk]).flatten ++ rest.flatten = frames c good ++ b ++ rest.flatten := by
          rw [List.append_assoc (frames c good), ← hb, ← hcut]
          simp
        exact List.append_cancel_right hcut'
      have hbx : b <+: frame c p ++ y := ⟨rest.flatten, hb.symm⟩
      -- the chunk completes the header, or the receiver would wait
      have hb5 : ¬ b.length < reliableFrameTotalHeaderLen := fun hb5 ↦ by
        have hmore := congrArg Prod.snd (hgood.drain_at hM h32 hbx)
        rw [if_pos hb5, ← hread, List.flatten_append, List.flatten_singleton, hgoes, ht] at hmore
        cases hmore
      -- the chunks before do not, or the receiver would have failed on them
      have hfed5 : fed.flatten.length < (frames c good).length + reliableFrameTotalHeaderLen := by
        by_contra hle
        have hprefix : fed.flatten <+: frames c good ++ b := ⟨chunk, by rw [← hread]; simp⟩
        obtain ⟨z, hz⟩ := List.prefix_of_prefix_length_le (List.prefix_append (frames c good) b) hprefix
          (by omega)
        have hzx : z <+: frame c p ++ y := by
          rw [← hz, List.prefix_append_right_inj] at hprefix
          exact hprefix.trans hbx
        have hz5 : ¬ z.length < reliableFrameTotalHeaderLen := fun hlt ↦ by
          rw [← hz, List.length_append] at hle
          omega
        rw [← hz, hgood.drain_at hM h32 hzx, if_neg hz5] at hfed
        cases hfed
      refine ⟨fed, chunk, rest, b, rfl, hfed5, ?_, hread,
        decode_too_long hM h32 hbx (Nat.le_of_not_lt hb5), Prod.ext hfst.symm h⟩
      rw [hread, List.length_append]
      omega

/-- **What a mismatch of the limits loses.**  The encoder has taken all the payloads, and the stream
comes in any chunks.  The receiver delivers the longest beginning of the list that fits its limit.  If
that is all of it, it waits at the end of the stream.  Otherwise it fails with the chunk that brings the
last of the five header bytes of the first payload that does not fit, on a call that leaves the decoder
and its buffer as they are, and reads no further. -/
theorem limit_mismatch {E : ℕ} (hE : E < 2 ^ 32 - 1) (M : ℕ) (c : ChannelId) (ps chunks : List Bytes)
    (hacc : ∀ p ∈ ps, ((QuinnetProtocolCodecEncoder.new c E).encode p []).1 = .ok ())
    (hcut : chunks.flatten = (QuinnetProtocolCodecEncoder.new c E).encodeAll ps []) :
    let good := ps.takeWhile fun p ↦ p.length + 1 ≤ M
    let before := ((QuinnetProtocolCodecEncoder.new c E).encodeAll good []).length
    (reliableStreamReceiver.feed (.new M) [] chunks).1 = good.map (Prod.mk c) ∧
      ((∀ p ∈ ps, p.length + 1 ≤ M) →
        (reliableStreamReceiver.feed (.new M) [] chunks).2 = (.more ⟨.head, M⟩ [], [])) ∧
      ((∃ p ∈ ps, M < p.length + 1) → ∃ fed chunk rest buf, chunks = fed ++ chunk :: rest ∧
        fed.flatten.length < before + 5 ∧ before + 5 ≤ (fed ++ [chunk]).flatten.length ∧
        buf = (fed ++ [chunk]).flatten.drop before ∧
        reliableStreamReceiver.decode ⟨.head, M⟩ buf =
          .fail ⟨.invalidData, .frameSizeTooBig⟩ ⟨.head, M⟩ buf ∧
        (reliableStreamReceiver.feed (.new M) [] chunks).2 =
          (.fail ⟨.invalidData, .frameSizeTooBig⟩ ⟨.head, M⟩ buf, rest)) := by
  intro good before
  have hstream : (QuinnetProtocolCodecEncoder.new c E).encodeAll ps [] = frames c ps :=
    QuinnetProtocolCodecEncoder.encodeAll_of_accepts hacc
  have hle : ∀ p ∈ ps, p.length ≤ E := fun p hp ↦
    QuinnetProtocolCodecEncoder.encode_eq_ok.1 (hacc p hp)
  have hmem : ∀ p ∈ good, p ∈ ps := fun p hp ↦ (List.takeWhile_prefix _).subset hp
  have hgood : Deliverable M good := fun p hp ↦ by
    have hfits := List.mem_takeWhile_imp hp
    have hshort := hle p (hmem p hp)
    exact ⟨by simpa using hfits, by omega⟩
  have hbefore : before = (frames c good).length :=
    congrArg List.length
      (QuinnetProtocolCodecEncoder.encodeAll_of_accepts fun p hp ↦ hacc p (hmem p hp))
  rw [hstream] at hcut
  by_cases hall : ∀ p ∈ ps, p.length + 1 ≤ M
  · have hsame : good = ps := List.takeWhile_eq_self_iff.2 fun p hp ↦ by simpa using hall p hp
    have hfeed := hgood.feed (hsame ▸ hcut)
    refine ⟨congrArg Prod.fst hfeed, fun _ ↦ congrArg Prod.snd hfeed, fun ⟨p, hp, hM⟩ ↦ ?_⟩
    exact absurd (hall p hp) (Nat.not_le.2 hM)
  · obtain ⟨bad, tail, hsplit, hM⟩ : ∃ bad tail, ps = good ++ bad :: tail ∧ M < bad.length + 1 := by
      have hne : ps.dropWhile (fun p ↦ p.length + 1 ≤ M) ≠ [] := fun hnil ↦
        hall fun p hp ↦ by simpa using List.dropWhile_eq_nil_iff.1 hnil p hp
      obtain ⟨bad, tail, htail⟩ := List.exists_cons_of_ne_nil hne
      have hbad := List.head_dropWhile_not (fun p : Bytes ↦ decide (p.length + 1 ≤ M)) hne
      simp only [htail, List.head_cons, decide_eq_false_iff_not, Nat.not_le] at hbad
      exact ⟨bad, tail, by rw [← htail, List.takeWhile_append_dropWhile], hbad⟩
    have hshort := hle bad (hsplit ▸ by simp)
    have hcut' : chunks.flatten = frames c good ++ (frame c bad ++ frames c tail) := by
      rw [hcut, hsplit, frames_append]
      simp [frames]
    obtain ⟨fed, chunk, rest, buf, hchunks, hlt, hge, hread, hfail, hfeed⟩ :=
      hgood.feed_too_long hM (by omega) hcut'
    refine ⟨congrArg Prod.fst hfeed, fun h ↦ absurd h hall, fun _ ↦ ⟨fed, chunk, rest, buf, hchunks, ?_⟩⟩
    rw [hbefore]
    refine ⟨hlt, hge, ?_, hfail, congrArg Prod.snd hfeed⟩
    rw [hread, List.drop_left' rfl]

/-- The second of three payloads is too long for a limit of two bytes; its channel id comes in a chunk
of its own. -/
theorem limit_mismatch_small :
    (reliableStreamReceiver.feed (.new 2) []
        [[0, 0, 0, 2, 9, 7, 0, 0, 0, 3], [9], [1, 2], [0, 0, 0, 2, 9, 8]]).1 = [(9, [7])] ∧
      ∃ buf rest, (reliableStreamReceiver.feed (.new 2) []
          [[0, 0, 0, 2, 9, 7, 0, 0, 0, 3], [9], [1, 2], [0, 0, 0, 2, 9, 8]]).2 =
        (.fail ⟨.invalidData, .frameSizeTooBig⟩ ⟨.head, 2⟩ buf, rest) := by
  obtain ⟨hdelivered, -, hfail⟩ := limit_mismatch (E := 5) (by decide) 2 9 [[7], [1, 2], [8]]
    [[0, 0, 0, 2, 9, 7, 0, 0, 0, 3], [9], [1, 2], [0, 0, 0, 2, 9, 8]] (by decide) (by decide)
  obtain ⟨_, _, rest, buf, -, -, -, -, -, hfeed⟩ := hfail ⟨[1, 2], by decide, by decide⟩
  exact ⟨hdelivered, buf, rest, hfeed⟩

end BevyIroh
