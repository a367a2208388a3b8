import BevyIroh.Lib.FramedRead
import BevyIroh.Shared.Channels

/-!
# The reliable codec

A payload goes over a reliable channel as one frame: a four-byte big endian length, the channel id
and the payload, the length counting the last two.  `QuinnetProtocolCodecEncoder.encode` writes
frames and `QuinnetProtocolCodecDecoder.decode` finds them again in a buffer that is still filling
up.  Both have a `max_frame_len`, but the encoder compares the payload with it and the decoder the
length field.

The decoder removes the length field as soon as it and one more byte are there, and remembers the
length in its state until the data is there.  `decodeIncomingReliableMessage` then splits a frame
into channel id and payload; it panics on an empty frame.

`codec` is the decoder as an incremental decoder, which is what makes the chunk theorem of
`BevyIroh.Lib.FramedRead` available, and `reliableStreamReceiver` is the decoder together with
`decodeIncomingReliableMessage`: what the receiving loop does with one stream.
-/

set_option autoImplicit false

namespace BevyIroh

open Bytes FramedRead

/-! ## Frame layout -/

def reliableFrameLengthFieldLen : ℕ := 4

def reliableFrameTotalHeaderLen : ℕ := reliableFrameLengthFieldLen + protocolHeaderLen

/-- The two kinds of `io::Error` the codec raises. -/
inductive ErrorKind where
  | invalidInput
  | invalidData
deriving DecidableEq, Repr

/-- The payload of those errors: the frame is too big. -/
inductive QuinnetProtocolCodecError where
  | frameSizeTooBig
deriving DecidableEq, Repr

/-- `io::Error`. -/
structure IoError where
  kind : ErrorKind
  error : QuinnetProtocolCodecError
deriving DecidableEq, Repr

/-! ## The encoder -/

structure QuinnetProtocolCodecEncoder where
  maxFrameLen : ℕ
  rawChannelId : ChannelId

namespace QuinnetProtocolCodecEncoder

def new (rawChannelId : ChannelId) (maxFrameLen : ℕ) : QuinnetProtocolCodecEncoder :=
  ⟨maxFrameLen, rawChannelId⟩

/-- Append the frame of a payload to `dst`.  On an error `dst` is as it was. -/
def encode (self : QuinnetProtocolCodecEncoder) (frame dst : Bytes) :
    Except IoError Unit × Bytes :=
  if self.maxFrameLen < frame.length then (.error ⟨.invalidInput, .frameSizeTooBig⟩, dst)
  else
    let dst := putUint dst (protocolHeaderLen + frame.length) reliableFrameLengthFieldLen
    let dst := putU8 dst self.rawChannelId
    (.ok (), extendFromSlice dst frame)

/-- What a list of payloads handed over one after the other leaves in the buffer. -/
def encodeAll (self : QuinnetProtocolCodecEncoder) (frames : List Bytes) (dst : Bytes) : Bytes :=
  frames.foldl (fun dst frame ↦ (self.encode frame dst).2) dst

end QuinnetProtocolCodecEncoder

/-! ## The decoder -/

inductive DecodeState where
  | head
  | data (payloadLength : ℕ)
deriving DecidableEq, Repr

structure QuinnetProtocolCodecDecoder where
  state : DecodeState
  maxFrameLen : ℕ
deriving DecidableEq, Repr

namespace QuinnetProtocolCodecDecoder

def new (maxFrameLen : ℕ) : QuinnetProtocolCodecDecoder := ⟨.head, maxFrameLen⟩

/-- Read the length field, if it and one byte more are there.  The answer comes with the buffer
after the call; `none` is a panic. -/
def decodeHead (self : QuinnetProtocolCodecDecoder) (src : Bytes) :
    Option (Except IoError (Option ℕ) × Bytes) :=
  if src.length < reliableFrameTotalHeaderLen then some (.ok none, src)
  else do
    -- the length is read through a cursor, which leaves `src` alone
    let (payloadLength, _) ← getUint reliableFrameLengthFieldLen src
    if self.maxFrameLen < payloadLength then
      some (.error ⟨.invalidData, .frameSizeTooBig⟩, src)
    else
      let src ← advance reliableFrameLengthFieldLen src
      some (.ok (some payloadLength), src)

/-- Take the data of a frame, if it is all there. -/
def decodeData (payloadLength : ℕ) (src : Bytes) : Option (Option Bytes × Bytes) :=
  if src.length < payloadLength then some (none, src)
  else do
    let (data, src) ← splitTo payloadLength src
    some (some data, src)

/-- The second half of `decode`, with the payload length at hand. -/
def decodeRest (self : QuinnetProtocolCodecDecoder) (payloadLength : ℕ) (src : Bytes) :
    Option (Except IoError (Option Bytes) × QuinnetProtocolCodecDecoder × Bytes) :=
  match decodeData payloadLength src with
  | some (some data, src) => some (.ok (some data), { self with state := .head }, src)
  | some (none, src) => some (.ok none, self, src)
  | none => none

/-- One call of the decoder: a frame if there is one, with the decoder and the buffer after the
call; `none` is a panic. -/
def decode (self : QuinnetProtocolCodecDecoder) (src : Bytes) :
    Option (Except IoError (Option Bytes) × QuinnetProtocolCodecDecoder × Bytes) :=
  match self.state with
  | .head =>
    match self.decodeHead src with
    | some (.ok (some payloadLength), src) =>
      decodeRest { self with state := .data payloadLength } payloadLength src
    | some (.ok none, src) => some (.ok none, self, src)
    | some (.error e, src) => some (.error e, self, src)
    | none => none
  | .data payloadLength => self.decodeRest payloadLength src

end QuinnetProtocolCodecDecoder

/-! ## The receiving end of a stream -/

/-- Split a frame into channel id and payload; `none` is a panic. -/
def decodeIncomingReliableMessage (msgBytes : Bytes) : Option (ChannelId × Bytes) := do
  let (channelId, _) ← getU8 msgBytes
  let (_, payload) ← splitOff channelIdLen msgBytes
  some (channelId, payload)

end BevyIroh
