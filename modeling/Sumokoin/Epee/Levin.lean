import Sumokoin.ProofKit.LittleEndian

/-! The levin framing of `epee` (`net/levin_base.h`, `levin_base.cpp` and the receive path of
`net/levin_protocol_handler_async.h`), on which the peers exchange every p2p command. A frame is a
packed `bucket_head2` of `33` bytes, little-endian, followed by the `m_cb` bytes of its body. The
writer fills a header in front of a payload; a noise message is a frame of zeros flagged begin and
end; a fragmented notification cuts a whole frame into frames of one size, the first flagged begin
and the last end.

The receiver takes the bytes of a connection in pieces of any size (`handle_recv`): it keeps what
it has not parsed yet, reads a header once `33` bytes are there, and the body once `m_cb` more are.
A frame that is neither request nor response is noise or a fragment, gathered until the end flag
and then parsed as the frame it holds. The commands handler is left abstract: what the connection
hands to it is a `Dispatch`. -/

namespace Sumokoin.Epee.Levin

open Sumokoin.ProofKit

/-- `LEVIN_SIGNATURE`. -/
def levinSignature : Nat := 0x0101010101012101

/-- `LEVIN_PACKET_REQUEST`. -/
def levinPacketRequest : Nat := 0x00000001

/-- `LEVIN_PACKET_RESPONSE`. -/
def levinPacketResponse : Nat := 0x00000002

/-- `LEVIN_PACKET_BEGIN`. -/
def levinPacketBegin : Nat := 0x00000004

/-- `LEVIN_PACKET_END`. -/
def levinPacketEnd : Nat := 0x00000008

/-- `LEVIN_PROTOCOL_VER_1`. -/
def levinProtocolVer1 : Nat := 1

/-- `sizeof(bucket_head2)`: the structure is packed. -/
def bucketHead2Size : Nat := 33

/-- `bucket_head2`. -/
structure BucketHead2 where
  signature : Nat
  cb : Nat
  haveToReturnData : Bool
  command : Nat
  returnCode : Nat
  flags : Nat
  protocolVersion : Nat
  deriving DecidableEq, Repr

/-- The bytes of a header in memory: the `SWAP64LE`/`SWAP32LE` of the writer make them
little-endian on every host. -/
def BucketHead2.toBytes (head : BucketHead2) : List UInt8 :=
  leBytes 8 head.signature ++ leBytes 8 head.cb ++ [if head.haveToReturnData then 1 else 0] ++
    leBytes 4 head.command ++ leBytes 4 head.returnCode ++ leBytes 4 head.flags ++
    leBytes 4 head.protocolVersion

/-- The header that the first `33` bytes of a buffer hold, read in place. -/
def BucketHead2.ofBytes (bytes : List UInt8) : BucketHead2 where
  signature := leValue (bytes.take 8)
  cb := leValue ((bytes.drop 8).take 8)
  haveToReturnData := bytes.getD 16 0 != 0
  command := leValue ((bytes.drop 17).take 4)
  returnCode := leValue ((bytes.drop 21).take 4)
  flags := leValue ((bytes.drop 25).take 4)
  protocolVersion := leValue ((bytes.drop 29).take 4)

/-! ### Writing -/

/-- `make_header(command, msg_size, flags, expect_response)`. -/
def makeHeader (command msgSize flags : Nat) (expectResponse : Bool) : BucketHead2 where
  signature := levinSignature
  cb := msgSize
  haveToReturnData := expectResponse
  command := command
  returnCode := 0
  flags := flags
  protocolVersion := levinProtocolVer1

/-- `message_writer::finalize(command, flags, return_code, expect_response)` of a writer that holds
`payload` after the space of its header. -/
def finalize (payload : List UInt8) (command flags returnCode : Nat) (expectResponse : Bool) :
    List UInt8 :=
  { makeHeader command payload.length flags expectResponse with returnCode := returnCode }.toBytes ++
    payload

/-- `message_writer::finalize_invoke(command)`. -/
def finalizeInvoke (payload : List UInt8) (command : Nat) : List UInt8 :=
  finalize payload command levinPacketRequest 0 true

/-- `message_writer::finalize_notify(command)`. -/
def finalizeNotify (payload : List UInt8) (command : Nat) : List UInt8 :=
  finalize payload command levinPacketRequest 0 false

/-- `message_writer::finalize_response(command, return_code)`. -/
def finalizeResponse (payload : List UInt8) (command returnCode : Nat) : List UInt8 :=
  finalize payload command levinPacketResponse returnCode false

/-- `make_noise_notify(noise_bytes)`; `none` is the `nullptr` of a size below a header. -/
def makeNoiseNotify (noiseBytes : Nat) : Option (List UInt8) :=
  if noiseBytes < bucketHead2Size then none
  else
    some ((makeHeader 0 (noiseBytes - bucketHead2Size) (levinPacketBegin ||| levinPacketEnd)
      false).toBytes ++ List.replicate (noiseBytes - bucketHead2Size) 0)

/-- The loop of `make_fragmented_notify` over the rest of the payload: each pass writes the header
`head` and the next `payloadSpace` bytes, the last pass with `LEVIN_PACKET_END`; with the bytes
written, the size of the last copy. The fuel of the payload's length is never used up. -/
def fragmentLoop (payloadSpace : Nat) :
    Nat → BucketHead2 → List UInt8 → List UInt8 → Nat → List UInt8 × Nat
  | 0, _, _, buffer, copySize => (buffer, copySize)
  | fuel + 1, head, payload, buffer, copySize =>
    if payload.isEmpty then (buffer, copySize)
    else
      let copy := payload.take payloadSpace
      let payload := payload.drop payloadSpace
      let head := if payload.isEmpty then { head with flags := levinPacketEnd } else head
      fragmentLoop payloadSpace fuel head payload (buffer ++ head.toBytes ++ copy) copy.length

/-- `make_fragmented_notify(noise_size, command, message)` of a writer holding `message`: one
notification padded with zeros to `noise_size` bytes when it fits, else the whole notification cut
into fragments of `noise_size` bytes each, the last padded with zeros; `none` is the `nullptr` of a
size below two headers. -/
def makeFragmentedNotify (noiseSize command : Nat) (message : List UInt8) : Option (List UInt8) :=
  if noiseSize < bucketHead2Size * 2 then none
  else if bucketHead2Size + message.length ≤ noiseSize then
    some (finalizeNotify (message ++ List.replicate (noiseSize - (bucketHead2Size + message.length)) 0)
      command)
  else
    let payload := finalizeNotify message command
    let payloadSpace := noiseSize - bucketHead2Size
    let head := makeHeader 0 payloadSpace levinPacketBegin false
    let buffer := head.toBytes ++ payload.take payloadSpace
    let (buffer, copySize) := fragmentLoop payloadSpace payload.length { head with flags := 0 }
      (payload.drop payloadSpace) buffer (min payloadSpace payload.length)
    some (buffer ++ List.replicate (noiseSize - copySize - bucketHead2Size) 0)

/-! ### Receiving -/

/-- `stream_state`. -/
inductive StreamState where
  | head
  | body
  deriving DecidableEq, Repr

/-- The fields of `async_protocol_handler` that the receive path reads and writes. The
`m_invoke_response_handlers` are counted, each cancelled in time when its response comes, and
`m_wait_count` counts the threads waiting on a synchronous invoke. -/
structure Connection where
  maxPacketSize : Nat
  cacheInBuffer : List UInt8
  fragmentBuffer : List UInt8
  state : StreamState
  currentHead : BucketHead2
  oponentProtocolVer : Nat
  invokeResponseHandlers : Nat
  waitCount : Nat
  deriving DecidableEq, Repr

/-- What the receiver hands to the commands handler: a request that expects data back, whose
answer the connection sends; a notification; a response, to the oldest invoke. -/
inductive Dispatch where
  | invoke (command : Nat) (buff : List UInt8)
  | notify (command : Nat) (buff : List UInt8)
  | response (returnCode : Nat) (buff : List UInt8)
  deriving DecidableEq, Repr

/-- The packet size check of a header against the connection's limit and the command's
`get_max_bytes`. -/
def checkPacketSize (maxBytes : Nat → Nat) (c : Connection) (head : BucketHead2) :
    Except String Unit :=
  if head.cb > min c.maxPacketSize (maxBytes head.command) then
    throw ("Maximum packet size exceed!, m_max_packet_size = " ++
      toString (min c.maxPacketSize (maxBytes head.command)) ++ ", packet header received " ++
      toString head.cb ++ ", command " ++ toString head.command ++ ", connection will be closed.")
  else pure ()

/-- `cryptonote_connection_context::get_max_bytes(command)`, the limit for each command that
`handle_recv` reads on a connection of the node; every other command has the `size_t` limit. -/
def getMaxBytes (command : Nat) : Nat :=
  match command with
  | 1001 => 65536
  | 1002 => 65536
  | 1003 => 4096
  | 1007 => 4096
  | 2001 => 1024 * 1024 * 128
  | 2002 => 1024 * 1024 * 128
  | 2003 => 1024 * 1024 * 2
  | 2004 => 1024 * 1024 * 128
  | 2006 => 512 * 1024
  | 2007 => 1024 * 1024 * 4
  | 2008 => 1024 * 1024 * 4
  | 2009 => 1024 * 1024
  | 2010 => 1024 * 1024 * 4
  | _ => 2 ^ 64 - 1

/-- A whole message with header `c.currentHead` and body `buffToInvoke`, handed on. -/
def dispatchMessage (c : Connection) (buffToInvoke : List UInt8) :
    Except String (Connection × List Dispatch) :=
  let isResponse := c.oponentProtocolVer == levinProtocolVer1 &&
    c.currentHead.flags &&& levinPacketResponse != 0
  if isResponse then
    if c.invokeResponseHandlers ≠ 0 then
      pure ({ c with invokeResponseHandlers := c.invokeResponseHandlers - 1 },
        [.response c.currentHead.returnCode buffToInvoke])
    else if c.waitCount = 0 then throw "no active invoke when response came, wtf?"
    else pure (c, [.response c.currentHead.returnCode buffToInvoke])
  else if c.currentHead.haveToReturnData then
    pure (c, [.invoke c.currentHead.command buffToInvoke])
  else pure (c, [.notify c.currentHead.command buffToInvoke])

/-- The body `buffToInvoke` of a frame with header `c.currentHead`, once all of it is there: a
request or response is handed on; noise is dropped; a fragment is gathered, from scratch at the
begin flag, and at the end flag the gathered bytes are parsed as a header and its body. -/
def processBody (maxBytes : Nat → Nat) (c : Connection) (buffToInvoke : List UInt8) :
    Except String (Connection × List Dispatch) :=
  let flags := c.currentHead.flags
  if flags &&& (levinPacketRequest ||| levinPacketResponse) = 0 then
    if flags &&& (levinPacketBegin ||| levinPacketEnd) = levinPacketBegin ||| levinPacketEnd then
      pure (c, [])
    else
      let fragment :=
        (if flags &&& levinPacketBegin ≠ 0 then [] else c.fragmentBuffer) ++ buffToInvoke
      if flags &&& levinPacketEnd = 0 then pure ({ c with fragmentBuffer := fragment }, [])
      else if fragment.length < bucketHead2Size then
        throw "Fragmented data too small for levin header"
      else do
        let c := { c with fragmentBuffer := [], currentHead := BucketHead2.ofBytes fragment }
        checkPacketSize maxBytes c c.currentHead
        dispatchMessage c (fragment.drop bucketHead2Size)
  else dispatchMessage c buffToInvoke

/-- The `while (is_continue)` loop of `handle_recv` over the bytes not parsed yet: in the head
state a header once `33` bytes are there, checked; in the body state the body once `m_cb` bytes
are. Each pass of the loop that goes on parses a header, or the body after one, so the fuel of
twice the bytes and more is never used up. -/
def recvLoop (maxBytes : Nat → Nat) :
    Nat → Connection → List Dispatch → Except String (Connection × List Dispatch)
  | 0, c, out => pure (c, out)
  | fuel + 1, c, out =>
    match c.state with
    | .body =>
      if c.cacheInBuffer.length < c.currentHead.cb then pure (c, out)
      else do
        let buffToInvoke := c.cacheInBuffer.take c.currentHead.cb
        let c := { c with cacheInBuffer := c.cacheInBuffer.drop c.currentHead.cb, state := .head }
        let (c, dispatched) ← processBody maxBytes c buffToInvoke
        recvLoop maxBytes fuel c (out ++ dispatched)
    | .head =>
      if c.cacheInBuffer.length < bucketHead2Size then
        if 8 ≤ c.cacheInBuffer.length ∧ leValue (c.cacheInBuffer.take 8) ≠ levinSignature then
          throw "Signature mismatch, connection will be closed"
        else pure (c, out)
      else
        let head := BucketHead2.ofBytes c.cacheInBuffer
        if head.signature ≠ levinSignature then throw "Signature mismatch, connection will be closed"
        else do
          let c := { c with
            currentHead := head
            cacheInBuffer := c.cacheInBuffer.drop bucketHead2Size
            state := .body
            oponentProtocolVer := head.protocolVersion }
          checkPacketSize maxBytes c head
          recvLoop maxBytes fuel c out

/-- `handle_recv(ptr, cb)` of the bytes `chunk`, with a command handler set and the connection
open: what the connection holds and the new bytes must stay within `m_max_packet_size`. -/
def handleRecv (maxBytes : Nat → Nat) (c : Connection) (chunk : List UInt8) :
    Except String (Connection × List Dispatch) :=
  if ¬c.cacheInBuffer.length ≤ c.maxPacketSize then throw "Bad m_cache_in_buffer.size()"
  else if ¬c.fragmentBuffer.length ≤ c.maxPacketSize - c.cacheInBuffer.length then
    throw "Bad m_cache_in_buffer.size() + m_fragment_buffer.size()"
  else if chunk.length > c.maxPacketSize - c.cacheInBuffer.length - c.fragmentBuffer.length then
    throw ("Maximum packet size exceed!, m_max_packet_size = " ++ toString c.maxPacketSize ++
      ", packet received " ++ toString (c.cacheInBuffer.length + chunk.length) ++
      ", connection will be closed.")
  else
    let c := { c with cacheInBuffer := c.cacheInBuffer ++ chunk }
    recvLoop maxBytes (2 * c.cacheInBuffer.length + 2) c []

/-- The bytes of a connection as they arrive, one `handle_recv` for each piece, and what they hand
on in order; the first failure closes the connection. -/
def receive (maxBytes : Nat → Nat) (c : Connection) :
    List (List UInt8) → Except String (Connection × List Dispatch)
  | [] => pure (c, [])
  | chunk :: chunks => do
    let (c, dispatched) ← handleRecv maxBytes c chunk
    let (c, later) ← receive maxBytes c chunks
    pure (c, dispatched ++ later)

end Sumokoin.Epee.Levin
