import Sumokoin.Epee.LevinSpec

/-! The levin writer against the receiver. A stream of finalized messages, cut into pieces of any
size, is handed on as exactly those messages, each response to a waiting invoke; a fragmented
notification is cut into frames of `noise_size` bytes each, and gathered back into the
notification, padded with zeros. -/

namespace Sumokoin.Epee.Levin

open Sumokoin.ProofKit

theorem makeHeader_fits {command msgSize flags : Nat} (command_lt : command < 2 ^ 32)
    (msgSize_lt : msgSize < 2 ^ 64) (flags_lt : flags < 2 ^ 32) (expectResponse : Bool) :
    (makeHeader command msgSize flags expectResponse).Fits :=
  ⟨show levinSignature < 2 ^ 64 by decide, msgSize_lt, command_lt, show 0 < 2 ^ 32 by decide,
    flags_lt, show levinProtocolVer1 < 2 ^ 32 by decide⟩

theorem BucketHead2.Fits.withFlags {head : BucketHead2} (fits : head.Fits) {flags : Nat}
    (flags_lt : flags < 2 ^ 32) : ({ head with flags := flags } : BucketHead2).Fits :=
  ⟨fits.signature, fits.cb, fits.command, fits.returnCode, flags_lt, fits.protocolVersion⟩

theorem BucketHead2.Fits.withReturnCode {head : BucketHead2} (fits : head.Fits) {returnCode : Nat}
    (returnCode_lt : returnCode < 2 ^ 32) : ({ head with returnCode := returnCode } : BucketHead2).Fits :=
  ⟨fits.signature, fits.cb, fits.command, returnCode_lt, fits.flags, fits.protocolVersion⟩

/-- A message as a writer finalizes it with `finalize_invoke`, `finalize_notify` or
`finalize_response`. -/
inductive Message where
  | invoke (command : Nat) (payload : List UInt8)
  | notify (command : Nat) (payload : List UInt8)
  | response (command returnCode : Nat) (payload : List UInt8)
  deriving DecidableEq, Repr

namespace Message

def command : Message → Nat
  | .invoke command _ | .notify command _ | .response command _ _ => command

def payload : Message → List UInt8
  | .invoke _ payload | .notify _ payload | .response _ _ payload => payload

def returnCode : Message → Nat
  | .response _ returnCode _ => returnCode
  | _ => 0

def isResponse : Message → Bool
  | .response .. => true
  | _ => false

def bytes : Message → List UInt8
  | .invoke command payload => finalizeInvoke payload command
  | .notify command payload => finalizeNotify payload command
  | .response command returnCode payload => finalizeResponse payload command returnCode

/-- What the receiver hands on for the message. -/
def dispatched : Message → Dispatch
  | .invoke command payload => .invoke command payload
  | .notify command payload => .notify command payload
  | .response _ returnCode payload => .response returnCode payload

def head : Message → BucketHead2
  | .invoke command payload => makeHeader command payload.length levinPacketRequest true
  | .notify command payload => makeHeader command payload.length levinPacketRequest false
  | .response command returnCode payload =>
    { makeHeader command payload.length levinPacketResponse false with returnCode := returnCode }

def frame (m : Message) : Frame := ⟨m.head, m.payload⟩

/-- A message whose fields fit the widths of `bucket_head2`. -/
structure Fits (m : Message) : Prop where
  command : m.command < 2 ^ 32
  returnCode : m.returnCode < 2 ^ 32
  payload : m.payload.length < 2 ^ 64

theorem bytes_eq_frame_bytes (m : Message) : m.bytes = m.frame.bytes := by
  cases m <;> rfl

theorem wellFormed_frame {m : Message} (fits : m.Fits) : m.frame.WellFormed := by
  have signature : levinSignature < 2 ^ 64 := by decide
  have version : levinProtocolVer1 < 2 ^ 32 := by decide
  have zero : 0 < 2 ^ 32 := by decide
  have request : levinPacketRequest < 2 ^ 32 := by decide
  have response : levinPacketResponse < 2 ^ 32 := by decide
  cases m with
  | invoke command payload =>
    exact ⟨⟨signature, fits.payload, fits.command, zero, request, version⟩, rfl, rfl⟩
  | notify command payload =>
    exact ⟨⟨signature, fits.payload, fits.command, zero, request, version⟩, rfl, rfl⟩
  | response command returnCode payload =>
    exact ⟨⟨signature, fits.payload, fits.command, fits.returnCode, response, version⟩, rfl, rfl⟩

theorem length_bytes (m : Message) : m.bytes.length = bucketHead2Size + m.payload.length := by
  rw [bytes_eq_frame_bytes, Frame.length_bytes]
  rfl

@[simp] theorem signature_head (m : Message) : m.head.signature = levinSignature := by
  cases m <;> rfl

@[simp] theorem cb_head (m : Message) : m.head.cb = m.payload.length := by
  cases m <;> rfl

@[simp] theorem command_head (m : Message) : m.head.command = m.command := by
  cases m <;> rfl

@[simp] theorem protocolVersion_head (m : Message) : m.head.protocolVersion = levinProtocolVer1 := by
  cases m <;> rfl

theorem not_fragment (m : Message) :
    m.head.flags &&& (levinPacketRequest ||| levinPacketResponse) ≠ 0 := by
  cases m <;> simp only [head, makeHeader] <;> decide

end Message

/-! ### A stream of messages -/

section Receive

variable (maxBytes : Nat → Nat)

/-- The connection after a message: the message's header is the current one, and a response
takes the handler of an invoke. -/
def afterMessage (c : Connection) (m : Message) : Connection :=
  { c with
    currentHead := m.head
    oponentProtocolVer := levinProtocolVer1
    invokeResponseHandlers :=
      if m.isResponse then c.invokeResponseHandlers - 1 else c.invokeResponseHandlers }

theorem afterMessage_invokeResponseHandlers (c : Connection) (m : Message) :
    (afterMessage c m).invokeResponseHandlers =
      c.invokeResponseHandlers - if m.isResponse then 1 else 0 := by
  unfold afterMessage
  split <;> rfl

theorem dispatchMessage_message (c : Connection) (m : Message)
    (answered : m.isResponse → c.invokeResponseHandlers ≠ 0 ∨ c.waitCount ≠ 0) :
    dispatchMessage { c with currentHead := m.head, oponentProtocolVer := levinProtocolVer1 }
      m.payload = .ok (afterMessage c m, [m.dispatched]) := by
  cases m with
  | invoke command payload =>
    simp [dispatchMessage, afterMessage, Message.head, Message.isResponse, Message.dispatched,
      Message.payload, makeHeader, levinPacketRequest, levinPacketResponse, pure, Except.pure]
  | notify command payload =>
    simp [dispatchMessage, afterMessage, Message.head, Message.isResponse, Message.dispatched,
      Message.payload, makeHeader, levinPacketRequest, levinPacketResponse, pure, Except.pure]
  | response command returnCode payload =>
    by_cases none : c.invokeResponseHandlers = 0
    · have waitCount := (answered rfl).resolve_left (not_not.mpr none)
      simp [dispatchMessage, afterMessage, Message.head, Message.isResponse, Message.dispatched,
        Message.payload, makeHeader, levinPacketResponse, none, waitCount, pure, Except.pure]
    · simp [dispatchMessage, afterMessage, Message.head, Message.isResponse, Message.dispatched,
        Message.payload, makeHeader, levinPacketResponse, none, pure, Except.pure]

theorem receiveFrame_message {c : Connection} {m : Message}
    (allowed : m.payload.length ≤ min c.maxPacketSize (maxBytes m.command))
    (answered : m.isResponse → c.invokeResponseHandlers ≠ 0 ∨ c.waitCount ≠ 0) :
    receiveFrame maxBytes c m.frame = .ok (afterMessage c m, [m.dispatched]) := by
  simp only [receiveFrame, Message.frame, m.signature_head, ne_eq, not_true_eq_false, if_false,
    bind, Except.bind, checkPacketSize, m.cb_head, m.command_head, gt_iff_lt,
    if_neg (Nat.not_lt.mpr allowed), pure, Except.pure, processBody, if_neg m.not_fragment,
    m.protocolVersion_head]
  exact dispatchMessage_message c m answered

theorem receiveFrames_messages {c : Connection} {msgs : List Message}
    (allowed : ∀ m ∈ msgs, m.payload.length ≤ min c.maxPacketSize (maxBytes m.command))
    (answered : (msgs.filter Message.isResponse).length ≤ c.invokeResponseHandlers ∨
      c.waitCount ≠ 0) :
    ∃ c', receiveFrames maxBytes c (msgs.map Message.frame) = .ok (c', msgs.map Message.dispatched) ∧
      c'.invokeResponseHandlers =
        c.invokeResponseHandlers - (msgs.filter Message.isResponse).length ∧
      c'.cacheInBuffer = c.cacheInBuffer ∧ c'.state = c.state ∧
      c'.fragmentBuffer = c.fragmentBuffer ∧ c'.maxPacketSize = c.maxPacketSize := by
  induction msgs generalizing c with
  | nil => exact ⟨c, rfl, by simp, rfl, rfl, rfl, rfl⟩
  | cons m msgs ih =>
    obtain ⟨k, count, response⟩ : ∃ k, (if m.isResponse then 1 else 0) = k ∧ (m.isResponse → k = 1) :=
      ⟨_, rfl, fun response => if_pos response⟩
    have responses : ((m :: msgs).filter Message.isResponse).length =
        k + (msgs.filter Message.isResponse).length := by
      rw [← count]
      cases isResponse : m.isResponse <;> simp [isResponse, Nat.add_comm]
    have handlers₁ : (afterMessage c m).invokeResponseHandlers = c.invokeResponseHandlers - k := by
      rw [afterMessage_invokeResponseHandlers, count]
    rw [responses] at answered
    have first := receiveFrame_message maxBytes (allowed m List.mem_cons_self) fun isResponse => by
      have := response isResponse
      omega
    obtain ⟨c', rest, handlers, cache, state, fragment, max⟩ := ih (c := afterMessage c m)
      (fun m' mem => allowed m' (List.mem_cons_of_mem m mem))
      (show _ ≤ _ ∨ c.waitCount ≠ 0 by omega)
    refine ⟨c', ?_, ?_, cache, state, fragment, max⟩
    · simp only [List.map_cons, receiveFrames, first, rest, bind, Except.bind, pure, Except.pure]
      rfl
    · rw [handlers, responses, handlers₁]
      omega

theorem fragmentBytes_messages (msgs : List Message) : fragmentBytes (msgs.map Message.frame) = 0 := by
  simp only [fragmentBytes, List.filter_map, Function.comp_def, Message.frame]
  rw [List.filter_eq_nil_iff.mpr fun m _ => by simpa using m.not_fragment]
  rfl

/-- Finalized messages, their bytes cut into pieces of any size that fit beside a message and the
fragments the connection holds, are handed on in order as themselves, each response to a handler
of an invoke while there are some. -/
theorem receive_messages {c : Connection} (atRest : c.cacheInBuffer = [])
    (atHead : c.state = .head) {msgs : List Message} (fits : ∀ m ∈ msgs, m.Fits)
    (allowed : ∀ m ∈ msgs, m.payload.length ≤ min c.maxPacketSize (maxBytes m.command))
    (answered : (msgs.filter Message.isResponse).length ≤ c.invokeResponseHandlers ∨
      c.waitCount ≠ 0)
    {frameMax : Nat} (bounded : ∀ m ∈ msgs, bucketHead2Size + m.payload.length ≤ frameMax)
    {chunks : List (List UInt8)} (stream : chunks.flatten = (msgs.map Message.bytes).flatten)
    (room : ∀ chunk ∈ chunks, chunk.length + frameMax + c.fragmentBuffer.length ≤ c.maxPacketSize) :
    ∃ c', receive maxBytes c chunks = .ok (c', msgs.map Message.dispatched) ∧
      c'.invokeResponseHandlers =
        c.invokeResponseHandlers - (msgs.filter Message.isResponse).length ∧
      c'.cacheInBuffer = [] ∧ c'.state = .head ∧ c'.fragmentBuffer = c.fragmentBuffer := by
  have frames : msgs.map Message.bytes = (msgs.map Message.frame).map Frame.bytes := by
    rw [List.map_map]
    exact List.map_congr_left fun m _ => m.bytes_eq_frame_bytes
  obtain ⟨c', received, handlers, cache, state, fragment, -⟩ :=
    receiveFrames_messages maxBytes allowed answered
  refine ⟨c', ?_, handlers, cache.trans atRest, state.trans atHead, fragment⟩
  rw [← received]
  refine receive_of_parked maxBytes atRest atHead ?_ ?_ (partialOf_nil _)
    (by rw [List.nil_append, stream, frames]) (park_nil maxBytes atRest atHead)
    (le_of_eq (by rw [fragmentBytes_messages, Nat.add_zero])) room
  · simp only [List.mem_map]
    rintro f ⟨m, mem, rfl⟩
    exact Message.wellFormed_frame (fits m mem)
  · simp only [List.mem_map]
    rintro f ⟨m, mem, rfl⟩
    rw [Frame.length_bytes]
    exact bounded m mem

theorem receive_messages_invoke_response :
    (∀ m ∈ [Message.invoke 1003 [1], Message.response 1003 0 [2, 3]], m.Fits) ∧
      ∃ c', receive getMaxBytes ⟨1000, [], [], .head, makeHeader 0 0 0 false, 0, 1, 0⟩
          [(([Message.invoke 1003 [1], Message.response 1003 0 [2, 3]].map Message.bytes).flatten).take 20,
            (([Message.invoke 1003 [1], Message.response 1003 0 [2, 3]].map Message.bytes).flatten).drop 20] =
          .ok (c', [.invoke 1003 [1], .response 0 [2, 3]]) ∧
        c'.invokeResponseHandlers = 0 ∧ c'.cacheInBuffer = [] ∧ c'.state = .head ∧ c'.fragmentBuffer = [] := by
  have fits : ∀ m ∈ [Message.invoke 1003 [1], Message.response 1003 0 [2, 3]], m.Fits := by
    intro m mem
    simp only [List.mem_cons, List.not_mem_nil, or_false] at mem
    rcases mem with rfl | rfl
    · exact ⟨by decide, by decide, by decide⟩
    · exact ⟨by decide, by decide, by decide⟩
  have bounded : ∀ m ∈ [Message.invoke 1003 [1], Message.response 1003 0 [2, 3]],
      bucketHead2Size + m.payload.length ≤ 40 := by decide
  exact ⟨fits, receive_messages getMaxBytes rfl rfl fits (by decide) (by decide) bounded
    (List.take_append_drop 20 _) (by decide)⟩

end Receive

/-! ### Fragmented notifications -/

/-- The frames that the loop of `make_fragmented_notify` writes over the rest `payload` of a
notification, the last with `LEVIN_PACKET_END` and padded with the zeros written after the loop. -/
def fragmentFrames (payloadSpace : Nat) (head : BucketHead2) : Nat → List UInt8 → List Frame
  | 0, _ => []
  | fuel + 1, payload =>
    if payload.isEmpty then []
    else if (payload.drop payloadSpace).isEmpty then
      [⟨{ head with flags := levinPacketEnd },
        payload ++ List.replicate (payloadSpace - payload.length) 0⟩]
    else ⟨head, payload.take payloadSpace⟩ ::
      fragmentFrames payloadSpace head fuel (payload.drop payloadSpace)

theorem fragmentLoop_nil (payloadSpace fuel : Nat) (head : BucketHead2) (buffer : List UInt8)
    (copySize : Nat) : fragmentLoop payloadSpace fuel head [] buffer copySize = (buffer, copySize) := by
  cases fuel <;> rfl

theorem fragmentLoop_eq {payloadSpace : Nat} (pos : 0 < payloadSpace) (head : BucketHead2)
    {fuel : Nat} {payload : List UInt8} (nonempty : payload ≠ []) (enough : payload.length ≤ fuel)
    (buffer : List UInt8) (copySize : Nat) :
    (fragmentLoop payloadSpace fuel head payload buffer copySize).1 ++
        List.replicate (payloadSpace - (fragmentLoop payloadSpace fuel head payload buffer copySize).2) 0 =
      buffer ++ ((fragmentFrames payloadSpace head fuel payload).map Frame.bytes).flatten := by
  induction fuel generalizing payload buffer copySize with
  | zero => exact absurd (List.eq_nil_of_length_eq_zero (Nat.le_zero.mp enough)) nonempty
  | succ fuel ih =>
    have full : payload.isEmpty = false := List.isEmpty_eq_false_iff.mpr nonempty
    by_cases last : (payload.drop payloadSpace).isEmpty
    · have short : payload.length ≤ payloadSpace := by
        simpa only [List.isEmpty_iff, List.drop_eq_nil_iff] using last
      simp only [fragmentLoop, fragmentFrames, full, Bool.false_eq_true, List.isEmpty_iff.mp last,
        List.isEmpty_nil, ↓reduceIte, fragmentLoop_nil, List.take_of_length_le short,
        List.map_cons, List.map_nil, List.flatten_cons, List.flatten_nil, List.append_nil,
        Frame.bytes, List.append_assoc]
    · have rest : (payload.drop payloadSpace) ≠ [] := fun empty => last (List.isEmpty_iff.mpr empty)
      simp only [fragmentLoop, fragmentFrames, full, last, Bool.false_eq_true, if_false]
      rw [ih rest (by rw [List.length_drop]; omega)]
      simp only [List.map_cons, List.flatten_cons, Frame.bytes, List.append_assoc]

theorem wellFormed_fragmentFrames {payloadSpace : Nat} {head : BucketHead2} (fits : head.Fits)
    (signature : head.signature = levinSignature) (cb : head.cb = payloadSpace) (fuel : Nat)
    (payload : List UInt8) :
    ∀ f ∈ fragmentFrames payloadSpace head fuel payload,
      f.WellFormed ∧ f.body.length = payloadSpace := by
  induction fuel generalizing payload with
  | zero => simp [fragmentFrames]
  | succ fuel ih =>
    intro f mem
    by_cases empty : payload.isEmpty
    · simp [fragmentFrames, empty] at mem
    by_cases last : (payload.drop payloadSpace).isEmpty
    · have short : payload.length ≤ payloadSpace := by
        simpa only [List.isEmpty_iff, List.drop_eq_nil_iff] using last
      simp only [fragmentFrames, empty, last, Bool.false_eq_true, ↓reduceIte, List.mem_singleton]
        at mem
      subst mem
      have length : (payload ++ List.replicate (payloadSpace - payload.length) 0).length =
          payloadSpace := by
        simp only [List.length_append, List.length_replicate]
        omega
      exact ⟨⟨⟨fits.signature, fits.cb, fits.command, fits.returnCode,
        (show levinPacketEnd < 2 ^ 32 by decide), fits.protocolVersion⟩, signature,
        cb.trans length.symm⟩, length⟩
    · have long : payloadSpace < payload.length := by
        simpa only [List.isEmpty_iff, List.drop_eq_nil_iff, Nat.not_le] using last
      simp only [fragmentFrames, empty, last, Bool.false_eq_true, ↓reduceIte, List.mem_cons] at mem
      rcases mem with rfl | mem
      · have length : (payload.take payloadSpace).length = payloadSpace := by
          rw [List.length_take]
          omega
        exact ⟨⟨fits, signature, cb.trans length.symm⟩, length⟩
      · exact ih _ f mem

/-- The frames of `make_fragmented_notify(noise_size, command, message)`: the notification padded
to one frame when it fits, else the fragments of the whole notification. -/
def notifyFrames (noiseSize command : Nat) (message : List UInt8) : List Frame :=
  if bucketHead2Size + message.length ≤ noiseSize then
    [(Message.notify command
      (message ++ List.replicate (noiseSize - (bucketHead2Size + message.length)) 0)).frame]
  else
    let payload := finalizeNotify message command
    let payloadSpace := noiseSize - bucketHead2Size
    let head := makeHeader 0 payloadSpace levinPacketBegin false
    ⟨head, payload.take payloadSpace⟩ ::
      fragmentFrames payloadSpace { head with flags := 0 } payload.length (payload.drop payloadSpace)

theorem length_finalize (payload : List UInt8) (command flags returnCode : Nat)
    (expectResponse : Bool) :
    (finalize payload command flags returnCode expectResponse).length =
      bucketHead2Size + payload.length := by
  simp [finalize]

theorem makeFragmentedNotify_eq {noiseSize : Nat} (large : bucketHead2Size * 2 ≤ noiseSize)
    (command : Nat) (message : List UInt8) :
    makeFragmentedNotify noiseSize command message =
      some ((notifyFrames noiseSize command message).map Frame.bytes).flatten := by
  have space : 0 < noiseSize - bucketHead2Size := by
    simp only [bucketHead2Size] at large ⊢
    omega
  unfold makeFragmentedNotify notifyFrames
  rw [if_neg (Nat.not_lt.mpr large)]
  by_cases one : bucketHead2Size + message.length ≤ noiseSize
  · rw [if_pos one, if_pos one, List.map_singleton, List.flatten_singleton,
      ← Message.bytes_eq_frame_bytes]
    rfl
  · rw [if_neg one, if_neg one]
    have payloadLength := length_finalize message command levinPacketRequest 0 false
    have rest : (finalizeNotify message command).drop (noiseSize - bucketHead2Size) ≠ [] := by
      rw [← List.length_pos_iff, List.length_drop]
      change (finalize message command levinPacketRequest 0 false).length - _ > 0
      omega
    dsimp only
    rw [Nat.sub_right_comm, fragmentLoop_eq space _ rest (by rw [List.length_drop]; omega)]
    simp only [List.map_cons, List.flatten_cons, Frame.bytes, List.append_assoc]

theorem length_notifyFrames_head {noiseSize : Nat} (large : bucketHead2Size * 2 ≤ noiseSize)
    (command : Nat) {message : List UInt8} (one : ¬bucketHead2Size + message.length ≤ noiseSize) :
    ((finalizeNotify message command).take (noiseSize - bucketHead2Size)).length =
      noiseSize - bucketHead2Size := by
  rw [List.length_take, finalizeNotify, length_finalize]
  omega

theorem wellFormed_notifyFrames {noiseSize : Nat} (large : bucketHead2Size * 2 ≤ noiseSize)
    {command : Nat} (small : command < 2 ^ 32) (fits : noiseSize - bucketHead2Size < 2 ^ 64)
    (message : List UInt8) :
    ∀ f ∈ notifyFrames noiseSize command message, f.WellFormed ∧ f.bytes.length = noiseSize := by
  have space : bucketHead2Size ≤ noiseSize := by
    simp only [bucketHead2Size] at large ⊢
    omega
  unfold notifyFrames
  by_cases one : bucketHead2Size + message.length ≤ noiseSize
  · rw [if_pos one]
    intro f mem
    rw [List.mem_singleton] at mem
    subst mem
    have length : (message ++ List.replicate (noiseSize - (bucketHead2Size + message.length)) 0).length =
        noiseSize - bucketHead2Size := by
      simp only [List.length_append, List.length_replicate]
      omega
    refine ⟨Message.wellFormed_frame ⟨small, (show 0 < 2 ^ 32 by decide), ?_⟩, ?_⟩
    · simpa only [Message.payload, length] using fits
    · rw [Frame.length_bytes]
      simp only [Message.frame, Message.payload, length]
      omega
  · rw [if_neg one]
    have signature : levinSignature < 2 ^ 64 := by decide
    have zero : 0 < 2 ^ 32 := by decide
    have version : levinProtocolVer1 < 2 ^ 32 := by decide
    have begin : (makeHeader 0 (noiseSize - bucketHead2Size) levinPacketBegin false).Fits :=
      ⟨signature, fits, zero, zero, (show levinPacketBegin < 2 ^ 32 by decide), version⟩
    have middle : ({ makeHeader 0 (noiseSize - bucketHead2Size) levinPacketBegin false with
        flags := 0 } : BucketHead2).Fits := ⟨signature, fits, zero, zero, zero, version⟩
    intro f mem
    rcases List.mem_cons.mp mem with rfl | mem
    · have length := length_notifyFrames_head large command one
      refine ⟨⟨begin, rfl, length.symm⟩, ?_⟩
      rw [Frame.length_bytes, length]
      omega
    · obtain ⟨wf, length⟩ := wellFormed_fragmentFrames middle rfl
        (show ({ makeHeader 0 (noiseSize - bucketHead2Size) levinPacketBegin false with
          flags := 0 } : BucketHead2).cb = noiseSize - bucketHead2Size from rfl) _ _ f mem
      refine ⟨wf, ?_⟩
      rw [Frame.length_bytes, length]
      omega

/-- The frames of a fragmented notification are all `noise_size` bytes long, and well formed: a
peer that sends only such notifications and noise sends frames of one size. -/
theorem makeFragmentedNotify_frames {noiseSize command : Nat} {message bytes : List UInt8}
    (made : makeFragmentedNotify noiseSize command message = some bytes)
    (small : command < 2 ^ 32) (fits : noiseSize < 2 ^ 64) :
    ∃ frames : List Frame, bytes = (frames.map Frame.bytes).flatten ∧
      ∀ f ∈ frames, f.WellFormed ∧ f.bytes.length = noiseSize := by
  have large : bucketHead2Size * 2 ≤ noiseSize := by
    by_contra small
    rw [makeFragmentedNotify, if_pos (Nat.lt_of_not_le small)] at made
    cases made
  rw [makeFragmentedNotify_eq large, Option.some.injEq] at made
  exact ⟨notifyFrames noiseSize command message, made.symm,
    wellFormed_notifyFrames large small (by omega) message⟩

theorem makeFragmentedNotify_frames_fragmented :
    makeFragmentedNotify 70 2002 (List.replicate 50 7) =
        some ((notifyFrames 70 2002 (List.replicate 50 7)).map Frame.bytes).flatten ∧
      ∃ frames : List Frame,
        ((notifyFrames 70 2002 (List.replicate 50 7)).map Frame.bytes).flatten =
          (frames.map Frame.bytes).flatten ∧ ∀ f ∈ frames, f.WellFormed ∧ f.bytes.length = 70 := by
  have made := makeFragmentedNotify_eq (show bucketHead2Size * 2 ≤ 70 by decide) 2002
    (List.replicate 50 7)
  exact ⟨made, makeFragmentedNotify_frames made (by decide) (by decide)⟩

example : (notifyFrames 70 2002 (List.replicate 50 7)).length = 3 := by decide

/-! ### Gathering fragments -/

/-- The zeros after `n` bytes cut into pieces of `payloadSpace` that fill the last piece. -/
def fragmentPadding (payloadSpace n : Nat) : Nat := (payloadSpace - n % payloadSpace) % payloadSpace

theorem fragmentPadding_of_le {payloadSpace n : Nat} (pos : 0 < n) (le : n ≤ payloadSpace) :
    fragmentPadding payloadSpace n = payloadSpace - n := by
  unfold fragmentPadding
  rcases Nat.lt_or_eq_of_le le with lt | rfl
  · rw [Nat.mod_eq_of_lt lt, Nat.mod_eq_of_lt (by omega)]
  · rw [Nat.mod_self, Nat.sub_zero, Nat.mod_self, Nat.sub_self]

theorem fragmentPadding_sub {payloadSpace n : Nat} (le : payloadSpace ≤ n) :
    fragmentPadding payloadSpace (n - payloadSpace) = fragmentPadding payloadSpace n := by
  unfold fragmentPadding
  rw [← Nat.mod_eq_sub_mod le]

theorem fragmentPadding_lt {payloadSpace : Nat} (pos : 0 < payloadSpace) (n : Nat) :
    fragmentPadding payloadSpace n < payloadSpace :=
  Nat.mod_lt _ pos

section Gather

variable (maxBytes : Nat → Nat)

theorem receiveFrames_singleton (c : Connection) (f : Frame) :
    receiveFrames maxBytes c [f] = receiveFrame maxBytes c f := by
  simp only [receiveFrames, bind, Except.bind, pure, Except.pure]
  cases receiveFrame maxBytes c f <;> simp

theorem receiveFrames_cons_of_silent {c c' : Connection} {f : Frame} (fs : List Frame)
    (silent : receiveFrame maxBytes c f = .ok (c', [])) :
    receiveFrames maxBytes c (f :: fs) = receiveFrames maxBytes c' fs := by
  simp only [receiveFrames, silent, bind, Except.bind, pure, Except.pure]
  cases receiveFrames maxBytes c' fs <;> simp

/-- A fragment that is not the last: gathered, from scratch at the begin flag. -/
theorem receiveFrame_fragment {c : Connection} {head : BucketHead2} {body : List UInt8}
    (signature : head.signature = levinSignature)
    (allowed : head.cb ≤ min c.maxPacketSize (maxBytes head.command))
    (fragment : head.flags &&& (levinPacketRequest ||| levinPacketResponse) = 0)
    (notNoise : head.flags &&& (levinPacketBegin ||| levinPacketEnd) ≠
      levinPacketBegin ||| levinPacketEnd)
    (notLast : head.flags &&& levinPacketEnd = 0) :
    receiveFrame maxBytes c ⟨head, body⟩ =
      .ok ({ c with
        currentHead := head
        oponentProtocolVer := head.protocolVersion
        fragmentBuffer :=
          (if head.flags &&& levinPacketBegin ≠ 0 then [] else c.fragmentBuffer) ++ body }, []) := by
  simp only [receiveFrame, signature, ne_eq, not_true_eq_false, if_false, bind, Except.bind,
    checkPacketSize, gt_iff_lt, if_neg (Nat.not_lt.mpr allowed), pure, Except.pure, processBody,
    fragment, if_true, if_neg notNoise, notLast]

/-- The last fragment adds its body to what is gathered, and goes on as if all of it had come at
once. -/
theorem processBody_end {c : Connection} (last : c.currentHead.flags = levinPacketEnd)
    (buff : List UInt8) :
    processBody maxBytes c buff =
      processBody maxBytes { c with fragmentBuffer := c.fragmentBuffer ++ buff } [] := by
  simp [processBody, last, levinPacketEnd, levinPacketBegin, levinPacketRequest,
    levinPacketResponse]

theorem receiveFrames_fragmentFrames {payloadSpace : Nat} (pos : 0 < payloadSpace)
    {head : BucketHead2} (signature : head.signature = levinSignature)
    (cb : head.cb = payloadSpace) (middle : head.flags = 0) {c : Connection}
    (allowed : payloadSpace ≤ min c.maxPacketSize (maxBytes head.command)) {fuel : Nat}
    {payload : List UInt8} (nonempty : payload ≠ []) (enough : payload.length ≤ fuel) :
    receiveFrames maxBytes c (fragmentFrames payloadSpace head fuel payload) =
      processBody maxBytes
        { c with
          currentHead := { head with flags := levinPacketEnd }
          oponentProtocolVer := head.protocolVersion
          fragmentBuffer := c.fragmentBuffer ++ payload ++
            List.replicate (fragmentPadding payloadSpace payload.length) 0 } [] := by
  induction fuel generalizing payload c with
  | zero => exact absurd (List.eq_nil_of_length_eq_zero (Nat.le_zero.mp enough)) nonempty
  | succ fuel ih =>
    have full : payload.isEmpty = false := List.isEmpty_eq_false_iff.mpr nonempty
    by_cases last : (payload.drop payloadSpace).isEmpty
    · have short : payload.length ≤ payloadSpace := by
        simpa only [List.isEmpty_iff, List.drop_eq_nil_iff] using last
      simp only [fragmentFrames, full, last, Bool.false_eq_true, ↓reduceIte]
      rw [receiveFrames_singleton]
      simp only [receiveFrame, signature, ne_eq, not_true_eq_false, if_false, bind, Except.bind,
        checkPacketSize, gt_iff_lt, cb, if_neg (Nat.not_lt.mpr allowed), pure, Except.pure]
      rw [processBody_end maxBytes rfl, fragmentPadding_of_le (List.length_pos_iff.mpr nonempty) short,
        List.append_assoc]
    · have rest : payload.drop payloadSpace ≠ [] := fun empty => last (List.isEmpty_iff.mpr empty)
      have long : payloadSpace < payload.length := by
        simpa only [List.isEmpty_iff, List.drop_eq_nil_iff, Nat.not_le] using last
      have gathered := @receiveFrame_fragment maxBytes c head (payload.take payloadSpace)
        signature (cb ▸ allowed) (by rw [middle]; decide) (by rw [middle]; decide)
        (by rw [middle]; decide)
      rw [middle, if_neg (by decide)] at gathered
      simp only [fragmentFrames, full, last, Bool.false_eq_true, ↓reduceIte]
      rw [receiveFrames_cons_of_silent maxBytes _ gathered,
        ih (c := { c with
          currentHead := head
          oponentProtocolVer := head.protocolVersion
          fragmentBuffer := c.fragmentBuffer ++ payload.take payloadSpace })
          allowed rest (by rw [List.length_drop]; omega), List.length_drop,
        fragmentPadding_sub long.le, List.append_assoc c.fragmentBuffer, List.take_append_drop]

theorem dispatchMessage_notify {c : Connection} (request : c.currentHead.flags = levinPacketRequest)
    (notify : c.currentHead.haveToReturnData = false) (buff : List UInt8) :
    dispatchMessage c buff = .ok (c, [.notify c.currentHead.command buff]) := by
  simp [dispatchMessage, request, notify, levinPacketRequest, levinPacketResponse, pure, Except.pure]

/-- What the last fragment completes is read as a header and its body. -/
theorem processBody_gathered {c : Connection} (last : c.currentHead.flags = levinPacketEnd)
    {inner : BucketHead2} {body : List UInt8} (gathered : c.fragmentBuffer = inner.toBytes ++ body)
    (fits : inner.Fits) (allowed : inner.cb ≤ min c.maxPacketSize (maxBytes inner.command)) :
    processBody maxBytes c [] =
      dispatchMessage { c with fragmentBuffer := [], currentHead := inner } body := by
  have whole : ¬(inner.toBytes ++ body).length < bucketHead2Size := by simp
  simp only [processBody, last, gathered, List.append_nil]
  rw [if_pos (show levinPacketEnd &&& (levinPacketRequest ||| levinPacketResponse) = 0 by decide),
    if_neg (show levinPacketEnd &&& (levinPacketBegin ||| levinPacketEnd) ≠
      levinPacketBegin ||| levinPacketEnd by decide),
    if_neg (show ¬(levinPacketEnd &&& levinPacketBegin ≠ 0) by decide),
    if_neg (show ¬(levinPacketEnd &&& levinPacketEnd = 0) by decide), if_neg whole,
    ofBytes_toBytes_append fits]
  simp only [bind, Except.bind, checkPacketSize, gt_iff_lt, if_neg (Nat.not_lt.mpr allowed), pure,
    Except.pure, List.drop_left' (length_toBytes inner)]

theorem receiveFrames_notifyFrames {noiseSize : Nat} (large : bucketHead2Size * 2 ≤ noiseSize)
    {command : Nat} (small : command < 2 ^ 32) (message : List UInt8) {c : Connection}
    (limit : c.maxPacketSize < 2 ^ 64)
    (allowed : max (noiseSize - bucketHead2Size) message.length ≤
      min c.maxPacketSize (maxBytes command))
    (fragmentAllowed : noiseSize - bucketHead2Size ≤ maxBytes 0) :
    ∃ pad c', receiveFrames maxBytes c (notifyFrames noiseSize command message) =
        .ok (c', [.notify command (message ++ List.replicate pad 0)]) ∧
      pad ≤ noiseSize - bucketHead2Size ∧ c'.cacheInBuffer = c.cacheInBuffer ∧ c'.state = c.state := by
  have space : bucketHead2Size < noiseSize := by
    simp only [bucketHead2Size] at large ⊢
    omega
  unfold notifyFrames
  by_cases one : bucketHead2Size + message.length ≤ noiseSize
  · rw [if_pos one, receiveFrames_singleton, receiveFrame_message maxBytes ?_ fun response => by cases response]
    · exact ⟨_, _, rfl, by omega, rfl, rfl⟩
    · simp only [Message.payload, Message.command, List.length_append, List.length_replicate]
      omega
  · rw [if_neg one]
    dsimp only
    obtain ⟨toMax, toCommand⟩ := le_min_iff.mp allowed
    have spaceAllowed : noiseSize - bucketHead2Size ≤ min c.maxPacketSize (maxBytes 0) :=
      le_min (max_le_iff.mp toMax).1 fragmentAllowed
    have payloadLength := length_finalize message command levinPacketRequest 0 false
    have rest : (finalizeNotify message command).drop (noiseSize - bucketHead2Size) ≠ [] := by
      rw [← List.length_pos_iff, List.length_drop]
      change (finalize message command levinPacketRequest 0 false).length - _ > 0
      omega
    have first := @receiveFrame_fragment maxBytes c
      (makeHeader 0 (noiseSize - bucketHead2Size) levinPacketBegin false)
      ((finalizeNotify message command).take (noiseSize - bucketHead2Size)) rfl spaceAllowed
      (show levinPacketBegin &&& (levinPacketRequest ||| levinPacketResponse) = 0 by decide)
      (show levinPacketBegin &&& (levinPacketBegin ||| levinPacketEnd) ≠
        levinPacketBegin ||| levinPacketEnd by decide)
      (show levinPacketBegin &&& levinPacketEnd = 0 by decide)
    have begin : (makeHeader 0 (noiseSize - bucketHead2Size) levinPacketBegin false).flags &&&
        levinPacketBegin ≠ 0 := show levinPacketBegin &&& levinPacketBegin ≠ 0 by decide
    rw [if_pos begin, List.nil_append] at first
    have inner : ({ makeHeader command message.length levinPacketRequest false with
        returnCode := 0 } : BucketHead2).Fits :=
      (makeHeader_fits small (lt_of_le_of_lt (max_le_iff.mp toMax).2 limit)
        (show levinPacketRequest < 2 ^ 32 by decide) false).withReturnCode
        (show 0 < 2 ^ 32 by decide)
    have frames := @receiveFrames_fragmentFrames maxBytes (noiseSize - bucketHead2Size) (by omega)
      { makeHeader 0 (noiseSize - bucketHead2Size) levinPacketBegin false with flags := 0 } rfl rfl
      rfl
      { c with
        currentHead := makeHeader 0 (noiseSize - bucketHead2Size) levinPacketBegin false
        oponentProtocolVer := (makeHeader 0 (noiseSize - bucketHead2Size) levinPacketBegin false).protocolVersion
        fragmentBuffer := (finalizeNotify message command).take (noiseSize - bucketHead2Size) }
      spaceAllowed (finalizeNotify message command).length _ rest (by simp)
    dsimp only at frames
    rw [receiveFrames_cons_of_silent maxBytes _ first, frames,
      @processBody_gathered maxBytes _ rfl _ (message ++ List.replicate (fragmentPadding
        (noiseSize - bucketHead2Size)
        ((finalizeNotify message command).drop (noiseSize - bucketHead2Size)).length) 0) ?_ inner ?_,
      dispatchMessage_notify rfl rfl]
    · refine ⟨_, _, rfl, ?_, rfl, rfl⟩
      have := fragmentPadding_lt (show 0 < noiseSize - bucketHead2Size by omega)
        ((finalizeNotify message command).drop (noiseSize - bucketHead2Size)).length
      omega
    · show (finalizeNotify message command).take (noiseSize - bucketHead2Size) ++ _ ++ _ = _
      rw [List.take_append_drop, ← List.append_assoc]
      rfl
    · exact le_min (max_le_iff.mp toMax).2 (max_le_iff.mp toCommand).2

theorem fragmentBytes_le (fs : List Frame) : fragmentBytes fs ≤ (fs.map Frame.bytes).flatten.length := by
  induction fs with
  | nil => simp [fragmentBytes]
  | cons f fs ih =>
    have single : fragmentBytes [f] ≤ f.bytes.length := by
      rw [Frame.length_bytes]
      simp only [fragmentBytes, List.filter_cons, List.filter_nil]
      split <;> simp
    rw [fragmentBytes_cons, List.map_cons, List.flatten_cons, List.length_append]
    omega

/-- A fragmented notification, its bytes cut into pieces of any size with room beside a frame and
all the bytes, is handed on as the notification with some zeros after it, fewer than fill a
frame's body. -/
theorem receive_makeFragmentedNotify {noiseSize command : Nat} {message bytes : List UInt8}
    (made : makeFragmentedNotify noiseSize command message = some bytes) (small : command < 2 ^ 32)
    {c : Connection} (atRest : c.cacheInBuffer = []) (atHead : c.state = .head)
    (limit : c.maxPacketSize < 2 ^ 64)
    (allowed : max (noiseSize - bucketHead2Size) message.length ≤
      min c.maxPacketSize (maxBytes command))
    (fragmentAllowed : noiseSize - bucketHead2Size ≤ maxBytes 0)
    {chunks : List (List UInt8)} (stream : chunks.flatten = bytes)
    (room : ∀ chunk ∈ chunks,
      chunk.length + noiseSize + (c.fragmentBuffer.length + bytes.length) ≤ c.maxPacketSize) :
    ∃ pad c', receive maxBytes c chunks = .ok (c', [.notify command (message ++ List.replicate pad 0)]) ∧
      pad ≤ noiseSize - bucketHead2Size ∧ c'.cacheInBuffer = [] ∧ c'.state = .head := by
  have large : bucketHead2Size * 2 ≤ noiseSize := by
    by_contra tooSmall
    rw [makeFragmentedNotify, if_pos (Nat.lt_of_not_le tooSmall)] at made
    cases made
  rw [makeFragmentedNotify_eq large, Option.some.injEq] at made
  subst made
  have spaceFits : noiseSize - bucketHead2Size < 2 ^ 64 :=
    lt_of_le_of_lt (max_le_iff.mp (le_min_iff.mp allowed).1).1 limit
  have frames := wellFormed_notifyFrames large small spaceFits message
  obtain ⟨pad, c', received, padded, cache, state⟩ :=
    receiveFrames_notifyFrames maxBytes large small message limit allowed fragmentAllowed
  refine ⟨pad, c', ?_, padded, cache.trans atRest, state.trans atHead⟩
  rw [← received]
  exact receive_of_parked maxBytes atRest atHead (fun f mem => (frames f mem).1)
    (fun f mem => le_of_eq (frames f mem).2) (partialOf_nil _) (by rw [List.nil_append, stream])
    (park_nil maxBytes atRest atHead) (Nat.add_le_add_left (fragmentBytes_le _) _) room

theorem receive_makeFragmentedNotify_three_fragments :
    makeFragmentedNotify 70 2002 (List.replicate 50 7) =
        some ((notifyFrames 70 2002 (List.replicate 50 7)).map Frame.bytes).flatten ∧
      ∃ pad c', receive getMaxBytes ⟨10000, [], [], .head, makeHeader 0 0 0 false, 0, 0, 0⟩
          [(((notifyFrames 70 2002 (List.replicate 50 7)).map Frame.bytes).flatten).take 100,
            (((notifyFrames 70 2002 (List.replicate 50 7)).map Frame.bytes).flatten).drop 100] =
          .ok (c', [.notify 2002 (List.replicate 50 7 ++ List.replicate pad 0)]) ∧
        pad ≤ 70 - bucketHead2Size ∧ c'.cacheInBuffer = [] ∧ c'.state = .head := by
  have made := makeFragmentedNotify_eq (show bucketHead2Size * 2 ≤ 70 by decide) 2002
    (List.replicate 50 7)
  have each := wellFormed_notifyFrames (show bucketHead2Size * 2 ≤ 70 by decide)
    (show 2002 < 2 ^ 32 by decide) (show 70 - bucketHead2Size < 2 ^ 64 by decide) (List.replicate 50 7)
  have count : (notifyFrames 70 2002 (List.replicate 50 7)).length = 3 := by decide
  have length : ((notifyFrames 70 2002 (List.replicate 50 7)).map Frame.bytes).flatten.length = 210 := by
    have same : ∀ f ∈ notifyFrames 70 2002 (List.replicate 50 7),
        (List.length ∘ Frame.bytes) f = (fun _ => 70) f := fun f mem => (each f mem).2
    rw [List.length_flatten, List.map_map, List.map_congr_left same, List.map_const', count]
    rfl
  have room : ∀ chunk ∈ [(((notifyFrames 70 2002 (List.replicate 50 7)).map Frame.bytes).flatten).take 100,
      (((notifyFrames 70 2002 (List.replicate 50 7)).map Frame.bytes).flatten).drop 100],
      chunk.length + 70 + (([] : List UInt8).length +
        ((notifyFrames 70 2002 (List.replicate 50 7)).map Frame.bytes).flatten.length) ≤ 10000 := by
    intro chunk mem
    simp only [List.mem_cons, List.not_mem_nil, or_false] at mem
    rcases mem with rfl | rfl <;>
      simp only [List.length_take, List.length_drop, List.length_nil, length] <;> omega
  have allowed : max (70 - bucketHead2Size) (List.replicate 50 (7 : UInt8)).length ≤
      min 10000 (getMaxBytes 2002) := by
    rw [List.length_replicate]
    decide
  exact ⟨made, receive_makeFragmentedNotify getMaxBytes made (show 2002 < 2 ^ 32 by decide) rfl
    rfl (show 10000 < 2 ^ 64 by decide) allowed (show 70 - bucketHead2Size ≤ getMaxBytes 0 by decide)
    (by rw [List.flatten_cons, List.flatten_cons, List.flatten_nil, List.append_nil,
      List.take_append_drop]) (by simp only [List.length_nil] at room ⊢; exact room)⟩

end Gather

end Sumokoin.Epee.Levin
