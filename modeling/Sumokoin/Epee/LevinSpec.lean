import Sumokoin.Epee.Levin

/-! The receive path of a levin connection against frames received one at a time. A frame on the
wire is a header and its body; `receiveFrame` is what the connection does with one whole frame:
the checks of its header, then its body (`processBody`). However the bytes of a stream of frames
are cut into the pieces `handle_recv` gets, the connection hands on what it would hand on for the
frames one at a time, and fails where that fails (`receive_eq_receiveFrames`), as long as each
piece fits beside a frame and the fragments gathered. -/

namespace Sumokoin.Epee.Levin

open Sumokoin.ProofKit

/-! ### Headers -/

/-- A header whose fields fit their widths in `bucket_head2`. -/
structure BucketHead2.Fits (head : BucketHead2) : Prop where
  signature : head.signature < 2 ^ 64
  cb : head.cb < 2 ^ 64
  command : head.command < 2 ^ 32
  returnCode : head.returnCode < 2 ^ 32
  flags : head.flags < 2 ^ 32
  protocolVersion : head.protocolVersion < 2 ^ 32

@[simp] theorem length_toBytes (head : BucketHead2) : head.toBytes.length = bucketHead2Size := by
  simp [BucketHead2.toBytes, bucketHead2Size]

theorem ofBytes_toBytes_append {head : BucketHead2} (fits : head.Fits) (rest : List UInt8) :
    BucketHead2.ofBytes (head.toBytes ++ rest) = head := by
  have e64 : (256 : Nat) ^ 8 = 2 ^ 64 := by norm_num
  have e32 : (256 : Nat) ^ 4 = 2 ^ 32 := by norm_num
  simp (disch := omega) only [BucketHead2.toBytes, BucketHead2.ofBytes, List.append_assoc,
    List.cons_append, List.nil_append, List.take_append, List.drop_append, length_leBytes,
    take_leBytes_of_le, drop_leBytes_of_le, List.take_zero, List.drop_zero, List.append_nil,
    Nat.reduceSub, List.drop_succ_cons, List.getD_eq_getElem?_getD]
  rw [leValue_leBytes_of_lt (e64 ▸ fits.signature), leValue_leBytes_of_lt (e64 ▸ fits.cb),
    leValue_leBytes_of_lt (e32 ▸ fits.command), leValue_leBytes_of_lt (e32 ▸ fits.returnCode),
    leValue_leBytes_of_lt (e32 ▸ fits.flags), leValue_leBytes_of_lt (e32 ▸ fits.protocolVersion)]
  cases head with
  | mk signature cb haveToReturnData command returnCode flags protocolVersion =>
    cases haveToReturnData <;> rfl

/-- A header is read from the first `33` bytes alone. -/
theorem ofBytes_append {bytes : List UInt8} (long : bucketHead2Size ≤ bytes.length)
    (rest : List UInt8) : BucketHead2.ofBytes (bytes ++ rest) = BucketHead2.ofBytes bytes := by
  simp only [bucketHead2Size] at long
  simp (disch := first | omega | (simp only [List.length_drop]; omega)) only [BucketHead2.ofBytes,
    List.take_append_of_le_length, List.drop_append_of_le_length, List.getD_append]

/-! ### Frames -/

/-- A frame on the wire: a header and the body it announces. -/
structure Frame where
  head : BucketHead2
  body : List UInt8
  deriving DecidableEq, Repr

def Frame.bytes (f : Frame) : List UInt8 := f.head.toBytes ++ f.body

/-- A frame as a writer makes it: fields that fit, the signature, and the size of its body. -/
structure Frame.WellFormed (f : Frame) : Prop where
  fits : f.head.Fits
  signature : f.head.signature = levinSignature
  cb : f.head.cb = f.body.length

theorem Frame.length_bytes (f : Frame) : f.bytes.length = bucketHead2Size + f.body.length := by
  rw [Frame.bytes, List.length_append, length_toBytes]

/-- The first bytes of a frame, once they hold the header, hold the frame's header. -/
theorem Frame.ofBytes_of_prefix {f : Frame} (wf : f.WellFormed) {q : List UInt8}
    (pre : q <+: f.bytes) (long : bucketHead2Size ≤ q.length) : BucketHead2.ofBytes q = f.head := by
  obtain ⟨rest, whole⟩ := pre
  rw [← ofBytes_append long rest, whole, Frame.bytes, ofBytes_toBytes_append wf.fits]

/-- Once eight bytes of a frame are there, they are the signature. -/
theorem Frame.signature_of_prefix {f : Frame} (wf : f.WellFormed) {q : List UInt8}
    (pre : q <+: f.bytes) (eight : 8 ≤ q.length) : leValue (q.take 8) = levinSignature := by
  obtain ⟨rest, whole⟩ := pre
  have first : q.take 8 = leBytes 8 f.head.signature := by
    have := congrArg (List.take 8) whole
    rw [List.take_append_of_le_length eight] at this
    rw [this, Frame.bytes, BucketHead2.toBytes]
    simp only [List.append_assoc]
    exact List.take_left' (length_leBytes 8 _)
  rw [first, leValue_leBytes_of_lt (by rw [wf.signature]; decide), wf.signature]

/-- What a connection does with a whole frame: the checks of its header, then its body. -/
def receiveFrame (maxBytes : Nat → Nat) (c : Connection) (f : Frame) :
    Except String (Connection × List Dispatch) :=
  if f.head.signature ≠ levinSignature then throw "Signature mismatch, connection will be closed"
  else do
    let c := { c with currentHead := f.head, oponentProtocolVer := f.head.protocolVersion }
    checkPacketSize maxBytes c f.head
    processBody maxBytes c f.body

/-- Frames received one at a time, and what they hand on in order. -/
def receiveFrames (maxBytes : Nat → Nat) :
    Connection → List Frame → Except String (Connection × List Dispatch)
  | c, [] => pure (c, [])
  | c, f :: fs => do
    let (c, dispatched) ← receiveFrame maxBytes c f
    let (c, later) ← receiveFrames maxBytes c fs
    pure (c, dispatched ++ later)

/-! ### What the parser leaves alone -/

theorem dispatchMessage_buffers (c : Connection) (buff cache : List UInt8) (state : StreamState) :
    dispatchMessage { c with cacheInBuffer := cache, state := state } buff =
      (dispatchMessage c buff).map fun r => ({ r.1 with cacheInBuffer := cache, state := state }, r.2) := by
  simp only [dispatchMessage]
  split_ifs <;> rfl

theorem processBody_buffers (maxBytes : Nat → Nat) (c : Connection) (buff cache : List UInt8)
    (state : StreamState) :
    processBody maxBytes { c with cacheInBuffer := cache, state := state } buff =
      (processBody maxBytes c buff).map fun r => ({ r.1 with cacheInBuffer := cache, state := state }, r.2) := by
  simp only [processBody]
  split_ifs
  all_goals first
    | rfl
    | exact dispatchMessage_buffers c buff cache state
    | simp only [bind, Except.bind, checkPacketSize]
      split_ifs
      · rfl
      · exact dispatchMessage_buffers { c with fragmentBuffer := [], currentHead := _ } _ cache state

theorem receiveFrame_buffers (maxBytes : Nat → Nat) (c : Connection) (f : Frame)
    (cache : List UInt8) (state : StreamState) :
    receiveFrame maxBytes { c with cacheInBuffer := cache, state := state } f =
      (receiveFrame maxBytes c f).map fun r => ({ r.1 with cacheInBuffer := cache, state := state }, r.2) := by
  unfold receiveFrame
  split_ifs
  · rfl
  · simp only [bind, Except.bind, checkPacketSize]
    split_ifs
    · rfl
    · exact processBody_buffers maxBytes
        { c with currentHead := f.head, oponentProtocolVer := f.head.protocolVersion } f.body cache state

/-! ### The loop of `handle_recv` -/

section Loop

variable (maxBytes : Nat → Nat)

theorem recvLoop_head_of_lt (fuel : Nat) {c : Connection} (head : c.state = .head)
    (short : c.cacheInBuffer.length < bucketHead2Size)
    (signature : 8 ≤ c.cacheInBuffer.length → leValue (c.cacheInBuffer.take 8) = levinSignature)
    (out : List Dispatch) : recvLoop maxBytes (fuel + 1) c out = pure (c, out) := by
  simp only [recvLoop, head, if_pos short]
  rw [if_neg fun bad => bad.2 (signature bad.1)]

theorem recvLoop_head (fuel : Nat) {c : Connection} (head : c.state = .head)
    (long : bucketHead2Size ≤ c.cacheInBuffer.length)
    (signature : (BucketHead2.ofBytes c.cacheInBuffer).signature = levinSignature) (out : List Dispatch) :
    recvLoop maxBytes (fuel + 1) c out =
      (checkPacketSize maxBytes c (BucketHead2.ofBytes c.cacheInBuffer)).bind fun _ =>
        recvLoop maxBytes fuel
          { c with
            currentHead := BucketHead2.ofBytes c.cacheInBuffer
            cacheInBuffer := c.cacheInBuffer.drop bucketHead2Size
            state := .body
            oponentProtocolVer := (BucketHead2.ofBytes c.cacheInBuffer).protocolVersion } out := by
  simp only [recvLoop, head, if_neg (Nat.not_lt.mpr long), signature, ne_eq, not_true_eq_false,
    if_false]
  rfl

theorem recvLoop_body_of_lt (fuel : Nat) {c : Connection} (body : c.state = .body)
    (short : c.cacheInBuffer.length < c.currentHead.cb) (out : List Dispatch) :
    recvLoop maxBytes (fuel + 1) c out = pure (c, out) := by
  simp only [recvLoop, body, if_pos short]

theorem recvLoop_body (fuel : Nat) {c : Connection} (body : c.state = .body)
    (full : c.currentHead.cb ≤ c.cacheInBuffer.length) (out : List Dispatch) :
    recvLoop maxBytes (fuel + 1) c out =
      (processBody maxBytes
          { c with cacheInBuffer := c.cacheInBuffer.drop c.currentHead.cb, state := .head }
          (c.cacheInBuffer.take c.currentHead.cb)).bind fun r =>
        recvLoop maxBytes fuel r.1 (out ++ r.2) := by
  simp only [recvLoop, body, if_neg (Nat.not_lt.mpr full)]
  rfl

theorem receiveFrame_of_wellFormed {f : Frame} (wf : f.WellFormed) (c : Connection) :
    receiveFrame maxBytes c f =
      (checkPacketSize maxBytes c f.head).bind fun _ =>
        processBody maxBytes { c with currentHead := f.head, oponentProtocolVer := f.head.protocolVersion }
          f.body := by
  simp only [receiveFrame, wf.signature, ne_eq, not_true_eq_false, if_false]
  rfl

/-- The connection `c` holding the first bytes `q` of a frame and no whole frame: in the head state
while the header is not all there, else in the body state once the header passed its checks. -/
def park (c : Connection) (q : List UInt8) : Except String Connection :=
  if q.length < bucketHead2Size then pure { c with cacheInBuffer := q, state := .head }
  else if (BucketHead2.ofBytes q).signature ≠ levinSignature then
    throw "Signature mismatch, connection will be closed"
  else do
    checkPacketSize maxBytes c (BucketHead2.ofBytes q)
    pure { c with
      currentHead := BucketHead2.ofBytes q
      cacheInBuffer := q.drop bucketHead2Size
      state := .body
      oponentProtocolVer := (BucketHead2.ofBytes q).protocolVersion }

/-- `q` is the first bytes of the first of `next`, short of all of it, and nothing when `next` is
empty. -/
def PartialOf (q : List UInt8) : List Frame → Prop
  | [] => q = []
  | f :: _ => q <+: f.bytes ∧ q.length < f.bytes.length

/-- A loop over the first bytes of a frame parks them. -/
theorem recvLoop_park {q : List UInt8} {next : List Frame} (wf : ∀ f ∈ next, f.WellFormed)
    (short : PartialOf q next) (c : Connection) (out : List Dispatch) (fuel : Nat) :
    recvLoop maxBytes (fuel + 2) { c with cacheInBuffer := q, state := .head } out =
      (park maxBytes c q).map fun c' => (c', out) := by
  cases next with
  | nil =>
    obtain rfl : q = [] := short
    rw [recvLoop_head_of_lt maxBytes (fuel + 1) rfl (by simp [bucketHead2Size]) (by simp)]
    rfl
  | cons f _ =>
    obtain ⟨pre, less⟩ := short
    have wfF := wf f List.mem_cons_self
    by_cases headPart : q.length < bucketHead2Size
    · rw [recvLoop_head_of_lt maxBytes (fuel + 1) rfl headPart
        (Frame.signature_of_prefix wfF pre), park, if_pos headPart]
      rfl
    · have header := Frame.ofBytes_of_prefix wfF pre (Nat.not_lt.mp headPart)
      have signature : (BucketHead2.ofBytes q).signature = levinSignature := by
        rw [header, wfF.signature]
      rw [recvLoop_head maxBytes (fuel + 1) rfl (Nat.not_lt.mp headPart) signature, park,
        if_neg headPart, if_neg (not_not.mpr signature)]
      by_cases tooBig : (BucketHead2.ofBytes q).cb > min c.maxPacketSize (maxBytes (BucketHead2.ofBytes q).command)
      · simp only [checkPacketSize, tooBig, if_true]
        rfl
      · have bodyPart : (q.drop bucketHead2Size).length < (BucketHead2.ofBytes q).cb := by
          rw [header, wfF.cb, List.length_drop]
          have := f.length_bytes
          omega
        simp only [checkPacketSize, tooBig, if_false]
        exact recvLoop_body_of_lt maxBytes fuel
          (c := { c with
            currentHead := BucketHead2.ofBytes q
            cacheInBuffer := q.drop bucketHead2Size
            state := .body
            oponentProtocolVer := (BucketHead2.ofBytes q).protocolVersion }) rfl bodyPart out

/-- A loop over whole frames and the first bytes of the next receives the frames one at a time,
then parks the rest. -/
theorem recvLoop_frames {fs : List Frame} (wf : ∀ f ∈ fs, f.WellFormed) {q : List UInt8}
    {next : List Frame} (nextWf : ∀ f ∈ next, f.WellFormed) (short : PartialOf q next)
    (c : Connection) (out : List Dispatch) {fuel : Nat} (enough : 2 * fs.length + 2 ≤ fuel) :
    recvLoop maxBytes fuel
        { c with cacheInBuffer := (fs.map Frame.bytes).flatten ++ q, state := .head } out =
      (receiveFrames maxBytes c fs).bind fun r =>
        (park maxBytes r.1 q).map fun c' => (c', out ++ r.2) := by
  induction fs generalizing c out fuel with
  | nil =>
    obtain ⟨fuel, rfl⟩ : ∃ k, fuel = k + 2 := ⟨fuel - 2, by simp at enough; omega⟩
    rw [List.map_nil, List.flatten_nil, List.nil_append, recvLoop_park maxBytes nextWf short c out fuel]
    simp only [receiveFrames, pure, Except.pure, Except.bind, List.append_nil]
  | cons f fs ih =>
    have wfF := wf f List.mem_cons_self
    obtain ⟨fuel, rfl⟩ : ∃ k, fuel = k + 2 := ⟨fuel - 2, by simp at enough; omega⟩
    set rest := (fs.map Frame.bytes).flatten ++ q
    have cache : ((f :: fs).map Frame.bytes).flatten ++ q = f.head.toBytes ++ (f.body ++ rest) := by
      simp only [List.map_cons, List.flatten_cons, Frame.bytes, List.append_assoc, rest]
    have header : BucketHead2.ofBytes (((f :: fs).map Frame.bytes).flatten ++ q) = f.head := by
      rw [cache, ofBytes_toBytes_append wfF.fits]
    rw [recvLoop_head maxBytes (fuel + 1) rfl (by rw [cache]; simp)
      (by rw [header, wfF.signature])]
    simp only [header, receiveFrames, receiveFrame_of_wellFormed maxBytes wfF, checkPacketSize]
    by_cases tooBig : f.head.cb > min c.maxPacketSize (maxBytes f.head.command)
    · simp only [tooBig, if_true]
      rfl
    · simp only [tooBig, if_false]
      have dropped : (((f :: fs).map Frame.bytes).flatten ++ q).drop bucketHead2Size = f.body ++ rest := by
        rw [cache, List.drop_left' (length_toBytes f.head)]
      rw [recvLoop_body maxBytes fuel rfl (by rw [dropped, wfF.cb]; simp)]
      simp only [dropped, wfF.cb, List.drop_left', List.take_left']
      rw [processBody_buffers maxBytes
        { c with currentHead := f.head, oponentProtocolVer := f.head.protocolVersion } f.body rest .head]
      cases processBody maxBytes
          { c with currentHead := f.head, oponentProtocolVer := f.head.protocolVersion } f.body with
      | error e => rfl
      | ok r =>
        obtain ⟨c₁, dispatched⟩ := r
        simp only [Except.map, Except.bind, bind, pure, Except.pure]
        rw [ih (fun g mem => wf g (List.mem_cons_of_mem f mem)) c₁ (out ++ dispatched)
          (by simp at enough; omega)]
        cases receiveFrames maxBytes c₁ fs with
        | error e => rfl
        | ok r => simp only [Except.bind, Except.map, List.append_assoc]

/-! ### Frames one at a time -/

theorem receiveFrames_append (c : Connection) (fs₁ fs₂ : List Frame) :
    receiveFrames maxBytes c (fs₁ ++ fs₂) =
      (receiveFrames maxBytes c fs₁).bind fun r =>
        (receiveFrames maxBytes r.1 fs₂).map fun r' => (r'.1, r.2 ++ r'.2) := by
  induction fs₁ generalizing c with
  | nil =>
    simp only [List.nil_append, receiveFrames, pure, Except.pure, Except.bind, List.nil_append]
    cases receiveFrames maxBytes c fs₂ <;> rfl
  | cons f fs₁ ih =>
    simp only [List.cons_append, receiveFrames, bind, Except.bind]
    cases receiveFrame maxBytes c f with
    | error e => rfl
    | ok r =>
      simp only [ih r.1]
      cases receiveFrames maxBytes r.1 fs₁ with
      | error e => rfl
      | ok r' =>
        simp only [Except.bind, Except.map, pure, Except.pure]
        cases receiveFrames maxBytes r'.1 fs₂ <;> simp [List.append_assoc]

theorem dispatchMessage_kept {c c' : Connection} {buff : List UInt8} {dispatched : List Dispatch}
    (h : dispatchMessage c buff = .ok (c', dispatched)) :
    c'.cacheInBuffer = c.cacheInBuffer ∧ c'.state = c.state ∧ c'.maxPacketSize = c.maxPacketSize ∧
      c'.fragmentBuffer = c.fragmentBuffer := by
  simp only [dispatchMessage] at h
  split_ifs at h <;> cases h <;> exact ⟨rfl, rfl, rfl, rfl⟩

/-- Only a frame that is neither request nor response adds to the fragments gathered, and by no
more than its body. -/
theorem processBody_kept {c c' : Connection} {buff : List UInt8} {dispatched : List Dispatch}
    (h : processBody maxBytes c buff = .ok (c', dispatched)) :
    c'.cacheInBuffer = c.cacheInBuffer ∧ c'.state = c.state ∧ c'.maxPacketSize = c.maxPacketSize ∧
      c'.fragmentBuffer.length ≤ c.fragmentBuffer.length +
        if c.currentHead.flags &&& (levinPacketRequest ||| levinPacketResponse) = 0 then buff.length
        else 0 := by
  simp only [processBody] at h
  by_cases message : c.currentHead.flags &&& (levinPacketRequest ||| levinPacketResponse) = 0
  · rw [if_pos message] at h
    simp only [message, if_true]
    set fragment :=
      (if c.currentHead.flags &&& levinPacketBegin ≠ 0 then [] else c.fragmentBuffer) ++ buff
    have gathered : fragment.length ≤ c.fragmentBuffer.length + buff.length := by
      simp only [fragment]
      split <;> simp
    by_cases noise : c.currentHead.flags &&& (levinPacketBegin ||| levinPacketEnd) =
        levinPacketBegin ||| levinPacketEnd
    · rw [if_pos noise] at h
      cases h
      simp
    · rw [if_neg noise] at h
      by_cases final : c.currentHead.flags &&& levinPacketEnd = 0
      · rw [if_pos final] at h
        cases h
        exact ⟨rfl, rfl, rfl, gathered⟩
      · rw [if_neg final] at h
        by_cases small : fragment.length < bucketHead2Size
        · rw [if_pos small] at h
          cases h
        · rw [if_neg small] at h
          simp only [bind, Except.bind, checkPacketSize] at h
          split_ifs at h
          obtain ⟨h₁, h₂, h₃, h₄⟩ := dispatchMessage_kept h
          simp [h₁, h₂, h₃, h₄]
  · rw [if_neg message] at h
    obtain ⟨h₁, h₂, h₃, h₄⟩ := dispatchMessage_kept h
    simp [h₁, h₂, h₃, h₄, message]

/-- The bodies of the frames that are neither requests nor responses: noise and fragments, all
that a connection may gather. -/
def fragmentBytes (frames : List Frame) : Nat :=
  ((frames.filter fun f => f.head.flags &&& (levinPacketRequest ||| levinPacketResponse) == 0).map
    fun f => f.body.length).sum

theorem fragmentBytes_cons (f : Frame) (fs : List Frame) :
    fragmentBytes (f :: fs) = fragmentBytes [f] + fragmentBytes fs := by
  simp only [fragmentBytes, List.filter_cons, List.filter_nil]
  split <;> simp

theorem fragmentBytes_append (fs₁ fs₂ : List Frame) :
    fragmentBytes (fs₁ ++ fs₂) = fragmentBytes fs₁ + fragmentBytes fs₂ := by
  simp [fragmentBytes, List.filter_append]

theorem receiveFrame_kept {c c' : Connection} {f : Frame} {dispatched : List Dispatch}
    (h : receiveFrame maxBytes c f = .ok (c', dispatched)) :
    c'.cacheInBuffer = c.cacheInBuffer ∧ c'.state = c.state ∧ c'.maxPacketSize = c.maxPacketSize ∧
      c'.fragmentBuffer.length ≤ c.fragmentBuffer.length + fragmentBytes [f] := by
  unfold receiveFrame at h
  split_ifs at h
  simp only [bind, Except.bind, checkPacketSize] at h
  split_ifs at h
  obtain ⟨h₁, h₂, h₃, h₄⟩ := processBody_kept maxBytes h
  refine ⟨h₁, h₂, h₃, ?_⟩
  simp only [fragmentBytes, List.filter_cons, List.filter_nil]
  split <;> simp_all

theorem receiveFrames_kept {c c' : Connection} {fs : List Frame} {dispatched : List Dispatch}
    (h : receiveFrames maxBytes c fs = .ok (c', dispatched)) :
    c'.cacheInBuffer = c.cacheInBuffer ∧ c'.state = c.state ∧ c'.maxPacketSize = c.maxPacketSize ∧
      c'.fragmentBuffer.length ≤ c.fragmentBuffer.length + fragmentBytes fs := by
  induction fs generalizing c dispatched with
  | nil =>
    cases h
    simp [fragmentBytes]
  | cons f fs ih =>
    simp only [receiveFrames, bind, Except.bind] at h
    cases first : receiveFrame maxBytes c f with
    | error e => rw [first] at h; cases h
    | ok r =>
      rw [first] at h
      dsimp only at h
      cases rest : receiveFrames maxBytes r.1 fs with
      | error e => rw [rest] at h; cases h
      | ok r' =>
        rw [rest] at h
        cases h
        obtain ⟨a₁, a₂, a₃, a₄⟩ := receiveFrame_kept maxBytes first
        obtain ⟨b₁, b₂, b₃, b₄⟩ := ih rest
        refine ⟨b₁.trans a₁, b₂.trans a₂, b₃.trans a₃, ?_⟩
        rw [fragmentBytes_cons]
        omega

/-! ### Parked bytes -/

theorem park_kept {c cp : Connection} {q : List UInt8} (h : park maxBytes c q = .ok cp) :
    cp.fragmentBuffer = c.fragmentBuffer ∧ cp.maxPacketSize = c.maxPacketSize ∧
      cp.cacheInBuffer.length ≤ q.length := by
  unfold park at h
  split_ifs at h
  · cases h
    exact ⟨rfl, rfl, le_refl _⟩
  · simp only [bind, Except.bind, checkPacketSize] at h
    split_ifs at h
    cases h
    exact ⟨rfl, rfl, by simp⟩

theorem park_nil {c : Connection} (empty : c.cacheInBuffer = []) (atHead : c.state = .head) :
    park maxBytes c [] = .ok c := by
  rw [park, if_pos (by simp [bucketHead2Size])]
  cases c
  cases empty
  cases atHead
  rfl

/-- What fails to park fails the frame it is the start of. -/
theorem receiveFrames_of_park {c : Connection} {q : List UInt8} {fs : List Frame}
    (wf : ∀ f ∈ fs, f.WellFormed) (short : PartialOf q fs) {e : String}
    (h : park maxBytes c q = .error e) : receiveFrames maxBytes c fs = .error e := by
  cases fs with
  | nil =>
    obtain rfl : q = [] := short
    rw [park, if_pos (by simp [bucketHead2Size])] at h
    cases h
  | cons f fs =>
    obtain ⟨pre, -⟩ := short
    have wfF := wf f List.mem_cons_self
    unfold park at h
    by_cases headPart : q.length < bucketHead2Size
    · rw [if_pos headPart] at h
      cases h
    · have header := Frame.ofBytes_of_prefix wfF pre (Nat.not_lt.mp headPart)
      rw [if_neg headPart, header, if_neg (by rw [wfF.signature]; exact not_not.mpr rfl)] at h
      simp only [receiveFrames, receiveFrame_of_wellFormed maxBytes wfF, bind, Except.bind]
      simp only [bind, Except.bind] at h
      cases check : checkPacketSize maxBytes c f.head with
      | error e' => rw [check] at h; cases h; rfl
      | ok u => rw [check] at h; cases h

theorem PartialOf.length_le {q : List UInt8} {fs : List Frame} (short : PartialOf q fs)
    {frameMax : Nat} (bounded : ∀ f ∈ fs, f.bytes.length ≤ frameMax) : q.length ≤ frameMax := by
  cases fs with
  | nil =>
    obtain rfl : q = [] := short
    exact Nat.zero_le _
  | cons f fs => exact (Nat.le_of_lt short.2).trans (bounded f List.mem_cons_self)

theorem length_flatten_bytes (fs : List Frame) :
    bucketHead2Size * fs.length ≤ (fs.map Frame.bytes).flatten.length := by
  induction fs with
  | nil => simp
  | cons f fs ih =>
    simp only [List.map_cons, List.flatten_cons, List.length_append, List.length_cons,
      f.length_bytes]
    rw [Nat.mul_succ]
    omega

/-- Any first bytes of a stream of frames are some whole frames and the first bytes of the next. -/
theorem exists_split (fs : List Frame) {p rest : List UInt8}
    (stream : p ++ rest = (fs.map Frame.bytes).flatten) :
    ∃ fs₁ fs₂ q, fs = fs₁ ++ fs₂ ∧ p = (fs₁.map Frame.bytes).flatten ++ q ∧ PartialOf q fs₂ := by
  induction fs generalizing p with
  | nil =>
    obtain ⟨rfl, -⟩ := List.append_eq_nil_iff.mp stream
    exact ⟨[], [], [], rfl, rfl, rfl⟩
  | cons f fs ih =>
    rw [List.map_cons, List.flatten_cons] at stream
    have pPrefix : p <+: f.bytes ++ (fs.map Frame.bytes).flatten := ⟨rest, stream⟩
    have fPrefix : f.bytes <+: f.bytes ++ (fs.map Frame.bytes).flatten := List.prefix_append _ _
    by_cases within : p.length < f.bytes.length
    · exact ⟨[], f :: fs, p, rfl, rfl,
        List.prefix_of_prefix_length_le pPrefix fPrefix within.le, within⟩
    · obtain ⟨p', rfl⟩ := List.prefix_of_prefix_length_le fPrefix pPrefix (Nat.not_lt.mp within)
      rw [List.append_assoc] at stream
      obtain ⟨fs₁, fs₂, q, rfl, rfl, short⟩ := ih (List.append_cancel_left stream)
      exact ⟨f :: fs₁, fs₂, q, rfl, by simp, short⟩

/-- A parked connection that gets a piece: the loop of `handle_recv` resumes where it stopped, and
receives the frames the piece completes, then parks what is left. -/
theorem handleRecv_parked {c cp : Connection} {q chunk q' : List UInt8} {fs₁ fs₂ : List Frame}
    (wf₁ : ∀ f ∈ fs₁, f.WellFormed) (wf₂ : ∀ f ∈ fs₂, f.WellFormed)
    (short : PartialOf q (fs₁ ++ fs₂)) (short' : PartialOf q' fs₂)
    (split : q ++ chunk = (fs₁.map Frame.bytes).flatten ++ q') (parked : park maxBytes c q = .ok cp)
    (room : cp.cacheInBuffer.length + cp.fragmentBuffer.length + chunk.length ≤ cp.maxPacketSize) :
    handleRecv maxBytes cp chunk =
      (receiveFrames maxBytes c fs₁).bind fun r => (park maxBytes r.1 q').map fun c' => (c', r.2) := by
  have size : bucketHead2Size = 33 := rfl
  have covered : 33 * fs₁.length ≤ (fs₁.map Frame.bytes).flatten.length := length_flatten_bytes fs₁
  have total := congrArg List.length split
  simp only [List.length_append] at total
  have firstFrame : fs₁.length = 0 ∨
      q.length + 33 * fs₁.length < (fs₁.map Frame.bytes).flatten.length + 33 := by
    cases fs₁ with
    | nil => exact .inl rfl
    | cons g gs =>
      have rest : 33 * gs.length ≤ (gs.map Frame.bytes).flatten.length := length_flatten_bytes gs
      have less : q.length < g.bytes.length := short.2
      refine .inr ?_
      simp only [List.map_cons, List.flatten_cons, List.length_append, List.length_cons] at rest ⊢
      rw [Nat.mul_succ]
      omega
  unfold handleRecv
  rw [if_neg (by omega), if_neg (by omega), if_neg (by omega)]
  unfold park at parked
  by_cases headPart : q.length < bucketHead2Size
  · rw [if_pos headPart] at parked
    cases parked
    show recvLoop maxBytes _ { c with cacheInBuffer := q ++ chunk, state := .head } [] = _
    rw [split, recvLoop_frames maxBytes wf₁ wf₂ short' c [] (by rw [List.length_append]; omega)]
    simp only [List.nil_append]
  · rw [if_neg headPart] at parked
    have long := Nat.not_lt.mp headPart
    by_cases signature : (BucketHead2.ofBytes q).signature ≠ levinSignature
    · rw [if_pos signature] at parked
      cases parked
    rw [if_neg signature] at parked
    simp only [bind, Except.bind, checkPacketSize] at parked
    by_cases tooBig : (BucketHead2.ofBytes q).cb > min c.maxPacketSize (maxBytes (BucketHead2.ofBytes q).command)
    · rw [if_pos tooBig] at parked
      cases parked
    rw [if_neg tooBig] at parked
    cases parked
    have resumed : ∀ fuel, recvLoop maxBytes (fuel + 1)
        { c with cacheInBuffer := q ++ chunk, state := .head } [] =
        recvLoop maxBytes fuel
          { c with
            currentHead := BucketHead2.ofBytes q
            cacheInBuffer := q.drop bucketHead2Size ++ chunk
            state := .body
            oponentProtocolVer := (BucketHead2.ofBytes q).protocolVersion } [] := by
      intro fuel
      rw [recvLoop_head maxBytes fuel rfl (by simp only [List.length_append]; omega)
        (by rw [ofBytes_append long]; exact not_not.mp signature), ofBytes_append long,
        List.drop_append_of_le_length long]
      simp only [checkPacketSize, if_neg tooBig]
      rfl
    show recvLoop maxBytes _
      { c with
        currentHead := BucketHead2.ofBytes q
        cacheInBuffer := q.drop bucketHead2Size ++ chunk
        state := .body
        oponentProtocolVer := (BucketHead2.ofBytes q).protocolVersion } [] = _
    rw [← resumed, split, recvLoop_frames maxBytes wf₁ wf₂ short' c []]
    · simp only [List.nil_append]
    · have dropped : (q.drop bucketHead2Size).length = q.length - bucketHead2Size :=
        List.length_drop
      rw [List.length_append, dropped]
      omega

theorem partialOf_nil (fs : List Frame) : PartialOf [] fs := by
  cases fs with
  | nil => rfl
  | cons f fs => exact ⟨List.nil_prefix, by rw [f.length_bytes]; simp [bucketHead2Size]⟩

/-- From a connection parked on the first bytes `q` of the frames `fs`, the rest of their bytes, cut
into pieces with room beside a frame and the fragments still to gather, is received as the frames
are one at a time. -/
theorem receive_of_parked {c cp : Connection} (atRest : c.cacheInBuffer = [])
    (atHead : c.state = .head) {fs : List Frame} (wf : ∀ f ∈ fs, f.WellFormed) {frameMax : Nat}
    (bounded : ∀ f ∈ fs, f.bytes.length ≤ frameMax) {q : List UInt8} (short : PartialOf q fs)
    {chunks : List (List UInt8)} (stream : q ++ chunks.flatten = (fs.map Frame.bytes).flatten)
    (parked : park maxBytes c q = .ok cp) {room : Nat}
    (gathered : c.fragmentBuffer.length + fragmentBytes fs ≤ room)
    (fits : ∀ chunk ∈ chunks, chunk.length + frameMax + room ≤ c.maxPacketSize) :
    receive maxBytes cp chunks = receiveFrames maxBytes c fs := by
  induction chunks generalizing c cp q fs with
  | nil =>
    rw [List.flatten_nil, List.append_nil] at stream
    cases fs with
    | nil =>
      obtain rfl : q = [] := short
      rw [park_nil maxBytes atRest atHead] at parked
      cases parked
      rfl
    | cons f fs =>
      have whole : f.bytes.length ≤ q.length := by rw [stream]; simp
      exact absurd short.2 (Nat.not_lt.mpr whole)
  | cons chunk chunks ih =>
    rw [List.flatten_cons, ← List.append_assoc] at stream
    obtain ⟨fs₁, fs₂, q', rfl, split, short'⟩ := exists_split fs stream
    have wf₁ : ∀ f ∈ fs₁, f.WellFormed := fun f mem => wf f (List.mem_append_left _ mem)
    have wf₂ : ∀ f ∈ fs₂, f.WellFormed := fun f mem => wf f (List.mem_append_right _ mem)
    have rest : q' ++ chunks.flatten = (fs₂.map Frame.bytes).flatten := by
      rw [split, List.map_append, List.flatten_append, List.append_assoc] at stream
      exact List.append_cancel_left stream
    obtain ⟨fragmentKept, maxKept, cacheShort⟩ := park_kept maxBytes parked
    have parkedShort := short.length_le bounded
    have chunkFits := fits chunk List.mem_cons_self
    rw [fragmentBytes_append] at gathered
    rw [receive, handleRecv_parked maxBytes wf₁ wf₂ short short' split parked
      (by rw [fragmentKept, maxKept]; omega), receiveFrames_append]
    cases first : receiveFrames maxBytes c fs₁ with
    | error e => rfl
    | ok r =>
      obtain ⟨c₁, dispatched⟩ := r
      obtain ⟨cache₁, state₁, max₁, fragment₁⟩ := receiveFrames_kept maxBytes first
      cases parked₁ : park maxBytes c₁ q' with
      | error e =>
        simp only [Except.bind, Except.map, bind]
        rw [parked₁, receiveFrames_of_park maxBytes wf₂ short' parked₁]
      | ok cp₁ =>
        simp only [Except.bind, Except.map, bind]
        rw [parked₁]
        dsimp only
        rw [ih (cache₁.trans atRest) (state₁.trans atHead) wf₂
          (fun f mem => bounded f (List.mem_append_right _ mem)) short' rest parked₁ (by omega)
          (fun chunk mem => max₁ ▸ fits chunk (List.mem_cons_of_mem _ mem))]
        cases receiveFrames maxBytes c₁ fs₂ <;> rfl

/-- However the bytes of well-formed frames are cut into pieces, a connection at rest that gets
them one `handle_recv` at a time hands on what the frames hand on one at a time, and fails where
they fail, as long as each piece has room beside a frame and the fragments gathered. -/
theorem receive_eq_receiveFrames {c : Connection} (atRest : c.cacheInBuffer = [])
    (atHead : c.state = .head) {frames : List Frame} (wf : ∀ f ∈ frames, f.WellFormed)
    {frameMax : Nat} (bounded : ∀ f ∈ frames, f.bytes.length ≤ frameMax)
    {chunks : List (List UInt8)} (stream : chunks.flatten = (frames.map Frame.bytes).flatten)
    (fits : ∀ chunk ∈ chunks,
      chunk.length + frameMax + (c.fragmentBuffer.length + fragmentBytes frames) ≤ c.maxPacketSize) :
    receive maxBytes c chunks = receiveFrames maxBytes c frames :=
  receive_of_parked maxBytes atRest atHead wf bounded (partialOf_nil frames) stream
    (park_nil maxBytes atRest atHead) le_rfl fits

theorem receive_eq_receiveFrames_split_invoke :
    (∀ f ∈ [Frame.mk (makeHeader 1003 2 levinPacketRequest true) [7, 9]], f.WellFormed) ∧
      (∀ f ∈ [Frame.mk (makeHeader 1003 2 levinPacketRequest true) [7, 9]], f.bytes.length ≤ 35) ∧
      receive getMaxBytes ⟨1000, [], [], .head, makeHeader 0 0 0 false, 0, 0, 0⟩
          [(Frame.mk (makeHeader 1003 2 levinPacketRequest true) [7, 9]).bytes.take 10,
            (Frame.mk (makeHeader 1003 2 levinPacketRequest true) [7, 9]).bytes.drop 10] =
        receiveFrames getMaxBytes ⟨1000, [], [], .head, makeHeader 0 0 0 false, 0, 0, 0⟩
          [Frame.mk (makeHeader 1003 2 levinPacketRequest true) [7, 9]] := by
  have wf : ∀ f ∈ [Frame.mk (makeHeader 1003 2 levinPacketRequest true) [7, 9]], f.WellFormed := by
    simp only [List.mem_singleton, forall_eq]
    exact ⟨⟨by decide, by decide, by decide, by decide, by decide, by decide⟩, rfl, rfl⟩
  have bounded : ∀ f ∈ [Frame.mk (makeHeader 1003 2 levinPacketRequest true) [7, 9]],
      f.bytes.length ≤ 35 := by
    simp [Frame.length_bytes, bucketHead2Size]
  refine ⟨wf, bounded, receive_eq_receiveFrames getMaxBytes rfl rfl wf bounded
    (by simp) ?_⟩
  simp [Frame.length_bytes, bucketHead2Size, fragmentBytes, makeHeader, levinPacketRequest,
    levinPacketResponse]

end Loop

end Sumokoin.Epee.Levin
