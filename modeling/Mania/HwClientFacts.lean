/-
The blocks an upload sends, over either connection and where TCP fails.

Both loops keep the stream at the offset of the next block, so their frames
are those of `blockFrames`. A TCP upload that ends in an error leaves the
stream anywhere, and the HTTP upload seeks back before its first block.

TCP can also fail without an error: the loop for a response polls a closed
connection for ever, and a response whose head does not decode panics
(`TcpLine.Loses`). Nothing falls back then.
-/
import Mathlib.Data.Nat.Find
import Mania.HwClient

namespace Mania

variable {crates : HighwayCrates} {self : HighwayClient} {args : UploadArgs}

/-! ## Responses -/

/-- No error, and the progress it reports is a number. -/
def Accepts (crates : HighwayCrates) (f : HighwayFrame) : Prop :=
  ∃ head seg offset, crates.decode f.head = some head ∧ head.errorCode = 0 ∧ head.msgSegHead = some seg ∧
    seg.dataOffset = some offset ∧ offset + seg.dataLength < 2 ^ 64

/-- A head that does not decode, or reports a progress that overflows with overflow checks. -/
def Crashes (crates : HighwayCrates) (f : HighwayFrame) : Prop :=
  crates.decode f.head = none ∨
  ∃ head seg offset, crates.decode f.head = some head ∧ head.errorCode = 0 ∧ head.msgSegHead = some seg ∧
    seg.dataOffset = some offset ∧ ¬ offset + seg.dataLength < 2 ^ 64

theorem decodeFrame_encode {f : HighwayFrame} (hf : f.Fits) : decodeFrame f.encode = .ok f := by
  have h := HighwayFrame.decode_encode hf []
  rw [List.append_nil] at h
  rw [decodeFrame, h]

theorem parseFrame_ok {f : HighwayFrame} (hf : f.Fits) (h : Accepts crates f) :
    ∃ progress, parseFrame crates f = .ok progress := by
  obtain ⟨head, seg, offset, hhead, hcode, hseg, hoffset, hsum⟩ := h
  refine ⟨(offset + seg.dataLength, seg.filesize), ?_⟩
  simp [parseFrame, decodeFrame_encode hf, hhead, hcode, hseg, hoffset, Outcome.refuse, Outcome.add_ok hsum]

theorem parseFrame_panic {f : HighwayFrame} (hf : f.Fits) (h : Crashes crates f) : parseFrame crates f = .panic := by
  rcases h with hhead | ⟨head, seg, offset, hhead, hcode, hseg, hoffset, hsum⟩
  · simp [parseFrame, decodeFrame_encode hf, hhead]
  · simp [parseFrame, decodeFrame_encode hf, hhead, hcode, hseg, hoffset, Outcome.refuse, Outcome.add_panic hsum]

theorem parseFrame_err (crates : HighwayCrates) {f : HighwayFrame} (hf : f.Fits) (haccepts : ¬ Accepts crates f)
    (hcrashes : ¬ Crashes crates f) : ∃ e, parseFrame crates f = .err e := by
  cases hhead : crates.decode f.head with
  | none => exact absurd (.inl hhead) hcrashes
  | some head =>
    by_cases hcode : head.errorCode = 0
    · cases hseg : head.msgSegHead with
      | none => exact ⟨_, by simp [parseFrame, decodeFrame_encode hf, hhead, hcode, hseg, Outcome.refuse]; rfl⟩
      | some seg =>
        cases hoffset : seg.dataOffset with
        | none => exact ⟨_, by simp [parseFrame, decodeFrame_encode hf, hhead, hcode, hseg, hoffset, Outcome.refuse]; rfl⟩
        | some offset =>
          by_cases hsum : offset + seg.dataLength < 2 ^ 64
          · exact absurd ⟨head, seg, offset, hhead, hcode, hseg, hoffset, hsum⟩ haccepts
          · exact absurd (.inr ⟨head, seg, offset, hhead, hcode, hseg, hoffset, hsum⟩) hcrashes
    · exact ⟨_, by simp [parseFrame, decodeFrame_encode hf, hhead, hcode, Outcome.refuse]; rfl⟩

theorem not_crashes {f : HighwayFrame} (hf : f.Fits) (h : Accepts crates f) : ¬ Crashes crates f := by
  intro hcrashes
  obtain ⟨progress, hok⟩ := parseFrame_ok hf h
  rw [parseFrame_panic hf hcrashes] at hok
  cases hok

/-! ## Polling for a response -/

/-- The first poll that gives anything gives `r`. -/
def FirstResponse {α : Type} (next : Nat → Option α) (poll : Nat) (r : α) : Prop :=
  (∀ i < poll, next i = none) ∧ next poll = some r

theorem nextResponse_first {α : Type} {r : α} (fuel : Nat) :
    ∀ {next : Nat → Option α} {poll : Nat}, FirstResponse next poll r → poll < fuel → nextResponse fuel next = some r := by
  induction fuel with
  | zero => intro next poll _ hlt; exact absurd hlt (Nat.not_lt_zero _)
  | succ fuel ih =>
    intro next poll hfirst hlt
    rw [nextResponse]
    cases poll with
    | zero => rw [hfirst.2]
    | succ poll =>
      have hlater : FirstResponse (fun i => next (i + 1)) poll r :=
        ⟨fun i hi => hfirst.1 (i + 1) (Nat.succ_lt_succ hi), hfirst.2⟩
      rw [hfirst.1 0 (Nat.succ_pos poll)]
      exact ih hlater (Nat.lt_of_succ_lt_succ hlt)

theorem nextResponse_some {α : Type} {r : α} (fuel : Nat) :
    ∀ {next : Nat → Option α}, nextResponse fuel next = some r → ∃ poll, FirstResponse next poll r := by
  induction fuel with
  | zero => intro next h; cases h
  | succ fuel ih =>
    intro next h
    rw [nextResponse] at h
    cases hnext : next 0 with
    | some resp =>
      rw [hnext] at h
      cases h
      exact ⟨0, fun i hi => absurd hi (Nat.not_lt_zero i), hnext⟩
    | none =>
      rw [hnext] at h
      obtain ⟨poll, hbefore, hpoll⟩ := ih h
      refine ⟨poll + 1, fun i hi => ?_, hpoll⟩
      cases i with
      | zero => exact hnext
      | succ i => exact hbefore i (Nat.lt_of_succ_lt_succ hi)

theorem FirstResponse.unique {α : Type} {next : Nat → Option α} {poll poll' : Nat} {r r' : α}
    (h : FirstResponse next poll r) (h' : FirstResponse next poll' r') : r = r' := by
  have hr := nextResponse_first (max poll poll' + 1) h (by omega)
  rw [nextResponse_first (max poll poll' + 1) h' (by omega)] at hr
  exact (Option.some.inj hr).symm

theorem none_or_first {α : Type} (next : Nat → Option α) :
    (∀ poll, next poll = none) ∨ ∃ poll r, FirstResponse next poll r := by
  by_cases h : ∃ fuel r, nextResponse fuel next = some r
  · obtain ⟨fuel, r, h⟩ := h
    obtain ⟨poll, hfirst⟩ := nextResponse_some fuel h
    exact .inr ⟨poll, r, hfirst⟩
  · left
    intro poll
    induction poll using Nat.strongRecOn with
    | ind poll ih =>
      cases hnext : next poll with
      | none => rfl
      | some r => exact absurd ⟨poll + 1, r, nextResponse_first _ ⟨ih, hnext⟩ (Nat.lt_succ_self poll)⟩ h

/-! ## The turn of a block -/

namespace TcpLine

/-- The response to the `k`-th block accepts it. -/
def Answers (crates : HighwayCrates) (line : TcpLine) (k : Nat) : Prop :=
  ∃ poll resp, FirstResponse (line.next k) poll (.ok resp) ∧ Accepts crates resp.val

/-- The connection is closed before the response to the `k`-th block, or
that crashes. -/
def LosesAnswer (crates : HighwayCrates) (line : TcpLine) (k : Nat) : Prop :=
  (∀ poll, line.next k poll = none) ∨ ∃ poll resp, FirstResponse (line.next k) poll (.ok resp) ∧ Crashes crates resp.val

structure AcceptsBlock (crates : HighwayCrates) (line : TcpLine) (k : Nat) : Prop where
  read : line.stream.read k = .ok ()
  send : line.send k = .ok ()
  answers : line.Answers crates k

structure LosesBlock (crates : HighwayCrates) (line : TcpLine) (k : Nat) : Prop where
  read : line.stream.read k = .ok ()
  send : line.send k = .ok ()
  losesAnswer : line.LosesAnswer crates k

structure Connects (line : TcpLine) : Prop where
  seek : line.stream.seek = .ok ()
  toSocketAddrs : line.toSocketAddrs = .ok (some ())
  connect : line.connect = .ok ()

/-- Every one of `n` blocks is accepted. -/
structure Accepts (crates : HighwayCrates) (n : Nat) (line : TcpLine) : Prop where
  connects : line.Connects
  blocks : ∀ k < n, line.AcceptsBlock crates k

/-- The first block that is not accepted fails without an error. -/
structure Loses (crates : HighwayCrates) (n : Nat) (line : TcpLine) : Prop where
  connects : line.Connects
  blocks : ∃ k < n, (∀ j < k, line.AcceptsBlock crates j) ∧ line.LosesBlock crates k

variable {line : TcpLine} {k n : Nat}

theorem AcceptsBlock.not_loses (h : line.AcceptsBlock crates k) : ¬ line.LosesBlock crates k := by
  obtain ⟨poll, resp, hfirst, haccepts⟩ := h.answers
  intro hloses
  rcases hloses.losesAnswer with hnone | ⟨poll', resp', hfirst', hcrashes⟩
  · have hpoll := hfirst.2
    rw [hnone] at hpoll
    cases hpoll
  · cases hfirst.unique hfirst'
    exact not_crashes resp.property haccepts hcrashes

theorem Accepts.not_loses (h : line.Accepts crates n) : ¬ line.Loses crates n := by
  intro hloses
  obtain ⟨k, hk, -, hlost⟩ := hloses.blocks
  exact (h.blocks k hk).not_loses hlost

end TcpLine

theorem awaitResponse_first {line : TcpLine} {fuel k : Nat} {resp : HighwayResponse}
    (h : nextResponse fuel (line.next k) = some (.ok resp)) (w : HighwayWorld) :
    (awaitResponse crates line fuel k).run w =
      (do let _ ← Effect.lift (parseFrame crates resp.val) : HighwayAction Unit).run w := by
  simp [awaitResponse, h]

theorem awaitResponse_ok {line : TcpLine} {k : Nat} (h : line.Answers crates k) :
    ∃ enough, ∀ fuel ≥ enough, ∀ w, (awaitResponse crates line fuel k).run w = (.ok (), w) := by
  obtain ⟨poll, resp, hfirst, haccepts⟩ := h
  obtain ⟨progress, hparse⟩ := parseFrame_ok resp.property haccepts
  refine ⟨poll + 1, fun fuel hfuel w => ?_⟩
  rw [awaitResponse_first (nextResponse_first fuel hfirst hfuel), hparse]
  rfl

/-- With any fuel, the polls go on or the response is there. -/
theorem awaitResponse_ok_or_lost {line : TcpLine} {k : Nat} (h : line.Answers crates k) (fuel : Nat) (w : HighwayWorld) :
    (awaitResponse crates line fuel k).run w = (.ok (), w) ∨ ((awaitResponse crates line fuel k).run w).1.Lost := by
  obtain ⟨poll, resp, hfirst, haccepts⟩ := h
  obtain ⟨progress, hparse⟩ := parseFrame_ok resp.property haccepts
  cases hnext : nextResponse fuel (line.next k) with
  | none =>
    right
    simp only [awaitResponse, hnext]
    exact .spins
  | some r =>
    left
    obtain ⟨poll', hfirst'⟩ := nextResponse_some fuel hnext
    cases hfirst.unique hfirst'
    rw [awaitResponse_first hnext, hparse]
    rfl

theorem awaitResponse_lost {line : TcpLine} {k : Nat} (h : line.LosesAnswer crates k) (fuel : Nat) (w : HighwayWorld) :
    ((awaitResponse crates line fuel k).run w).1.Lost := by
  cases hnext : nextResponse fuel (line.next k) with
  | none =>
    simp only [awaitResponse, hnext]
    exact .spins
  | some r =>
    obtain ⟨poll', hfirst'⟩ := nextResponse_some fuel hnext
    rcases h with hnone | ⟨poll, resp, hfirst, hcrashes⟩
    · have hpoll := hfirst'.2
      rw [hnone] at hpoll
      cases hpoll
    · cases hfirst.unique hfirst'
      rw [awaitResponse_first hnext, parseFrame_panic resp.property hcrashes]
      exact .panic

theorem awaitResponse_err (crates : HighwayCrates) (line : TcpLine) (k : Nat) (hanswers : ¬ line.Answers crates k)
    (hloses : ¬ line.LosesAnswer crates k) :
    ∃ enough, ∀ fuel ≥ enough, ∀ w, ∃ e, (awaitResponse crates line fuel k).run w = (.err e, w) := by
  rcases none_or_first (line.next k) with hnone | ⟨poll, r, hfirst⟩
  · exact absurd (.inl hnone) hloses
  · refine ⟨poll + 1, fun fuel hfuel w => ?_⟩
    have hnext := nextResponse_first fuel hfirst hfuel
    cases r with
    | error e => exact ⟨e, by simp [awaitResponse, hnext]⟩
    | ok resp =>
      obtain ⟨e, hparse⟩ := parseFrame_err crates resp.property
        (fun haccepts => hanswers ⟨poll, resp, hfirst, haccepts⟩)
        (fun hcrashes => hloses (.inr ⟨poll, resp, hfirst, hcrashes⟩))
      refine ⟨e, ?_⟩
      rw [awaitResponse_first hnext, hparse]
      rfl

/-! ## The blocks -/

/-- The frame of the `k`-th block of `content`. -/
def blockFrame (crates : HighwayCrates) (self : HighwayClient) (args : UploadArgs) (content : Bytes) (k : Nat) :
    HighwayFrame :=
  let body := (content.drop (k * self.chunkSize)).take self.chunkSize
  let session : HighwaySession :=
    { ticket := self.ticket
      uin := self.uin
      cmd := args.cmd
      command := "PicUp.DataUp"
      fileMd5 := args.md5
      fileSize := content.length
      ext := args.extInfo }
  { head := session.buildPicUpHead crates (k * self.chunkSize) body.length (crates.md5 body), body }

/-- The frames of all blocks, in order. -/
def blockFrames (crates : HighwayCrates) (self : HighwayClient) (args : UploadArgs) (content : Bytes) : List HighwayFrame :=
  (List.range (steps content.length self.chunkSize)).map (blockFrame crates self args content)

theorem flatMap_blocks (content : Bytes) (c n : Nat) :
    (List.range n).flatMap (fun k => (content.drop (k * c)).take c) = content.take (n * c) := by
  induction n with
  | zero => rw [Nat.zero_mul, List.take_zero, List.range_zero, List.flatMap_nil]
  | succ n ih =>
    rw [List.range_succ, List.flatMap_append, ih, List.flatMap_singleton, Nat.succ_mul, List.take_add]

theorem le_steps_mul {c : Nat} (hc : 1 ≤ c) (size : Nat) : size ≤ steps size c * c := by
  have h := Nat.div_add_mod (size + c - 1) c
  have hlt := Nat.mod_lt (size + c - 1) hc
  rw [Nat.mul_comm] at h
  rw [steps]
  omega

theorem steps_pos {size c : Nat} (hsize : 0 < size) (hc : 1 ≤ c) : 0 < steps size c :=
  Nat.div_pos (by omega) hc

theorem steps_zero {c : Nat} (hc : 1 ≤ c) : steps 0 c = 0 := Nat.div_eq_of_lt (by omega)

theorem blockFrames_bodies (hc : 1 ≤ self.chunkSize) (content : Bytes) :
    (blockFrames crates self args content).flatMap HighwayFrame.body = content := by
  rw [blockFrames, List.flatMap_map]
  show (List.range _).flatMap (fun k => (content.drop (k * self.chunkSize)).take self.chunkSize) = content
  rw [flatMap_blocks, List.take_of_length_le (le_steps_mul hc content.length)]

/-! ## The turns -/

section Turns

variable {w : HighwayWorld} {k : Nat}

theorem readStream_ok {line : StreamLine} {c : Nat} (hread : line.read k = .ok ()) (hcap : c ≤ isizeMax)
    (hposition : w.position = min (k * c) w.content.length) :
    (readStream line k c).run w =
      (.ok ((w.content.drop (k * c)).take c), { w with position := min ((k + 1) * c) w.content.length }) := by
  have hbuf : (w.content.drop w.position).take c = (w.content.drop (k * c)).take c := by
    rw [hposition]
    rcases Nat.le_total (k * c) w.content.length with hle | hle
    · rw [Nat.min_eq_left hle]
    · rw [Nat.min_eq_right hle, List.drop_length, List.drop_eq_nil_of_le hle]
  have hnext : w.position + ((w.content.drop (k * c)).take c).length = min ((k + 1) * c) w.content.length := by
    rw [hposition, List.length_take, List.length_drop, Nat.succ_mul]
    omega
  simp only [readStream, withCapacity, Outcome.guard_pos hcap, Effect.lift_ok, pure_bind, hread, Effect.get_bind,
    Effect.modify_bind, Effect.pure_run, hbuf, hnext]

theorem buildFrame_ok (crates : HighwayCrates) {line : StreamLine} (hread : line.read k = .ok ())
    (hcap : self.chunkSize ≤ isizeMax) (hposition : w.position = min (k * self.chunkSize) w.content.length)
    (hsize : args.size = w.content.length) (h32 : w.content.length < 2 ^ 32) :
    (buildFrame crates self args line k (k * self.chunkSize)).run w =
      (.ok (blockFrame crates self args w.content k),
        { w with position := min ((k + 1) * self.chunkSize) w.content.length }) := by
  have hbody : ((w.content.drop (k * self.chunkSize)).take self.chunkSize).length < 2 ^ 32 := by
    rw [List.length_take, List.length_drop]
    omega
  rw [buildFrame, Effect.bind_ok (readStream_ok hread hcap hposition), Nat.mod_eq_of_lt hbody, hsize]
  rfl

theorem buildFrame_err {line : StreamLine} {e : String} {position : Nat} (hread : line.read k = .error (e, position))
    (hcap : self.chunkSize ≤ isizeMax) (offset : Nat) :
    (buildFrame crates self args line k offset).run w = (.err (.ioError e), { w with position }) := by
  have hstream : (readStream line k self.chunkSize).run w = (.err (.ioError e), { w with position }) := by
    simp [readStream, withCapacity, Outcome.guard_pos hcap, hread]
  rw [buildFrame, Effect.bind_err hstream]

theorem buildFrame_panic {line : StreamLine} (hcap : ¬ self.chunkSize ≤ isizeMax) (offset : Nat) :
    (buildFrame crates self args line k offset).run w = (.panic, w) := by
  have hstream : (readStream line k self.chunkSize).run w = (.panic, w) := by
    simp [readStream, withCapacity, Outcome.guard_neg hcap]
  rw [buildFrame, Effect.bind_panic hstream]

/-- The world before the `k`-th block is sent over TCP. -/
def tcpState (crates : HighwayCrates) (self : HighwayClient) (args : UploadArgs) (w : HighwayWorld) (k : Nat) :
    HighwayWorld :=
  { w with
    position := min (k * self.chunkSize) w.content.length
    sent := w.sent ++ (List.range k).map (blockFrame crates self args w.content) }

/-- The world before the `k`-th block is posted. -/
def httpState (crates : HighwayCrates) (self : HighwayClient) (args : UploadArgs) (w : HighwayWorld) (k : Nat) :
    HighwayWorld :=
  { w with
    position := min (k * self.chunkSize) w.content.length
    posted := w.posted ++ (List.range k).map fun j => (blockFrame crates self args w.content j).encode }

theorem tcpState_zero : tcpState crates self args w 0 = { w with position := 0 } := by
  simp [tcpState]

theorem httpState_zero : httpState crates self args w 0 = { w with position := 0 } := by
  simp [httpState]

theorem tcpState_succ : tcpState crates self args w (k + 1) =
    { tcpState crates self args w k with
      position := min ((k + 1) * self.chunkSize) w.content.length
      sent := (tcpState crates self args w k).sent ++ [blockFrame crates self args w.content k] } := by
  simp [tcpState, List.range_succ]

theorem httpState_succ : httpState crates self args w (k + 1) =
    { httpState crates self args w k with
      position := min ((k + 1) * self.chunkSize) w.content.length
      posted := (httpState crates self args w k).posted ++ [(blockFrame crates self args w.content k).encode] } := by
  simp [httpState, List.range_succ]

/-- A block read and sent: what is left is the response. -/
theorem tcpBlock_sent {line : TcpLine} {fuel : Nat} (hread : line.stream.read k = .ok ()) (hsend : line.send k = .ok ())
    (hcap : self.chunkSize ≤ isizeMax) (hsize : args.size = w.content.length) (h32 : w.content.length < 2 ^ 32) :
    (tcpBlock crates self args line fuel k).run (tcpState crates self args w k) =
      (awaitResponse crates line fuel k).run (tcpState crates self args w (k + 1)) := by
  have hframe := buildFrame_ok crates (w := tcpState crates self args w k) hread hcap rfl hsize h32
  rw [tcpBlock, Effect.bind_ok hframe, Effect.modify_bind, hsend, tcpState_succ]
  rfl

theorem tcpBlock_ok (self : HighwayClient) (args : UploadArgs) {line : TcpLine} (h : line.AcceptsBlock crates k)
    (hcap : self.chunkSize ≤ isizeMax) (hsize : args.size = w.content.length) (h32 : w.content.length < 2 ^ 32) :
    ∃ enough, ∀ fuel ≥ enough, (tcpBlock crates self args line fuel k).run (tcpState crates self args w k) =
      (.ok (), tcpState crates self args w (k + 1)) := by
  obtain ⟨enough, hanswer⟩ := awaitResponse_ok h.answers
  refine ⟨enough, fun fuel hfuel => ?_⟩
  rw [tcpBlock_sent h.read h.send hcap hsize h32, hanswer fuel hfuel]

theorem tcpBlock_ok_or_lost {line : TcpLine} (h : line.AcceptsBlock crates k) (hcap : self.chunkSize ≤ isizeMax)
    (hsize : args.size = w.content.length) (h32 : w.content.length < 2 ^ 32) (fuel : Nat) :
    (tcpBlock crates self args line fuel k).run (tcpState crates self args w k) =
        (.ok (), tcpState crates self args w (k + 1)) ∨
      ((tcpBlock crates self args line fuel k).run (tcpState crates self args w k)).1.Lost := by
  rw [tcpBlock_sent h.read h.send hcap hsize h32]
  exact awaitResponse_ok_or_lost h.answers fuel _

theorem tcpBlock_lost {line : TcpLine} (h : line.LosesBlock crates k) (hcap : self.chunkSize ≤ isizeMax)
    (hsize : args.size = w.content.length) (h32 : w.content.length < 2 ^ 32) (fuel : Nat) :
    ((tcpBlock crates self args line fuel k).run (tcpState crates self args w k)).1.Lost := by
  rw [tcpBlock_sent h.read h.send hcap hsize h32]
  exact awaitResponse_lost h.losesAnswer fuel _

/-- A block that is neither accepted nor lost ends in an error, and TCP
does not touch what was posted. -/
theorem tcpBlock_err (self : HighwayClient) (args : UploadArgs) {line : TcpLine}
    (haccepts : ¬ line.AcceptsBlock crates k) (hloses : ¬ line.LosesBlock crates k)
    (hcap : self.chunkSize ≤ isizeMax) (hsize : args.size = w.content.length) (h32 : w.content.length < 2 ^ 32) :
    ∃ enough, ∀ fuel ≥ enough, ∃ e w',
      (tcpBlock crates self args line fuel k).run (tcpState crates self args w k) = (.err e, w') ∧
      w'.content = w.content ∧ w'.posted = w.posted := by
  cases hread : line.stream.read k with
  | error failed =>
    obtain ⟨e, position⟩ := failed
    refine ⟨0, fun fuel _ => ⟨.ioError e, { tcpState crates self args w k with position }, ?_, rfl, rfl⟩⟩
    rw [tcpBlock, Effect.bind_err (buildFrame_err hread hcap _)]
  | ok =>
    have hframe := buildFrame_ok crates (w := tcpState crates self args w k) hread hcap rfl hsize h32
    cases hsend : line.send k with
    | error e =>
      refine ⟨0, fun fuel _ => ⟨.ioError e, tcpState crates self args w (k + 1), ?_, rfl, rfl⟩⟩
      rw [tcpBlock, Effect.bind_ok hframe, Effect.modify_bind, hsend, tcpState_succ]
      rfl
    | ok =>
      obtain ⟨enough, hanswer⟩ := awaitResponse_err crates line k
        (fun hanswers => haccepts ⟨hread, hsend, hanswers⟩) (fun hlost => hloses ⟨hread, hsend, hlost⟩)
      refine ⟨enough, fun fuel hfuel => ?_⟩
      obtain ⟨e, herr⟩ := hanswer fuel hfuel (tcpState crates self args w (k + 1))
      exact ⟨e, tcpState crates self args w (k + 1), by rw [tcpBlock_sent hread hsend hcap hsize h32, herr], rfl, rfl⟩

end Turns

/-! ## The loops -/

/-- Fuel for the loops before `n` is fuel for all of them. -/
theorem enough_for_all {p : Nat → Nat → Prop} {n : Nat} (h : ∀ k < n, ∃ enough, ∀ fuel ≥ enough, p k fuel) :
    ∃ enough, ∀ fuel ≥ enough, ∀ k < n, p k fuel := by
  induction n with
  | zero => exact ⟨0, fun _ _ k hk => absurd hk (Nat.not_lt_zero k)⟩
  | succ n ih =>
    obtain ⟨before, hbefore⟩ := ih fun k hk => h k (Nat.lt_succ_of_lt hk)
    obtain ⟨last, hlast⟩ := h n (Nat.lt_succ_self n)
    refine ⟨max before last, fun fuel hfuel k hk => ?_⟩
    rcases Nat.lt_succ_iff_lt_or_eq.mp hk with hlt | rfl
    · exact hbefore fuel (Nat.le_trans (Nat.le_max_left ..) hfuel) k hlt
    · exact hlast fuel (Nat.le_trans (Nat.le_max_right ..) hfuel)

section Loops

variable {w : HighwayWorld}

/-- A connection that is there: what is left are the blocks, from the
start of the stream. -/
theorem tcpUpload_connects {line : TcpLine} (h : line.Connects) (hc : 1 ≤ self.chunkSize) (fuel : Nat) :
    (tcpUpload crates self args line fuel).run w =
      (forM (List.range (steps args.size self.chunkSize)) (tcpBlock crates self args line fuel)).run
        (tcpState crates self args w 0) := by
  have hstep : self.chunkSize ≠ 0 := Nat.ne_of_gt hc
  rw [tcpUpload, seekStart, h.seek, h.toSocketAddrs, h.connect, Outcome.guard_pos hstep, tcpState_zero]
  rfl

theorem httpUpload_seeks {line : HttpLine} (h : line.stream.seek = .ok ()) (hc : 1 ≤ self.chunkSize) :
    (httpUpload crates self args line).run w =
      (forM (List.range (steps args.size self.chunkSize)) (httpBlock crates self args line)).run
        (httpState crates self args w 0) := by
  have hstep : self.chunkSize ≠ 0 := Nat.ne_of_gt hc
  rw [httpUpload, seekStart, h, Outcome.guard_pos hstep, httpState_zero]
  rfl

theorem tcpUpload_unconnected (crates : HighwayCrates) (self : HighwayClient) (args : UploadArgs) {line : TcpLine}
    (h : ¬ line.Connects) :
    ∃ e w', (∀ fuel, (tcpUpload crates self args line fuel).run w = (.err e, w')) ∧ w'.content = w.content ∧
      w'.posted = w.posted := by
  cases hseek : line.stream.seek with
  | error e => exact ⟨.ioError e, w, fun fuel => by rw [tcpUpload, seekStart, hseek]; rfl, rfl, rfl⟩
  | ok =>
    cases haddr : line.toSocketAddrs with
    | error e =>
      exact ⟨.ioError e, { w with position := 0 }, fun fuel => by rw [tcpUpload, seekStart, hseek, haddr]; rfl, rfl, rfl⟩
    | ok addr =>
      cases addr with
      | none =>
        exact ⟨.otherError "Invalid address", { w with position := 0 },
          fun fuel => by rw [tcpUpload, seekStart, hseek, haddr]; rfl, rfl, rfl⟩
      | some =>
        cases hconnect : line.connect with
        | error e =>
          exact ⟨.ioError e, { w with position := 0 },
            fun fuel => by rw [tcpUpload, seekStart, hseek, haddr, hconnect]; rfl, rfl, rfl⟩
        | ok => exact absurd ⟨hseek, haddr, hconnect⟩ h

/-- Some content needs a buffer for its blocks. -/
def Buffered (self : HighwayClient) (content : Bytes) : Prop := content = [] ∨ self.chunkSize ≤ isizeMax

theorem Buffered.of_step {content : Bytes} {k : Nat} (h : Buffered self content) (hc : 1 ≤ self.chunkSize)
    (hsize : args.size = content.length) (hk : k < steps args.size self.chunkSize) : self.chunkSize ≤ isizeMax := by
  rcases h with rfl | hcap
  · rw [hsize, List.length_nil, steps_zero hc] at hk
    exact absurd hk (Nat.not_lt_zero k)
  · exact hcap

/-- Every block accepted: its frame is sent. -/
theorem tcpUpload_ok {line : TcpLine} (h : line.Accepts crates (steps args.size self.chunkSize)) (hc : 1 ≤ self.chunkSize)
    (hcap : Buffered self w.content) (hsize : args.size = w.content.length) (h32 : w.content.length < 2 ^ 32) :
    ∃ enough, ∀ fuel ≥ enough, (tcpUpload crates self args line fuel).run w =
      (.ok (), tcpState crates self args w (steps args.size self.chunkSize)) := by
  obtain ⟨enough, hblocks⟩ := enough_for_all fun k hk =>
    tcpBlock_ok self args (w := w) (h.blocks k hk) (hcap.of_step hc hsize hk) hsize h32
  refine ⟨enough, fun fuel hfuel => ?_⟩
  rw [tcpUpload_connects h.connects hc, Effect.forM_range_ok (hblocks fuel hfuel)]

theorem tcpUpload_lost {line : TcpLine} (h : line.Loses crates (steps args.size self.chunkSize)) (hc : 1 ≤ self.chunkSize)
    (hcap : Buffered self w.content) (hsize : args.size = w.content.length) (h32 : w.content.length < 2 ^ 32) (fuel : Nat) :
    ((tcpUpload crates self args line fuel).run w).1.Lost := by
  obtain ⟨k, hk, hbefore, hlost⟩ := h.blocks
  have hcap' := hcap.of_step hc hsize hk
  rw [tcpUpload_connects h.connects hc]
  exact Effect.forM_range_lost _ (fun j hj => tcpBlock_ok_or_lost (hbefore j hj) hcap' hsize h32 fuel) hk
    (tcpBlock_lost hlost hcap' hsize h32 fuel)

/-- Neither accepted nor lost: an error, before which nothing was posted. -/
theorem tcpUpload_err {line : TcpLine} (haccepts : ¬ line.Accepts crates (steps args.size self.chunkSize))
    (hloses : ¬ line.Loses crates (steps args.size self.chunkSize)) (hc : 1 ≤ self.chunkSize)
    (hcap : Buffered self w.content) (hsize : args.size = w.content.length) (h32 : w.content.length < 2 ^ 32) :
    ∃ enough, ∀ fuel ≥ enough, ∃ e w', (tcpUpload crates self args line fuel).run w = (.err e, w') ∧
      w'.content = w.content ∧ w'.posted = w.posted := by
  by_cases hconnects : line.Connects
  · have hrefused : ∃ k, k < steps args.size self.chunkSize ∧ ¬ line.AcceptsBlock crates k := by
      by_contra hall
      exact haccepts ⟨hconnects, fun k hk => by_contra fun hblock => hall ⟨k, hk, hblock⟩⟩
    classical
    -- The first of them: those before it are accepted, so it is not lost.
    obtain ⟨hk, hblock⟩ := Nat.find_spec hrefused
    have hcap' := hcap.of_step hc hsize hk
    have hbefore : ∀ j < Nat.find hrefused, line.AcceptsBlock crates j := fun j hj =>
      by_contra fun hj' => Nat.find_min hrefused hj ⟨Nat.lt_trans hj hk, hj'⟩
    have hlost : ¬ line.LosesBlock crates (Nat.find hrefused) := fun hlost => hloses ⟨hconnects, _, hk, hbefore, hlost⟩
    obtain ⟨enough, hok⟩ := enough_for_all fun j hj =>
      tcpBlock_ok self args (w := w) (hbefore j hj) hcap' hsize h32
    obtain ⟨enough', herr⟩ := tcpBlock_err self args (w := w) hblock hlost hcap' hsize h32
    refine ⟨max enough enough', fun fuel hfuel => ?_⟩
    obtain ⟨e, w', hturn, hkept⟩ := herr fuel (Nat.le_trans (Nat.le_max_right ..) hfuel)
    refine ⟨e, w', ?_, hkept⟩
    rw [tcpUpload_connects hconnects hc]
    exact Effect.forM_range_err (hok fuel (Nat.le_trans (Nat.le_max_left ..) hfuel)) hk hturn
  · obtain ⟨e, w', herr, hkept⟩ := tcpUpload_unconnected crates self args (w := w) hconnects
    exact ⟨0, fun fuel _ => ⟨e, w', herr fuel, hkept⟩⟩

end Loops

/-! ## HTTP -/

structure HttpLine.AcceptsBlock (crates : HighwayCrates) (line : HttpLine) (k : Nat) : Prop where
  read : line.stream.read k = .ok ()
  post : ∃ res f, line.post k = .ok res ∧ decodeFrame res = .ok f ∧ Mania.Accepts crates f

/-- Every one of `n` blocks is accepted. -/
structure HttpLine.Accepts (crates : HighwayCrates) (n : Nat) (line : HttpLine) : Prop where
  seek : line.stream.seek = .ok ()
  blocks : ∀ k < n, line.AcceptsBlock crates k

theorem decodeFrame_fits {res : Bytes} {f : HighwayFrame} (h : decodeFrame res = .ok f) : f.Fits := by
  rw [decodeFrame] at h
  split at h
  · next hdecode =>
    cases h
    exact HighwayFrame.fits_of_decode hdecode
  · cases h
  · cases h
  · next e _ => exact e.elim
  · cases h

section Http

variable {w : HighwayWorld}

theorem httpBlock_ok {line : HttpLine} {k : Nat} (h : line.AcceptsBlock crates k)
    (hcap : self.chunkSize ≤ isizeMax) (hsize : args.size = w.content.length) (h32 : w.content.length < 2 ^ 32) :
    (httpBlock crates self args line k).run (httpState crates self args w k) =
      (.ok (), httpState crates self args w (k + 1)) := by
  obtain ⟨res, f, hpost, hdecode, haccepts⟩ := h.post
  obtain ⟨progress, hparse⟩ := parseFrame_ok (decodeFrame_fits hdecode) haccepts
  have hframe := buildFrame_ok crates (w := httpState crates self args w k) h.read hcap rfl hsize h32
  rw [httpBlock, Effect.bind_ok hframe, Effect.modify_bind, hpost, httpState_succ]
  simp only [pure_bind, hdecode, hparse, Effect.lift_ok]
  rfl

theorem httpUpload_ok {line : HttpLine} (h : line.Accepts crates (steps args.size self.chunkSize)) (hc : 1 ≤ self.chunkSize)
    (hcap : Buffered self w.content) (hsize : args.size = w.content.length) (h32 : w.content.length < 2 ^ 32) :
    (httpUpload crates self args line).run w = (.ok (), httpState crates self args w (steps args.size self.chunkSize)) := by
  rw [httpUpload_seeks h.seek hc]
  exact Effect.forM_range_ok fun k hk => httpBlock_ok (h.blocks k hk) (hcap.of_step hc hsize hk) hsize h32

end Http

/-! ## Where the buffer of a block cannot be -/

theorem forM_range_panic {body : Nat → HighwayAction PUnit} {n : Nat} {w : HighwayWorld} (hn : 0 < n)
    (h : (body 0).run w = (.panic, w)) : (forM (List.range n) body).run w = (.panic, w) := by
  obtain ⟨rest, hrest⟩ := Effect.range_split hn
  rw [hrest, List.range_zero, List.nil_append, List.forM_cons, Effect.bind_panic h]

theorem tcpUpload_panic (crates : HighwayCrates) {line : TcpLine} {w : HighwayWorld} (h : line.Connects)
    (hc : 1 ≤ self.chunkSize) (hcap : ¬ self.chunkSize ≤ isizeMax) (hsize : 0 < args.size) (fuel : Nat) :
    ((tcpUpload crates self args line fuel).run w).1 = .panic := by
  have hblock : (tcpBlock crates self args line fuel 0).run (tcpState crates self args w 0) =
      (.panic, tcpState crates self args w 0) := by
    rw [tcpBlock, Effect.bind_panic (buildFrame_panic hcap _)]
  rw [tcpUpload_connects h hc, forM_range_panic (steps_pos hsize hc) hblock]

theorem httpUpload_panic (crates : HighwayCrates) {line : HttpLine} {w : HighwayWorld} (h : line.stream.seek = .ok ())
    (hc : 1 ≤ self.chunkSize) (hcap : ¬ self.chunkSize ≤ isizeMax) (hsize : 0 < args.size) :
    ((httpUpload crates self args line).run w).1 = .panic := by
  have hblock : (httpBlock crates self args line 0).run (httpState crates self args w 0) =
      (.panic, httpState crates self args w 0) := by
    rw [httpBlock, Effect.bind_panic (buildFrame_panic hcap _)]
  rw [httpUpload_seeks h hc, forM_range_panic (steps_pos hsize hc) hblock]

/-! ## The upload -/

/-- The frames of all blocks are sent where they are accepted, and posted
where they were not all accepted over TCP. -/
structure UploadsBlocks (crates : HighwayCrates) (client : HighwayClient) (args : UploadArgs) (tcp : TcpLine)
    (http : HttpLine) (w : HighwayWorld) : Prop where
  overTcp : tcp.Accepts crates (steps args.size client.chunkSize) →
    ∃ enough, ∀ fuel ≥ enough, ∃ w', (tcpUpload crates client args tcp fuel).run w = (.ok (), w') ∧
      w'.sent = w.sent ++ blockFrames crates client args w.content
  overHttp : http.Accepts crates (steps args.size client.chunkSize) →
    ∃ w', (httpUpload crates client args http).run w = (.ok (), w') ∧
      w'.posted = w.posted ++ (blockFrames crates client args w.content).map HighwayFrame.encode
  fallback : ¬ tcp.Accepts crates (steps args.size client.chunkSize) →
    http.Accepts crates (steps args.size client.chunkSize) →
    ∃ enough, ∀ fuel ≥ enough, ∃ w', (upload crates client args tcp http fuel).run w = (.ok (), w') ∧
      w'.posted = w.posted ++ (blockFrames crates client args w.content).map HighwayFrame.encode

section Upload

variable {tcp : TcpLine} {http : HttpLine} {w : HighwayWorld}

theorem httpState_posted (hsize : args.size = w.content.length) :
    (httpState crates self args w (steps args.size self.chunkSize)).posted =
      w.posted ++ (blockFrames crates self args w.content).map HighwayFrame.encode := by
  rw [hsize, blockFrames, List.map_map]
  rfl

/-- A TCP upload that ends in an error leaves the stream to HTTP. -/
theorem upload_fallback (htcp : ¬ tcp.Accepts crates (steps args.size self.chunkSize))
    (hhttp : http.Accepts crates (steps args.size self.chunkSize))
    (hloses : ¬ tcp.Loses crates (steps args.size self.chunkSize))
    (hc : 1 ≤ self.chunkSize) (hcap : Buffered self w.content) (hsize : args.size = w.content.length)
    (h32 : w.content.length < 2 ^ 32) :
    ∃ enough, ∀ fuel ≥ enough, ∃ w', (upload crates self args tcp http fuel).run w = (.ok (), w') ∧
      w'.posted = w.posted ++ (blockFrames crates self args w.content).map HighwayFrame.encode := by
  obtain ⟨enough, herr⟩ := tcpUpload_err (w := w) htcp hloses hc hcap hsize h32
  refine ⟨enough, fun fuel hfuel => ?_⟩
  obtain ⟨e, left, hleft, hcontent, hposted⟩ := herr fuel hfuel
  have hleftSize : args.size = left.content.length := by rw [hcontent, hsize]
  refine ⟨httpState crates self args left (steps args.size self.chunkSize), ?_, ?_⟩
  · rw [upload, Effect.orElse_err hleft]
    exact httpUpload_ok hhttp hc (hcontent ▸ hcap) hleftSize (hcontent ▸ h32)
  · rw [httpState_posted hleftSize, hcontent, hposted]

/-- No content needs no buffer, and else it has to be one. -/
theorem UploadsBlocks.capacity (h : UploadsBlocks crates self args tcp http w) (hc : 1 ≤ self.chunkSize)
    (hsize : args.size = w.content.length)
    (haccepts : tcp.Accepts crates (steps args.size self.chunkSize) ∨
      http.Accepts crates (steps args.size self.chunkSize)) :
    Buffered self w.content := by
  by_contra hbad
  obtain ⟨hcontent, hcap⟩ := not_or.mp hbad
  have hpos : 0 < args.size := by
    rw [hsize]
    exact List.length_pos_iff.mpr hcontent
  rcases haccepts with htcp | hhttp
  · obtain ⟨enough, hok⟩ := h.overTcp htcp
    obtain ⟨w', hrun, -⟩ := hok enough (Nat.le_refl enough)
    have hpanic := tcpUpload_panic crates (w := w) htcp.connects hc hcap hpos enough
    rw [hrun] at hpanic
    cases hpanic
  · obtain ⟨w', hrun, -⟩ := h.overHttp hhttp
    have hpanic := httpUpload_panic crates (w := w) hhttp.seek hc hcap hpos
    rw [hrun] at hpanic
    cases hpanic

/-- **When the blocks are uploaded.** The frames are the blocks of the
content, one after the other. They are all sent, or posted after a failed
TCP upload, exactly when a block of `chunk_size` bytes can be buffered and
TCP does not fail without an error: by closing the connection before a
response, or with a response whose head does not decode or overflows. -/
theorem uploadsBlocks_iff (crates : HighwayCrates) (self : HighwayClient) (args : UploadArgs) (tcp : TcpLine)
    (http : HttpLine) (w : HighwayWorld) (hc : 1 ≤ self.chunkSize) (hsize : args.size = w.content.length)
    (h32 : w.content.length < 2 ^ 32) :
    (blockFrames crates self args w.content).flatMap HighwayFrame.body = w.content ∧
    (UploadsBlocks crates self args tcp http w ↔
      (tcp.Accepts crates (steps args.size self.chunkSize) ∨ http.Accepts crates (steps args.size self.chunkSize) →
        w.content = [] ∨ self.chunkSize ≤ isizeMax) ∧
      (http.Accepts crates (steps args.size self.chunkSize) → ¬ tcp.Loses crates (steps args.size self.chunkSize))) := by
  refine ⟨blockFrames_bodies hc w.content, fun h => ⟨h.capacity hc hsize, fun hhttp hloses => ?_⟩, fun ⟨hcap, hkeeps⟩ => ?_⟩
  · -- The fallback would have to come to an end, and TCP does not.
    have hcap := h.capacity hc hsize (.inr hhttp)
    obtain ⟨enough, hok⟩ := h.fallback (fun htcp => htcp.not_loses hloses) hhttp
    obtain ⟨w', hrun, -⟩ := hok enough (Nat.le_refl enough)
    have hlost : ((upload crates self args tcp http enough).run w).1.Lost :=
      Effect.orElse_lost (tcpUpload_lost hloses hc hcap hsize h32 enough)
    rw [hrun] at hlost
    cases hlost
  · refine ⟨fun htcp => ?_, fun hhttp => ?_, fun htcp hhttp => ?_⟩
    · obtain ⟨enough, hok⟩ := tcpUpload_ok htcp hc (hcap (.inl htcp)) hsize h32
      refine ⟨enough, fun fuel hfuel => ⟨_, hok fuel hfuel, ?_⟩⟩
      rw [hsize]
      rfl
    · exact ⟨_, httpUpload_ok hhttp hc (hcap (.inr hhttp)) hsize h32, httpState_posted hsize⟩
    · exact upload_fallback htcp hhttp (hkeeps hhttp) hc (hcap (.inr hhttp)) hsize h32

end Upload

/-! ## A server that accepts every block -/

def HighwayCrates.accepting : HighwayCrates where
  encode _ := []
  decode _ := some { msgSegHead := some { dataOffset := some 0 }, errorCode := 0 }
  md5 _ := []

def StreamLine.sound : StreamLine where
  seek := .ok ()
  read _ := .ok ()

def HttpLine.accepting : HttpLine where
  stream := .sound
  post _ := .ok [0x28, 0, 0, 0, 0, 0, 0, 0, 0, 0x29]

/-- It responds after a poll that gives nothing. -/
def TcpLine.accepting : TcpLine where
  stream := .sound
  toSocketAddrs := .ok (some ())
  connect := .ok ()
  send _ := .ok ()
  next _ poll := if poll = 0 then none else some (.ok ⟨{ head := [], body := [] }, by simp [HighwayFrame.Fits]⟩)

/-- It closes the connection instead. -/
def TcpLine.closing : TcpLine := { TcpLine.accepting with next := fun _ _ => none }

def HighwayClient.pairs : HighwayClient := { uin := "10001", ticket := [], chunkSize := 2 }

def UploadArgs.three : UploadArgs := { cmd := 1004, size := 3, md5 := [], extInfo := [] }

/-- Three bytes, read to their end before the upload. -/
def HighwayWorld.three : HighwayWorld := { content := [7, 8, 9], position := 3, sent := [], posted := [] }

theorem HighwayCrates.accepting_accepts (f : HighwayFrame) : Accepts HighwayCrates.accepting f :=
  ⟨_, _, 0, rfl, rfl, rfl, rfl, by decide⟩

theorem TcpLine.accepting_accepts (n : Nat) : TcpLine.accepting.Accepts HighwayCrates.accepting n where
  connects := ⟨rfl, rfl, rfl⟩
  blocks _ _ :=
    { read := rfl
      send := rfl
      answers := ⟨1, _, ⟨fun i hi => by rw [Nat.lt_one_iff.mp hi]; rfl, rfl⟩, HighwayCrates.accepting_accepts _⟩ }

theorem TcpLine.closing_loses {n : Nat} (hn : 0 < n) : TcpLine.closing.Loses HighwayCrates.accepting n where
  connects := ⟨rfl, rfl, rfl⟩
  blocks := ⟨0, hn, fun j hj => absurd hj (Nat.not_lt_zero j), rfl, rfl, .inl fun _ => rfl⟩

theorem HttpLine.accepting_accepts (n : Nat) : HttpLine.accepting.Accepts HighwayCrates.accepting n where
  seek := rfl
  blocks _ _ := { read := rfl, post := ⟨_, { head := [], body := [] }, rfl, rfl, HighwayCrates.accepting_accepts _⟩ }

/-- Three bytes in blocks of two. -/
theorem uploadsBlocks_three :
    (blockFrames .accepting .pairs .three [7, 8, 9]).map HighwayFrame.body = [[7, 8], [9]] ∧
    UploadsBlocks .accepting .pairs .three .accepting .accepting .three :=
  ⟨rfl, (uploadsBlocks_iff .accepting .pairs .three .accepting .accepting .three (by decide) rfl (by decide)).2.mpr
    ⟨fun _ => .inr (by decide), fun _ => (TcpLine.accepting_accepts _).not_loses⟩⟩

/-- A connection closed after the first block was sent: nothing is posted. -/
theorem not_uploadsBlocks_closing :
    ¬ ∀ (crates : HighwayCrates) (self : HighwayClient) (args : UploadArgs) (tcp : TcpLine) (http : HttpLine)
      (w : HighwayWorld), 1 ≤ self.chunkSize → args.size = w.content.length → w.content.length < 2 ^ 32 →
      UploadsBlocks crates self args tcp http w := by
  intro h
  have huploads := h .accepting .pairs .three .closing .accepting .three (by decide) rfl (by decide)
  have hloses : TcpLine.closing.Loses HighwayCrates.accepting (steps 3 2) := TcpLine.closing_loses (by decide)
  obtain ⟨enough, hok⟩ := huploads.fallback (fun htcp => htcp.not_loses hloses) (HttpLine.accepting_accepts _)
  obtain ⟨w', hrun, -⟩ := hok enough (Nat.le_refl enough)
  have hlost : ((upload .accepting .pairs .three .closing .accepting enough).run .three).1.Lost :=
    Effect.orElse_lost (tcpUpload_lost hloses (by decide) (.inr (by decide)) rfl (by decide) enough)
  rw [hrun] at hlost
  cases hlost

end Mania
