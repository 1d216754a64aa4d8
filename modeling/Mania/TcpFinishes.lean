/-
When `tcp_upload` comes to an end against a peer that responds some number
of times and then closes the connection.

Whether a block is accepted, refused or lost does not depend on the data,
so the size of the upload and the length of the stream are unrelated here.
A response whose progress overflows crashes the upload, as in a build with
overflow checks.
The states between the blocks are those of `afterBlocks`, whatever the
fuel. `tcpFinishes_iff` puts the cases together.
-/
import Mania.HwClientFacts

namespace Mania

/-- The peer of a TCP upload: what the framed stream yields, in order,
before it is closed and yields `None` from then on. -/
structure TcpPeer where
  stream : StreamLine
  toSocketAddrs : Except String (Option Unit)
  connect : Except String Unit
  send : Nat → Except String Unit
  responses : List (Except HighwayError HighwayResponse)

/-- Every block takes the next response, as its wait ends at the first. -/
def TcpPeer.line (peer : TcpPeer) : TcpLine where
  stream := peer.stream
  toSocketAddrs := peer.toSocketAddrs
  connect := peer.connect
  send := peer.send
  next k _ := peer.responses[k]?

variable {crates : HighwayCrates} {self : HighwayClient} {args : UploadArgs}

/-! ## The states between the blocks -/

section States

variable (crates) (self) (args) (line : StreamLine)

/-- The world after the `k`-th block was read and handed to the connection. -/
def afterBlock (w : HighwayWorld) (k : Nat) : HighwayWorld :=
  match (buildFrame crates self args line k (k * self.chunkSize)).run w with
  | (.ok frame, w') => { w' with sent := w'.sent ++ [frame] }
  | (_, w') => w'

def afterBlocks (w : HighwayWorld) : Nat → HighwayWorld
  | 0 => { w with position := 0 }
  | k + 1 => afterBlock crates self args line (afterBlocks w k) k

end States

variable {w : HighwayWorld} {k : Nat}

/-- Without a bound on the content there is still some frame. -/
theorem buildFrame_read (crates : HighwayCrates) (args : UploadArgs) (w : HighwayWorld) {line : StreamLine}
    (hread : line.read k = .ok ()) (hcap : self.chunkSize ≤ isizeMax) :
    ∃ frame w', (buildFrame crates self args line k (k * self.chunkSize)).run w = (.ok frame, w') ∧
      afterBlock crates self args line w k = { w' with sent := w'.sent ++ [frame] } := by
  let chunk := (w.content.drop w.position).take self.chunkSize
  have hstream : (readStream line k self.chunkSize).run w =
      (.ok chunk, { w with position := w.position + chunk.length }) := by
    rw [readStream, withCapacity, Outcome.guard_pos hcap, Effect.lift_ok, pure_bind, hread]
    rfl
  obtain ⟨frame, w', hframe⟩ : ∃ frame w', (buildFrame crates self args line k (k * self.chunkSize)).run w =
      (.ok frame, w') := by
    rw [buildFrame, Effect.bind_ok hstream]
    exact ⟨_, _, rfl⟩
  exact ⟨frame, w', hframe, by rw [afterBlock, hframe]⟩

/-- A block that is read and sent waits for its response. -/
theorem tcpBlock_waits {line : TcpLine} {fuel : Nat} (hread : line.stream.read k = .ok ())
    (hsend : line.send k = .ok ()) (hcap : self.chunkSize ≤ isizeMax) :
    (tcpBlock crates self args line fuel k).run w =
      (awaitResponse crates line fuel k).run (afterBlock crates self args line.stream w k) := by
  obtain ⟨frame, w', hframe, hafter⟩ := buildFrame_read crates args w hread hcap
  rw [tcpBlock, Effect.bind_ok hframe, Effect.modify_bind, hsend, hafter]
  rfl

theorem tcpBlock_accepted (self : HighwayClient) (args : UploadArgs) (w : HighwayWorld) {line : TcpLine}
    (h : line.AcceptsBlock crates k) (hcap : self.chunkSize ≤ isizeMax) :
    ∃ enough, ∀ fuel ≥ enough,
      (tcpBlock crates self args line fuel k).run (afterBlocks crates self args line.stream w k) =
        (.ok (), afterBlocks crates self args line.stream w (k + 1)) := by
  obtain ⟨enough, hanswer⟩ := awaitResponse_ok h.answers
  refine ⟨enough, fun fuel hfuel => ?_⟩
  rw [tcpBlock_waits h.read h.send hcap, hanswer fuel hfuel]
  rfl

/-- A block that is neither accepted nor lost ends in an error. -/
theorem tcpBlock_refused (self : HighwayClient) (args : UploadArgs) (w : HighwayWorld) {line : TcpLine}
    (haccepts : ¬ line.AcceptsBlock crates k) (hloses : ¬ line.LosesBlock crates k) (hcap : self.chunkSize ≤ isizeMax) :
    ∃ enough, ∀ fuel ≥ enough, ∃ e w', (tcpBlock crates self args line fuel k).run w = (.err e, w') := by
  cases hread : line.stream.read k with
  | error failed =>
    obtain ⟨e, position⟩ := failed
    refine ⟨0, fun fuel _ => ⟨.ioError e, { w with position }, ?_⟩⟩
    rw [tcpBlock, Effect.bind_err (buildFrame_err hread hcap _)]
  | ok =>
    cases hsend : line.send k with
    | error e =>
      obtain ⟨frame, w', hframe, -⟩ := buildFrame_read crates args w hread hcap
      refine ⟨0, fun fuel _ => ⟨.ioError e, { w' with sent := w'.sent ++ [frame] }, ?_⟩⟩
      rw [tcpBlock, Effect.bind_ok hframe, Effect.modify_bind, hsend]
      rfl
    | ok =>
      obtain ⟨enough, hanswer⟩ := awaitResponse_err crates line k
        (fun hanswers => haccepts ⟨hread, hsend, hanswers⟩) (fun hlost => hloses ⟨hread, hsend, hlost⟩)
      refine ⟨enough, fun fuel hfuel => ?_⟩
      obtain ⟨e, herr⟩ := hanswer fuel hfuel (afterBlock crates self args line.stream w k)
      exact ⟨e, _, by rw [tcpBlock_waits hread hsend hcap, herr]⟩

/-! ## The loop -/

theorem tcpUpload_blocks {line : TcpLine} (h : line.Connects) (hc : 1 ≤ self.chunkSize) (fuel : Nat) :
    (tcpUpload crates self args line fuel).run w =
      (forM (List.range (steps args.size self.chunkSize)) (tcpBlock crates self args line fuel)).run
        (afterBlocks crates self args line.stream w 0) := by
  rw [tcpUpload_connects h hc, tcpState_zero]
  rfl

/-- Blocks to upload need a buffer each. -/
def Bufferable (self : HighwayClient) (args : UploadArgs) : Prop := 0 < args.size → self.chunkSize ≤ isizeMax

theorem Bufferable.of_step (h : Bufferable self args) (hc : 1 ≤ self.chunkSize)
    (hk : k < steps args.size self.chunkSize) : self.chunkSize ≤ isizeMax := by
  refine h (Nat.pos_of_ne_zero fun hzero => ?_)
  rw [hzero, steps_zero hc] at hk
  exact Nat.not_lt_zero k hk

theorem tcpUpload_accepted (w : HighwayWorld) {line : TcpLine}
    (h : line.Accepts crates (steps args.size self.chunkSize)) (hc : 1 ≤ self.chunkSize) (hcap : Bufferable self args) :
    ∃ enough, ∀ fuel ≥ enough, ∃ w', (tcpUpload crates self args line fuel).run w = (.ok (), w') := by
  obtain ⟨enough, hblocks⟩ := enough_for_all fun k hk =>
    tcpBlock_accepted self args w (h.blocks k hk) (hcap.of_step hc hk)
  refine ⟨enough, fun fuel hfuel => ⟨afterBlocks crates self args line.stream w (steps args.size self.chunkSize), ?_⟩⟩
  rw [tcpUpload_blocks h.connects hc, Effect.forM_range_ok (hblocks fuel hfuel)]

theorem tcpUpload_deserted (w : HighwayWorld) {line : TcpLine} (h : line.Loses crates (steps args.size self.chunkSize))
    (hc : 1 ≤ self.chunkSize) (hcap : Bufferable self args) (fuel : Nat) :
    ((tcpUpload crates self args line fuel).run w).1.Lost := by
  obtain ⟨k, hk, hbefore, hlost⟩ := h.blocks
  have hcap' := hcap.of_step hc hk
  rw [tcpUpload_blocks h.connects hc]
  refine Effect.forM_range_lost (afterBlocks crates self args line.stream w) (fun j hj => ?_) hk ?_
  · obtain ⟨hread, hsend, hanswers⟩ := hbefore j hj
    rw [tcpBlock_waits hread hsend hcap']
    exact awaitResponse_ok_or_lost hanswers fuel _
  · rw [tcpBlock_waits hlost.read hlost.send hcap']
    exact awaitResponse_lost hlost.losesAnswer fuel _

/-- Neither accepted nor lost: the first block that is not accepted ends
the upload in an error. -/
theorem tcpUpload_refused (w : HighwayWorld) {line : TcpLine}
    (haccepts : ¬ line.Accepts crates (steps args.size self.chunkSize))
    (hloses : ¬ line.Loses crates (steps args.size self.chunkSize)) (hc : 1 ≤ self.chunkSize)
    (hcap : line.Connects → Bufferable self args) :
    ∃ enough, ∀ fuel ≥ enough, ∃ e w', (tcpUpload crates self args line fuel).run w = (.err e, w') := by
  by_cases hconnects : line.Connects
  · have hrefused : ∃ k, k < steps args.size self.chunkSize ∧ ¬ line.AcceptsBlock crates k := by
      by_contra hall
      exact haccepts ⟨hconnects, fun k hk => by_contra fun hblock => hall ⟨k, hk, hblock⟩⟩
    classical
    obtain ⟨hk, hblock⟩ := Nat.find_spec hrefused
    have hcap' := (hcap hconnects).of_step hc hk
    have hbefore : ∀ j < Nat.find hrefused, line.AcceptsBlock crates j := fun j hj =>
      by_contra fun hj' => Nat.find_min hrefused hj ⟨Nat.lt_trans hj hk, hj'⟩
    have hlost : ¬ line.LosesBlock crates (Nat.find hrefused) := fun hlost => hloses ⟨hconnects, _, hk, hbefore, hlost⟩
    obtain ⟨enough, hok⟩ := enough_for_all fun j hj => tcpBlock_accepted self args w (hbefore j hj) hcap'
    obtain ⟨enough', herr⟩ := tcpBlock_refused self args
      (afterBlocks crates self args line.stream w (Nat.find hrefused)) hblock hlost hcap'
    refine ⟨max enough enough', fun fuel hfuel => ?_⟩
    obtain ⟨e, w', hturn⟩ := herr fuel (Nat.le_trans (Nat.le_max_right ..) hfuel)
    refine ⟨e, w', ?_⟩
    rw [tcpUpload_blocks hconnects hc]
    exact Effect.forM_range_err (hok fuel (Nat.le_trans (Nat.le_max_left ..) hfuel)) hk hturn
  · obtain ⟨e, w', herr, -⟩ := tcpUpload_unconnected crates self args (w := w) hconnects
    exact ⟨0, fun fuel _ => ⟨e, w', herr fuel⟩⟩

/-! ## The whole upload -/

namespace TcpPeer

/-- With enough fuel `tcp_upload` returns: an error, after which `upload`
goes on over HTTP, or a success for which the peer responded without an
error to every block. -/
def Finishes (crates : HighwayCrates) (self : HighwayClient) (args : UploadArgs) (peer : TcpPeer) (w : HighwayWorld) :
    Prop :=
  ∃ enough, ∀ fuel ≥ enough,
    (∃ e w', (tcpUpload crates self args peer.line fuel).run w = (.err e, w') ∧
      ∀ http, (upload crates self args peer.line http fuel).run w = (httpUpload crates self args http).run w') ∨
    (∃ w', (tcpUpload crates self args peer.line fuel).run w = (.ok (), w') ∧
      ∀ k < steps args.size self.chunkSize, ∃ resp head, peer.responses[k]? = some (.ok resp) ∧
        crates.decode resp.val.head = some head ∧ head.errorCode = 0)

/-- The `k`-th block is read and sent, and its response is accepted. -/
structure Serves (crates : HighwayCrates) (peer : TcpPeer) (k : Nat) : Prop where
  read : peer.stream.read k = .ok ()
  send : peer.send k = .ok ()
  response : ∃ resp, peer.responses[k]? = some (.ok resp) ∧ Accepts crates resp.val

/-- The `k`-th block is read and sent, and there is no response to it, or
one that crashes the client. -/
structure Deserts (crates : HighwayCrates) (peer : TcpPeer) (k : Nat) : Prop where
  read : peer.stream.read k = .ok ()
  send : peer.send k = .ok ()
  response : peer.responses.length ≤ k ∨ ∃ resp, peer.responses[k]? = some (.ok resp) ∧ Crashes crates resp.val

variable {peer : TcpPeer}

theorem acceptsBlock_iff : peer.line.AcceptsBlock crates k ↔ peer.Serves crates k := by
  constructor
  · rintro ⟨hread, hsend, poll, resp, hfirst, haccepts⟩
    exact ⟨hread, hsend, resp, hfirst.2, haccepts⟩
  · rintro ⟨hread, hsend, resp, hresp, haccepts⟩
    exact ⟨hread, hsend, 0, resp, ⟨fun i hi => absurd hi (Nat.not_lt_zero i), hresp⟩, haccepts⟩

theorem losesBlock_iff : peer.line.LosesBlock crates k ↔ peer.Deserts crates k := by
  constructor
  · rintro ⟨hread, hsend, hnone | ⟨poll, resp, hfirst, hcrashes⟩⟩
    · exact ⟨hread, hsend, .inl (List.getElem?_eq_none_iff.mp (hnone 0))⟩
    · exact ⟨hread, hsend, .inr ⟨resp, hfirst.2, hcrashes⟩⟩
  · rintro ⟨hread, hsend, hclosed | ⟨resp, hresp, hcrashes⟩⟩
    · exact ⟨hread, hsend, .inl fun _ => List.getElem?_eq_none_iff.mpr hclosed⟩
    · exact ⟨hread, hsend, .inr ⟨0, resp, ⟨fun i hi => absurd hi (Nat.not_lt_zero i), hresp⟩, hcrashes⟩⟩

/-- A run that is lost with every fuel does not finish. -/
theorem not_finishes_of_lost (h : ∀ fuel, ((tcpUpload crates self args peer.line fuel).run w).1.Lost) :
    ¬ peer.Finishes crates self args w := by
  rintro ⟨enough, hfinishes⟩
  have hlost := h enough
  rcases hfinishes enough (Nat.le_refl enough) with ⟨e, w', hrun, -⟩ | ⟨w', hrun, -⟩
  · rw [hrun] at hlost
    cases hlost
  · rw [hrun] at hlost
    cases hlost

/-- **When `tcp_upload` finishes.** Once the connection is there, it needs a
buffer for its blocks, and a response to the first block the peer does not
serve: where the peer closes the connection instead the wait never ends,
and where the response crashes the client nothing is returned. -/
theorem tcpFinishes_iff (crates : HighwayCrates) (self : HighwayClient) (args : UploadArgs) (peer : TcpPeer)
    (w : HighwayWorld) (hc : 1 ≤ self.chunkSize) :
    peer.Finishes crates self args w ↔ (peer.line.Connects → Bufferable self args ∧
      ¬ ∃ k < steps args.size self.chunkSize, (∀ j < k, peer.Serves crates j) ∧ peer.Deserts crates k) := by
  constructor
  · intro hfinishes hconnects
    have hcap : Bufferable self args := by
      intro hsize
      by_contra hcap
      refine not_finishes_of_lost (fun fuel => ?_) hfinishes
      rw [tcpUpload_panic crates hconnects hc hcap hsize]
      exact .panic
    refine ⟨hcap, ?_⟩
    rintro ⟨k, hk, hbefore, hdeserts⟩
    have hloses : peer.line.Loses crates (steps args.size self.chunkSize) :=
      ⟨hconnects, k, hk, fun j hj => acceptsBlock_iff.mpr (hbefore j hj), losesBlock_iff.mpr hdeserts⟩
    exact not_finishes_of_lost (tcpUpload_deserted w hloses hc hcap) hfinishes
  · intro h
    by_cases haccepts : peer.line.Accepts crates (steps args.size self.chunkSize)
    · obtain ⟨enough, hok⟩ := tcpUpload_accepted w haccepts hc (h haccepts.connects).1
      refine ⟨enough, fun fuel hfuel => ?_⟩
      obtain ⟨w', hrun⟩ := hok fuel hfuel
      refine .inr ⟨w', hrun, fun k hk => ?_⟩
      obtain ⟨resp, hresp, head, seg, offset, hhead, hcode, -⟩ :=
        (acceptsBlock_iff.mp (haccepts.blocks k hk)).response
      exact ⟨resp, head, hresp, hhead, hcode⟩
    · have hloses : ¬ peer.line.Loses crates (steps args.size self.chunkSize) := by
        rintro ⟨hconnects, k, hk, hbefore, hlost⟩
        exact (h hconnects).2
          ⟨k, hk, fun j hj => acceptsBlock_iff.mp (hbefore j hj), losesBlock_iff.mp hlost⟩
      obtain ⟨enough, herr⟩ := tcpUpload_refused w haccepts hloses hc fun hconnects => (h hconnects).1
      refine ⟨enough, fun fuel hfuel => ?_⟩
      obtain ⟨e, w', hrun⟩ := herr fuel hfuel
      exact .inl ⟨e, w', hrun, fun http => Effect.orElse_err hrun⟩

theorem emptyFrame_fits : HighwayFrame.Fits { head := [], body := [] } := ⟨Nat.two_pow_pos 32, Nat.two_pow_pos 32⟩

/-- The peer of three bytes in blocks of two: it responds to the first
block and closes the connection. -/
def closing : TcpPeer where
  stream := .sound
  toSocketAddrs := .ok (some ())
  connect := .ok ()
  send _ := .ok ()
  responses := [.ok ⟨{ head := [], body := [] }, emptyFrame_fits⟩]

theorem tcpFinishes_closing : closing.Finishes .accepting .pairs .three .three ↔
    (closing.line.Connects → Bufferable .pairs .three ∧
      ¬ ∃ k < steps 3 2, (∀ j < k, closing.Serves .accepting j) ∧ closing.Deserts .accepting k) :=
  tcpFinishes_iff .accepting .pairs .three closing .three (by decide)

/-- It waits for the response to the second block for ever. -/
theorem closing_not_finishes :
    ¬ ∀ (crates : HighwayCrates) (self : HighwayClient) (args : UploadArgs) (peer : TcpPeer) (w : HighwayWorld),
      1 ≤ self.chunkSize → peer.Finishes crates self args w := by
  intro h
  have hfirst : closing.Serves .accepting 0 := ⟨rfl, rfl, _, rfl, HighwayCrates.accepting_accepts _⟩
  have hserved : ∀ j < 1, closing.Serves .accepting j := by
    intro j hj
    rw [Nat.lt_one_iff.mp hj]
    exact hfirst
  have hloses : closing.line.Loses .accepting (steps 3 2) :=
    ⟨⟨rfl, rfl, rfl⟩, 1, by decide, fun j hj => acceptsBlock_iff.mpr (hserved j hj),
      losesBlock_iff.mpr ⟨rfl, rfl, .inl (by decide)⟩⟩
  exact not_finishes_of_lost (tcpUpload_deserted .three hloses (by decide) fun _ => by decide)
    (h .accepting .pairs .three closing .three (by decide))

end TcpPeer

end Mania
