/-
What an upload that returned has handed over: the blocks of the stream,
from its start, over TCP or after a failed TCP upload over HTTP. The
position the stream was given at does not matter, and it stands at its end
afterwards (`upload_returns`).
-/
import Mania.HwClientFacts

namespace Mania

open Effect

variable {crates : HighwayCrates} {self : HighwayClient} {args : UploadArgs} {w w' : HighwayWorld} {k : Nat}

/-! ## Turns that returned -/

theorem ofIo_same {α : Type} (x : Except String α) : Keeps Eq (ofIo x) := by
  cases x with
  | ok a => exact Keeps.pure a
  | error e => exact Keeps.throw _

theorem awaitResponse_same (crates : HighwayCrates) (line : TcpLine) (fuel k : Nat) :
    Keeps Eq (awaitResponse crates line fuel k) := by
  unfold awaitResponse
  split
  · exact Keeps.spins.bind fun _ => (Keeps.lift _).bind fun _ => Keeps.pure _
  · exact (Keeps.throw _).bind fun _ => (Keeps.lift _).bind fun _ => Keeps.pure _
  · exact (Keeps.pure _).bind fun _ => (Keeps.lift _).bind fun _ => Keeps.pure _

theorem readStream_returned {line : StreamLine} {c : Nat} {chunk : Bytes}
    (h : (readStream line k c).run w = (.ok chunk, w')) : c ≤ isizeMax ∧ line.read k = .ok () := by
  obtain ⟨u, w₁, hcap, hrest⟩ := bind_eq_ok.mp h
  refine ⟨Outcome.guard_eq_ok.mp (lift_eq_ok.mp hcap).1, ?_⟩
  cases hread : line.read k with
  | ok u => rfl
  | error failed =>
    rw [hread] at hrest
    cases hrest

theorem buildFrame_returned {line : StreamLine} {frame : HighwayFrame}
    (h : (buildFrame crates self args line k (k * self.chunkSize)).run w = (.ok frame, w'))
    (hposition : w.position = min (k * self.chunkSize) w.content.length) (hsize : args.size = w.content.length)
    (h32 : w.content.length < 2 ^ 32) : frame = blockFrame crates self args w.content k ∧
      w' = { w with position := min ((k + 1) * self.chunkSize) w.content.length } := by
  obtain ⟨chunk, w₁, hread, -⟩ := bind_eq_ok.mp h
  obtain ⟨hcap, hok⟩ := readStream_returned hread
  rw [buildFrame_ok crates hok hcap hposition hsize h32] at h
  cases h
  exact ⟨rfl, rfl⟩

theorem tcpBlock_returned {line : TcpLine} {fuel : Nat} (hsize : args.size = w.content.length)
    (h32 : w.content.length < 2 ^ 32)
    (h : (tcpBlock crates self args line fuel k).run (tcpState crates self args w k) = (.ok (), w')) :
    w' = tcpState crates self args w (k + 1) := by
  obtain ⟨frame, w₁, hframe, hrest⟩ := bind_eq_ok.mp h
  obtain ⟨rfl, rfl⟩ := buildFrame_returned hframe rfl hsize h32
  rw [modify_bind] at hrest
  rw [tcpState_succ]
  refine Keeps.unchanged ?_ hrest
  exact (ofIo_same (line.send k)).bind fun _ => awaitResponse_same crates line fuel k

theorem httpBlock_returned {line : HttpLine} (hsize : args.size = w.content.length) (h32 : w.content.length < 2 ^ 32)
    (h : (httpBlock crates self args line k).run (httpState crates self args w k) = (.ok (), w')) :
    w' = httpState crates self args w (k + 1) := by
  obtain ⟨frame, w₁, hframe, hrest⟩ := bind_eq_ok.mp h
  obtain ⟨rfl, rfl⟩ := buildFrame_returned hframe rfl hsize h32
  rw [modify_bind] at hrest
  rw [httpState_succ]
  refine Keeps.unchanged ?_ hrest
  split
  · exact (Keeps.pure _).bind fun _ => (Keeps.lift _).bind fun _ => (Keeps.lift _).bind fun _ => Keeps.pure _
  · exact (Keeps.throw _).bind fun _ => (Keeps.lift _).bind fun _ => (Keeps.lift _).bind fun _ => Keeps.pure _

/-! ## Uploads that returned -/

theorem tcpUpload_returned {line : TcpLine} {fuel : Nat} (hsize : args.size = w.content.length)
    (h32 : w.content.length < 2 ^ 32) (h : (tcpUpload crates self args line fuel).run w = (.ok (), w')) :
    1 ≤ self.chunkSize ∧ w' = tcpState crates self args w (steps args.size self.chunkSize) := by
  by_cases hconnects : line.Connects
  · have hc : 1 ≤ self.chunkSize := by
      by_contra hzero
      have hstep : ¬ self.chunkSize ≠ 0 := by omega
      rw [tcpUpload, seekStart, hconnects.seek, hconnects.toSocketAddrs, hconnects.connect, Outcome.guard_neg hstep] at h
      cases h
    rw [tcpUpload_connects hconnects hc] at h
    have hturn : ∀ k < steps args.size self.chunkSize, ∀ w₁ w₂, w₁ = tcpState crates self args w k →
        (tcpBlock crates self args line fuel k).run w₁ = (.ok (), w₂) → w₂ = tcpState crates self args w (k + 1) := by
      intro k _ w₁ w₂ hw₁ hrun
      subst hw₁
      exact tcpBlock_returned hsize h32 hrun
    exact ⟨hc, forM_range_returns hturn rfl h⟩
  · obtain ⟨e, left, herr, -⟩ := tcpUpload_unconnected crates self args (w := w) hconnects
    rw [herr fuel] at h
    cases h

theorem httpUpload_returned {line : HttpLine} (hsize : args.size = w.content.length) (h32 : w.content.length < 2 ^ 32)
    (h : (httpUpload crates self args line).run w = (.ok (), w')) :
    1 ≤ self.chunkSize ∧ w' = httpState crates self args w (steps args.size self.chunkSize) := by
  cases hseek : line.stream.seek with
  | error e =>
    rw [httpUpload, seekStart, hseek] at h
    cases h
  | ok u =>
    have hc : 1 ≤ self.chunkSize := by
      by_contra hzero
      have hstep : ¬ self.chunkSize ≠ 0 := by omega
      rw [httpUpload, seekStart, hseek, Outcome.guard_neg hstep] at h
      cases h
    rw [httpUpload_seeks hseek hc] at h
    have hturn : ∀ k < steps args.size self.chunkSize, ∀ w₁ w₂, w₁ = httpState crates self args w k →
        (httpBlock crates self args line k).run w₁ = (.ok (), w₂) → w₂ = httpState crates self args w (k + 1) := by
      intro k _ w₁ w₂ hw₁ hrun
      subst hw₁
      exact httpBlock_returned hsize h32 hrun
    exact ⟨hc, forM_range_returns hturn rfl h⟩

/-! ## TCP posts nothing -/

/-- The stream holds what it held, and nothing is posted. -/
def Unposted (w w' : HighwayWorld) : Prop := w'.content = w.content ∧ w'.posted = w.posted

instance : Std.Refl Unposted := ⟨fun _ => ⟨rfl, rfl⟩⟩

instance : IsTrans HighwayWorld Unposted :=
  ⟨fun _ _ _ hfirst hrest => ⟨hrest.1.trans hfirst.1, hrest.2.trans hfirst.2⟩⟩

theorem modify_unposted {f : HighwayWorld → HighwayWorld} (hf : ∀ w, Unposted w (f w)) :
    Keeps Unposted (modify f : HighwayAction Unit) := Keeps.modify hf

theorem readStream_unposted (line : StreamLine) (k c : Nat) : Keeps Unposted (readStream line k c) := by
  refine (Keeps.lift _).bind fun _ => ?_
  cases line.read k with
  | ok u => exact Keeps.get.bind fun w => Keeps.bind (modify_unposted fun _ => ⟨rfl, rfl⟩) fun _ => Keeps.pure _
  | error failed => exact Keeps.bind (modify_unposted fun _ => ⟨rfl, rfl⟩) fun _ => Keeps.throw _

theorem tcpBlock_unposted (line : TcpLine) (fuel k : Nat) : Keeps Unposted (tcpBlock crates self args line fuel k) :=
  ((readStream_unposted line.stream k _).bind fun _ => Keeps.pure _).bind fun _ =>
    Keeps.bind (modify_unposted fun _ => ⟨rfl, rfl⟩) fun _ => (ofIo_same _).of_eq.bind fun _ =>
      (awaitResponse_same crates line fuel k).of_eq

theorem tcpUpload_unposted (line : TcpLine) (fuel : Nat) : Keeps Unposted (tcpUpload crates self args line fuel) := by
  have hseek : Keeps Unposted (seekStart line.stream) :=
    (ofIo_same _).of_eq.bind fun _ => modify_unposted fun _ => ⟨rfl, rfl⟩
  exact hseek.bind fun _ => (ofIo_same _).of_eq.bind fun _ => (Keeps.lift _).bind fun _ =>
    (ofIo_same _).of_eq.bind fun _ => (Keeps.lift _).bind fun _ => Keeps.forM (tcpBlock_unposted line fuel) _

/-! ## The upload -/

/-- The blocks of the content were sent, or posted. -/
structure Delivered (crates : HighwayCrates) (client : HighwayClient) (args : UploadArgs) (w w' : HighwayWorld) : Prop where
  chunkSize : 1 ≤ client.chunkSize
  content : w'.content = w.content
  position : w'.position = w.content.length
  frames : w'.sent = w.sent ++ blockFrames crates client args w.content ∧ w'.posted = w.posted ∨
    w'.posted = w.posted ++ (blockFrames crates client args w.content).map HighwayFrame.encode

theorem position_end (hc : 1 ≤ self.chunkSize) (size : Nat) : min (steps size self.chunkSize * self.chunkSize) size = size :=
  Nat.min_eq_right (le_steps_mul hc size)

/-- **An upload that returned delivered all of the stream**, wherever that
stood before. -/
theorem upload_returned {tcp : TcpLine} {http : HttpLine} {fuel : Nat} (hsize : args.size = w.content.length)
    (h32 : w.content.length < 2 ^ 32) (h : (upload crates self args tcp http fuel).run w = (.ok (), w')) :
    Delivered crates self args w w' := by
  rcases htcp : (tcpUpload crates self args tcp fuel).run w with ⟨exit, left⟩
  cases exit with
  | ok u =>
    rw [run, upload, orElse, htcp] at h
    cases h
    obtain ⟨hc, rfl⟩ := tcpUpload_returned hsize h32 htcp
    refine ⟨hc, rfl, ?_, .inl ⟨?_, rfl⟩⟩
    · rw [hsize]
      exact position_end hc _
    · rw [hsize]
      rfl
  | err e =>
    have hunposted : Unposted w ((tcpUpload crates self args tcp fuel).run w).2 := tcpUpload_unposted tcp fuel w
    rw [htcp] at hunposted
    obtain ⟨hcontent, hposted⟩ := hunposted
    have hleft : args.size = left.content.length := by rw [hcontent, hsize]
    rw [upload, orElse_err htcp] at h
    obtain ⟨hc, rfl⟩ := httpUpload_returned hleft (hcontent ▸ h32) h
    refine ⟨hc, hcontent, ?_, .inr ?_⟩
    · rw [hleft, ← hcontent]
      exact position_end hc _
    · rw [httpState_posted hleft, hcontent, hposted]
  | panic =>
    rw [run, upload, orElse, htcp] at h
    cases h
  | spins =>
    rw [run, upload, orElse, htcp] at h
    cases h

/-! ## An upload of size zero -/

/-- Nothing is handed to either connection. -/
def Silent (w w' : HighwayWorld) : Prop := w'.sent = w.sent ∧ w'.posted = w.posted

instance : Std.Refl Silent := ⟨fun _ => ⟨rfl, rfl⟩⟩

instance : IsTrans HighwayWorld Silent :=
  ⟨fun _ _ _ hfirst hrest => ⟨hrest.1.trans hfirst.1, hrest.2.trans hfirst.2⟩⟩

theorem seekStart_silent (line : StreamLine) : Keeps Silent (seekStart line) := by
  refine (ofIo_same _).of_eq.bind fun _ => ?_
  intro w
  exact ⟨rfl, rfl⟩

theorem no_steps (chunkSize : Nat) : steps 0 chunkSize = 0 := by
  cases chunkSize with
  | zero => rfl
  | succ c => exact steps_zero (Nat.succ_le_succ (Nat.zero_le c))

/-- **An upload of size zero hands over nothing**, whatever the stream holds. -/
theorem upload_silent (crates : HighwayCrates) (self : HighwayClient) {args : UploadArgs} (hsize : args.size = 0)
    (tcp : TcpLine) (http : HttpLine) (fuel : Nat) : Keeps Silent (upload crates self args tcp http fuel) := by
  have hloop (body : Nat → HighwayAction Unit) : Keeps Silent (forM (List.range (steps args.size self.chunkSize)) body) := by
    rw [hsize, no_steps]
    exact Keeps.pure _
  have htcp : Keeps Silent (tcpUpload crates self args tcp fuel) :=
    (seekStart_silent _).bind fun _ => (ofIo_same _).of_eq.bind fun _ => (Keeps.lift _).bind fun _ =>
      (ofIo_same _).of_eq.bind fun _ => (Keeps.lift _).bind fun _ => hloop _
  exact htcp.orElse fun _ => (seekStart_silent _).bind fun _ => (Keeps.lift _).bind fun _ => hloop _

end Mania
