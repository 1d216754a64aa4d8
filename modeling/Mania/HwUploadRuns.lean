/-
What has been handed to the highway server wherever an upload ends, in
whatever run: whatever size was announced, however the stream and the
connections answer, and with any fuel.

Both loops hand over the frames of the stream from the first on, each after
the one before was accepted (`Handed`), and an upload that returns had
all of them accepted on one of the connections (`upload_run`).
-/
import Mania.HwReturns

namespace Mania

open Effect

section Frames

variable (crates : HighwayCrates) (self : HighwayClient) (args : UploadArgs) (content : Bytes)

/-- The `k`-th frame, of a stream of any length. -/
def uploadFrame (k : Nat) : HighwayFrame :=
  let body := (content.drop (k * self.chunkSize)).take self.chunkSize
  let session : HighwaySession :=
    { ticket := self.ticket
      uin := self.uin
      cmd := args.cmd
      command := "PicUp.DataUp"
      fileMd5 := args.md5
      fileSize := args.size
      ext := args.extInfo }
  { head := session.buildPicUpHead crates (k * self.chunkSize) (body.length % 2 ^ 32) (crates.md5 body), body }

/-- The first `i` frames. -/
def uploadFrames (i : Nat) : List HighwayFrame := (List.range i).map (uploadFrame crates self args content)

/-- They hold what the stream begins with. -/
theorem uploadFrames_bodies (i : Nat) :
    (uploadFrames crates self args content i).flatMap HighwayFrame.body = content.take (i * self.chunkSize) := by
  rw [uploadFrames, List.flatMap_map]
  exact flatMap_blocks content self.chunkSize i

theorem uploadFrames_succ (i : Nat) : uploadFrames crates self args content (i + 1) =
    uploadFrames crates self args content i ++ [uploadFrame crates self args content i] := by
  simp [uploadFrames, List.range_succ]

end Frames

/-- The first `i` frames were handed to TCP since `w`, and the first `j` were posted. -/
structure Handed (crates : HighwayCrates) (client : HighwayClient) (args : UploadArgs) (w : HighwayWorld) (i j : Nat)
    (w' : HighwayWorld) : Prop where
  content : w'.content = w.content
  sent : w'.sent = w.sent ++ uploadFrames crates client args w.content i
  posted : w'.posted = w.posted ++ (uploadFrames crates client args w.content j).map HighwayFrame.encode

variable {crates : HighwayCrates} {self : HighwayClient} {args : UploadArgs} {w w₁ w₂ : HighwayWorld} {i j k : Nat}

theorem Handed.refl : Handed crates self args w 0 0 w where
  content := rfl
  sent := (List.append_nil _).symm
  posted := (List.append_nil _).symm

/-- Where the stream stands is nothing that was handed over. -/
theorem Handed.at {position : Nat} (h : Handed crates self args w i j w₁) :
    Handed crates self args w i j { w₁ with position } := ⟨h.content, h.sent, h.posted⟩

theorem Handed.send (h : Handed crates self args w i j w₁) : Handed crates self args w (i + 1) j
    { w₁ with sent := w₁.sent ++ [uploadFrame crates self args w.content i] } where
  content := h.content
  sent := by rw [h.sent, uploadFrames_succ, List.append_assoc]
  posted := h.posted

theorem Handed.post (h : Handed crates self args w i j w₁) : Handed crates self args w i (j + 1)
    { w₁ with posted := w₁.posted ++ [(uploadFrame crates self args w.content j).encode] } where
  content := h.content
  sent := h.sent
  posted := by rw [h.posted, uploadFrames_succ, List.map_append, List.append_assoc]; rfl

/-- What was handed over, and the stream stands before the `k`-th block. -/
structure Before (crates : HighwayCrates) (client : HighwayClient) (args : UploadArgs) (w : HighwayWorld) (i j k : Nat)
    (w₁ : HighwayWorld) : Prop where
  handed : Handed crates client args w i j w₁
  position : w₁.position = min (k * client.chunkSize) w.content.length

/-! ## One block -/

/-- A block is read, and the stream stands behind it, or it is not and
nothing else happens. -/
theorem buildFrame_run {line : StreamLine} {exit : Exit HighwayError HighwayFrame}
    (hbefore : Before crates self args w i j k w₁)
    (hrun : (buildFrame crates self args line k (k * self.chunkSize)).run w₁ = (exit, w₂)) :
    (exit = .ok (uploadFrame crates self args w.content k) ∧ line.read k = .ok () ∧
      Before crates self args w i j (k + 1) w₂) ∨
    ((∀ frame, exit ≠ .ok frame) ∧ Handed crates self args w i j w₂ ∧ ∀ e, exit = .err e → line.read k ≠ .ok ()) := by
  by_cases hcap : self.chunkSize ≤ isizeMax
  · cases hread : line.read k with
    | error failed =>
      obtain ⟨e, position⟩ := failed
      rw [buildFrame_err hread hcap] at hrun
      cases hrun
      refine .inr ⟨fun _ => Exit.err_ne_ok, hbefore.handed.at, fun _ _ hok => ?_⟩
      cases hok
    | ok u =>
      have hposition : w₁.position = min (k * self.chunkSize) w₁.content.length := by
        rw [hbefore.position, hbefore.handed.content]
      rw [buildFrame, bind_ok (readStream_ok hread hcap hposition)] at hrun
      cases hrun
      refine .inl ⟨?_, rfl, hbefore.handed.at, ?_⟩
      · rw [hbefore.handed.content]
        rfl
      · rw [hbefore.handed.content]
  · rw [buildFrame_panic hcap] at hrun
    cases hrun
    exact .inr ⟨fun _ => Exit.panic_ne_ok, hbefore.handed, fun _ h => absurd h Exit.panic_ne_err⟩

theorem accepts_of_parseFrame {f : HighwayFrame} {progress : Nat × Nat} (hf : f.Fits)
    (h : parseFrame crates f = .ok progress) : Accepts crates f := by
  by_contra haccepts
  by_cases hcrashes : Crashes crates f
  · rw [parseFrame_panic hf hcrashes] at h
    cases h
  · obtain ⟨e, herr⟩ := parseFrame_err crates hf haccepts hcrashes
    rw [herr] at h
    cases h

/-- A wait that returned had an answer, and one with an answer does not end in an error. -/
theorem awaitResponse_run {line : TcpLine} {fuel : Nat} {exit : Exit HighwayError Unit}
    (hrun : (awaitResponse crates line fuel k).run w₁ = (exit, w₂)) :
    w₂ = w₁ ∧ (exit = .ok () → line.Answers crates k) ∧ ∀ e, exit = .err e → ¬ line.Answers crates k := by
  refine ⟨Keeps.unchanged (awaitResponse_same crates line fuel k) hrun, ?_, ?_⟩
  · rintro rfl
    cases hnext : nextResponse fuel (line.next k) with
    | none =>
      rw [awaitResponse, hnext] at hrun
      cases hrun
    | some r =>
      obtain ⟨poll, hfirst⟩ := nextResponse_some fuel hnext
      cases r with
      | error e =>
        rw [awaitResponse, hnext] at hrun
        cases hrun
      | ok resp =>
        rw [awaitResponse_first hnext] at hrun
        obtain ⟨progress, w, hparse, -⟩ := bind_eq_ok.mp hrun
        exact ⟨poll, resp, hfirst, accepts_of_parseFrame resp.property (lift_eq_ok.mp hparse).1⟩
  · rintro e rfl hanswers
    rcases awaitResponse_ok_or_lost hanswers fuel w₁ with hok | hlost
    · rw [hrun] at hok
      cases hok
    · rw [hrun] at hlost
      cases hlost

/-- The turn of a block over TCP. -/
theorem tcpBlock_run {line : TcpLine} {fuel : Nat} {exit : Exit HighwayError Unit}
    (hbefore : Before crates self args w k j k w₁)
    (hrun : (tcpBlock crates self args line fuel k).run w₁ = (exit, w₂)) :
    (exit = .ok () → Before crates self args w (k + 1) j (k + 1) w₂ ∧ line.AcceptsBlock crates k) ∧
      (∃ i, k ≤ i ∧ i ≤ k + 1 ∧ Handed crates self args w i j w₂) ∧
      ∀ e, exit = .err e → ¬ line.AcceptsBlock crates k := by
  rcases hframe : (buildFrame crates self args line.stream k (k * self.chunkSize)).run w₁ with ⟨exit₁, left⟩
  rcases buildFrame_run hbefore hframe with ⟨rfl, hread, hleft⟩ | ⟨hexit, hhanded, herr⟩
  · rw [tcpBlock, bind_ok hframe, modify_bind] at hrun
    have hsent := hleft.handed.send
    cases hsend : line.send k with
    | error e =>
      rw [hsend] at hrun
      cases hrun
      refine ⟨fun h => absurd h Exit.err_ne_ok, ⟨k + 1, Nat.le_succ k, Nat.le_refl _, hsent⟩, fun _ _ haccepts => ?_⟩
      have hok := haccepts.send
      rw [hsend] at hok
      cases hok
    | ok u =>
      rw [hsend] at hrun
      obtain ⟨rfl, hok, herr⟩ := awaitResponse_run hrun
      exact ⟨fun h => ⟨⟨hsent, hleft.position⟩, hread, hsend, hok h⟩, ⟨k + 1, Nat.le_succ k, Nat.le_refl _, hsent⟩,
        fun e h haccepts => herr e h haccepts.answers⟩
  · rw [tcpBlock] at hrun
    obtain ⟨rfl, hstopped, hsame⟩ := bind_stops hframe hexit hrun
    exact ⟨fun h => absurd h (hstopped ()), ⟨k, Nat.le_refl k, Nat.le_succ k, hhanded⟩,
      fun e h haccepts => herr e (hsame e h) haccepts.read⟩

/-- The turn of a block over HTTP. -/
theorem httpBlock_run {line : HttpLine} {exit : Exit HighwayError Unit} (hbefore : Before crates self args w i k k w₁)
    (hrun : (httpBlock crates self args line k).run w₁ = (exit, w₂)) :
    (exit = .ok () → Before crates self args w i (k + 1) (k + 1) w₂ ∧ line.AcceptsBlock crates k) ∧
      ∃ j, k ≤ j ∧ j ≤ k + 1 ∧ Handed crates self args w i j w₂ := by
  rcases hframe : (buildFrame crates self args line.stream k (k * self.chunkSize)).run w₁ with ⟨exit₁, left⟩
  rcases buildFrame_run hbefore hframe with ⟨rfl, hread, hleft⟩ | ⟨hexit, hhanded, -⟩
  · rw [httpBlock, bind_ok hframe, modify_bind] at hrun
    have hposted := hleft.handed.post
    have hkept : ∃ j, k ≤ j ∧ j ≤ k + 1 ∧ Handed crates self args w i j
        { left with posted := left.posted ++ [(uploadFrame crates self args w.content k).encode] } :=
      ⟨k + 1, Nat.le_succ k, Nat.le_refl _, hposted⟩
    cases hpost : line.post k with
    | error e =>
      rw [hpost] at hrun
      cases hrun
      exact ⟨fun h => absurd h Exit.err_ne_ok, hkept⟩
    | ok res =>
      simp only [hpost, pure_bind] at hrun
      have hsame := Keeps.unchanged ((Keeps.lift _).bind fun _ => (Keeps.lift _).bind fun _ => Keeps.pure _) hrun
      subst hsame
      refine ⟨?_, hkept⟩
      rintro rfl
      obtain ⟨f, _, hdecode, hrest⟩ := bind_eq_ok.mp hrun
      obtain ⟨progress, _, hparse, -⟩ := bind_eq_ok.mp hrest
      have hdecoded := (lift_eq_ok.mp hdecode).1
      have haccepts := accepts_of_parseFrame (decodeFrame_fits hdecoded) (lift_eq_ok.mp hparse).1
      exact ⟨⟨hposted, hleft.position⟩, hread, res, f, hpost, hdecoded, haccepts⟩
  · rw [httpBlock] at hrun
    obtain ⟨rfl, hstopped, -⟩ := bind_stops hframe hexit hrun
    exact ⟨fun h => absurd h (hstopped ()), k, Nat.le_refl k, Nat.le_succ k, hhanded⟩

/-! ## The loops -/

/-- The blocks of a TCP upload, from the start of the stream. -/
theorem tcpBlocks_run {line : TcpLine} {fuel n : Nat} {exit : Exit HighwayError Unit}
    (hrun : (forM (List.range n) (tcpBlock crates self args line fuel)).run { w with position := 0 } = (exit, w₂)) :
    ∃ i ≤ n, Handed crates self args w i 0 w₂ ∧ (∀ k, k + 1 < i → line.AcceptsBlock crates k) ∧
      (exit = .ok () → i = n ∧ ∀ k < n, line.AcceptsBlock crates k) ∧
        ∀ e, exit = .err e → ∃ k < n, ¬ line.AcceptsBlock crates k := by
  let Inv (k : Nat) (w₁ : HighwayWorld) : Prop :=
    Before crates self args w k 0 k w₁ ∧ ∀ m < k, line.AcceptsBlock crates m
  have hstart : Inv 0 { w with position := 0 } := by
    refine ⟨⟨Handed.refl.at, ?_⟩, fun m hm => absurd hm (Nat.not_lt_zero m)⟩
    rw [Nat.zero_mul, Nat.zero_min]
  have hturn : ∀ k < n, ∀ w₁ w', Inv k w₁ → (tcpBlock crates self args line fuel k).run w₁ = (.ok (), w') →
      Inv (k + 1) w' := by
    rintro k - w₁ w' ⟨hbefore, haccepted⟩ hblock
    obtain ⟨hafter, haccepts⟩ := (tcpBlock_run hbefore hblock).1 rfl
    exact ⟨hafter, fun m hm => (Nat.lt_succ_iff_lt_or_eq.mp hm).elim (haccepted m) fun heq => heq ▸ haccepts⟩
  rcases forM_range_stops hturn hstart hrun with
    ⟨rfl, hend, haccepted⟩ | ⟨hexit, k, hk, w₁, ⟨hbefore, haccepted⟩, hblock⟩
  · exact ⟨n, Nat.le_refl n, hend.handed, fun k hk => haccepted k (Nat.lt_of_succ_lt hk),
      fun _ => ⟨rfl, haccepted⟩, fun _ h => absurd h Exit.ok_ne_err⟩
  · obtain ⟨-, ⟨i, -, hi, hhanded⟩, herr⟩ := tcpBlock_run hbefore hblock
    exact ⟨i, Nat.le_trans hi hk, hhanded, fun m hm => haccepted m (by omega), fun hok => absurd hok hexit,
      fun e he => ⟨k, hk, herr e he⟩⟩

/-- The blocks of an HTTP upload, after those of TCP. -/
theorem httpBlocks_run {line : HttpLine} {n : Nat} {exit : Exit HighwayError Unit}
    (hhanded : Handed crates self args w i 0 w₁)
    (hrun : (forM (List.range n) (httpBlock crates self args line)).run { w₁ with position := 0 } = (exit, w₂)) :
    ∃ j ≤ n, Handed crates self args w i j w₂ ∧ (∀ k, k + 1 < j → line.AcceptsBlock crates k) ∧
      (exit = .ok () → j = n ∧ ∀ k < n, line.AcceptsBlock crates k) := by
  let Inv (k : Nat) (w₁ : HighwayWorld) : Prop :=
    Before crates self args w i k k w₁ ∧ ∀ m < k, line.AcceptsBlock crates m
  have hstart : Inv 0 { w₁ with position := 0 } := by
    refine ⟨⟨hhanded.at, ?_⟩, fun m hm => absurd hm (Nat.not_lt_zero m)⟩
    rw [Nat.zero_mul, Nat.zero_min]
  have hturn : ∀ k < n, ∀ w₁ w', Inv k w₁ → (httpBlock crates self args line k).run w₁ = (.ok (), w') →
      Inv (k + 1) w' := by
    rintro k - w₁ w' ⟨hbefore, haccepted⟩ hblock
    obtain ⟨hafter, haccepts⟩ := (httpBlock_run hbefore hblock).1 rfl
    exact ⟨hafter, fun m hm => (Nat.lt_succ_iff_lt_or_eq.mp hm).elim (haccepted m) fun heq => heq ▸ haccepts⟩
  rcases forM_range_stops hturn hstart hrun with
    ⟨rfl, hend, haccepted⟩ | ⟨hexit, k, hk, w', ⟨hbefore, haccepted⟩, hblock⟩
  · exact ⟨n, Nat.le_refl n, hend.handed, fun k hk => haccepted k (Nat.lt_of_succ_lt hk), fun _ => ⟨rfl, haccepted⟩⟩
  · obtain ⟨-, j, -, hj, hposted⟩ := httpBlock_run hbefore hblock
    exact ⟨j, Nat.le_trans hj hk, hposted, fun m hm => haccepted m (by omega), fun hok => absurd hok hexit⟩

/-! ## The uploads -/

/-- Without a connection nothing is handed over. -/
theorem tcpUpload_stays (crates : HighwayCrates) (self : HighwayClient) (args : UploadArgs) {line : TcpLine}
    (h : ¬ line.Connects) (fuel : Nat) : ∃ e, (tcpUpload crates self args line fuel).run w = (.err e, w) ∨
      (tcpUpload crates self args line fuel).run w = (.err e, { w with position := 0 }) := by
  cases hseek : line.stream.seek with
  | error e => exact ⟨.ioError e, .inl (by rw [tcpUpload, seekStart, hseek]; rfl)⟩
  | ok u =>
    cases haddr : line.toSocketAddrs with
    | error e => exact ⟨.ioError e, .inr (by rw [tcpUpload, seekStart, hseek, haddr]; rfl)⟩
    | ok addr =>
      cases addr with
      | none => exact ⟨.otherError "Invalid address", .inr (by rw [tcpUpload, seekStart, hseek, haddr]; rfl)⟩
      | some u =>
        cases hconnect : line.connect with
        | error e => exact ⟨.ioError e, .inr (by rw [tcpUpload, seekStart, hseek, haddr, hconnect]; rfl)⟩
        | ok u => exact absurd ⟨hseek, haddr, hconnect⟩ h

theorem tcpUpload_run {line : TcpLine} {fuel : Nat} {exit : Exit HighwayError Unit}
    (hrun : (tcpUpload crates self args line fuel).run w = (exit, w₂)) :
    ∃ i ≤ steps args.size self.chunkSize, Handed crates self args w i 0 w₂ ∧
      (∀ k, k + 1 < i → line.AcceptsBlock crates k) ∧
      (exit = .ok () → i = steps args.size self.chunkSize ∧ line.Accepts crates (steps args.size self.chunkSize)) ∧
        ∀ e, exit = .err e → ¬ line.Accepts crates (steps args.size self.chunkSize) := by
  have hnone : ∀ k, k + 1 < 0 → line.AcceptsBlock crates k := fun k hk => absurd hk (Nat.not_lt_zero (k + 1))
  by_cases hconnects : line.Connects
  · by_cases hc : 1 ≤ self.chunkSize
    · rw [tcpUpload_connects hconnects hc, tcpState_zero] at hrun
      obtain ⟨i, hi, hhanded, haccepted, hok, herr⟩ := tcpBlocks_run hrun
      refine ⟨i, hi, hhanded, haccepted, fun h => ⟨(hok h).1, hconnects, (hok h).2⟩, fun e he haccepts => ?_⟩
      obtain ⟨k, hk, hrefused⟩ := herr e he
      exact hrefused (haccepts.blocks k hk)
    · have hstep : ¬ self.chunkSize ≠ 0 := by omega
      rw [tcpUpload, seekStart, hconnects.seek, hconnects.toSocketAddrs, hconnects.connect,
        Outcome.guard_neg hstep] at hrun
      cases hrun
      exact ⟨0, Nat.zero_le _, Handed.refl.at, hnone, fun h => absurd h Exit.panic_ne_ok,
        fun _ h => absurd h Exit.panic_ne_err⟩
  · have hnot : ∀ e : HighwayError, exit = .err e → ¬ line.Accepts crates (steps args.size self.chunkSize) :=
      fun _ _ haccepts => hconnects haccepts.connects
    obtain ⟨e, herr | herr⟩ := tcpUpload_stays crates self args (w := w) hconnects fuel
    · rw [herr] at hrun
      cases hrun
      exact ⟨0, Nat.zero_le _, .refl, hnone, fun h => absurd h Exit.err_ne_ok, hnot⟩
    · rw [herr] at hrun
      cases hrun
      exact ⟨0, Nat.zero_le _, Handed.refl.at, hnone, fun h => absurd h Exit.err_ne_ok, hnot⟩

theorem httpUpload_run {line : HttpLine} {exit : Exit HighwayError Unit}
    (hhanded : Handed crates self args w i 0 w₁)
    (hrun : (httpUpload crates self args line).run w₁ = (exit, w₂)) :
    ∃ j ≤ steps args.size self.chunkSize, Handed crates self args w i j w₂ ∧
      (∀ k, k + 1 < j → line.AcceptsBlock crates k) ∧
      (exit = .ok () → j = steps args.size self.chunkSize ∧ line.Accepts crates (steps args.size self.chunkSize)) := by
  have hnone : ∀ k, k + 1 < 0 → line.AcceptsBlock crates k := fun k hk => absurd hk (Nat.not_lt_zero (k + 1))
  cases hseek : line.stream.seek with
  | error e =>
    rw [httpUpload, seekStart, hseek] at hrun
    cases hrun
    exact ⟨0, Nat.zero_le _, hhanded, hnone, fun h => absurd h Exit.err_ne_ok⟩
  | ok u =>
    by_cases hc : 1 ≤ self.chunkSize
    · rw [httpUpload_seeks hseek hc, httpState_zero] at hrun
      obtain ⟨j, hj, hposted, haccepted, hok⟩ := httpBlocks_run hhanded hrun
      exact ⟨j, hj, hposted, haccepted, fun h => ⟨(hok h).1, hseek, (hok h).2⟩⟩
    · have hstep : ¬ self.chunkSize ≠ 0 := by omega
      rw [httpUpload, seekStart, hseek, Outcome.guard_neg hstep] at hrun
      cases hrun
      exact ⟨0, Nat.zero_le _, hhanded.at, hnone, fun h => absurd h Exit.panic_ne_ok⟩

/-- **Every run of an upload**, however it ends. The frames handed to TCP are
the first ones of the stream, in order, and so are those posted over HTTP;
every one but the last of either was accepted before the next was handed
over. HTTP is used only if TCP did not have all of them accepted. An upload
that returns had all of them handed over and accepted on one of the two. -/
theorem upload_run (crates : HighwayCrates) (self : HighwayClient) (args : UploadArgs) (tcp : TcpLine) (http : HttpLine)
    (fuel : Nat) (w : HighwayWorld) :
    (∀ i, (uploadFrames crates self args w.content i).flatMap HighwayFrame.body = w.content.take (i * self.chunkSize)) ∧
    ∃ i ≤ steps args.size self.chunkSize, ∃ j ≤ steps args.size self.chunkSize,
      Handed crates self args w i j ((upload crates self args tcp http fuel).run w).2 ∧
      (∀ k, k + 1 < i → tcp.AcceptsBlock crates k) ∧ (∀ k, k + 1 < j → http.AcceptsBlock crates k) ∧
      (0 < j → ¬ tcp.Accepts crates (steps args.size self.chunkSize)) ∧
      (((upload crates self args tcp http fuel).run w).1 = .ok () →
        (i = steps args.size self.chunkSize ∧ j = 0 ∧ tcp.Accepts crates (steps args.size self.chunkSize)) ∨
          (j = steps args.size self.chunkSize ∧ http.Accepts crates (steps args.size self.chunkSize))) := by
  refine ⟨uploadFrames_bodies crates self args w.content, ?_⟩
  rcases htcp : (tcpUpload crates self args tcp fuel).run w with ⟨exit, left⟩
  obtain ⟨i, hi, hhanded, haccepted, hok, herr⟩ := tcpUpload_run htcp
  have hnone (hexit : ∀ e, exit ≠ .err e) : (upload crates self args tcp http fuel).run w = (exit, left) := by
    rw [run, upload, orElse, htcp]
    cases exit with
    | ok u => rfl
    | err e => exact absurd rfl (hexit e)
    | panic => rfl
    | spins => rfl
  by_cases hexit : ∃ e, exit = .err e
  · obtain ⟨e, rfl⟩ := hexit
    rw [upload, orElse_err htcp]
    rcases hhttp : (httpUpload crates self args http).run left with ⟨exit, w₂⟩
    obtain ⟨j, hj, hposted, hacceptedHttp, hokHttp⟩ := httpUpload_run hhanded hhttp
    exact ⟨i, hi, j, hj, hposted, haccepted, hacceptedHttp, fun _ => herr e rfl, fun h => .inr (hokHttp h)⟩
  · rw [hnone fun e h => hexit ⟨e, h⟩]
    exact ⟨i, hi, 0, Nat.zero_le _, hhanded, haccepted, fun _ hk => absurd hk (Nat.not_lt_zero _),
      fun h => absurd h (Nat.lt_irrefl 0), fun h => .inl ⟨(hok h).1, rfl, (hok h).2⟩⟩

end Mania
