/-
What a call of `send_packet` returns over a connection, in every order of
the steps of the calls, the tasks, the socket and the network
(`Mania.Client`).

A step of the client is a step of the connection, of the pending requests
or of both. So the connection of a run is one of a run of the connection,
and the requests are those of a run with all the packets received by its
end (`requests_run`). The two invariants then give the result: what a call
returns is what came of a frame of the server with its sequence.
-/
import Mania.BusinessFacts
import Mania.Client

namespace Mania

open Bytes Runs
open Function (update update_apply)

variable {ι ρ : Type}

/-! ## The packets received by a later time -/

theorem getElem?_of_prefix {α : Type} {as bs : List α} {n : ℕ} {a : α} (h : as <+: bs) (ha : as[n]? = some a) :
    bs[n]? = some a := by
  obtain ⟨hn, rfl⟩ := List.getElem?_eq_some_iff.mp ha
  exact List.prefix_iff_getElem?.mp h n hn

namespace Exchange

variable {x : Exchange ι ρ} {packets later : List Bytes} {n : ℕ}

theorem packet_eq_some {packet : SsoPacket} :
    x.packet packets n = some packet ↔
      ∃ raw, packets[n]? = some raw ∧ SsoPacket.parse x.inflate raw x.context = .ok packet := by
  unfold Exchange.packet
  cases packets[n]? with
  | none => simp
  | some raw =>
    cases hparse : SsoPacket.parse x.inflate raw x.context <;> simp [hparse]

theorem packet_of_prefix (h : packets <+: later) (hsome : (x.packet packets n).isSome) :
    x.packet later n = x.packet packets n := by
  obtain ⟨packet, hpacket⟩ := Option.isSome_iff_exists.mp hsome
  obtain ⟨raw, hraw, hparse⟩ := packet_eq_some.mp hpacket
  rw [hpacket, packet_eq_some]
  exact ⟨raw, getElem?_of_prefix h hraw, hparse⟩

end Exchange

/-! ## Steps of the requests -/

namespace SendState

variable {τ : Type} [DecidableEq ι] [DecidableEq τ] {x x' : Traffic ι τ ρ} {s s' : SendState ι τ ρ} {a : Action ι τ}

/-- A step looks at the sequences, and at the packet of its own task. -/
theorem step_congr (hsequence : x.sequence = x'.sequence) (hinbound : ∀ t, a = .take t → x.inbound t = x'.inbound t)
    (hresult : ∀ t, a = .send t → x.result t = x'.result t) : step x s a = step x' s a := by
  cases a with
  | insert i => simp only [step, hsequence]
  | post i ok => rfl
  | await i => rfl
  | drop i => rfl
  | dispatch t => rfl
  | take t => simp only [step, hinbound t rfl]
  | send t => simp only [step, hresult t rfl]

/-- Only a dispatch starts a task. -/
theorem step_started {t : τ} (h : step x s a = some s') (ht : s'.task t ≠ .fresh) :
    s.task t ≠ .fresh ∨ a = .dispatch t := by
  cases a with
  | insert i =>
    obtain ⟨-, rfl⟩ := step_insert h
    exact .inl ht
  | post i ok =>
    obtain ⟨-, rfl⟩ := step_post h
    cases ok <;> exact .inl ht
  | await i =>
    obtain ⟨-, r, -, rfl⟩ := step_await h
    exact .inl ht
  | drop i =>
    obtain ⟨-, rfl⟩ := step_drop h
    exact .inl ht
  | dispatch u =>
    obtain ⟨-, rfl⟩ := step_dispatch h
    by_cases htu : t = u
    · exact .inr (htu ▸ rfl)
    · exact .inl (by simpa [htu] using ht)
  | take u =>
    obtain ⟨hrunning, rfl⟩ := step_take h
    by_cases htu : t = u
    · exact .inl (by simp [htu, hrunning])
    · exact .inl (by simpa [htu] using ht)
  | send u =>
    obtain ⟨tx, htook, rfl | rfl⟩ := step_send h <;>
      by_cases htu : t = u
    · exact .inl (by simp [htu, htook])
    · exact .inl (by simpa [htu] using ht)
    · exact .inl (by simp [htu, htook])
    · exact .inl (by simpa [htu] using ht)

/-- The call has posted its packet. -/
def Posted (s : SendState ι τ ρ) (i : ι) : Prop := s.call i = .awaiting ∨ ∃ r, s.call i = .returned r

theorem step_posted {i : ι} (h : step x s a = some s') (hi : s'.Posted i) : s.Posted i ∨ a = .post i true := by
  have hother {j : ι} {c : Call ρ} (hcall : s'.call = update s.call j c) (hne : i = j → s.Posted i ∨ a = .post i true) :
      s.Posted i ∨ a = .post i true := by
    by_cases hij : i = j
    · exact hne hij
    · exact .inl (by simpa [Posted, hcall, hij] using hi)
  cases a with
  | insert j =>
    obtain ⟨-, rfl⟩ := step_insert h
    exact hother rfl fun hij => absurd hi (by simp [Posted, hij])
  | post j ok =>
    obtain ⟨-, rfl⟩ := step_post h
    cases ok with
    | true => exact hother rfl fun hij => .inr (hij ▸ rfl)
    | false => exact hother rfl fun hij => absurd hi (by simp [Posted, hij])
  | await j =>
    obtain ⟨hawaiting, r, -, rfl⟩ := step_await h
    exact hother rfl fun hij => .inl (.inl (hij ▸ hawaiting))
  | drop j =>
    obtain ⟨-, rfl⟩ := step_drop h
    exact hother rfl fun hij => absurd hi (by simp [Posted, hij])
  | dispatch t =>
    obtain ⟨-, rfl⟩ := step_dispatch h
    exact .inl hi
  | take t =>
    obtain ⟨-, rfl⟩ := step_take h
    exact .inl hi
  | send t =>
    obtain ⟨tx, -, rfl | rfl⟩ := step_send h <;> exact .inl hi

end SendState

namespace Connection

variable [DecidableEq ι] {packet : ι → Bytes} {s s' : Connection ι} {a : SocketAction ι}

theorem step_received (h : step packet s a = some s') : s.recvHalf.received <+: s'.recvHalf.received := by
  cases moves_of_step h with
  | take p inbox hwaiting hrecv => exact List.prefix_append _ _
  | reads a recvHalf hrunning hgoes =>
    rcases hgoes with ⟨bytes, rfl⟩ | hturn
    · exact List.prefix_refl _
    obtain ⟨p, inbox, -, -, rfl⟩ | ⟨-, ⟨unread, -, rfl⟩ | ⟨p, unread, -, rfl⟩⟩ := RecvHalf.turn_cases hturn <;>
      exact List.prefix_refl _
  | _ => exact List.prefix_refl _

theorem step_sent {i : ι} (h : step packet s a = some s') (hi : s.call i = .sent) : s'.call i = .sent := by
  have hkeeps {j : ι} {c : Sending} (hj : s.call j ≠ .sent) : update s.call j c i = .sent := by
    have hij : i ≠ j := fun hij => hj (hij ▸ hi)
    rwa [Function.update_of_ne hij]
  cases moves_of_step h with
  | check j hfresh => exact hkeeps (by simp [hfresh])
  | enqueue j outbox hchecked hrunning hsend => exact hkeeps (by simp [hchecked])
  | sendPanics j hchecked hended => exact hkeeps (by simp [hchecked])
  | _ => exact hi

end Connection

/-! ## A step of the client -/

namespace Client

variable [DecidableEq ι] {x : Exchange ι ρ} {s s' : Client ι ρ} {a : ClientAction ι}

/-- A step of the connection, or none. -/
def SocketStep (x : Exchange ι ρ) (s s' : Client ι ρ) : Prop :=
  s'.connection = s.connection ∨ ∃ b, s.connection.step x.wire b = some s'.connection

/-- A step of the requests with the packets received by then, or none. A task
is started for a packet that parses, and a call has posted its packet when the socket took it. -/
def RequestStep (x : Exchange ι ρ) (s s' : Client ι ρ) : Prop :=
  s'.requests = s.requests ∨ ∃ b, s.requests.step (x.traffic s'.received) b = some s'.requests ∧
    (∀ n, b = .dispatch n → (x.packet s'.received n).isSome) ∧
    ∀ i, b = .post i true → s'.connection.call i = .sent

theorem request_cases {b : Action ι ℕ} (h : s.request x b = some s') :
    s'.connection = s.connection ∧ s.requests.step (x.traffic s.received) b = some s'.requests := by
  obtain ⟨requests, hrequests, rfl⟩ := Option.map_eq_some_iff.mp h
  exact ⟨rfl, hrequests⟩

theorem post_steps {i : ι} {b : SocketAction ι} (h : s.post x i b = some s') : SocketStep x s s' ∧ RequestStep x s s' := by
  unfold post at h
  split at h
  · next connection hinserted hstep =>
    have hrequest {b' : Action ι ℕ} (h : ({ s with connection } : Client ι ρ).request x b' = some s')
        (hdispatch : ∀ n, b' ≠ .dispatch n) (hpost : ∀ j, b' = .post j true → connection.call j = .sent) :
        SocketStep x s s' ∧ RequestStep x s s' := by
      obtain ⟨hconnection, hrequests⟩ := request_cases h
      simp only at hconnection
      refine ⟨.inr ⟨b, by rw [hstep, hconnection]⟩, .inr ⟨b', ?_, fun n hn => absurd hn (hdispatch n), ?_⟩⟩
      · rwa [received, hconnection]
      · rwa [hconnection]
    split at h
    · next hsent =>
      refine hrequest h (by simp) fun j hj => ?_
      cases hj
      exact hsent
    · exact hrequest h (by simp) (by simp)
    · exact hrequest h (by simp) (by simp)
    · cases h
      exact ⟨.inr ⟨b, hstep⟩, .inl rfl⟩
    · cases h
      exact ⟨.inr ⟨b, hstep⟩, .inl rfl⟩
  · cases h

theorem receive_steps (h : s.receive x = some s') : SocketStep x s s' ∧ RequestStep x s s' := by
  unfold receive at h
  split at h
  · next connection hstep =>
    split at h
    · next packet hparse =>
      obtain ⟨hconnection, hrequests⟩ := request_cases h
      simp only at hconnection
      refine ⟨.inr ⟨.take, by rw [hstep, hconnection]⟩, .inr ⟨.dispatch s.received.length, ?_, fun n hn => ?_, ?_⟩⟩
      · rwa [received, hconnection]
      · cases hn
        rw [received, hconnection, Exchange.packet, hparse]
        rfl
      · simp
    · cases h
      exact ⟨.inr ⟨.take, hstep⟩, .inl rfl⟩
    · cases h
      exact ⟨.inr ⟨.take, hstep⟩, .inl rfl⟩
    · cases h
      exact ⟨.inr ⟨.take, hstep⟩, .inl rfl⟩
  · cases h

/-- What a step of the client is for its two parts. -/
theorem steps_of_step (h : step x s a = some s') : SocketStep x s s' ∧ RequestStep x s s' := by
  have hrequest {b : Action ι ℕ} (h : s.request x b = some s') (hdispatch : ∀ n, b ≠ .dispatch n)
      (hpost : ∀ i, b ≠ .post i true) : SocketStep x s s' ∧ RequestStep x s s' := by
    obtain ⟨hconnection, hrequests⟩ := request_cases h
    refine ⟨.inl hconnection, .inr ⟨b, ?_, fun n hn => absurd hn (hdispatch n), fun i hi => absurd hi (hpost i)⟩⟩
    rwa [received, hconnection]
  have hsocket {b : SocketAction ι}
      (h : ((s.connection.step x.wire b).map fun connection => { s with connection }) = some s') :
      SocketStep x s s' ∧ RequestStep x s s' := by
    obtain ⟨connection, hstep, rfl⟩ := Option.map_eq_some_iff.mp h
    exact ⟨.inr ⟨b, hstep⟩, .inl rfl⟩
  cases a with
  | insert i => exact hrequest h nofun nofun
  | await i => exact hrequest h nofun nofun
  | drop i => exact hrequest h nofun nofun
  | lookup n => exact hrequest h nofun nofun
  | send n => exact hrequest h nofun nofun
  | socket b =>
    cases b with
    | check i => exact post_steps h
    | enqueue i => exact post_steps h
    | take => exact receive_steps h
    | recv =>
      simp only [step] at h
      split at h
      · exact hsocket h
      · cases h
    | _ => exact hsocket h

theorem SocketStep.received (h : SocketStep x s s') : s.received <+: s'.received := by
  rcases h with heq | ⟨b, hstep⟩
  · have hreceived : s'.received = s.received := congrArg (·.recvHalf.received) heq
    exact hreceived ▸ List.prefix_refl _
  · exact Connection.step_received hstep

/-! ## Runs -/

/-- The connection of a run is one of a run of the connection. -/
theorem connection_run {acts : List (ClientAction ι)} (h : run (step x) connect acts = some s) :
    ∃ acts, run (Connection.step x.wire) .connect acts = some s.connection := by
  refine Runs.induction (P := fun s _ => ∃ acts, run (Connection.step x.wire) .connect acts = some s.connection)
    ⟨[], rfl⟩ ?_ h
  intro s acts a s' hs hstep
  obtain ⟨before, hbefore⟩ := hs
  obtain ⟨heq | ⟨b, hb⟩, -⟩ := steps_of_step hstep
  · exact ⟨before, heq ▸ hbefore⟩
  · exact ⟨before ++ [b], run_concat_eq_some.mpr ⟨_, hbefore, hb⟩⟩

/-- Tasks are there for packets that parse, and the requests are those of a
run with any packets that begin with the ones received. -/
structure Consistent (x : Exchange ι ρ) (s : Client ι ρ) : Prop where
  started : ∀ n, s.requests.task n ≠ .fresh → (x.packet s.received n).isSome
  requests : ∀ packets, s.received <+: packets →
    ∃ acts, run (SendState.step (x.traffic packets)) .init acts = some s.requests
  posted : ∀ i, s.requests.Posted i → s.connection.call i = .sent

theorem Consistent.step (hs : s.Consistent x) (h : step x s a = some s') : s'.Consistent x := by
  obtain ⟨hsocket, hrequest⟩ := steps_of_step h
  have hreceived := hsocket.received
  have hsent {i : ι} (hi : s.connection.call i = .sent) : s'.connection.call i = .sent := by
    rcases hsocket with heq | ⟨b, hb⟩
    · exact heq ▸ hi
    · exact Connection.step_sent hb hi
  have hgrows {n : ℕ} (hn : (x.packet s.received n).isSome) : (x.packet s'.received n).isSome := by
    rwa [Exchange.packet_of_prefix hreceived hn]
  rcases hrequest with heq | ⟨b, hstep, hdispatch, hpost⟩
  · refine ⟨fun n hn => hgrows (hs.started n (heq ▸ hn)), fun packets hpackets => ?_, fun i hi => ?_⟩
    · rw [heq]
      exact hs.requests packets (hreceived.trans hpackets)
    · exact hsent (hs.posted i (heq ▸ hi))
  · refine ⟨fun n hn => ?_, fun packets hpackets => ?_, fun i hi => ?_⟩
    · rcases SendState.step_started hstep hn with hn | rfl
      · exact hgrows (hs.started n hn)
      · exact hdispatch n rfl
    · obtain ⟨before, hbefore⟩ := hs.requests packets (hreceived.trans hpackets)
      refine ⟨before ++ [b], run_concat_eq_some.mpr ⟨_, hbefore, ?_⟩⟩
      -- The step looks at a packet only for a task that has started, and that packet stays.
      have hsame {n : ℕ} (hn : s.requests.task n ≠ .fresh) : x.packet packets n = x.packet s'.received n :=
        Exchange.packet_of_prefix hpackets (hgrows (hs.started n hn))
      rw [← hstep]
      refine SendState.step_congr rfl (fun n hb => ?_) (fun n hb => ?_)
      · subst hb
        obtain ⟨hrunning, -⟩ := SendState.step_take hstep
        simp only [Exchange.traffic, hsame (n := n) (by simp [hrunning])]
      · subst hb
        obtain ⟨tx, htook, -⟩ := SendState.step_send hstep
        simp only [Exchange.traffic, hsame (n := n) (by simp [htook])]
    · rcases SendState.step_posted hstep hi with hi | rfl
      · exact hsent (hs.posted i hi)
      · exact hpost i rfl

theorem consistent_run {acts : List (ClientAction ι)} (h : run (step x) connect acts = some s) : s.Consistent x := by
  refine Runs.induction (P := fun s _ => s.Consistent x) ⟨?_, fun _ _ => ⟨[], rfl⟩, ?_⟩
    (fun _ _ _ _ hs hstep => hs.step hstep) h
  · simp [connect, SendState.init]
  · simp [connect, SendState.init, SendState.Posted]

/-- **Calls over a connection.** The server sends frames of at most 64 MiB,
which arrive in any pieces. In every order of steps, a call that returns has had its
packet taken by the socket, once, and returns what resolving one of the
frames came to: one that parses and carries the call's own sequence. -/
theorem answers (x : Exchange ι ρ) (frames : List Section) (hframes : ∀ f ∈ frames, ¬ TooLarge f.length)
    (acts : List (ClientAction ι)) (s : Client ι ρ) (h : run (step x) connect acts = some s)
    (harrived : s.connection.recvHalf.arrived <+: stream frames) (i : ι) (r : Option ρ)
    (hr : s.requests.call i = .returned r) :
    s.connection.sendHalf.accepted.count i = 1 ∧
      ∃ n f packet, frames[n]? = some f ∧ SsoPacket.parse x.inflate f.toBytes x.context = .ok packet ∧
        packet.sequence = x.sequence i ∧ r = some (x.resolve n packet) := by
  have hconsistent := consistent_run h
  obtain ⟨socketActs, hsocket⟩ := connection_run h
  have hcalls := Connection.calls_run hsocket
  have hsent := (hcalls.sent i).mp (hconsistent.posted i (.inr ⟨r, hr⟩))
  refine ⟨List.count_eq_one_of_mem hcalls.nodup hsent, ?_⟩
  obtain ⟨requestActs, hrequests⟩ := hconsistent.requests s.received (List.prefix_refl _)
  obtain ⟨-, hrefines⟩ := SendState.refines_run hrequests
  obtain ⟨n, hstatus, hresult⟩ := (hrefines i).returned r hr
  have hclaim := ((hrefines i).claimed n).mpr hstatus
  have hstarted : s.requests.task n ≠ .fresh := by
    intro hfresh
    simp [hfresh, SendState.claim] at hclaim
  obtain ⟨packet, hpacket⟩ := Option.isSome_iff_exists.mp (hconsistent.started n hstarted)
  obtain ⟨raw, hraw, hparse⟩ := Exchange.packet_eq_some.mp hpacket
  obtain ⟨-, -, -, -, hsequence, -⟩ := (SendState.status_sound _ i requestActs).2 n hstatus
  -- The packets received are a first part of the frames.
  have hprefix : s.received <+: frames.map Prefixed.toBytes := by
    obtain ⟨read, delivered, lost, hcut, -⟩ := (Connection.inOrder_run hsocket).received
    obtain ⟨later, hlater⟩ := harrived
    rw [← Connection.recvAll_frames hframes, ← hlater]
    exact hcut.isPrefix.trans (recvAll_initial _ _)
  have hframe := getElem?_of_prefix hprefix hraw
  rw [List.getElem?_map] at hframe
  obtain ⟨f, hf, rfl⟩ := Option.map_eq_some_iff.mp hframe
  refine ⟨n, f, packet, hf, hparse, ?_, ?_⟩
  · simpa [Exchange.traffic, hpacket] using hsequence
  · simpa [Exchange.traffic, hpacket] using hresult

/-- The reply to sequence 7 as a frame. -/
def replyFrame : Section := ⟨(replyPacket 0).toBytes.drop 4, by decide⟩

def replied : Exchange Unit Unit where
  inflate _ := none
  context := waitingHandle.context
  sequence _ := 7
  distinct _ _ _ := rfl
  wire _ := []
  resolve _ _ := ()

/-- The frame comes in two pieces, and while the call has not looked at its channel. -/
def repliedRun : List (ClientAction Unit) :=
  [.insert (), .socket (.check ()), .socket .recv, .socket (.enqueue ()), .socket (.arrive (replyFrame.toBytes.take 5)),
   .socket (.arrive (replyFrame.toBytes.drop 5)), .socket .recvTurn, .socket .recvTurn, .socket .take, .lookup 0,
   .send 0, .await ()]

theorem repliedRun_end : (run (step replied) connect repliedRun).map
    (fun s => (s.requests.call (), s.connection.recvHalf.arrived)) =
      some (.returned (some ()), replyFrame.toBytes) := by
  rfl

theorem answers_replied : ∃ s, run (step replied) connect repliedRun = some s ∧
    s.connection.sendHalf.accepted.count () = 1 := by
  obtain ⟨s, hs, hend⟩ := Option.map_eq_some_iff.mp repliedRun_end
  obtain ⟨hcall, harrived⟩ := Prod.mk.inj hend
  have hstream : stream [replyFrame] = replyFrame.toBytes := List.append_nil _
  exact ⟨s, hs, (answers replied [replyFrame] (by decide) repliedRun s hs
    (hstream ▸ harrived ▸ List.prefix_refl _) () _ hcall).1⟩

end Client

end Mania
