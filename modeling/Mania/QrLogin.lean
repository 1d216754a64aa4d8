/-
`core/operation/wt_op.rs`: the login by QR code, one `await` at a time.

A turn of the loop asks the HTTP service for the account that scans, stores
its `uin`, and then asks the server for the status of the code; the time-out
can strike at every `await`. What the service answers, what `send_event`
comes to and when the time is up are the actions of a run.

The `uin` is stored before anything is known of the login, so a call that
fails keeps the identity of the key store just when the last poll named the
account it already had (`loginByQrcode_keeps_iff`).
-/
import Mania.Error
import Mania.Lib.Runs
import Mania.WtLoginParse

namespace Mania

open Runs WtLogin

/-! ## The identity of a key store -/

/-- The two key stores have the same login. -/
structure SameLogin (k k' : KeyStore) : Prop where
  uid : k'.uid = k.uid
  tgt : k'.session.tgt = k.session.tgt
  d2 : k'.session.d2 = k.session.d2
  d2Key : k'.session.d2Key = k.session.d2Key

/-- And the same account. -/
structure SameIdentity (k k' : KeyStore) : Prop extends SameLogin k k' where
  uin : k'.uin = k.uin

theorem SameLogin.refl (k : KeyStore) : SameLogin k k := ⟨rfl, rfl, rfl, rfl⟩

theorem SameLogin.trans {k k' k'' : KeyStore} (h : SameLogin k k') (h' : SameLogin k' k'') : SameLogin k k'' :=
  ⟨h'.uid.trans h.uid, h'.tgt.trans h.tgt, h'.d2.trans h.d2, h'.d2Key.trans h.d2Key⟩

/-- TLVs that hold the login of one key store hold that of another, if it is
the same. -/
theorem WtLogin.HoldsLogin.same_iff {tlvs : TlvSet} {k k' : KeyStore} (h : HoldsLogin tlvs k') :
    HoldsLogin tlvs k ↔ SameLogin k k' := by
  constructor
  · intro hold
    exact {
      uid := h.uid.symm.trans hold.uid
      tgt := Option.some.inj (h.tgt.symm.trans hold.tgt)
      d2 := Option.some.inj (h.d2.symm.trans hold.d2)
      d2Key := Vector.toList_inj.mp (Option.some.inj (h.d2Key.symm.trans hold.d2Key)) }
  · rintro ⟨huid, htgt, hd2, hd2Key⟩
    refine ⟨h.uid.trans huid, h.tgt.trans ?_, h.d2.trans ?_, h.d2Key.trans ?_⟩
    · rw [htgt]
    · rw [hd2]
    · rw [hd2Key]

/-! ## The messages -/

/-- Of the `QrSign`, what a poll sends. -/
structure QrSign where
  string : String

structure NTLoginHttpRequest where
  appid : UInt64
  faceUpdateTime : UInt64
  qrsig : String

/-- Of the response, what a poll reads. -/
structure NTLoginHttpResponse where
  uin : UInt32

structure TransEmp12ConfirmedData where
  tgtgtKey : Bytes
  tempPassword : Bytes
  noPicSig : Bytes

inductive TransEmp12Res where
  | confirmed (data : TransEmp12ConfirmedData)
  | codeExpired
  | waitingForScan
  | waitingForConfirm
  | canceled

inductive TransEmpResult where
  | emp12 (res : TransEmp12Res)
  | emp31

structure TransEmp where
  result : Option TransEmpResult

/-- The code of other crates: `serde_json`, which names its errors, and what
`WtLogin.parse` takes; and the texts of errors and messages. -/
structure QrServices where
  toVec : NTLoginHttpRequest → Except String Bytes
  fromSlice : Bytes → Except String NTLoginHttpResponse
  prost : TlvProst
  md5 : Bytes → Bytes
  display : WtLogin.ParseError → String
  debug : Option String → String

/-- What a call waits for, or how it ended. -/
inductive LoginPhase where
  | posting (payload : Bytes)
  | querying
  | sleeping
  | loggingIn
  /-- The packet task has the result of the login, and the caller not yet. -/
  | answered (answer : Except (BusinessError String) (Option WtLogin))
  | returned (result : Except ManiaError Unit)
  | panicked

structure QrLogin where
  ctx : Context
  qrSign : Option QrSign
  phase : LoginPhase

/-- What the call waited for. An event is `none` where the downcast fails. -/
inductive LoginAction where
  | posted (response : Except String Bytes)
  | queried (answer : Except (BusinessError String) (Option TransEmp))
  | slept
  | received (now : Int) (answer : Except (BusinessError String) (Option Bytes))
  | delivered
  | elapsed

/-! ## The call -/

namespace QrLogin

variable (x : QrServices)

def fail (s : QrLogin) (e : ManiaError) : QrLogin := { s with phase := .returned (.error e) }

/-- `query_trans_tmp_status`, up to the HTTP request. -/
def queryTransTmpStatus (s : QrLogin) : QrLogin :=
  match s.qrSign with
  | some qrSign =>
    let requestBody : NTLoginHttpRequest :=
      { appid := s.ctx.appInfo.appId.toInt64.toUInt64, qrsig := qrSign.string, faceUpdateTime := 0 }
    match x.toVec requestBody with
    | .ok payload => { s with phase := .posting payload }
    | .error e => s.fail (.genericError ("Failed to serialize request body: " ++ e))
  | none => s.fail (.genericError "QR code not fetched")

/-- From the response to the HTTP request up to the `TransEmp`. -/
def posted (s : QrLogin) : Except String Bytes → QrLogin
  | .ok response =>
    match x.fromSlice response with
    | .ok info => { s with ctx.keyStore.uin := info.uin, phase := .querying }
    | .error e => s.fail (.genericError ("Failed to deserialize response: " ++ e))
  | .error e => s.fail (.genericError ("Failed to query QR code status via ntlogin.qq.com: " ++ e))

/-- The `match status` of the loop. -/
def scanned (s : QrLogin) : TransEmp12Res → QrLogin
  | .waitingForScan => { s with phase := .sleeping }
  | .waitingForConfirm => { s with phase := .sleeping }
  | .confirmed data =>
    { s with
      ctx.session.stub.tgtgtKey := data.tgtgtKey
      ctx.keyStore.session.tempPassword := some data.tempPassword
      ctx.keyStore.session.noPicSig := some data.noPicSig
      phase := .loggingIn }
  | .codeExpired => s.fail (.genericError "QR code expired")
  | .canceled => s.fail (.genericError "QR code login canceled by user")

/-- From the `TransEmp` up to the next `await`. -/
def queried (s : QrLogin) : Except (BusinessError String) (Option TransEmp) → QrLogin
  | .ok (some { result := some (.emp12 status) }) => s.scanned status
  -- "Emp12 not found in response"
  | .ok (some { result := some .emp31 }) => { s with phase := .panicked }
  | .ok (some { result := none }) => s.fail (.genericError "Emp result not found")
  | .ok none => s.fail .internalEventDowncastError
  | .error e => s.fail (.internalBusinessError e)

/-- The task of the packet that answers the login. One that panics leaves the
caller waiting. -/
def received (s : QrLogin) (now : Int) : Except (BusinessError String) (Option Bytes) → QrLogin
  | .ok (some packet) =>
    match (WtLogin.parse x.prost x.md5 now packet).run s.ctx with
    | (.ok event, ctx) => { s with ctx, phase := .answered (.ok (some event)) }
    | (.err e, ctx) => { s with ctx, phase := .answered (.error (.internalEventError (.parse (x.display e)))) }
    | (.panic, ctx) => { s with ctx }
    | (.spins, ctx) => { s with ctx }
  | .ok none => { s with phase := .answered (.ok none) }
  | .error e => { s with phase := .answered (.error e) }

/-- `do_wt_login`, after `send_event`. -/
def doWtLogin : Except (BusinessError String) (Option WtLogin) → Except ManiaError Unit
  | .ok (some event) =>
    if event.code = 0 then .ok ()
    else .error (.genericError
      ("WTLogin failed with code: " ++ toString event.code.toInt ++ ", msg: " ++ x.debug event.msg ++ " w(ﾟДﾟ)w"))
  | .ok none => .error .internalEventDowncastError
  | .error e => .error (.internalBusinessError e)

def step (s : QrLogin) (a : LoginAction) : Option QrLogin :=
  match s.phase, a with
  | .posting _, .posted response => some (s.posted x response)
  | .querying, .queried answer => some (s.queried answer)
  | .sleeping, .slept => some (s.queryTransTmpStatus x)
  | .loggingIn, .received now answer => some (s.received x now answer)
  | .answered answer, .delivered => some { s with phase := .returned (doWtLogin x answer) }
  | .returned _, _ => none
  | .panicked, _ => none
  | _, .elapsed => some (s.fail (.genericError "QR code scan timed out after 120s!"))
  | _, _ => none

/-- The call, up to its first `await`. -/
def loginByQrcode (ctx : Context) (qrSign : Option QrSign) : QrLogin :=
  queryTransTmpStatus x { ctx, qrSign, phase := .sleeping }

/-! ## What a step does -/

variable {x : QrServices} {s s' : QrLogin} {a : LoginAction} {acts : List LoginAction} {tlvs : TlvSet}

/-- The steps, each with what the call waited for. -/
inductive Steps (x : QrServices) (s : QrLogin) : LoginAction → QrLogin → Prop
  | posted {payload : Bytes} (response : Except String Bytes) (hphase : s.phase = .posting payload) :
    Steps x s (.posted response) (s.posted x response)
  | queried (answer : Except (BusinessError String) (Option TransEmp)) (hphase : s.phase = .querying) :
    Steps x s (.queried answer) (s.queried answer)
  | slept (hphase : s.phase = .sleeping) : Steps x s .slept (s.queryTransTmpStatus x)
  | received (now : Int) (answer : Except (BusinessError String) (Option Bytes)) (hphase : s.phase = .loggingIn) :
    Steps x s (.received now answer) (s.received x now answer)
  | delivered {answer : Except (BusinessError String) (Option WtLogin)} (hphase : s.phase = .answered answer) :
    Steps x s .delivered { s with phase := .returned (doWtLogin x answer) }
  | elapsed (hphase : ∀ result, s.phase ≠ .returned result) :
    Steps x s .elapsed (s.fail (.genericError "QR code scan timed out after 120s!"))

theorem step_steps (h : step x s a = some s') : Steps x s a s' := by
  unfold step at h
  split at h
  · next hphase =>
    cases h
    exact .posted _ hphase
  · next hphase =>
    cases h
    exact .queried _ hphase
  · next hphase =>
    cases h
    exact .slept hphase
  · next hphase =>
    cases h
    exact .received _ _ hphase
  · next hphase =>
    cases h
    exact .delivered hphase
  · cases h
  · cases h
  · next hreturned _ =>
    cases h
    exact .elapsed hreturned
  · cases h

/-- The call has not logged in. -/
def Refused (x : QrServices) : LoginPhase → Prop
  | .answered answer => ∃ e, doWtLogin x answer = .error e
  | .returned result => ∃ e, result = .error e
  | _ => True

theorem queryTransTmpStatus_ctx (x : QrServices) (s : QrLogin) : (s.queryTransTmpStatus x).ctx = s.ctx := by
  unfold queryTransTmpStatus
  split
  · dsimp only
    split <;> rfl
  · rfl

theorem queryTransTmpStatus_refused (x : QrServices) (s : QrLogin) : Refused x (s.queryTransTmpStatus x).phase := by
  unfold queryTransTmpStatus
  split
  · dsimp only
    split
    · trivial
    · exact ⟨_, rfl⟩
  · exact ⟨_, rfl⟩

/-! ## The `uin` -/

/-- The `uin` of a poll. -/
def polled (x : QrServices) : LoginAction → Option UInt32
  | .posted (.ok response) => (x.fromSlice response).toOption.map NTLoginHttpResponse.uin
  | _ => none

/-- The `uin` of the last poll that has one. -/
def lastPolled (x : QrServices) (acts : List LoginAction) : Option UInt32 := (acts.filterMap (polled x)).getLast?

theorem lastPolled_concat (acts : List LoginAction) (a : LoginAction) (uin : UInt32) :
    (lastPolled x (acts ++ [a])).getD uin = (polled x a).getD ((lastPolled x acts).getD uin) := by
  cases hpolled : polled x a with
  | none => simp [lastPolled, hpolled]
  | some _ => simp [lastPolled, hpolled]

theorem posted_uin (response : Except String Bytes) :
    (s.posted x response).ctx.keyStore.uin = (polled x (.posted response)).getD s.ctx.keyStore.uin := by
  cases response with
  | error e => rfl
  | ok response =>
    rw [posted, polled]
    split <;> next heq => rw [heq]; rfl

theorem queried_uin (answer : Except (BusinessError String) (Option TransEmp)) :
    (s.queried answer).ctx.keyStore.uin = s.ctx.keyStore.uin := by
  unfold queried
  split
  · next status => cases status <;> rfl
  all_goals rfl

theorem parse_uin {prost : TlvProst} {md5 : Bytes → Bytes} {now : Int} {packet : Bytes} {ctx ctx' : Context}
    {exit : Exit WtLogin.ParseError WtLogin} (h : (WtLogin.parse prost md5 now packet).run ctx = (exit, ctx')) :
    ctx'.keyStore.uin = ctx.keyStore.uin := by
  rcases parse_accepts h with ⟨-, tlvs, -, hstored⟩ | ⟨-, -, hkept⟩
  · exact congrArg (fun ctx => ctx.keyStore.uin) hstored.rest
  · rw [hkept]

theorem received_uin (now : Int) (answer : Except (BusinessError String) (Option Bytes)) :
    (s.received x now answer).ctx.keyStore.uin = s.ctx.keyStore.uin := by
  unfold received
  split
  · split <;> next hparse => exact parse_uin hparse
  all_goals rfl

/-- A step stores the `uin` of its poll, if it is one. -/
theorem step_uin (h : step x s a = some s') : s'.ctx.keyStore.uin = (polled x a).getD s.ctx.keyStore.uin := by
  cases step_steps h with
  | posted response => exact posted_uin response
  | queried answer => exact queried_uin answer
  | slept => exact congrArg (fun ctx => ctx.keyStore.uin) (queryTransTmpStatus_ctx x s)
  | received now answer => exact received_uin now answer
  | delivered => rfl
  | elapsed => rfl

/-! ## The login -/

/-- The step stores the login that these TLVs hold: the server accepted it. -/
inductive LogsIn (x : QrServices) (tlvs : TlvSet) (s : QrLogin) : LoginAction → Prop
  | received {packet : Bytes} (now : Int) (haccepts : WtLogin.Accepts x.prost packet s.ctx tlvs) :
    LogsIn x tlvs s (.received now (.ok (some packet)))

theorem LogsIn.unique {tlvs' : TlvSet} (h : LogsIn x tlvs s a) (h' : LogsIn x tlvs' s a) : tlvs' = tlvs := by
  cases h with
  | received now haccepts =>
    cases h' with
    | received _ haccepts' => exact haccepts'.unsealed.unique haccepts.unsealed

theorem step_logsIn (hlogs : LogsIn x tlvs s a) (h : step x s a = some s') :
    HoldsLogin tlvs s'.ctx.keyStore ∧ s'.phase = .answered (.ok (some { code := 0, msg := none })) := by
  cases hlogs with
  | @received packet now haccepts =>
    cases step_steps h with
    | received =>
      rcases hparse : (WtLogin.parse x.prost x.md5 now packet).run s.ctx with ⟨exit, ctx'⟩
      rcases parse_accepts hparse with ⟨rfl, tlvs', haccepts', hstored⟩ | ⟨-, hnone, -⟩
      · cases haccepts.unsealed.unique haccepts'.unsealed
        rw [received, hparse]
        exact ⟨hstored.holdsLogin, rfl⟩
      · exact absurd haccepts (hnone tlvs)

theorem queried_tries (answer : Except (BusinessError String) (Option TransEmp)) :
    SameLogin s.ctx.keyStore (s.queried answer).ctx.keyStore ∧ Refused x (s.queried answer).phase := by
  unfold queried
  split
  · next status =>
    cases status with
    | confirmed => exact ⟨⟨rfl, rfl, rfl, rfl⟩, trivial⟩
    | codeExpired => exact ⟨.refl _, _, rfl⟩
    | waitingForScan => exact ⟨.refl _, trivial⟩
    | waitingForConfirm => exact ⟨.refl _, trivial⟩
    | canceled => exact ⟨.refl _, _, rfl⟩
  · exact ⟨.refl _, trivial⟩
  all_goals exact ⟨.refl _, _, rfl⟩

theorem posted_tries (response : Except String Bytes) :
    SameLogin s.ctx.keyStore (s.posted x response).ctx.keyStore ∧ Refused x (s.posted x response).phase := by
  unfold posted
  split
  · split
    · exact ⟨⟨rfl, rfl, rfl, rfl⟩, trivial⟩
    · exact ⟨.refl _, _, rfl⟩
  · exact ⟨.refl _, _, rfl⟩

theorem doWtLogin_refused {event : WtLogin} (h : event.code ≠ 0) : ∃ e, doWtLogin x (.ok (some event)) = .error e := by
  rw [doWtLogin, if_neg h]
  exact ⟨_, rfl⟩

theorem received_tries {now : Int} {answer : Except (BusinessError String) (Option Bytes)}
    (hphase : s.phase = .loggingIn) (hnone : ∀ tlvs, ¬ LogsIn x tlvs s (.received now answer)) :
    SameLogin s.ctx.keyStore (s.received x now answer).ctx.keyStore ∧ Refused x (s.received x now answer).phase := by
  cases answer with
  | error e => exact ⟨.refl _, _, rfl⟩
  | ok packet =>
    cases packet with
    | none => exact ⟨.refl _, _, rfl⟩
    | some packet =>
      rcases hparse : (WtLogin.parse x.prost x.md5 now packet).run s.ctx with ⟨exit, ctx'⟩
      rcases parse_accepts hparse with ⟨-, tlvs, haccepts, -⟩ | ⟨hcode, -, rfl⟩
      · exact absurd (.received now haccepts) (hnone tlvs)
      · rw [received, hparse]
        cases exit with
        | ok event => exact ⟨.refl _, doWtLogin_refused (hcode event rfl)⟩
        | err e => exact ⟨.refl _, _, rfl⟩
        | panic =>
          refine ⟨.refl _, ?_⟩
          rw [hphase]
          trivial
        | spins =>
          refine ⟨.refl _, ?_⟩
          rw [hphase]
          trivial

/-- A step of a call that has not logged in, and does not log in now. -/
theorem step_tries (hrefused : Refused x s.phase) (hnone : ∀ tlvs, ¬ LogsIn x tlvs s a) (h : step x s a = some s') :
    SameLogin s.ctx.keyStore s'.ctx.keyStore ∧ Refused x s'.phase := by
  cases step_steps h with
  | posted response => exact posted_tries response
  | queried answer => exact queried_tries answer
  | slept =>
    refine ⟨?_, queryTransTmpStatus_refused x s⟩
    rw [queryTransTmpStatus_ctx]
    exact .refl _
  | received now answer hphase => exact received_tries hphase hnone
  | delivered hphase =>
    rw [hphase] at hrefused
    exact ⟨.refl _, hrefused⟩
  | elapsed => exact ⟨.refl _, _, rfl⟩

/-! ## Runs -/

variable {ctx : Context} {qrSign : Option QrSign}

/-- The server accepts the login in the run, and these TLVs hold it. -/
def Accepted (x : QrServices) (ctx : Context) (qrSign : Option QrSign) (tlvs : TlvSet) (acts : List LoginAction) :
    Prop :=
  Occurs (step x) (loginByQrcode x ctx qrSign) (LogsIn x tlvs) acts

/-- What an accepted login comes to: the caller does not have the result yet,
or gets it, or the time is up first. -/
inductive Ends (s : QrLogin) (acts : List LoginAction) : Prop
  | waits (hphase : s.phase = .answered (.ok (some { code := 0, msg := none })))
  | delivered (hphase : s.phase = .returned (.ok ())) (hlast : acts.getLast? = some .delivered)
  | late (e : ManiaError) (hphase : s.phase = .returned (.error e)) (hlast : acts.getLast? = some .elapsed)

/-- A run up to here: the call has not logged in and has the login it began
with, or it has the one login the server accepted. -/
inductive Course (x : QrServices) (ctx : Context) (qrSign : Option QrSign) (s : QrLogin) (acts : List LoginAction) :
    Prop
  | tries (hnone : ∀ tlvs, ¬ Accepted x ctx qrSign tlvs acts) (hsame : SameLogin ctx.keyStore s.ctx.keyStore)
      (hrefused : Refused x s.phase)
  | accepted {tlvs : TlvSet} (haccepted : ∀ tlvs', Accepted x ctx qrSign tlvs' acts ↔ tlvs' = tlvs)
      (hholds : HoldsLogin tlvs s.ctx.keyStore) (hends : Ends s acts)

/-- After an accepted login the call only waits for its result. -/
theorem Ends.step (hends : Ends s acts) (h : step x s a = some s') :
    s'.ctx = s.ctx ∧ Ends s' (acts ++ [a]) ∧ ∀ tlvs, ¬ LogsIn x tlvs s a := by
  have hsteps := step_steps h
  cases hends with
  | waits hphase =>
    cases hsteps with
    | posted _ hposting => cases hphase.symm.trans hposting
    | queried _ hquerying => cases hphase.symm.trans hquerying
    | slept hsleeping => cases hphase.symm.trans hsleeping
    | received _ _ hloggingIn => cases hphase.symm.trans hloggingIn
    | delivered hanswered =>
      cases hphase.symm.trans hanswered
      exact ⟨rfl, .delivered rfl List.getLast?_concat, fun _ hlogs => nomatch hlogs⟩
    | elapsed => exact ⟨rfl, .late _ rfl List.getLast?_concat, fun _ hlogs => nomatch hlogs⟩
  | delivered hphase => simp [QrLogin.step, hphase] at h
  | late e hphase => simp [QrLogin.step, hphase] at h

theorem course_step (hrun : run (step x) (loginByQrcode x ctx qrSign) acts = some s)
    (hcourse : Course x ctx qrSign s acts) (h : step x s a = some s') : Course x ctx qrSign s' (acts ++ [a]) := by
  cases hcourse with
  | tries hnone hsame hrefused =>
    by_cases hlogs : ∃ tlvs, LogsIn x tlvs s a
    · obtain ⟨tlvs, hlogs⟩ := hlogs
      obtain ⟨hholds, hphase⟩ := step_logsIn hlogs h
      refine @Course.accepted _ _ _ _ _ tlvs (fun tlvs' => ?_) hholds (.waits hphase)
      rw [Accepted, occurs_concat hrun]
      constructor
      · rintro (hbefore | hlogs')
        · exact absurd hbefore (hnone tlvs')
        · exact hlogs.unique hlogs'
      · rintro rfl
        exact .inr hlogs
    · have hlogs : ∀ tlvs, ¬ LogsIn x tlvs s a := not_exists.mp hlogs
      obtain ⟨hsame', hrefused'⟩ := step_tries hrefused hlogs h
      refine .tries (fun tlvs => ?_) (hsame.trans hsame') hrefused'
      rw [Accepted, occurs_concat hrun]
      exact not_or.mpr ⟨hnone tlvs, hlogs tlvs⟩
  | accepted haccepted hholds hends =>
    obtain ⟨hctx, hends', hlogs⟩ := hends.step h
    refine .accepted (fun tlvs' => ?_) (hctx ▸ hholds) hends'
    rw [Accepted, occurs_concat hrun, or_iff_left (hlogs tlvs')]
    exact haccepted tlvs'

theorem loginByQrcode_ctx : (loginByQrcode x ctx qrSign).ctx = ctx := queryTransTmpStatus_ctx x _

theorem course_run (hrun : run (step x) (loginByQrcode x ctx qrSign) acts = some s) : Course x ctx qrSign s acts := by
  have hboth := Runs.induction
    (P := fun s acts => run (step x) (loginByQrcode x ctx qrSign) acts = some s ∧ Course x ctx qrSign s acts) ?_ ?_ hrun
  · exact hboth.2
  · refine ⟨run_nil, .tries (fun tlvs => not_occurs_nil) ?_ (queryTransTmpStatus_refused x _)⟩
    rw [loginByQrcode_ctx]
    exact .refl _
  · rintro s acts a s' ⟨hrun, hcourse⟩ hstep
    exact ⟨run_concat_eq_some.mpr ⟨s, hrun, hstep⟩, course_step hrun hcourse hstep⟩

theorem uin_run (hrun : run (step x) (loginByQrcode x ctx qrSign) acts = some s) :
    s.ctx.keyStore.uin = (lastPolled x acts).getD ctx.keyStore.uin := by
  refine Runs.induction (P := fun s acts => s.ctx.keyStore.uin = (lastPolled x acts).getD ctx.keyStore.uin) ?_ ?_ hrun
  · rw [loginByQrcode_ctx]
    rfl
  · intro s acts a s' huin hstep
    rw [step_uin hstep, huin, lastPolled_concat]

/-- The account is the same just when the last poll named it. -/
theorem sameIdentity_iff (hrun : run (step x) (loginByQrcode x ctx qrSign) acts = some s) :
    SameIdentity ctx.keyStore s.ctx.keyStore ↔
      (∀ uin ∈ lastPolled x acts, uin = ctx.keyStore.uin) ∧ SameLogin ctx.keyStore s.ctx.keyStore := by
  have huin : (∀ uin ∈ lastPolled x acts, uin = ctx.keyStore.uin) ↔ s.ctx.keyStore.uin = ctx.keyStore.uin := by
    rw [uin_run hrun]
    cases lastPolled x acts with
    | none => simp
    | some uin => simp
  rw [huin]
  exact ⟨fun h => ⟨h.uin, h.toSameLogin⟩, fun ⟨huin, hsame⟩ => ⟨hsame, huin⟩⟩

/-- Of a call that returns an error, the property says that it keeps the identity. -/
theorem error_keeps_iff {Kept Changed : Prop} (e : ManiaError) :
    ((∀ e', (.error e : Except ManiaError Unit) = .error e' → Kept) ∧ (¬ Kept → Changed)) ↔ Kept :=
  ⟨fun h => h.1 e rfl, fun hkept => ⟨fun _ _ => hkept, fun h => absurd hkept h⟩⟩

/-- **A login that fails.** A call that returns an error leaves the identity
and the session as they were, and one that changes them was accepted by the
server: this holds of a run just when the call logs in, or the last poll named
the account of the key store and no other login was accepted at the time-out. -/
theorem loginByQrcode_keeps_iff {result : Except ManiaError Unit}
    (hrun : run (step x) (loginByQrcode x ctx qrSign) acts = some s) (hreturned : s.phase = .returned result) :
    ((∀ e, result = .error e → SameIdentity ctx.keyStore s.ctx.keyStore) ∧
        (¬ SameIdentity ctx.keyStore s.ctx.keyStore → ∃ tlvs, Accepted x ctx qrSign tlvs acts)) ↔
      ((∃ tlvs, Accepted x ctx qrSign tlvs acts) ∧ acts.getLast? ≠ some .elapsed) ∨
        ((∀ uin ∈ lastPolled x acts, uin = ctx.keyStore.uin) ∧
          ∀ tlvs, Accepted x ctx qrSign tlvs acts → acts.getLast? = some .elapsed → HoldsLogin tlvs ctx.keyStore) := by
  rw [sameIdentity_iff hrun]
  cases course_run hrun with
  | tries hnone hsame hrefused =>
    rw [hreturned] at hrefused
    obtain ⟨e, rfl⟩ := hrefused
    rw [error_keeps_iff]
    constructor
    · rintro ⟨huin, -⟩
      exact .inr ⟨huin, fun tlvs haccepted => absurd haccepted (hnone tlvs)⟩
    · rintro (⟨⟨tlvs, haccepted⟩, -⟩ | ⟨huin, -⟩)
      · exact absurd haccepted (hnone tlvs)
      · exact ⟨huin, hsame⟩
  | @accepted tlvs haccepted hholds hends =>
    have hone : Accepted x ctx qrSign tlvs acts := (haccepted tlvs).mpr rfl
    cases hends with
    | waits hphase => cases hphase.symm.trans hreturned
    | delivered hphase hlast =>
      cases hphase.symm.trans hreturned
      have hintime : acts.getLast? ≠ some .elapsed := by
        rw [hlast]
        intro h
        cases h
      refine iff_of_true ⟨?_, fun _ => ⟨tlvs, hone⟩⟩ (.inl ⟨⟨tlvs, hone⟩, hintime⟩)
      intro e herror
      cases herror
    | late e hphase hlast =>
      cases hphase.symm.trans hreturned
      rw [error_keeps_iff]
      constructor
      · rintro ⟨huin, hsame⟩
        refine .inr ⟨huin, fun tlvs' haccepted' _ => ?_⟩
        cases (haccepted tlvs').mp haccepted'
        exact hholds.same_iff.mpr hsame
      · rintro (⟨-, hintime⟩ | ⟨huin, hlate⟩)
        · exact absurd hlast hintime
        · exact ⟨huin, hholds.same_iff.mp (hlate tlvs hone hlast)⟩

/-! ## A code that expires -/

/-- A service that always names the account. -/
def servicesOf (uin : UInt32) : QrServices where
  toVec := fun _ => .ok []
  fromSlice := fun _ => .ok { uin }
  prost := namedProst
  md5 := fun _ => loginMd5
  display := fun _ => ""
  debug := fun _ => ""

/-- A poll finds the code expired. -/
def expires : List LoginAction := [.posted (.ok []), .queried (.ok (some { result := some (.emp12 .codeExpired) }))]

theorem run_expires (uin : UInt32) :
    run (step (servicesOf uin)) (loginByQrcode (servicesOf uin) freshContext (some { string := "" })) expires =
      some
        { ctx := { freshContext with keyStore.uin := uin }
          qrSign := some { string := "" }
          phase := .returned (.error (.genericError "QR code expired")) } := rfl

/-- The account of the key store, `7`. -/
theorem loginByQrcode_keeps_expired :
    ((∀ e, (.error (.genericError "QR code expired") : Except ManiaError Unit) = .error e →
          SameIdentity freshContext.keyStore { freshContext.keyStore with uin := 7 }) ∧
        (¬ SameIdentity freshContext.keyStore { freshContext.keyStore with uin := 7 } →
          ∃ tlvs, Accepted (servicesOf 7) freshContext (some { string := "" }) tlvs expires)) ↔
      ((∃ tlvs, Accepted (servicesOf 7) freshContext (some { string := "" }) tlvs expires) ∧
          expires.getLast? ≠ some .elapsed) ∨
        ((∀ uin ∈ lastPolled (servicesOf 7) expires, uin = 7) ∧
          ∀ tlvs, Accepted (servicesOf 7) freshContext (some { string := "" }) tlvs expires →
            expires.getLast? = some .elapsed → HoldsLogin tlvs freshContext.keyStore) :=
  loginByQrcode_keeps_iff (run_expires 7) rfl

/-- Another account, `8`: its `uin` stays in the key store. -/
theorem loginByQrcode_stores_uin :
    ¬ ∀ (x : QrServices) (ctx : Context) (qrSign : Option QrSign) (acts : List LoginAction) (s : QrLogin)
      (result : Except ManiaError Unit), run (step x) (loginByQrcode x ctx qrSign) acts = some s →
        s.phase = .returned result →
          (∀ e, result = .error e → SameIdentity ctx.keyStore s.ctx.keyStore) ∧
            (¬ SameIdentity ctx.keyStore s.ctx.keyStore → ∃ tlvs, Accepted x ctx qrSign tlvs acts) := by
  intro h
  have hkept := (h _ _ _ _ _ _ (run_expires 8) rfl).1 _ rfl
  exact absurd hkept.uin (by decide)

end QrLogin

end Mania
