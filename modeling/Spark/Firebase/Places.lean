/-
  Spark.Firebase.Places

  Where the calls of `verifyPhoneNumber` are.

  Every call that has been made is at one place: with a manager, with a request,
  with the page, on the main queue, or completed.  A block that is given a call
  puts it at a later place (the lemmas `sets_…`), so each step moves some calls
  to later places (`step_moves`).  It can drop one in two ways only (`dropped`):
  a verification is started with a receipt for which one is under way, or the
  page returns neither a token nor an error.
-/

import Spark.Firebase.PhoneAuthProvider
import Spark.Lib.Custody

namespace Spark.Firebase

open Spark.Lib

-- ============================================================================
-- Places
-- ============================================================================

/-- A call and the block that will go on with it. -/
inductive Place
  | issued (call : VerifyCall)
  | forwarding (call : VerifyCall)
  | apnsToken (attempt : Attempt)
  | verifyClient (attempt : Attempt)
  | receipt (attempt : Attempt)
  | projectConfig (attempt : Attempt)
  | presenting (attempt : Attempt)
  | dismissing (attempt : Attempt)
  | alreadyPresented (attempt : Attempt)
  | sending (attempt : Attempt)
  | completing (call : VerifyCall)
  | completed (call : VerifyCall)
  deriving DecidableEq

namespace Place

def call : Place → VerifyCall
  | .issued call | .forwarding call | .completing call | .completed call => call
  | .apnsToken a | .verifyClient a | .receipt a | .projectConfig a | .presenting a
  | .dismissing a | .alreadyPresented a | .sending a => a.call

end Place

/-- The first attempt comes before the second. -/
def Attempt.base (a : Attempt) : Nat := if a.retryOnInvalidAppCredential then 10 else 0

namespace Place

/-- How far a call still is from its completion. -/
def rank : Place → Nat
  | .issued _ => 21
  | .forwarding _ => 20
  | .apnsToken a => 9 + a.base
  | .verifyClient a => 8 + a.base
  | .receipt a => 7 + a.base
  | .projectConfig a => 6 + a.base
  | .presenting a => 5 + a.base
  | .dismissing a => 4 + a.base
  | .alreadyPresented a => 3 + a.base
  | .sending a => 2 + a.base
  | .completing _ => 1
  | .completed _ => 0

/-- The calls that request a verification code at a place. -/
def sends : Place → Multiset VerifyCall
  | .sending a => {a.call}
  | _ => 0

def isPresentation : Place → Bool
  | .presenting _ | .dismissing _ => true
  | _ => false

/-- `q` is a later place of the call at `p`. -/
def Onward (p q : Place) : Prop := q.call = p.call ∧ q.rank < p.rank

end Place

def BackendRequest.place : BackendRequest → Place
  | .verifyClient a _ _ => .verifyClient a
  | .getProjectConfig a _ => .projectConfig a
  | .sendVerificationCode a _ _ | .sendVerificationCodeForTesting a => .sending a

/-- The place of the call that a finish block completes. -/
def FinishBlock.places {URL : Type} (finish : FinishBlock URL) : Multiset Place :=
  (finish.completion.map Place.dismissing).elim 0 ({·})

def MainBlock.places {URL : Type} : MainBlock URL → Multiset Place
  | .completion c => {.completing c.call}
  | .presentSafariViewController _ => 0
  | .webContextAlreadyPresented a => {.alreadyPresented a}
  | .dismissViewController finish => finish.places

/-- The call that a block goes on with; one that waits for the page to disappear
    stays where it is. -/
def MainBlock.handed {URL : Type} : MainBlock URL → Multiset Place
  | .completion c => {.completing c.call}
  | .presentSafariViewController _ => 0
  | .webContextAlreadyPresented a => {.alreadyPresented a}
  | .dismissViewController _ => 0

/-- The completion that a block calls. -/
def MainBlock.called {URL : Type} : MainBlock URL → List Completion
  | .completion c => [c]
  | _ => []

/-- The block puts the page on screen. -/
def MainBlock.presents {URL : Type} : MainBlock URL → Bool
  | .presentSafariViewController _ => true
  | _ => false

namespace PhoneAuthProvider

variable {URL : Type}

/-- The places of all calls. -/
def places (s : PhoneAuthProvider URL) : Multiset Place :=
  (s.notificationManager.waiting : Multiset VerifyCall).map Place.forwarding +
  (s.tokenManager.waiting : Multiset Attempt).map Place.apnsToken +
  s.appCredentialManager.callbacksByReceipt.entries.map (fun e => Place.receipt e.2) +
  (s.requests.outstanding : Multiset (Nat × BackendRequest)).map (fun r => r.2.place) +
  (s.authURLPresenter.completion.map Place.presenting).elim 0 ({·}) +
  (s.dismissals : Multiset (FinishBlock URL)).bind FinishBlock.places +
  (s.mainQueue : Multiset (MainBlock URL)).bind MainBlock.places +
  (s.completions : Multiset Completion).map (fun c => Place.completed c.call)

/-- The calls that have requested a verification code, once for each request. -/
def sends (s : PhoneAuthProvider URL) : Multiset VerifyCall :=
  (s.sent : Multiset BackendRequest).bind fun r => r.place.sends

/-- A call is with the page only while one is presented, and one at most. -/
def PresentsOne (s : PhoneAuthProvider URL) : Prop :=
  s.places.countP (fun p => p.isPresentation) ≤ s.authURLPresenter.isPresenting.toNat

theorem coe_append_singleton {α : Type} (l : List α) (a : α) :
    ((l ++ [a] : List α) : Multiset α) = {a} + (l : Multiset α) := by
  rw [← Multiset.coe_add, add_comm]
  rfl

theorem places_request (s : PhoneAuthProvider URL) (r : BackendRequest) :
    (s.request r).places = {r.place} + s.places := by
  simp only [places, request, Calls.issue, coe_append_singleton, Multiset.map_add,
    Multiset.map_singleton]
  ac_rfl

theorem sends_request (s : PhoneAuthProvider URL) (r : BackendRequest) :
    (s.request r).sends = r.place.sends + s.sends := by
  simp only [sends, request, coe_append_singleton, Multiset.add_bind, Multiset.singleton_bind]

theorem places_dispatchAsync (s : PhoneAuthProvider URL) (b : MainBlock URL) :
    (s.dispatchAsync b).places = b.places + s.places := by
  simp only [places, dispatchAsync, coe_append_singleton, Multiset.add_bind,
    Multiset.singleton_bind]
  ac_rfl

/-- A call with the page is one more. -/
theorem countP_presentation {p : Place} (hp : p.isPresentation = true) (ps : Multiset Place) :
    ({p} + ps).countP (fun p => p.isPresentation) =
      ps.countP (fun p => p.isPresentation) + 1 := by
  rw [Multiset.singleton_add]
  exact Multiset.countP_cons_of_pos ps hp

theorem countP_other {p : Place} (hp : p.isPresentation = false) (ps : Multiset Place) :
    ({p} + ps).countP (fun p => p.isPresentation) = ps.countP (fun p => p.isPresentation) := by
  rw [Multiset.singleton_add]
  exact Multiset.countP_cons_of_neg ps (by simp [hp])

-- ============================================================================
-- Timers
-- ============================================================================

/-- Whatever waits for the application has a timer that ends the wait. -/
structure Armed (timers : List Timer) (notificationManager : NotificationManager VerifyCall)
    (tokenManager : APNSTokenManager Attempt)
    (callbacksByReceipt : Finmap fun _ : String => Attempt) : Prop where
  probing : notificationManager.pendingCallbacks.isSome → .probing ∈ timers
  registration : ∀ array callbacks, tokenManager.pendingCallbacks = some (array, callbacks) →
    .registration array ∈ timers
  verification : ∀ receipt ∈ callbacksByReceipt, .verification receipt ∈ timers

namespace Armed

variable {timers : List Timer} {n : NotificationManager VerifyCall} {m : APNSTokenManager Attempt}
  {callbacksByReceipt : Finmap fun _ : String => Attempt}

theorem joined_token (h : Armed timers n m callbacksByReceipt) {m' : APNSTokenManager Attempt}
    {a : Attempt} (hget : m.getTokenWithCallback a = .joined m') :
    Armed timers n m' callbacksByReceipt := by
  refine ⟨h.probing, ?_, h.verification⟩
  intro array callbacks hpending
  obtain ⟨array', callbacks', hm, hm'⟩ := APNSTokenManager.getTokenWithCallback_joined hget
  obtain ⟨rfl, -⟩ := Prod.mk.inj (Option.some.inj (hm'.symm.trans hpending))
  exact h.registration array' callbacks' hm

theorem started_token (h : Armed timers n m callbacksByReceipt) {m' : APNSTokenManager Attempt}
    {a : Attempt} {array : Nat} (hget : m.getTokenWithCallback a = .started m' array) :
    Armed (timers ++ [.registration array]) n m' callbacksByReceipt := by
  refine ⟨fun hn => List.mem_append_left _ (h.probing hn), ?_,
    fun receipt hmem => List.mem_append_left _ (h.verification receipt hmem)⟩
  intro array' callbacks hpending
  obtain ⟨-, hm'⟩ := APNSTokenManager.getTokenWithCallback_started hget
  obtain ⟨rfl, -⟩ := Prod.mk.inj (Option.some.inj (hm'.symm.trans hpending))
  exact List.mem_append_right _ (List.mem_singleton_self _)

theorem joined_check (h : Armed timers n m callbacksByReceipt) {n' : NotificationManager VerifyCall}
    {call : VerifyCall} (hcheck : n.checkNotificationForwarding call = .joined n') :
    Armed timers n' m callbacksByReceipt := by
  refine ⟨?_, h.registration, h.verification⟩
  intro _
  obtain ⟨callbacks, hn, -⟩ := NotificationManager.checkNotificationForwarding_joined hcheck
  exact h.probing (hn ▸ rfl)

theorem started_check (h : Armed timers n m callbacksByReceipt)
    {n' : NotificationManager VerifyCall} :
    Armed (timers ++ [.probing]) n' m callbacksByReceipt := by
  refine ⟨fun _ => List.mem_append_right _ (List.mem_singleton_self _),
    fun array callbacks hm => List.mem_append_left _ (h.registration array callbacks hm),
    fun receipt hmem => List.mem_append_left _ (h.verification receipt hmem)⟩

/-- A verification arms its timer. -/
theorem insert (h : Armed timers n m callbacksByReceipt) (receipt : String) (a : Attempt) :
    Armed (timers ++ [.verification receipt]) n m (callbacksByReceipt.insert receipt a) := by
  refine ⟨fun hn => List.mem_append_left _ (h.probing hn),
    fun array callbacks hm => List.mem_append_left _ (h.registration array callbacks hm), ?_⟩
  intro r hmem
  rcases Finmap.mem_insert.mp hmem with rfl | hmem
  · exact List.mem_append_right _ (List.mem_singleton_self _)
  · exact List.mem_append_left _ (h.verification r hmem)

/-- The calls that wait for the prober are called back. -/
theorem called_check (h : Armed timers n m callbacksByReceipt)
    {n' : NotificationManager VerifyCall} (hn : n'.pendingCallbacks = none)
    {timers' : List Timer} (htimers : ∀ t ∈ timers, t ≠ .probing → t ∈ timers') :
    Armed timers' n' m callbacksByReceipt := by
  refine ⟨?_, ?_, ?_⟩
  · intro hpending
    rw [hn] at hpending
    cases hpending
  · intro array callbacks hm
    exact htimers _ (h.registration array callbacks hm) (by simp)
  · intro receipt hmem
    exact htimers _ (h.verification receipt hmem) (by simp)

/-- The calls that wait for a push token are called back, or some of the timers
    are for an earlier array. -/
theorem called_token (h : Armed timers n m callbacksByReceipt) {m' : APNSTokenManager Attempt}
    {timers' : List Timer}
    (hm : ∀ array callbacks, m'.pendingCallbacks = some (array, callbacks) →
      m.pendingCallbacks = some (array, callbacks) ∧ .registration array ∈ timers')
    (htimers : ∀ t ∈ timers, (∀ array, t ≠ .registration array) → t ∈ timers') :
    Armed timers' n m' callbacksByReceipt := by
  refine ⟨?_, ?_, ?_⟩
  · intro hpending
    exact htimers _ (h.probing hpending) (by simp)
  · intro array callbacks hpending
    exact (hm array callbacks hpending).2
  · intro receipt hmem
    exact htimers _ (h.verification receipt hmem) (by simp)

/-- A call whose verification is under way is called back. -/
theorem called_receipt (h : Armed timers n m callbacksByReceipt) {receipt : String}
    {callbacksByReceipt' : Finmap fun _ : String => Attempt}
    (hmem : ∀ r ∈ callbacksByReceipt', r ∈ callbacksByReceipt ∧ r ≠ receipt)
    {timers' : List Timer} (htimers : ∀ t ∈ timers, t ≠ .verification receipt → t ∈ timers') :
    Armed timers' n m callbacksByReceipt' := by
  refine ⟨?_, ?_, ?_⟩
  · intro hpending
    exact htimers _ (h.probing hpending) (by simp)
  · intro array callbacks hm
    exact htimers _ (h.registration array callbacks hm) (by simp)
  · intro r hr
    obtain ⟨hold, hne⟩ := hmem r hr
    exact htimers _ (h.verification r hold) (by simpa using hne)

end Armed

-- ============================================================================
-- The page
-- ============================================================================

variable [NSURL URL] [Foundation]

/-- A URL among the results of the page is read without an exception. -/
def ReadableResult (result : Except AuthError URL) : Prop := ∀ url, result = .ok url → Readable url

/-- The finish block has its completion, and its result can be read. -/
structure Runs (finish : FinishBlock URL) : Prop where
  completion : finish.completion.isSome
  readable : ReadableResult finish.result

/-- A presentation that waits has its page on screen, or about to be, and every
    finish block runs. -/
structure Paged (presenter : URLPresenter) (mainQueue : List (MainBlock URL))
    (dismissals : List (FinishBlock URL)) : Prop where
  page : presenter.completion.isSome.toNat =
    mainQueue.countP MainBlock.presents + presenter.safariViewController.isSome.toNat
  queued : ∀ finish, .dismissViewController finish ∈ mainQueue → Runs finish
  dismissing : ∀ finish ∈ dismissals, Runs finish

namespace Paged

variable {presenter : URLPresenter} {mainQueue : List (MainBlock URL)}
  {dismissals : List (FinishBlock URL)}

/-- A block that neither shows the page nor dismisses it. -/
theorem dispatchAsync (h : Paged presenter mainQueue dismissals) {b : MainBlock URL}
    (hb : (∃ c, b = .completion c) ∨ ∃ a, b = .webContextAlreadyPresented a) :
    Paged presenter (mainQueue ++ [b]) dismissals := by
  refine ⟨?_, ?_, h.dismissing⟩
  · have hnone : [b].countP MainBlock.presents = 0 := by
      rcases hb with ⟨c, rfl⟩ | ⟨a, rfl⟩ <;> rfl
    rw [List.countP_append, hnone]
    exact h.page
  · intro finish hfinish
    rcases List.mem_append.mp hfinish with hfinish | hfinish
    · exact h.queued finish hfinish
    · rcases hb with ⟨c, rfl⟩ | ⟨a, rfl⟩ <;> simp at hfinish

/-- A presentation starts with its page about to be on screen. -/
theorem present (h : Paged presenter mainQueue dismissals) (hnone : presenter.completion = none)
    (url : ReCAPTCHAURL) (a : Attempt) :
    Paged
      { presenter with
        isPresenting := true, callbackMatcher := some url.eventID, completion := some a }
      (mainQueue ++ [.presentSafariViewController url]) dismissals := by
  refine ⟨?_, ?_, h.dismissing⟩
  · have hpage := h.page
    have hone : [(.presentSafariViewController url : MainBlock URL)].countP MainBlock.presents = 1 :=
      rfl
    rw [hnone, Option.isSome_none, Bool.toNat_false] at hpage
    rw [List.countP_append, hone, Option.isSome_some, Bool.toNat_true]
    change 1 = _ + presenter.safariViewController.isSome.toNat
    omega
  · intro finish hfinish
    rcases List.mem_append.mp hfinish with hfinish | hfinish
    · exact h.queued finish hfinish
    · simp at hfinish

end Paged

-- ============================================================================
-- What the blocks rely on
-- ============================================================================

/-- What the blocks keep, besides `PresentsOne`; the page is taken into account
    when `P` holds. -/
structure Steady (P : Prop) (s : PhoneAuthProvider URL) : Prop where
  numbered : s.requests.Numbered
  armed : Armed s.timers s.notificationManager s.tokenManager
    s.appCredentialManager.callbacksByReceipt
  paged : P → Paged s.authURLPresenter s.mainQueue s.dismissals

/-- What the blocks rely on. -/
structure Sound (P : Prop) (s : PhoneAuthProvider URL) : Prop extends Steady P s where
  presentsOne : s.PresentsOne

def custody (P : Prop) :
    Custody (PhoneAuthProvider URL) Place (Multiset VerifyCall)
      (List String × List Completion × Configuration × Bool) where
  places := places
  ledger := sends
  entry := Place.sends
  frame s := (s.calls, s.completions, s.config, s.trapped)
  sound := Sound P

-- ============================================================================
-- Blocks
-- ============================================================================

variable {P : Prop}

/-- The block that led from `s` to `t` has put its call at a place below `rank`. -/
def Sets (P : Prop) (s t : PhoneAuthProvider URL) (call : VerifyCall) (rank : Nat) : Prop :=
  ∃ q : Place, (q.call = call ∧ q.rank < rank) ∧ (custody P).Puts s t {q}

theorem Sets.mono {s t : PhoneAuthProvider URL} {call : VerifyCall} {rank rank' : Nat}
    (h : s.Sets P t call rank) (hle : rank ≤ rank') : s.Sets P t call rank' := by
  obtain ⟨q, ⟨hcall, hrank⟩, hput⟩ := h
  exact ⟨q, ⟨hcall, Nat.lt_of_lt_of_le hrank hle⟩, hput⟩

/-- A block that puts its call outside the page, and the page as it is. -/
theorem puts_of_places {s t : PhoneAuthProvider URL} {q : Place} (hs : s.Sound P)
    (hplaces : t.places = {q} + s.places) (hsends : t.sends = q.sends + s.sends)
    (hq : q.isPresentation = false)
    (hpresenting : t.authURLPresenter.isPresenting = s.authURLPresenter.isPresenting)
    (hframe : (custody P).frame t = (custody P).frame s) (ht : t.Steady P) :
    (custody P).Puts s t {q} := by
  refine ⟨hplaces, ?_, hframe, ht, ?_⟩
  · rw [Multiset.map_singleton, Multiset.sum_singleton]
    exact hsends
  · rw [PresentsOne, hplaces, countP_other hq, hpresenting]
    exact hs.presentsOne

theorem puts_request {s : PhoneAuthProvider URL} (hs : s.Sound P) (r : BackendRequest) :
    (custody P).Puts s (s.request r) {r.place} := by
  refine puts_of_places hs (places_request s r) (sends_request s r) ?_ rfl rfl
    ⟨hs.numbered.issue r, hs.armed, hs.paged⟩
  cases r <;> rfl

theorem sets_callBackOnMainThread {s : PhoneAuthProvider URL} (hs : s.Sound P)
    (call : VerifyCall) (verificationID : Option String) (error : Option AuthError) :
    s.Sets P (s.callBackOnMainThread call verificationID error) call 2 := by
  exact ⟨.completing call, ⟨rfl, Nat.one_lt_two⟩,
    puts_of_places hs (places_dispatchAsync _ _) (zero_add _).symm rfl rfl rfl
      ⟨hs.numbered, hs.armed, fun hP => (hs.paged hP).dispatchAsync (.inl ⟨_, rfl⟩)⟩⟩

theorem sets_request {s : PhoneAuthProvider URL} (hs : s.Sound P) (r : BackendRequest)
    {rank : Nat} (hrank : r.place.rank < rank) : s.Sets P (s.request r) r.place.call rank :=
  ⟨r.place, ⟨rfl, hrank⟩, puts_request hs r⟩

/-- While nothing is presented, no call is with the page. -/
theorem Sound.completion_eq_none {s : PhoneAuthProvider URL} (hs : s.Sound P)
    (hidle : s.authURLPresenter.isPresenting = false) : s.authURLPresenter.completion = none := by
  have hnone := hs.presentsOne
  rw [PresentsOne, hidle] at hnone
  cases hcompletion : s.authURLPresenter.completion with
  | none => rfl
  | some a =>
      have hmem : Place.presenting a ∈ s.places := by
        simp [places, hcompletion]
      have hpos : 0 < s.places.countP (fun p => p.isPresentation) :=
        Multiset.countP_pos.mpr ⟨_, hmem, rfl⟩
      exact absurd hpos (Nat.not_lt.mpr hnone)

/-- A block that starts a presentation while there is none. -/
theorem puts_presenting {s t : PhoneAuthProvider URL} {a : Attempt} (hs : s.Sound P)
    (hidle : s.authURLPresenter.isPresenting = false)
    (hplaces : t.places = {.presenting a} + s.places) (hsends : t.sends = s.sends)
    (hpresenting : t.authURLPresenter.isPresenting = true)
    (hframe : (custody P).frame t = (custody P).frame s) (ht : t.Steady P) :
    (custody P).Puts s t {.presenting a} := by
  refine ⟨hplaces, hsends.trans (zero_add _).symm, hframe, ht, ?_⟩
  have hnone := hs.presentsOne
  rw [PresentsOne, hidle, Bool.toNat_false, Nat.le_zero] at hnone
  rw [PresentsOne, hplaces, countP_presentation rfl, hnone, hpresenting]
  exact Nat.le_refl 1

theorem sets_presentURL {s : PhoneAuthProvider URL} (hs : s.Sound P) (url : ReCAPTCHAURL)
    (a : Attempt) : s.Sets P (s.presentURL url a) a.call (6 + a.base) := by
  rw [presentURL]
  split
  · refine ⟨.alreadyPresented a, ⟨rfl, ?_⟩,
      puts_of_places hs (places_dispatchAsync _ _) (zero_add _).symm rfl rfl rfl
        ⟨hs.numbered, hs.armed, fun hP => (hs.paged hP).dispatchAsync (.inr ⟨_, rfl⟩)⟩⟩
    simp only [Place.rank]
    omega
  · rename_i hpresenting
    have hidle := Bool.eq_false_iff.mpr hpresenting
    have hnone := hs.completion_eq_none hidle
    refine ⟨.presenting a, ⟨rfl, ?_⟩, puts_presenting hs hidle ?_ rfl rfl rfl
      ⟨hs.numbered, hs.armed, fun hP => (hs.paged hP).present hnone url a⟩⟩
    · simp only [Place.rank]
      omega
    · rw [places_dispatchAsync]
      simp only [places, hnone, MainBlock.places, Option.map_some, Option.map_none,
        Option.elim_some, Option.elim_none]
      ac_rfl

/-- The page is presented for no more calls when some are taken out. -/
theorem Sound.of_le {s t : PhoneAuthProvider URL} (hs : s.Sound P)
    (hplaces : t.places ≤ s.places)
    (hpresenting : t.authURLPresenter.isPresenting = s.authURLPresenter.isPresenting)
    (ht : t.Steady P) : t.Sound P := by
  refine ⟨ht, ?_⟩
  rw [PresentsOne, hpresenting]
  exact Nat.le_trans (Multiset.countP_le_of_le _ hplaces) hs.presentsOne

/-- What a block puts does not depend on the fields that hold no call. -/
theorem Sets.of_eq {s r t : PhoneAuthProvider URL} {call : VerifyCall} {rank : Nat}
    (h : r.Sets P t call rank) (hplaces : r.places = s.places) (hsends : r.sends = s.sends)
    (hframe : (custody P).frame r = (custody P).frame s) : s.Sets P t call rank := by
  obtain ⟨q, hq, hput⟩ := h
  refine ⟨q, hq, hput.places.trans ?_, hput.ledger.trans ?_, hput.frame.trans hframe, hput.sound⟩
  · exact congrArg (({q} : Multiset Place) + ·) hplaces
  · exact congrArg ((({q} : Multiset Place).map Place.sends).sum + ·) hsends

theorem sets_reCAPTCHAFlow {s : PhoneAuthProvider URL} (hs : s.Sound P) (a : Attempt) :
    s.Sets P (s.reCAPTCHAFlow a) a.call (7 + a.base) := by
  rw [reCAPTCHAFlow]
  have hs' : ({ s with eventIDs := s.eventIDs + 1 } : PhoneAuthProvider URL).Sound P :=
    ⟨⟨hs.numbered, hs.armed, hs.paged⟩, hs.presentsOne⟩
  cases s.config.emulatorHostAndPort with
  | some host => exact ((sets_presentURL hs' _ a).mono (by omega)).of_eq rfl rfl rfl
  | none => exact (sets_request hs' _ (by simp only [BackendRequest.place, Place.rank]; omega)).of_eq rfl rfl rfl

/-- A completion that carries a credential, a token or an error. -/
theorem sets_verifyClientCompletion {s : PhoneAuthProvider URL} (hs : s.Sound P) (a : Attempt)
    {appCredential : Option AppCredential} {reCAPTCHAToken : Option String}
    {error : Option AuthError}
    (hsome : error ≠ none ∨ appCredential ≠ none ∨ reCAPTCHAToken ≠ none) :
    s.Sets P (s.verifyClientCompletion a appCredential reCAPTCHAToken error) a.call
      (3 + a.base) := by
  have hrank : Place.rank (.sending a) < 3 + a.base := by
    simp only [Place.rank]
    omega
  match error, appCredential, reCAPTCHAToken with
  | some error, _, _ => exact (sets_callBackOnMainThread hs a.call none (some error)).mono (by omega)
  | none, some appCredential, _ => exact sets_request hs _ hrank
  | none, none, some reCAPTCHAToken => exact sets_request hs _ hrank
  | none, none, none => simp at hsome

theorem sets_verifyClientCompletion_error {s : PhoneAuthProvider URL} (hs : s.Sound P)
    (a : Attempt) (error : AuthError) :
    s.Sets P (s.verifyClientCompletion a none none (some error)) a.call (3 + a.base) :=
  sets_verifyClientCompletion hs a (.inl (Option.some_ne_none _))

theorem sets_getTokenCallback {s : PhoneAuthProvider URL} (hs : s.Sound P)
    (token : Option APNSToken) (a : Attempt) :
    s.Sets P (s.getTokenCallback token a) a.call (9 + a.base) := by
  cases token with
  | none => exact (sets_reCAPTCHAFlow hs a).mono (by omega)
  | some token => exact sets_request hs _ (by simp only [BackendRequest.place, Place.rank]; omega)

/-- A call that joins those waiting for a push token. -/
theorem sets_apnsToken {s : PhoneAuthProvider URL} (hs : s.Sound P) (a : Attempt)
    {m : APNSTokenManager Attempt} (hm : m.waiting = s.tokenManager.waiting ++ [a])
    {timers : List Timer}
    (harmed : Armed timers s.notificationManager m s.appCredentialManager.callbacksByReceipt) :
    s.Sets P { s with tokenManager := m, timers } a.call (10 + a.base) := by
  refine ⟨.apnsToken a, ⟨rfl, ?_⟩, puts_of_places hs ?_ (zero_add _).symm rfl rfl rfl
    ⟨hs.numbered, harmed, hs.paged⟩⟩
  · simp only [Place.rank]
    omega
  · simp only [places, hm, coe_append_singleton, Multiset.map_add, Multiset.map_singleton]
    ac_rfl

theorem sets_verifyClient {s : PhoneAuthProvider URL} (hs : s.Sound P) (a : Attempt) :
    s.Sets P (s.verifyClient a) a.call (10 + a.base) := by
  rw [verifyClient]
  cases s.appCredentialManager.credential with
  | some credential =>
      exact (sets_verifyClientCompletion hs a (.inr (.inl (Option.some_ne_none _)))).mono (by omega)
  | none =>
      simp only
      cases hget : s.tokenManager.getTokenWithCallback a with
      | token token => exact (sets_getTokenCallback hs (some token) a).mono (by omega)
      | joined m =>
          exact sets_apnsToken hs a (APNSTokenManager.waiting_joined hget)
            (hs.armed.joined_token hget)
      | started m array =>
          exact sets_apnsToken hs a (APNSTokenManager.waiting_started hget)
            (hs.armed.started_token hget)

theorem sets_verifyClientAndSendVerificationCode {s : PhoneAuthProvider URL} (hs : s.Sound P)
    (a : Attempt) : s.Sets P (s.verifyClientAndSendVerificationCode a) a.call (10 + a.base) := by
  rw [verifyClientAndSendVerificationCode]
  split
  · exact sets_request hs _ (by simp only [BackendRequest.place, Place.rank]; omega)
  · exact sets_verifyClient hs a

theorem sets_forwardingCallback {s : PhoneAuthProvider URL} (hs : s.Sound P)
    (isNotificationBeingForwarded : Bool) (call : VerifyCall) :
    s.Sets P (s.forwardingCallback isNotificationBeingForwarded call) call 20 := by
  rw [forwardingCallback]
  split
  · exact sets_verifyClientAndSendVerificationCode hs ⟨call, true⟩
  · exact (sets_callBackOnMainThread hs call _ _).mono (by omega)

/-- A call that joins those waiting for the prober. -/
theorem sets_forwarding {s : PhoneAuthProvider URL} (hs : s.Sound P) (call : VerifyCall)
    {m : NotificationManager VerifyCall}
    (hm : m.waiting = s.notificationManager.waiting ++ [call]) {timers : List Timer}
    (harmed : Armed timers m s.tokenManager s.appCredentialManager.callbacksByReceipt) :
    s.Sets P { s with notificationManager := m, timers } call 21 := by
  refine ⟨.forwarding call, ⟨rfl, Nat.lt_succ_self 20⟩,
    puts_of_places hs ?_ (zero_add _).symm rfl rfl rfl ⟨hs.numbered, harmed, hs.paged⟩⟩
  simp only [places, hm, coe_append_singleton, Multiset.map_add, Multiset.map_singleton]
  ac_rfl

theorem sets_internalVerifyPhoneNumber {s : PhoneAuthProvider URL} (hs : s.Sound P)
    (call : VerifyCall) : s.Sets P (s.internalVerifyPhoneNumber call) call 21 := by
  rw [internalVerifyPhoneNumber]
  split
  · exact (sets_callBackOnMainThread hs call _ _).mono (by omega)
  · cases hcheck : s.notificationManager.checkNotificationForwarding call with
    | checked forwarded => exact (sets_forwardingCallback hs forwarded call).mono (by omega)
    | joined m =>
        exact sets_forwarding hs call (NotificationManager.waiting_joined hcheck)
          (hs.armed.joined_check hcheck)
    | started m =>
        exact sets_forwarding hs call (NotificationManager.waiting_started hcheck)
          hs.armed.started_check

theorem sets_credentialCallback {s : PhoneAuthProvider URL} (hs : s.Sound P) (a : Attempt)
    (credential : AppCredential) :
    s.Sets P (s.credentialCallback a credential) a.call (7 + a.base) := by
  rw [credentialCallback]
  split
  · exact sets_reCAPTCHAFlow hs a
  · exact (sets_verifyClientCompletion hs a (.inr (.inl (Option.some_ne_none _)))).mono (by omega)

end PhoneAuthProvider

end Spark.Firebase
