/-
  Spark.Firebase.Receipts

  The app credential of the client from launch to launch.

  Only the replies of the backend, the notifications and the timers of
  verifications reach the credential manager; every other block leaves it as it
  is (the lemmas `appCredentialManager_…`).  So the lifetimes of the client are
  histories of its manager (`run_history`), and what holds of all histories
  holds of the client (`run_receipts`).
-/

import Spark.Firebase.Delivery

namespace Spark.Firebase

open Spark.Lib

namespace PhoneAuthProvider

variable {URL : Type}

-- ============================================================================
-- Blocks
-- ============================================================================

@[simp] theorem appCredentialManager_presentURL (s : PhoneAuthProvider URL) (url : ReCAPTCHAURL)
    (a : Attempt) : (s.presentURL url a).appCredentialManager = s.appCredentialManager := by
  rw [presentURL]
  split <;> rfl

@[simp] theorem appCredentialManager_reCAPTCHAFlow (s : PhoneAuthProvider URL) (a : Attempt) :
    (s.reCAPTCHAFlow a).appCredentialManager = s.appCredentialManager := by
  simp only [reCAPTCHAFlow]
  split
  · exact appCredentialManager_presentURL _ _ a
  · rfl

@[simp] theorem appCredentialManager_verifyClientCompletion (s : PhoneAuthProvider URL)
    (a : Attempt) (appCredential : Option AppCredential) (reCAPTCHAToken : Option String)
    (error : Option AuthError) :
    (s.verifyClientCompletion a appCredential reCAPTCHAToken error).appCredentialManager =
      s.appCredentialManager := by
  cases error <;> cases appCredential <;> cases reCAPTCHAToken <;> rfl

@[simp] theorem appCredentialManager_getTokenCallback (s : PhoneAuthProvider URL)
    (token : Option APNSToken) (a : Attempt) :
    (s.getTokenCallback token a).appCredentialManager = s.appCredentialManager := by
  cases token with
  | none => exact appCredentialManager_reCAPTCHAFlow s a
  | some token => rfl

@[simp] theorem appCredentialManager_verifyClient (s : PhoneAuthProvider URL) (a : Attempt) :
    (s.verifyClient a).appCredentialManager = s.appCredentialManager := by
  rw [verifyClient]
  split
  · exact appCredentialManager_verifyClientCompletion ..
  · split
    · exact appCredentialManager_getTokenCallback ..
    · rfl
    · rfl

@[simp] theorem appCredentialManager_verifyClientAndSendVerificationCode
    (s : PhoneAuthProvider URL) (a : Attempt) :
    (s.verifyClientAndSendVerificationCode a).appCredentialManager = s.appCredentialManager := by
  rw [verifyClientAndSendVerificationCode]
  split
  · rfl
  · exact appCredentialManager_verifyClient s a

@[simp] theorem appCredentialManager_forwardingCallback (s : PhoneAuthProvider URL)
    (isNotificationBeingForwarded : Bool) (call : VerifyCall) :
    (s.forwardingCallback isNotificationBeingForwarded call).appCredentialManager =
      s.appCredentialManager := by
  rw [forwardingCallback]
  split
  · exact appCredentialManager_verifyClientAndSendVerificationCode s _
  · rfl

@[simp] theorem appCredentialManager_verifyPhoneNumber (s : PhoneAuthProvider URL)
    (phoneNumber : String) :
    (s.verifyPhoneNumber phoneNumber).appCredentialManager = s.appCredentialManager := by
  rw [verifyPhoneNumber, internalVerifyPhoneNumber]
  split
  · rfl
  · split
    · exact appCredentialManager_forwardingCallback ..
    · rfl
    · rfl

/-- Blocks that each leave the manager alone do so one after the other. -/
theorem appCredentialManager_foldl {κ : Type}
    {f : PhoneAuthProvider URL → κ → PhoneAuthProvider URL}
    (hf : ∀ s k, (f s k).appCredentialManager = s.appCredentialManager) (ks : List κ)
    (s : PhoneAuthProvider URL) :
    (ks.foldl f s).appCredentialManager = s.appCredentialManager := by
  induction ks generalizing s with
  | nil => rfl
  | cons k ks ih => exact (ih (f s k)).trans (hf s k)

@[simp] theorem appCredentialManager_getTokenCallbacks (s : PhoneAuthProvider URL)
    (token : Option APNSToken) (called : List Attempt × APNSTokenManager Attempt) :
    (s.getTokenCallbacks token called).appCredentialManager = s.appCredentialManager :=
  appCredentialManager_foldl (fun s a => appCredentialManager_getTokenCallback s token a) ..

@[simp] theorem appCredentialManager_forwardingCallbacks (s : PhoneAuthProvider URL)
    (called : List VerifyCall × NotificationManager VerifyCall) :
    (s.forwardingCallbacks called).appCredentialManager = s.appCredentialManager :=
  appCredentialManager_foldl (fun s call => appCredentialManager_forwardingCallback s _ call) ..

@[simp] theorem appCredentialManager_credentialCallbacks (s : PhoneAuthProvider URL)
    (called : Option (Attempt × AppCredential) × AppCredentialManager Attempt) :
    (s.credentialCallbacks called).appCredentialManager = called.2 := by
  obtain ⟨callback, m⟩ := called
  cases callback with
  | none => rfl
  | some callback =>
      simp only [credentialCallbacks, credentialCallback]
      split
      · exact appCredentialManager_reCAPTCHAFlow ..
      · exact appCredentialManager_verifyClientCompletion ..

/-- A block leaves the manager as it is, when it ends the process too. -/
theorem appCredentialManager_ended {s : PhoneAuthProvider URL}
    {block : Except Crash (PhoneAuthProvider URL)}
    (h : ∀ t, block = .ok t → t.appCredentialManager = s.appCredentialManager) :
    (s.ended block).appCredentialManager = s.appCredentialManager := by
  cases block with
  | error crash => rfl
  | ok t => exact h t rfl

section Page

variable [NSURL URL] [Foundation]

theorem appCredentialManager_runFinishBlock {s t : PhoneAuthProvider URL}
    {finish : FinishBlock URL} (h : s.runFinishBlock finish = .ok t) :
    t.appCredentialManager = s.appCredentialManager := by
  rw [runFinishBlock] at h
  split at h
  · cases h
  · rename_i a hcompletion
    cases hresult : finish.result with
    | error error =>
        rw [hresult] at h
        obtain rfl := Except.ok.inj h
        exact appCredentialManager_verifyClientCompletion ..
    | ok url =>
        rw [hresult, presentationCompletion] at h
        split at h
        · cases h
        · obtain rfl := Except.ok.inj h
          exact appCredentialManager_verifyClientCompletion ..
        · obtain rfl := Except.ok.inj h
          exact appCredentialManager_verifyClientCompletion ..

theorem appCredentialManager_finishPresentation {s t : PhoneAuthProvider URL}
    {result : Except AuthError URL} (h : s.finishPresentation result = .ok t) :
    t.appCredentialManager = s.appCredentialManager := by
  simp only [finishPresentation] at h
  split at h
  · obtain rfl := Except.ok.inj h
    rfl
  · exact (appCredentialManager_runFinishBlock h).trans rfl

theorem appCredentialManager_canHandleURL {s : PhoneAuthProvider URL} {url : URL} :
    (s.ended ((s.canHandleURL url).map Prod.snd)).appCredentialManager =
      s.appCredentialManager := by
  refine appCredentialManager_ended ?_
  intro t h
  rw [canHandleURL] at h
  split at h
  · cases hfinish : s.finishPresentation (.ok url) with
    | error crash =>
        rw [hfinish] at h
        cases h
    | ok t' =>
        rw [hfinish] at h
        obtain rfl := Except.ok.inj h
        exact appCredentialManager_finishPresentation hfinish
  · obtain rfl := Except.ok.inj h
    rfl

theorem appCredentialManager_safariViewControllerDidFinish {s : PhoneAuthProvider URL}
    {controller : Nat} :
    (s.ended (s.safariViewControllerDidFinish controller)).appCredentialManager =
      s.appCredentialManager := by
  refine appCredentialManager_ended ?_
  intro t h
  rw [safariViewControllerDidFinish] at h
  split at h
  · exact (appCredentialManager_finishPresentation h).trans rfl
  · obtain rfl := Except.ok.inj h
    rfl

-- ============================================================================
-- Steps
-- ============================================================================

/-- The operations of a reply on the manager. -/
def replyEvents : BackendRequest → BackendReply → List (AppCredentialManager.Event Attempt)
  | .verifyClient a _ _, .verifyClient (.ok receipt) => [.didStartVerification receipt a]
  | .sendVerificationCode a _ _, .verificationCode (.error error) =>
      if error.code = .invalidAppCredential ∧ a.retryOnInvalidAppCredential then [.clearCredential]
      else []
  | _, _ => []

omit [NSURL URL] [Foundation] in
theorem run_replyEvents {s t : PhoneAuthProvider URL} {request : BackendRequest}
    {reply : BackendReply} (h : s.backendReply request reply = some t) :
    run AppCredentialManager.step s.appCredentialManager (replyEvents request reply) =
      some t.appCredentialManager := by
  cases request with
  | verifyClient a appToken isSandbox =>
      cases reply with
      | verifyClient result =>
          obtain rfl := Option.some.inj h
          cases result with
          | ok receipt => rfl
          | error error =>
              rw [verifyClientReply]
              split
              · exact congrArg some (appCredentialManager_reCAPTCHAFlow s a).symm
              · exact congrArg some (appCredentialManager_verifyClientCompletion ..).symm
      | _ => cases h
  | getProjectConfig a eventID =>
      cases reply with
      | projectConfig result =>
          obtain rfl := Option.some.inj h
          cases result with
          | error error => exact congrArg some (appCredentialManager_verifyClientCompletion ..).symm
          | ok authorizedDomains =>
              rw [projectConfigReply]
              split
              · exact congrArg some (appCredentialManager_verifyClientCompletion ..).symm
              · exact congrArg some (appCredentialManager_presentURL ..).symm
      | _ => cases h
  | sendVerificationCode a appCredential reCAPTCHAToken =>
      cases reply with
      | verificationCode result =>
          obtain rfl := Option.some.inj h
          cases result with
          | ok verificationID => rfl
          | error error =>
              simp only [replyEvents, sendVerificationCodeReply]
              by_cases hcode : error.code = .invalidAppCredential
              · by_cases hretry : a.retryOnInvalidAppCredential = true
                · rw [if_pos hcode, if_pos hretry, if_pos ⟨hcode, hretry⟩]
                  refine congrArg some (Eq.symm ?_)
                  exact appCredentialManager_verifyClientAndSendVerificationCode ..
                · rw [if_pos hcode, if_neg hretry, if_neg fun h => hretry h.2]
                  rfl
              · rw [if_neg hcode, if_neg fun h => hcode h.1]
                rfl
      | _ => cases h
  | sendVerificationCodeForTesting a =>
      cases reply with
      | verificationCode result =>
          obtain rfl := Option.some.inj h
          cases result <;> rfl
      | _ => cases h

/-- The operations of a notification on the manager. -/
def notificationEvents : Option AuthNotification → List (AppCredentialManager.Event Attempt)
  | some (.credential receipt secret) => [.canFinishVerification receipt secret]
  | _ => []

omit [NSURL URL] [Foundation] in
theorem run_notificationEvents (s : PhoneAuthProvider URL)
    (notification : Option AuthNotification) :
    run AppCredentialManager.step s.appCredentialManager (notificationEvents notification) =
      some (s.canHandleNotification notification).2.appCredentialManager := by
  cases notification with
  | none => rfl
  | some notification =>
      cases notification with
      | prober =>
          refine congrArg some (Eq.symm ?_)
          rw [canHandleNotification]
          split
          · rfl
          · exact appCredentialManager_forwardingCallbacks ..
      | credential receipt secret =>
          refine congrArg some (Eq.symm ?_)
          rw [canHandleNotification, AppCredentialManager.next]
          cases s.appCredentialManager.canFinishVerification receipt secret with
          | none => rfl
          | some called => exact appCredentialManager_credentialCallbacks ..

/-- The operations of an event on the manager. -/
def credentialEvents (s : PhoneAuthProvider URL) :
    Event URL → List (AppCredentialManager.Event Attempt)
  | .backendReply serial reply =>
      ((s.requests.find? serial).map fun request => replyEvents request reply).getD []
  | .notification userInfo => notificationEvents (authNotification? userInfo)
  | .timer (.verification receipt) => [.timeout receipt]
  | _ => []

/-- A step of the client is a history of its manager. -/
theorem run_credentialEvents {s t : PhoneAuthProvider URL} {e : Event URL}
    (h : s.step e = some t) :
    run AppCredentialManager.step s.appCredentialManager (s.credentialEvents e) =
      some t.appCredentialManager := by
  unfold step at h
  split at h
  · cases h
  · cases e with
    | verifyPhoneNumber phoneNumber =>
        obtain rfl := Option.some.inj h
        exact congrArg some (appCredentialManager_verifyPhoneNumber ..).symm
    | backendReply serial reply =>
        obtain ⟨⟨request, requests⟩, hanswer, hreply⟩ := Option.bind_eq_some_iff.mp h
        rw [credentialEvents, (Calls.answer_some hanswer).1]
        exact run_replyEvents (s := { s with requests }) hreply
    | setAPNSToken token =>
        obtain rfl := Option.some.inj h
        exact congrArg some (appCredentialManager_getTokenCallbacks ..).symm
    | didFailToRegister =>
        obtain rfl := Option.some.inj h
        exact congrArg some (appCredentialManager_getTokenCallbacks ..).symm
    | notification userInfo =>
        obtain rfl := Option.some.inj h
        rw [credentialEvents]
        exact run_notificationEvents ..
    | timer timer =>
        simp only at h
        split at h
        · obtain rfl := Option.some.inj h
          cases timer with
          | verification receipt =>
              refine congrArg some (Eq.symm ?_)
              exact appCredentialManager_credentialCallbacks ..
          | probing =>
              refine congrArg some (Eq.symm ?_)
              exact appCredentialManager_forwardingCallbacks ..
          | registration array =>
              refine congrArg some (Eq.symm ?_)
              exact appCredentialManager_getTokenCallbacks ..
        · cases h
    | openURL url =>
        obtain rfl := Option.some.inj h
        refine congrArg some (Eq.symm ?_)
        exact appCredentialManager_canHandleURL
    | safariViewControllerDidFinish controller =>
        obtain rfl := Option.some.inj h
        refine congrArg some (Eq.symm ?_)
        exact appCredentialManager_safariViewControllerDidFinish
    | dismissed =>
        simp only at h
        split at h
        · cases h
        · obtain rfl := Option.some.inj h
          refine congrArg some (Eq.symm ?_)
          exact appCredentialManager_ended fun t => appCredentialManager_runFinishBlock
    | runMainQueue =>
        simp only at h
        split at h
        · cases h
        · rename_i block rest hqueue
          obtain rfl := Option.some.inj h
          refine congrArg some (Eq.symm ?_)
          cases block with
          | webContextAlreadyPresented a => exact appCredentialManager_verifyClientCompletion ..
          | _ => rfl

-- ============================================================================
-- Lifetimes
-- ============================================================================

/-- What happens to the client of an installed app. -/
inductive LifetimeEvent (URL : Type)
  | client (e : Event URL)
  | keychain (available : Bool)
  | relaunch

def lifetimeStep (s : PhoneAuthProvider URL) :
    LifetimeEvent URL → Option (PhoneAuthProvider URL)
  | .client e => s.step e
  | .keychain available =>
      some
        { s with
          appCredentialManager := { s.appCredentialManager with keychainAvailable := available } }
  | .relaunch =>
      some (launched s.config s.appCredentialManager.saved s.appCredentialManager.keychainAvailable)

/-- The operations on the manager. -/
def lifetimeEvents (s : PhoneAuthProvider URL) :
    LifetimeEvent URL → List (AppCredentialManager.Event Attempt)
  | .client e => s.credentialEvents e
  | .keychain available => [.keychain available]
  | .relaunch => [.relaunch]

theorem run_lifetimeEvents {s t : PhoneAuthProvider URL} {e : LifetimeEvent URL}
    (h : s.lifetimeStep e = some t) :
    run AppCredentialManager.step s.appCredentialManager (s.lifetimeEvents e) =
      some t.appCredentialManager := by
  cases e with
  | client e => exact run_credentialEvents h
  | keychain available =>
      obtain rfl := Option.some.inj h
      rfl
  | relaunch =>
      obtain rfl := Option.some.inj h
      rfl

variable {config : Configuration}

/-- **At most 32 distinct receipts.**  In every lifetime of a fresh install the
    client holds at most 32 receipts, all different, and so does its keychain
    item. -/
theorem run_receipts {es : List (LifetimeEvent URL)} {s : PhoneAuthProvider URL}
    (h : run lifetimeStep (launched config none true) es = some s) :
    s.appCredentialManager.WellFormed := by
  obtain ⟨ds, hds⟩ := run_simulated (fun s e t _ ht => ⟨s.lifetimeEvents e, run_lifetimeEvents ht⟩)
    es _ s (along_true lifetimeStep _ es) h
  exact AppCredentialManager.run_wellFormed ds s.appCredentialManager hds

-- ============================================================================
-- Redemptions
-- ============================================================================

/-- The keychain answers when a notification is handled. -/
def Recording (s : PhoneAuthProvider URL) : LifetimeEvent URL → Prop
  | .client (.notification userInfo) =>
      ∀ r secret, authNotification? userInfo = some (.credential r secret) →
        r ∈ s.appCredentialManager.pendingReceipts → s.appCredentialManager.keychainAvailable = true
  | _ => True

end Page

/-- The notification under the key of the client. -/
def authUserInfo (data : JSONObject) (key : String) : Option JSONObject :=
  if key = "com.google.firebase.auth" then some data else none

def proberUserInfo : String → Option JSONObject :=
  authUserInfo (.dictionary {"warning"} fun _ => .string "prober")

def credentialUserInfo : String → Option JSONObject :=
  authUserInfo (.dictionary {"receipt", "secret"} fun key =>
    if key.1 = "receipt" then .string "receipt-1" else .string "secret-1")

/-- A notification is delivered again after a relaunch. -/
def deliveredAgain : List (LifetimeEvent Unit) :=
  [.client (.verifyPhoneNumber "+15550001"), .client (.notification proberUserInfo),
   .client (.setAPNSToken ⟨[], .prod⟩), .client (.backendReply 0 (.verifyClient (.ok "receipt-1"))),
   .client (.notification credentialUserInfo), .relaunch,
   .client (.notification credentialUserInfo)]

theorem run_receipts_deliveredAgain :
    ∃ s, run lifetimeStep (launched emulatorConfiguration none true) deliveredAgain = some s ∧
      s.appCredentialManager.WellFormed := by
  have h : run lifetimeStep (launched emulatorConfiguration none true) deliveredAgain = some _ := rfl
  exact ⟨_, h, run_receipts h⟩

end PhoneAuthProvider

end Spark.Firebase
