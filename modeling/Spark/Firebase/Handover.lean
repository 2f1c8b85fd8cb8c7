/-
  Spark.Firebase.Handover

  What one step does with the calls of `verifyPhoneNumber` (`step_moves`): it
  takes some of them out of the state and runs blocks that put them at later
  places.

  A step can drop a call in two ways only (`dropped`): a verification is started
  with a receipt for which one is under way, or the page returns neither a token
  nor an error.  It can end the process in two ways only (`FromPage`): the
  callback URL is opened before the page is on screen, or it cannot be read
  without an exception.
-/

import Spark.Firebase.Places

namespace Spark.Firebase

open Spark.Lib

namespace PhoneAuthProvider

variable {URL : Type} {P : Prop}

-- ============================================================================
-- Steps
-- ============================================================================

/-- The calls for some numbers, the first with serial number `n`. -/
def issuedCalls (n : Nat) (phoneNumbers : List String) : Multiset VerifyCall :=
  (phoneNumbers.zipIdx n : Multiset (String × Nat)).map fun p => ⟨p.2, p.1⟩

/-- The call whose verification is under way with a receipt. -/
def underWay (s : PhoneAuthProvider URL) (receipt : String) : Multiset Place :=
  (s.appCredentialManager.callbacksByReceipt.lookup receipt).elim 0 fun a => {.receipt a}

/-- The callback of a receipt is taken out of the table. -/
theorem entries_of_lookup {κ : Type} {m : Finmap fun _ : String => κ} {receipt : String}
    {callback : κ} (h : m.lookup receipt = some callback) :
    m.entries = {⟨receipt, callback⟩} + (m.erase receipt).entries := by
  have hm : m = (m.erase receipt).insert receipt callback := by
    apply Finmap.ext_lookup
    intro key
    by_cases hkey : key = receipt
    · rw [hkey, h, Finmap.lookup_insert]
    · rw [Finmap.lookup_insert_of_ne _ hkey, Finmap.lookup_erase_ne hkey]
  have hfresh : receipt ∉ m.erase receipt := Finmap.notMem_erase_self
  conv_lhs => rw [hm]
  exact Finmap.entries_insert_of_notMem hfresh

theorem entries_insert {κ : Type} (m : Finmap fun _ : String => κ) (receipt : String)
    (callback : κ) :
    (m.insert receipt callback).entries = {⟨receipt, callback⟩} + (m.erase receipt).entries := by
  have herase : (m.insert receipt callback).erase receipt = m.erase receipt := by
    apply Finmap.ext_lookup
    intro key
    by_cases hkey : key = receipt
    · rw [hkey, Finmap.lookup_erase, Finmap.lookup_erase]
    · rw [Finmap.lookup_erase_ne hkey, Finmap.lookup_erase_ne hkey,
        Finmap.lookup_insert_of_ne _ hkey]
  rw [entries_of_lookup (Finmap.lookup_insert m), herase]

theorem entries_eq_underWay (s : PhoneAuthProvider URL) (receipt : String) :
    s.appCredentialManager.callbacksByReceipt.entries.map (fun e => Place.receipt e.2) =
      s.underWay receipt +
        (s.appCredentialManager.callbacksByReceipt.erase receipt).entries.map
          fun e => Place.receipt e.2 := by
  rw [underWay]
  cases h : s.appCredentialManager.callbacksByReceipt.lookup receipt with
  | some a => rw [entries_of_lookup h, Multiset.map_add, Multiset.map_singleton, Option.elim_some]
  | none =>
      have herase : s.appCredentialManager.callbacksByReceipt.erase receipt =
          s.appCredentialManager.callbacksByReceipt := by
        apply Finmap.ext_lookup
        intro key
        by_cases hkey : key = receipt
        · rw [hkey, Finmap.lookup_erase, h]
        · exact Finmap.lookup_erase_ne hkey
      rw [herase, Option.elim_none, zero_add]

variable [NSURL URL] [Foundation]

/-- A step from `s` to `t` that makes calls for the numbers `made`, calls the
    completions `called`, takes out the calls at `taken`, and drops those at
    `lost`; it does not trap when `P` holds. -/
structure Steps (P : Prop) (s t : PhoneAuthProvider URL) (made : List String)
    (called : List Completion) (taken lost : Multiset Place) : Prop where
  moves : (custody P).Moves Place.Onward s t ((issuedCalls s.calls.length made).map .issued)
    taken lost
  sound : t.Sound P
  calls : t.calls = s.calls ++ made
  completions : t.completions = s.completions ++ called
  config : t.config = s.config
  live : P → t.trapped = s.trapped

/-- The rule for a step that makes no call: calls are taken out of the state,
    and what is left is given them. -/
theorem Steps.intro {s r t : PhoneAuthProvider URL} {taken movers lost put : Multiset Place}
    (htaken : taken = movers + lost) (hplaces : s.places = taken + r.places)
    (hsends : r.sends = s.sends)
    (hframe : (custody P).frame r = (custody P).frame s) (hput : (custody P).Puts r t put)
    (hrel : Multiset.Rel Place.Onward movers put) : s.Steps P t [] [] taken lost := by
  have hsame : (t.calls, t.completions, t.config, t.trapped) =
      (s.calls, s.completions, s.config, s.trapped) := hput.frame.trans hframe
  simp only [Prod.mk.injEq] at hsame
  obtain ⟨hcalls, hcompletions, hconfig, htrapped⟩ := hsame
  subst htaken
  refine ⟨hput.moves hplaces hsends ?_, hput.sound, ?_, ?_, hconfig, fun _ => htrapped⟩
  · change Multiset.Rel Place.Onward (0 + movers) put
    rw [zero_add]
    exact hrel
  · rw [List.append_nil]
    exact hcalls
  · rw [List.append_nil]
    exact hcompletions

/-- A step that moves no call. -/
theorem steps_of_eq {s t : PhoneAuthProvider URL} (hs : s.Sound P)
    (hplaces : t.places = s.places) (hsends : t.sends = s.sends)
    (hpresenting : t.authURLPresenter.isPresenting = s.authURLPresenter.isPresenting)
    (hframe : (custody P).frame t = (custody P).frame s) (hsteady : t.Steady P) :
    s.Steps P t [] [] 0 0 := by
  have ht : t.Sound P := hs.of_le (le_of_eq hplaces) hpresenting hsteady
  have htaken : s.places = 0 + t.places := by
    rw [zero_add, hplaces]
  exact Steps.intro (zero_add 0).symm htaken hsends hframe (.refl ht) .zero

/-- A step that takes one call out of the state and runs a block with it. -/
theorem steps_of_sets {s r t : PhoneAuthProvider URL} {p : Place}
    (hplaces : s.places = {p} + r.places) (hsends : r.sends = s.sends)
    (hframe : (custody P).frame r = (custody P).frame s) (h : r.Sets P t p.call p.rank) :
    s.Steps P t [] [] {p} 0 := by
  obtain ⟨q, hq, hput⟩ := h
  have honward : Place.Onward p q := hq
  exact Steps.intro (add_zero {p}).symm hplaces hsends hframe hput (.cons honward .zero)

/-- A step that takes the calls of a list out of the state and runs a block with
    each. -/
theorem steps_of_foldl {κ : Type} {s r : PhoneAuthProvider URL}
    {f : PhoneAuthProvider URL → κ → PhoneAuthProvider URL} {source : κ → Place} {ks : List κ}
    (hr : r.Sound P) (hplaces : s.places = (ks : Multiset κ).map source + r.places)
    (hsends : r.sends = s.sends) (hframe : (custody P).frame r = (custody P).frame s)
    (hf : ∀ (s : PhoneAuthProvider URL) (k : κ), s.Sound P →
      s.Sets P (f s k) (source k).call (source k).rank) :
    s.Steps P (ks.foldl f r) [] [] ((ks : Multiset κ).map source) 0 := by
  obtain ⟨put, hrel, hput⟩ := Custody.Puts.foldl (c := custody P) hf ks hr
  exact Steps.intro (add_zero _).symm hplaces hsends hframe hput (Multiset.rel_map_left.mpr hrel)

theorem steps_verifyPhoneNumber {s : PhoneAuthProvider URL} (hs : s.Sound P)
    (phoneNumber : String) : s.Steps P (s.verifyPhoneNumber phoneNumber) [phoneNumber] [] 0 0 := by
  let r : PhoneAuthProvider URL := { s with calls := s.calls ++ [phoneNumber] }
  have hr : r.Sound P := ⟨⟨hs.numbered, hs.armed, hs.paged⟩, hs.presentsOne⟩
  obtain ⟨q, hq, hput⟩ := sets_internalVerifyPhoneNumber hr ⟨s.calls.length, phoneNumber⟩
  have honward : Place.Onward (.issued ⟨s.calls.length, phoneNumber⟩) q := hq
  have htaken : (custody P).places s = 0 + 0 + (custody P).places r := by
    rw [zero_add, zero_add]
    rfl
  have hrel : Multiset.Rel Place.Onward
      ((issuedCalls s.calls.length [phoneNumber]).map .issued + 0) {q} := .cons honward .zero
  let t := s.verifyPhoneNumber phoneNumber
  have hsame : (t.calls, t.completions, t.config, t.trapped) =
      (r.calls, r.completions, r.config, r.trapped) := hput.frame
  simp only [Prod.mk.injEq] at hsame
  obtain ⟨hcalls, hcompletions, hconfig, htrapped⟩ := hsame
  exact ⟨hput.moves htaken rfl hrel, hput.sound, hcalls,
    hcompletions.trans (List.append_nil _).symm, hconfig, fun _ => htrapped⟩

theorem steps_getTokenCallbacks {s : PhoneAuthProvider URL} (hs : s.Sound P)
    (token : Option APNSToken) {m : APNSTokenManager Attempt} (hm : m.pendingCallbacks = none)
    {timers : List Timer}
    (htimers : ∀ t ∈ s.timers, (∀ array, t ≠ .registration array) → t ∈ timers) :
    s.Steps P ({ s with timers }.getTokenCallbacks token (s.tokenManager.waiting, m)) [] []
      ((s.tokenManager.waiting : Multiset Attempt).map .apnsToken) 0 := by
  let r : PhoneAuthProvider URL := { s with timers, tokenManager := m }
  have hplaces : s.places =
      (s.tokenManager.waiting : Multiset Attempt).map Place.apnsToken + r.places := by
    simp only [r, places, APNSTokenManager.waiting, hm, Option.map_none, Option.getD_none,
      Multiset.coe_nil, Multiset.map_zero, add_zero]
    ac_rfl
  have harmed : Armed r.timers r.notificationManager r.tokenManager
      r.appCredentialManager.callbacksByReceipt := by
    refine hs.armed.called_token ?_ htimers
    intro array callbacks hpending
    exact absurd (hm.symm.trans hpending) (Option.some_ne_none _).symm
  have hr : r.Sound P :=
    hs.of_le (Multiset.le_iff_exists_add.mpr ⟨_, hplaces.trans (add_comm _ _)⟩) rfl
      ⟨hs.numbered, harmed, hs.paged⟩
  exact steps_of_foldl hr hplaces rfl rfl fun s a hs => sets_getTokenCallback hs token a

theorem steps_forwardingCallbacks {s : PhoneAuthProvider URL} (hs : s.Sound P)
    {m : NotificationManager VerifyCall} (hm : m.pendingCallbacks = none) {timers : List Timer}
    (htimers : ∀ t ∈ s.timers, t ≠ .probing → t ∈ timers) :
    s.Steps P ({ s with timers }.forwardingCallbacks (s.notificationManager.waiting, m)) [] []
      ((s.notificationManager.waiting : Multiset VerifyCall).map .forwarding) 0 := by
  let r : PhoneAuthProvider URL := { s with timers, notificationManager := m }
  have hplaces : s.places =
      (s.notificationManager.waiting : Multiset VerifyCall).map Place.forwarding + r.places := by
    simp only [r, places, NotificationManager.waiting, hm, Option.getD_none, Multiset.coe_nil,
      Multiset.map_zero, zero_add]
    ac_rfl
  have hr : r.Sound P :=
    hs.of_le (Multiset.le_iff_exists_add.mpr ⟨_, hplaces.trans (add_comm _ _)⟩) rfl
      ⟨hs.numbered, hs.armed.called_check hm htimers, hs.paged⟩
  exact steps_of_foldl hr hplaces rfl rfl fun s call hs => sets_forwardingCallback hs _ call

theorem steps_credentialCallbacks {s : PhoneAuthProvider URL} (hs : s.Sound P)
    {m : AppCredentialManager Attempt} {receipt : String}
    (hm : m.callbacksByReceipt = s.appCredentialManager.callbacksByReceipt) {timers : List Timer}
    (htimers : ∀ t ∈ s.timers, t ≠ .verification receipt → t ∈ timers) :
    s.Steps P ({ s with timers }.credentialCallbacks (m.callBackWithReceipt receipt)) [] []
      (s.underWay receipt) 0 := by
  rw [AppCredentialManager.callBackWithReceipt, underWay, ← hm]
  cases hlookup : m.callbacksByReceipt.lookup receipt with
  | none =>
      have harmed : Armed timers s.notificationManager s.tokenManager m.callbacksByReceipt := by
        refine hs.armed.called_receipt ?_ htimers
        intro r hr
        refine ⟨hm ▸ hr, ?_⟩
        rintro rfl
        exact Finmap.lookup_eq_none.mp hlookup hr
      refine steps_of_eq hs ?_ rfl rfl rfl ⟨hs.numbered, harmed, hs.paged⟩
      simp only [credentialCallbacks, places, hm]
  | some a =>
      let r : PhoneAuthProvider URL :=
        { s with
          timers
          appCredentialManager :=
            { m with callbacksByReceipt := m.callbacksByReceipt.erase receipt } }
      have hplaces : s.places = {.receipt a} + r.places := by
        simp only [r, places, ← hm, entries_of_lookup hlookup, Multiset.map_add,
          Multiset.map_singleton]
        ac_rfl
      have harmed : Armed r.timers r.notificationManager r.tokenManager
          r.appCredentialManager.callbacksByReceipt := by
        refine hs.armed.called_receipt ?_ htimers
        intro key hkey
        obtain ⟨hne, hmem⟩ := Finmap.mem_erase.mp hkey
        exact ⟨hm ▸ hmem, hne⟩
      have hr : r.Sound P :=
        hs.of_le (Multiset.le_iff_exists_add.mpr ⟨_, hplaces.trans (add_comm _ _)⟩) rfl
          ⟨hs.numbered, harmed, hs.paged⟩
      exact steps_of_sets hplaces rfl rfl (sets_credentialCallback hr a _)

theorem steps_canHandleNotification {s : PhoneAuthProvider URL} (hs : s.Sound P)
    (notification : Option AuthNotification) :
    ∃ taken, s.Steps P (s.canHandleNotification notification).2 [] [] taken 0 := by
  have hsame : ∃ taken, s.Steps P s [] [] taken 0 :=
    ⟨0, steps_of_eq hs rfl rfl rfl rfl hs.toSteady⟩
  cases notification with
  | none => exact hsame
  | some notification =>
      cases notification with
      | prober =>
          rw [canHandleNotification, NotificationManager.canHandleProber]
          split
          · exact hsame
          · rename_i called hsome
            split at hsome
            · obtain rfl := Option.some.inj hsome
              exact ⟨_, steps_forwardingCallbacks hs rfl fun t ht _ => ht⟩
            · cases hsome
      | credential receipt secret =>
          rw [canHandleNotification, AppCredentialManager.canFinishVerification]
          split
          · exact hsame
          · rename_i called hsome
            split at hsome
            · obtain rfl := Option.some.inj hsome
              refine ⟨_, steps_credentialCallbacks hs ?_ fun t ht _ => ht⟩
              exact AppCredentialManager.callbacksByReceipt_saveData _
            · cases hsome

/-- The calls whose wait a timer ends. -/
def endedBy (s : PhoneAuthProvider URL) : Timer → Multiset Place
  | .probing => (s.notificationManager.waiting : Multiset VerifyCall).map .forwarding
  | .registration array =>
      if s.tokenManager.pendingCallbacks.map Prod.fst = some array then
        (s.tokenManager.waiting : Multiset Attempt).map .apnsToken
      else 0
  | .verification receipt => s.underWay receipt

/-- A timer fires; what it ends the wait of needs it no longer. -/
theorem steps_fire {s : PhoneAuthProvider URL} (hs : s.Sound P) (t : Timer) :
    s.Steps P ({ s with timers := s.timers.erase t }.fire t) [] [] (s.endedBy t) 0 := by
  have herase : ∀ t' ∈ s.timers, t' ≠ t → t' ∈ s.timers.erase t :=
    fun t' hmem hne => (List.mem_erase_of_ne hne).mpr hmem
  cases t with
  | probing => exact steps_forwardingCallbacks hs rfl herase
  | verification receipt => exact steps_credentialCallbacks hs rfl herase
  | registration array =>
      have htimers : ∀ t ∈ s.timers, (∀ array, t ≠ .registration array) →
          t ∈ s.timers.erase (.registration array) :=
        fun t hmem hne => herase t hmem (hne array)
      rw [fire, APNSTokenManager.timeout, endedBy]
      split
      · exact steps_getTokenCallbacks hs none rfl htimers
      · -- the array that waits is not the one the timer was armed for
        rename_i hother
        have harmed : Armed (s.timers.erase (.registration array)) s.notificationManager
            s.tokenManager s.appCredentialManager.callbacksByReceipt := by
          refine hs.armed.called_token ?_ htimers
          intro array' callbacks hpending
          refine ⟨hpending, herase _ (hs.armed.registration array' callbacks hpending) ?_⟩
          rintro ⟨⟩
          exact hother (by simp [hpending])
        exact steps_of_eq hs rfl rfl rfl rfl ⟨hs.numbered, harmed, hs.paged⟩

-- ============================================================================
-- Replies
-- ============================================================================

/-- A verification is started for a call taken out of the state. -/
theorem steps_didStartVerification {s r : PhoneAuthProvider URL} {a : Attempt}
    (hplaces : s.places = {.verifyClient a} + r.places) (hsends : r.sends = s.sends)
    (hframe : (custody P).frame r = (custody P).frame s) (hr : r.Sound P) (receipt : String) :
    s.Steps P (r.verifyClientReply a (.ok receipt)) [] []
      ({.verifyClient a} + r.underWay receipt) (r.underWay receipt) := by
  let r' : PhoneAuthProvider URL :=
    { r with
      appCredentialManager :=
        { r.appCredentialManager with
          callbacksByReceipt := r.appCredentialManager.callbacksByReceipt.erase receipt } }
  have hover : r.places = r.underWay receipt + r'.places := by
    simp only [r', places, entries_eq_underWay r receipt]
    ac_rfl
  have hr' : r'.Sound P := by
    refine hr.of_le (Multiset.le_iff_exists_add.mpr ⟨_, hover.trans (add_comm _ _)⟩) rfl
      ⟨hr.numbered, ?_, hr.paged⟩
    have hmem : ∀ key ∈ r'.appCredentialManager.callbacksByReceipt,
        key ∈ r.appCredentialManager.callbacksByReceipt ∧ key ≠ receipt :=
      fun key hkey => (Finmap.mem_erase.mp hkey).symm
    exact hr.armed.called_receipt hmem fun t ht _ => ht
  have harmed : Armed (r.timers ++ [.verification receipt]) r.notificationManager r.tokenManager
      (r.appCredentialManager.didStartVerification receipt a).callbacksByReceipt := by
    rw [AppCredentialManager.didStartVerification,
      AppCredentialManager.callbacksByReceipt_saveData]
    exact hr.armed.insert receipt a
  have hput : (custody P).Puts r' (r.verifyClientReply a (.ok receipt)) {.receipt a} := by
    refine puts_of_places hr' ?_ (zero_add _).symm rfl rfl rfl ⟨hr.numbered, harmed, hr.paged⟩
    simp only [r', verifyClientReply, dispatchAfter, places,
      AppCredentialManager.didStartVerification,
      AppCredentialManager.callbacksByReceipt_saveData, entries_insert, Multiset.map_add,
      Multiset.map_singleton]
    ac_rfl
  have honward : Place.Onward (.verifyClient a) (.receipt a) := by
    refine ⟨rfl, ?_⟩
    simp only [Place.rank]
    omega
  refine Steps.intro (r := r') rfl ?_ hsends hframe hput (.cons honward .zero)
  rw [hplaces, hover, add_assoc]

theorem sets_sendVerificationCodeReply {s : PhoneAuthProvider URL} (hs : s.Sound P) (a : Attempt)
    (result : Except AuthError (Option String)) :
    s.Sets P (s.sendVerificationCodeReply a result) a.call (2 + a.base) := by
  have hcallBack : ∀ verificationID error,
      s.Sets P (s.callBackOnMainThread a.call verificationID error) a.call (2 + a.base) :=
    fun verificationID error => (sets_callBackOnMainThread hs a.call verificationID error).mono
      (Nat.le_add_right 2 _)
  cases result with
  | ok verificationID => exact hcallBack verificationID none
  | error error =>
      rw [sendVerificationCodeReply]
      split
      · split
        · rename_i hretry
          -- the second attempt starts behind the request of the first
          let r : PhoneAuthProvider URL :=
            { s with appCredentialManager := s.appCredentialManager.clearCredential }
          have hplaces : r.places = s.places := by
            simp only [r, places, AppCredentialManager.clearCredential,
              AppCredentialManager.callbacksByReceipt_saveData]
          have harmed : Armed r.timers r.notificationManager r.tokenManager
              r.appCredentialManager.callbacksByReceipt := by
            simp only [r, AppCredentialManager.clearCredential,
              AppCredentialManager.callbacksByReceipt_saveData]
            exact hs.armed
          have hr : r.Sound P :=
            hs.of_le (le_of_eq hplaces) rfl ⟨hs.numbered, harmed, hs.paged⟩
          have hattempt := sets_verifyClientAndSendVerificationCode hr
            { a with retryOnInvalidAppCredential := false }
          refine (hattempt.of_eq hplaces rfl rfl).mono ?_
          simp [Attempt.base, hretry]
        · exact hcallBack _ _
      · exact hcallBack _ _

/-- What a reply drops. -/
def droppedByReply (s : PhoneAuthProvider URL) : BackendReply → Multiset Place
  | .verifyClient (.ok receipt) => s.underWay receipt
  | _ => 0

theorem sets_verifyClientReply_error {s : PhoneAuthProvider URL} (hs : s.Sound P) (a : Attempt)
    (error : AuthError) : s.Sets P (s.verifyClientReply a (.error error)) a.call (8 + a.base) := by
  rw [verifyClientReply]
  split
  · exact (sets_reCAPTCHAFlow hs a).mono (by omega)
  · exact (sets_verifyClientCompletion_error hs a error).mono (by omega)

theorem sets_projectConfigReply {s : PhoneAuthProvider URL} (hs : s.Sound P) (a : Attempt)
    (eventID : String) (result : Except AuthError (List String)) :
    s.Sets P (s.projectConfigReply a eventID result) a.call (6 + a.base) := by
  have hfails : ∀ error, s.Sets P (s.verifyClientCompletion a none none (some error)) a.call
      (6 + a.base) :=
    fun error => (sets_verifyClientCompletion_error hs a error).mono (by omega)
  cases result with
  | error error => exact hfails error
  | ok authorizedDomains =>
      rw [projectConfigReply]
      cases authDomain? authorizedDomains with
      | none => exact hfails _
      | some authDomain => exact sets_presentURL hs _ a

theorem sets_sendVerificationCodeForTestingReply {s : PhoneAuthProvider URL} (hs : s.Sound P)
    (a : Attempt) (result : Except AuthError (Option String)) :
    s.Sets P (s.sendVerificationCodeForTestingReply a result) a.call (2 + a.base) := by
  cases result with
  | error error =>
      exact (sets_callBackOnMainThread hs a.call none (some error)).mono (Nat.le_add_right 2 _)
  | ok verificationID =>
      exact (sets_callBackOnMainThread hs a.call verificationID none).mono (Nat.le_add_right 2 _)

theorem steps_backendReply {s r t : PhoneAuthProvider URL} {request : BackendRequest}
    {reply : BackendReply} (hplaces : s.places = {request.place} + r.places)
    (hsends : r.sends = s.sends) (hframe : (custody P).frame r = (custody P).frame s)
    (hr : r.Sound P) (h : r.backendReply request reply = some t) :
    s.Steps P t [] [] ({request.place} + r.droppedByReply reply) (r.droppedByReply reply) := by
  cases request with
  | verifyClient a appToken isSandbox =>
      cases reply with
      | verifyClient result =>
          obtain rfl := Option.some.inj h
          cases result with
          | ok receipt => exact steps_didStartVerification hplaces hsends hframe hr receipt
          | error error =>
              exact steps_of_sets hplaces hsends hframe (sets_verifyClientReply_error hr a error)
      | _ => cases h
  | getProjectConfig a eventID =>
      cases reply with
      | projectConfig result =>
          obtain rfl := Option.some.inj h
          exact steps_of_sets hplaces hsends hframe (sets_projectConfigReply hr a eventID result)
      | _ => cases h
  | sendVerificationCode a appCredential reCAPTCHAToken =>
      cases reply with
      | verificationCode result =>
          obtain rfl := Option.some.inj h
          exact steps_of_sets hplaces hsends hframe (sets_sendVerificationCodeReply hr a result)
      | _ => cases h
  | sendVerificationCodeForTesting a =>
      cases reply with
      | verificationCode result =>
          obtain rfl := Option.some.inj h
          exact steps_of_sets hplaces hsends hframe
            (sets_sendVerificationCodeForTestingReply hr a result)
      | _ => cases h

/-- The request that is answered is taken out. -/
theorem steps_answer {s t : PhoneAuthProvider URL} (hs : s.Sound P) {serial : Nat}
    {request : BackendRequest} {requests : Calls BackendRequest} {reply : BackendReply}
    (hanswer : s.requests.answer serial = some (request, requests))
    (h : { s with requests }.backendReply request reply = some t) :
    s.Steps P t [] [] ({request.place} + s.droppedByReply reply) (s.droppedByReply reply) := by
  obtain ⟨hperm, hnumbered⟩ := hs.numbered.answer hanswer
  let r : PhoneAuthProvider URL := { s with requests }
  have hanswered :
      (s.requests.outstanding : Multiset (Nat × BackendRequest)).map (fun r => r.2.place) =
        {request.place} +
          (requests.outstanding : Multiset (Nat × BackendRequest)).map fun r => r.2.place := by
    rw [Multiset.coe_eq_coe.mpr hperm, ← Multiset.cons_coe, Multiset.map_cons]
    rfl
  have hplaces : s.places = {request.place} + r.places := by
    simp only [r, places, hanswered]
    ac_rfl
  have hr : r.Sound P :=
    hs.of_le (Multiset.le_iff_exists_add.mpr ⟨_, hplaces.trans (add_comm _ _)⟩) rfl
      ⟨hnumbered, hs.armed, hs.paged⟩
  exact steps_backendReply (r := r) hplaces rfl rfl hr h

-- ============================================================================
-- The page
-- ============================================================================

namespace Paged

variable {presenter : URLPresenter} {mainQueue : List (MainBlock URL)}
  {dismissals : List (FinishBlock URL)}

/-- The page on screen is that of the presentation that waits, and the only one. -/
theorem on_screen (h : Paged presenter mainQueue dismissals)
    (hsafari : presenter.safariViewController.isSome) :
    presenter.completion.isSome ∧ mainQueue.countP MainBlock.presents = 0 := by
  have hpage := h.page
  rw [hsafari, Bool.toNat_true] at hpage
  have hle := Bool.toNat_le presenter.completion.isSome
  refine ⟨?_, by omega⟩
  by_contra hnone
  rw [Bool.not_eq_true] at hnone
  rw [hnone, Bool.toNat_false] at hpage
  omega

/-- The presentation with its page on screen is over. -/
theorem close (h : Paged presenter mainQueue dismissals)
    (hsafari : presenter.safariViewController.isSome) :
    Paged
      { presenter with callbackMatcher := none, completion := none, safariViewController := none }
      mainQueue dismissals := by
  refine ⟨?_, h.queued, h.dismissing⟩
  rw [(h.on_screen hsafari).2]
  rfl

/-- It is over once the page has disappeared. -/
theorem dismiss (h : Paged presenter mainQueue dismissals)
    (hsafari : presenter.safariViewController.isSome) {result : Except AuthError URL}
    (hresult : ReadableResult result) :
    Paged
      { presenter with callbackMatcher := none, completion := none, safariViewController := none }
      (mainQueue ++ [.dismissViewController ⟨presenter.completion, result⟩]) dismissals := by
  refine ⟨?_, ?_, h.dismissing⟩
  · rw [List.countP_append, (h.on_screen hsafari).2]
    rfl
  · intro finish hfinish
    rcases List.mem_append.mp hfinish with hfinish | hfinish
    · exact h.queued finish hfinish
    · obtain rfl := MainBlock.dismissViewController.inj (List.mem_singleton.mp hfinish)
      exact ⟨(h.on_screen hsafari).1, hresult⟩

/-- A block that does not show the page leaves the main queue. -/
theorem of_cons {block : MainBlock URL} (h : Paged presenter (block :: mainQueue) dismissals)
    (hblock : block.presents = false) : Paged presenter mainQueue dismissals := by
  refine ⟨?_, fun finish hfinish => h.queued finish (List.mem_cons_of_mem _ hfinish),
    h.dismissing⟩
  have hpage := h.page
  rw [List.countP_cons_of_neg (by simp [hblock])] at hpage
  exact hpage

/-- The page comes on screen. -/
theorem shown {url : ReCAPTCHAURL}
    (h : Paged presenter (.presentSafariViewController url :: mainQueue) dismissals)
    (controller created : Nat) :
    Paged { presenter with safariViewController := some controller, created } mainQueue
      dismissals := by
  refine ⟨?_, fun finish hfinish => h.queued finish (List.mem_cons_of_mem _ hfinish),
    h.dismissing⟩
  have hpage := h.page
  rw [List.countP_cons_of_pos rfl] at hpage
  have hle := Bool.toNat_le presenter.completion.isSome
  change presenter.completion.isSome.toNat = _ + 1
  omega

/-- A finish block waits for the page to disappear. -/
theorem dismissed {finish : FinishBlock URL}
    (h : Paged presenter (.dismissViewController finish :: mainQueue) dismissals) :
    Paged presenter mainQueue (dismissals ++ [finish]) := by
  have hrest := h.of_cons rfl
  refine ⟨hrest.page, hrest.queued, ?_⟩
  intro finish' hfinish
  rcases List.mem_append.mp hfinish with hfinish | hfinish
  · exact h.dismissing finish' hfinish
  · obtain rfl := List.mem_singleton.mp hfinish
    exact h.queued finish' (List.mem_cons_self ..)

end Paged

/-- The process ends. -/
theorem Steps.trap {s t : PhoneAuthProvider URL} {made : List String} {called : List Completion}
    {taken lost : Multiset Place} (h : s.Steps P t made called taken lost) (hP : ¬P) :
    s.Steps P { t with trapped := true } made called taken lost :=
  ⟨h.moves, ⟨⟨h.sound.numbered, h.sound.armed, h.sound.paged⟩, h.sound.presentsOne⟩, h.calls,
    h.completions, h.config, fun h => absurd h hP⟩

/-- The place of a call that the page returns neither a token nor an error for. -/
def droppedByResult (p : Place) : Except AuthError URL → Multiset Place
  | .error _ => 0
  | .ok url =>
      match reCAPTCHATokenForURL (some url) with
      | .ok (none, none) => {p}
      | _ => 0

/-- A presentation is over for a call taken out of the state. -/
theorem steps_runFinishBlock {s r t : PhoneAuthProvider URL} {p : Place} {a : Attempt}
    (hs : s.Sound P) (hp : p.isPresentation = true) (hcall : p.call = a.call)
    (hrank : 3 + a.base ≤ p.rank) (hplaces : s.places = {p} + r.places)
    (hsends : r.sends = s.sends) (hframe : (custody P).frame r = (custody P).frame s)
    (hr : r.Steady P) {result : Except AuthError URL}
    (h : r.runFinishBlock ⟨some a, result⟩ = .ok t) :
    s.Steps P t [] [] {p} (droppedByResult p result) := by
  let r' : PhoneAuthProvider URL :=
    { r with authURLPresenter := { r.authURLPresenter with isPresenting := false } }
  have hr' : r'.Sound P := by
    have hone := hs.presentsOne
    rw [PresentsOne, hplaces, countP_presentation hp] at hone
    have hle := Bool.toNat_le s.authURLPresenter.isPresenting
    have hnone : r'.places.countP (fun p => p.isPresentation) = 0 := by
      change r.places.countP (fun p => p.isPresentation) = 0
      omega
    refine ⟨⟨hr.numbered, hr.armed, ?_⟩, Nat.le_of_eq hnone⟩
    intro hP
    have hpaged := hr.paged hP
    exact ⟨hpaged.page, hpaged.queued, hpaged.dismissing⟩
  have hsets : ∀ {appCredential reCAPTCHAToken error},
      error ≠ none ∨ appCredential ≠ none ∨ reCAPTCHAToken ≠ none →
      s.Steps P (r'.verifyClientCompletion a appCredential reCAPTCHAToken error) [] [] {p} 0 := by
    intro appCredential reCAPTCHAToken error hsome
    refine steps_of_sets (r := r') hplaces hsends hframe ?_
    rw [hcall]
    exact (sets_verifyClientCompletion hr' a hsome).mono hrank
  have hfails : ∀ error,
      s.Steps P (r'.verifyClientCompletion a none none (some error)) [] [] {p} 0 :=
    fun error => hsets (.inl (Option.some_ne_none _))
  change r'.presentationCompletion a result = .ok t at h
  cases result with
  | error error =>
      obtain rfl := Except.ok.inj h
      exact hfails error
  | ok url =>
      rw [presentationCompletion] at h
      rw [droppedByResult]
      cases hread : reCAPTCHATokenForURL (some url) with
      | error exception =>
          rw [hread] at h
          cases h
      | ok read =>
          obtain ⟨token, error⟩ := read
          rw [hread] at h
          cases token with
          | some token =>
              obtain rfl := Except.ok.inj h
              exact hsets (.inr (.inr (Option.some_ne_none _)))
          | none =>
              obtain rfl := Except.ok.inj h
              cases error with
              | some error => exact hfails error
              | none =>
                  exact Steps.intro (r := r') (zero_add {p}).symm hplaces hsends hframe (.refl hr')
                    .zero

/-- A crash says that the URL cannot be read. -/
theorem runFinishBlock_error {s : PhoneAuthProvider URL} {a : Attempt}
    {result : Except AuthError URL} {crash : Crash}
    (h : s.runFinishBlock ⟨some a, result⟩ = .error crash) :
    ¬ReadableResult result ∧ ∀ p, droppedByResult p result = 0 := by
  cases result with
  | error error => cases h
  | ok url =>
      simp only [runFinishBlock, presentationCompletion] at h
      cases hread : reCAPTCHATokenForURL (some url) with
      | error exception =>
          refine ⟨?_, fun p => by rw [droppedByResult, hread]⟩
          intro hreadable
          obtain ⟨read, hok⟩ := readable_iff.mp (hreadable url rfl)
          rw [hread] at hok
          cases hok
      | ok read =>
          obtain ⟨token, error⟩ := read
          rw [hread] at h
          cases token <;> cases h

/-- The end of a presentation, or of the process; `place` is that of the call
    whose completion the finish block has. -/
theorem steps_ended {s r : PhoneAuthProvider URL} {place : Attempt → Place} (hs : s.Sound P)
    (hplace : ∀ a, (place a).isPresentation = true ∧ (place a).call = a.call ∧
      3 + a.base ≤ (place a).rank)
    (finish : FinishBlock URL) (hruns : P → Runs finish)
    (hplaces : s.places = (finish.completion.elim 0 fun a => {place a}) + r.places)
    (hsends : r.sends = s.sends) (hframe : (custody P).frame r = (custody P).frame s)
    (hr : r.Steady P) :
    ∃ taken,
      (ReadableResult finish.result → taken = finish.completion.elim 0 fun a => {place a}) ∧
        s.Steps P (s.ended (r.runFinishBlock finish)) [] [] taken
          (finish.completion.elim 0 fun a => droppedByResult (place a) finish.result) := by
  have hsame : s.Steps P s [] [] 0 0 := steps_of_eq hs rfl rfl rfl rfl hs.toSteady
  obtain ⟨completion, result⟩ := finish
  cases completion with
  | none =>
      have hmissing : ¬P := by
        intro hP
        have hsome := (hruns hP).completion
        cases hsome
      exact ⟨0, fun _ => rfl, hsame.trap hmissing⟩
  | some a =>
      obtain ⟨hp, hcall, hrank⟩ := hplace a
      cases h : r.runFinishBlock ⟨some a, result⟩ with
      | ok t =>
          exact ⟨{place a}, fun _ => rfl,
            steps_runFinishBlock hs hp hcall hrank hplaces hsends hframe hr h⟩
      | error crash =>
          obtain ⟨hunreadable, hnone⟩ := runFinishBlock_error h
          refine ⟨0, fun hreadable => absurd hreadable hunreadable, ?_⟩
          rw [Option.elim_some, hnone]
          exact hsame.trap fun hP => hunreadable (hruns hP).readable

/-- The call that waits for the page. -/
def presented (s : PhoneAuthProvider URL) : Multiset Place :=
  s.authURLPresenter.completion.elim 0 fun a => {.presenting a}

/-- A presentation whose page is on screen is over. -/
theorem steps_finishPresentation_dismissing {s : PhoneAuthProvider URL} (hs : s.Sound P)
    (hsafari : s.authURLPresenter.safariViewController.isSome) {result : Except AuthError URL}
    (hresult : P → ReadableResult result) :
    s.Steps P (s.ended (s.finishPresentation result)) [] [] s.presented 0 := by
  let r : PhoneAuthProvider URL :=
    { s with
      authURLPresenter :=
        { s.authURLPresenter with
          callbackMatcher := none, completion := none, safariViewController := none } }
  let t := r.dispatchAsync (.dismissViewController ⟨s.authURLPresenter.completion, result⟩)
  have hfinish : s.ended (s.finishPresentation result) = t := by
    rw [finishPresentation, if_pos hsafari]
    rfl
  have hsteady : t.Steady P :=
    ⟨hs.numbered, hs.armed, fun hP => (hs.paged hP).dismiss hsafari (hresult hP)⟩
  rw [hfinish, presented]
  have hput : t.places =
      FinishBlock.places ⟨s.authURLPresenter.completion, result⟩ + r.places :=
    places_dispatchAsync _ _
  cases hcompletion : s.authURLPresenter.completion with
  | none =>
      refine steps_of_eq hs ?_ rfl rfl rfl hsteady
      rw [hput, hcompletion]
      simp only [r, places, hcompletion, FinishBlock.places, Option.map_none, Option.elim_none,
        zero_add]
  | some a =>
      -- the call waits for the page to disappear
      have hplaces : s.places = {.presenting a} + r.places := by
        simp only [r, places, hcompletion, Option.map_some, Option.map_none, Option.elim_some,
          Option.elim_none]
        ac_rfl
      have ht : t.places = {.dismissing a} + r.places := by
        rw [hput, hcompletion]
        rfl
      have hone : t.PresentsOne := by
        have hone := hs.presentsOne
        rw [PresentsOne, hplaces, countP_presentation rfl] at hone
        rw [PresentsOne, ht, countP_presentation rfl]
        exact hone
      have hrank : Place.rank (.dismissing a) < Place.rank (.presenting a) := by
        simp only [Place.rank]
        omega
      exact steps_of_sets hplaces rfl rfl
        ⟨.dismissing a, ⟨rfl, hrank⟩, ht, (zero_add _).symm, rfl, hsteady, hone⟩

/-- What the end of a presentation without a page on screen drops. -/
def droppedByPresentation (s : PhoneAuthProvider URL) (result : Except AuthError URL) :
    Multiset Place :=
  s.authURLPresenter.completion.elim 0 fun a => droppedByResult (.presenting a) result

/-- A presentation is over whose page has already gone, or was never shown; the
    latter is not the case when `P` holds. -/
theorem steps_finishPresentation_finished {s r : PhoneAuthProvider URL} (hs : s.Sound P)
    (hr : r =
      { s with authURLPresenter := { s.authURLPresenter with safariViewController := none } })
    (hpage : P → s.authURLPresenter.safariViewController.isSome) {result : Except AuthError URL}
    (hresult : P → ReadableResult result) :
    ∃ taken, (ReadableResult result → taken = s.presented) ∧
      s.Steps P (s.ended (r.finishPresentation result)) [] [] taken
        (s.droppedByPresentation result) := by
  let q : PhoneAuthProvider URL :=
    { s with
      authURLPresenter :=
        { s.authURLPresenter with
          callbackMatcher := none, completion := none, safariViewController := none } }
  have hfinish : r.finishPresentation result =
      q.runFinishBlock ⟨s.authURLPresenter.completion, result⟩ := by
    subst hr
    rfl
  have hsteady : q.Steady P :=
    ⟨hs.numbered, hs.armed, fun hP => (hs.paged hP).close (hpage hP)⟩
  have hplaces : s.places = s.presented + q.places := by
    rw [presented]
    cases hcompletion : s.authURLPresenter.completion <;>
      simp only [q, places, hcompletion, Option.map_some, Option.map_none, Option.elim_some,
        Option.elim_none] <;>
      ac_rfl
  have hplace : ∀ a, (Place.presenting a).isPresentation = true ∧
      (Place.presenting a).call = a.call ∧ 3 + a.base ≤ (Place.presenting a).rank :=
    fun a => ⟨rfl, rfl, by simp only [Place.rank]; omega⟩
  rw [hfinish]
  exact steps_ended hs hplace ⟨s.authURLPresenter.completion, result⟩
    (fun hP => ⟨((hs.paged hP).on_screen (hpage hP)).1, hresult hP⟩) hplaces rfl rfl hsteady

/-- What a callback URL drops. -/
def droppedByURL (s : PhoneAuthProvider URL) (url : URL) : Multiset Place :=
  if s.matchesCallback url ∧ s.authURLPresenter.safariViewController = none then
    s.droppedByPresentation (.ok url)
  else 0

theorem steps_canHandleURL {s : PhoneAuthProvider URL} (hs : s.Sound P) (url : URL)
    (hpage : P → s.matchesCallback url →
      s.authURLPresenter.safariViewController.isSome ∧ Readable url) :
    ∃ taken, s.Steps P (s.ended ((s.canHandleURL url).map Prod.snd)) [] [] taken
      (s.droppedByURL url) := by
  rw [canHandleURL, droppedByURL]
  split
  · rename_i hmatches
    have hdone : ((s.finishPresentation (.ok url)).map fun s => (true, s)).map Prod.snd =
        s.finishPresentation (.ok url) := by
      cases s.finishPresentation (.ok url) <;> rfl
    have hresult : P → ReadableResult (.ok url) := by
      rintro hP url' ⟨⟩
      exact (hpage hP hmatches).2
    rw [hdone]
    cases hsafari : s.authURLPresenter.safariViewController with
    | some controller =>
        rw [if_neg (by simp)]
        exact ⟨_, steps_finishPresentation_dismissing hs (by simp [hsafari]) hresult⟩
    | none =>
        rw [if_pos ⟨hmatches, rfl⟩]
        have hsame : s = { s with
            authURLPresenter := { s.authURLPresenter with safariViewController := none } } := by
          rw [← hsafari]
        obtain ⟨taken, -, hsteps⟩ := steps_finishPresentation_finished hs hsame
          (fun hP => (hpage hP hmatches).1) hresult
        exact ⟨taken, hsteps⟩
  · rename_i hmatches
    rw [if_neg fun h => hmatches h.1]
    exact ⟨_, steps_of_eq hs rfl rfl rfl rfl hs.toSteady⟩

theorem steps_safariViewControllerDidFinish {s : PhoneAuthProvider URL} (hs : s.Sound P)
    (controller : Nat) :
    s.Steps P (s.ended (s.safariViewControllerDidFinish controller)) [] []
      (if s.authURLPresenter.safariViewController = some controller then s.presented else 0) 0 := by
  rw [safariViewControllerDidFinish]
  split
  · rename_i hsafari
    -- the page returns no URL
    have hresult : ReadableResult
        (.error { code := .webContextCancelled } : Except AuthError URL) := by
      intro url h
      cases h
    have hdropped : s.droppedByPresentation (.error { code := .webContextCancelled }) = 0 := by
      rw [droppedByPresentation]
      cases s.authURLPresenter.completion <;> rfl
    obtain ⟨taken, htaken, hsteps⟩ := steps_finishPresentation_finished hs rfl
      (fun _ => by simp [hsafari]) fun _ => hresult
    rw [htaken hresult, hdropped] at hsteps
    exact hsteps
  · exact steps_of_eq hs rfl rfl rfl rfl hs.toSteady

/-- What the end of a dismissal drops. -/
def droppedByDismissal (s : PhoneAuthProvider URL) : Multiset Place :=
  s.dismissals.head?.elim 0 fun finish =>
    finish.completion.elim 0 fun a => droppedByResult (.dismissing a) finish.result

theorem steps_dismissed {s : PhoneAuthProvider URL} (hs : s.Sound P) {finish : FinishBlock URL}
    {rest : List (FinishBlock URL)} (hdismissals : s.dismissals = finish :: rest) :
    ∃ taken, (P → taken = finish.places) ∧
      s.Steps P (s.ended ({ s with dismissals := rest }.runFinishBlock finish)) [] [] taken
        s.droppedByDismissal := by
  let r : PhoneAuthProvider URL := { s with dismissals := rest }
  have hfinish : finish.places = finish.completion.elim 0 fun a => {.dismissing a} := by
    rw [FinishBlock.places]
    cases finish.completion <;> rfl
  have hplaces : s.places = finish.places + r.places := by
    simp only [r, places, hdismissals, ← Multiset.cons_coe, Multiset.cons_bind]
    ac_rfl
  have hsteady : r.Steady P := by
    refine ⟨hs.numbered, hs.armed, ?_⟩
    intro hP
    have hpaged := hs.paged hP
    rw [hdismissals] at hpaged
    exact ⟨hpaged.page, hpaged.queued,
      fun f hf => hpaged.dismissing f (List.mem_cons_of_mem _ hf)⟩
  have hruns : P → Runs finish :=
    fun hP => (hs.paged hP).dismissing finish (by simp [hdismissals])
  have hplace : ∀ a, (Place.dismissing a).isPresentation = true ∧
      (Place.dismissing a).call = a.call ∧ 3 + a.base ≤ (Place.dismissing a).rank :=
    fun a => ⟨rfl, rfl, by simp only [Place.rank]; omega⟩
  rw [hfinish] at hplaces
  obtain ⟨taken, htaken, hsteps⟩ := steps_ended hs hplace finish hruns hplaces rfl rfl hsteady
  rw [droppedByDismissal, hdismissals, hfinish]
  exact ⟨taken, fun hP => htaken (hruns hP).readable, hsteps⟩

theorem steps_runMainBlock {s : PhoneAuthProvider URL} (hs : s.Sound P) {block : MainBlock URL}
    {rest : List (MainBlock URL)} (hqueue : s.mainQueue = block :: rest) :
    s.Steps P ({ s with mainQueue := rest }.runMainBlock block) [] block.called block.handed 0 := by
  let r : PhoneAuthProvider URL := { s with mainQueue := rest }
  have hplaces : s.places = block.places + r.places := by
    simp only [r, places, hqueue, ← Multiset.cons_coe, Multiset.cons_bind]
    ac_rfl
  have hpaged : P → Paged s.authURLPresenter (block :: rest) s.dismissals :=
    fun hP => hqueue ▸ hs.paged hP
  have hr : block.presents = false → r.Sound P := by
    intro hblock
    exact hs.of_le (Multiset.le_iff_exists_add.mpr ⟨_, hplaces.trans (add_comm _ _)⟩) rfl
      ⟨hs.numbered, hs.armed, fun hP => (hpaged hP).of_cons hblock⟩
  cases block with
  | completion c =>
      let t := r.runMainBlock (.completion c)
      have ht : t.places = {.completed c.call} + r.places := by
        simp only [t, r, runMainBlock, places, coe_append_singleton, Multiset.map_add,
          Multiset.map_singleton]
        ac_rfl
      have honward : Place.Onward (.completing c.call) (.completed c.call) :=
        ⟨rfl, Nat.zero_lt_one⟩
      have hmoves : (custody P).Moves Place.Onward s t 0 {.completing c.call} 0 :=
        .single hplaces ht (zero_add _).symm honward
      have hsound : t.Sound P := by
        refine ⟨⟨hs.numbered, hs.armed, fun hP => (hpaged hP).of_cons rfl⟩, ?_⟩
        rw [PresentsOne, ht, countP_other rfl]
        exact (hr rfl).presentsOne
      exact ⟨hmoves, hsound, (List.append_nil _).symm, rfl, rfl, fun _ => rfl⟩
  | presentSafariViewController url =>
      exact steps_of_eq hs (hplaces.trans (zero_add _)).symm rfl rfl rfl
        ⟨hs.numbered, hs.armed, fun hP => (hpaged hP).shown _ _⟩
  | webContextAlreadyPresented a =>
      exact steps_of_sets (r := r) hplaces rfl rfl
        (sets_verifyClientCompletion_error (hr rfl) a _)
  | dismissViewController finish =>
      refine steps_of_eq hs (Eq.trans ?_ hplaces.symm) rfl rfl rfl
        ⟨hs.numbered, hs.armed, fun hP => (hpaged hP).dismissed⟩
      simp only [r, runMainBlock, places, MainBlock.places, coe_append_singleton,
        Multiset.add_bind, Multiset.singleton_bind]
      ac_rfl

-- ============================================================================
-- One step
-- ============================================================================

/-- The number that a call is made for. -/
def made : Event URL → List String
  | .verifyPhoneNumber phoneNumber => [phoneNumber]
  | _ => []

/-- The completion that an event calls. -/
def called (s : PhoneAuthProvider URL) : Event URL → List Completion
  | .runMainQueue => (s.mainQueue.head?.map MainBlock.called).getD []
  | _ => []

/-- The places of the calls that an event drops. -/
def dropped (s : PhoneAuthProvider URL) : Event URL → Multiset Place
  | .backendReply _ reply => s.droppedByReply reply
  | .openURL url => s.droppedByURL url
  | .dismissed => s.droppedByDismissal
  | _ => 0

/-- A callback URL comes from the page on screen, and what it says can be read. -/
def FromPage (s : PhoneAuthProvider URL) : Event URL → Prop
  | .openURL url =>
      s.matchesCallback url → s.authURLPresenter.safariViewController.isSome ∧ Readable url
  | _ => True

/-- **A step moves calls to later places.**  All but those it drops, and only
    calls at the places of `dropped` are. -/
theorem step_moves {s t : PhoneAuthProvider URL} {e : Event URL} (hs : s.Sound P)
    (hpage : P → s.FromPage e) (h : s.step e = some t) :
    ∃ taken, s.Steps P t (made e) (s.called e) taken (s.dropped e) := by
  unfold step at h
  split at h
  · cases h
  · cases e with
    | verifyPhoneNumber phoneNumber =>
        obtain rfl := Option.some.inj h
        exact ⟨_, steps_verifyPhoneNumber hs phoneNumber⟩
    | backendReply serial reply =>
        obtain ⟨⟨request, requests⟩, hanswer, hreply⟩ := Option.bind_eq_some_iff.mp h
        exact ⟨_, steps_answer hs hanswer hreply⟩
    | setAPNSToken token =>
        obtain rfl := Option.some.inj h
        exact ⟨_, steps_getTokenCallbacks hs _ rfl fun t ht _ => ht⟩
    | didFailToRegister =>
        obtain rfl := Option.some.inj h
        exact ⟨_, steps_getTokenCallbacks hs none rfl fun t ht _ => ht⟩
    | notification userInfo =>
        obtain rfl := Option.some.inj h
        exact steps_canHandleNotification hs _
    | timer timer =>
        simp only at h
        split at h
        · obtain rfl := Option.some.inj h
          exact ⟨_, steps_fire hs timer⟩
        · cases h
    | openURL url =>
        obtain rfl := Option.some.inj h
        exact steps_canHandleURL hs url hpage
    | safariViewControllerDidFinish controller =>
        obtain rfl := Option.some.inj h
        exact ⟨_, steps_safariViewControllerDidFinish hs controller⟩
    | dismissed =>
        simp only at h
        split at h
        · cases h
        · rename_i finish rest hdismissals
          obtain rfl := Option.some.inj h
          obtain ⟨taken, -, hsteps⟩ := steps_dismissed hs hdismissals
          exact ⟨taken, hsteps⟩
    | runMainQueue =>
        simp only at h
        split at h
        · cases h
        · rename_i block rest hqueue
          obtain rfl := Option.some.inj h
          have hcalled : s.called .runMainQueue = block.called := by
            rw [called, hqueue]
            rfl
          exact ⟨_, hcalled ▸ steps_runMainBlock hs hqueue⟩

end PhoneAuthProvider

end Spark.Firebase
