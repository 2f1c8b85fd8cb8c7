/-
  Spark.App.VerifiedNumber

  The number that registration stores is the number that was verified.

  Three copies of the number have to agree: the text of the field, which is
  what `sendSMSCode` asks a code for; `mobileNumberStr`, which the sheet is
  presented with and stores; and the number the verification ID is bound to,
  which `signIn` signs in.  `Expects` lists what the copy of the controller on
  screen will be compared with, and `Tracked` says it agrees with all of it.

  The copy is not always kept in step: `shouldChangeCharactersIn` reads the
  field before the edit, and a reply can find another number on the form than
  the one it was asked for.  `NumberKept` names the steps at which this happens;
  the runs without them store the verified number.
-/

import Spark.App.Step

namespace Spark

open Spark.Lib

namespace App

-- ============================================================================
-- What the copied number is compared with
-- ============================================================================

section Expects

variable {Image : Type}

/-- The numbers the copy of controller `i` is going to be compared with: the
    one its code will be checked for, those of its sign-ins in flight, and the
    signed-in one once its registration sheet is about to appear. -/
inductive Expects (s : App Image) (i : Nat) : Option String → Prop
  | otp (h : s.Awaiting i) :
      Expects s i (s.auth.shared.verificationId.map VerificationID.phoneNumber)
  | signIn {p} (hp : p ∈ s.signIns.outstanding) (hi : p.2.controller = i) :
      Expects s i (some p.2.credential.verificationId.phoneNumber)
  | registration (h : .presentSignupVC i ∈ s.mainQueue) : Expects s i s.firebase.currentUser

/-- A copied number that is empty is never stored; another one has to be the
    number it is compared with. -/
def Agrees (copied : String) (number : Option String) : Prop :=
  copied = "" ∨ number = some copied

/-- The number of the sheet agrees with the signed-in one. -/
def SheetAgrees (s : App Image) (number : Option String) : Prop :=
  ∀ sheet m, s.signUp = some sheet → sheet.mobileNumberTxtFld.text = some m → Agrees m number

/-- The controller on screen and the sheet hold the numbers they will be
    compared with. -/
structure Tracked (s : App Image) : Prop where
  copied : ∀ i, s.content = .profile i → ∀ n, s.Expects i n →
    Agrees (s.profiles i).mobileNumberStr n
  sheet : s.SheetAgrees s.firebase.currentUser

/-- A tap on the sheet's submit button writes under "mobileNumber" only the
    number of the signed-in user. -/
def WritesVerifiedNumber (s : App Image) : Prop :=
  ∀ sheet firstName lastName email v, s.signUp = some sheet →
    ("mobileNumber", v) ∈ (sheet.filled firstName lastName email).signUpBtnAction.writes →
    ∃ n, s.firebase.currentUser = some n ∧ v = some (.string n)

theorem Tracked.writesVerifiedNumber {s : App Image} (h : s.Tracked) (hs : s.WellFormed) :
    s.WritesVerifiedNumber := by
  intro sheet firstName lastName email v hsheet hwrite
  obtain ⟨-, hne, rfl⟩ := SignUpViewController.mem_writes_mobileNumber.mp hwrite
  obtain ⟨m, hm⟩ := hs.number sheet hsheet
  rcases h.sheet sheet m hsheet hm with rfl | huser
  · exact absurd hm hne
  · exact ⟨m, huser, congrArg (Option.map PropertyListValue.string) hm⟩

-- ============================================================================
-- The steps that keep the copies
-- ============================================================================

/-- If the field is copied now, its text agrees with what the copy will be
    compared with. -/
def CopyKept (s : App Image) (i : Nat) : Prop :=
  (s.profiles i).submitBtnTitle ≠ some "Verify OTP" → ∀ n, s.Expects i n →
    Agrees ((s.profiles i).mobileNumberTxt.text.getD "") n

/-- The number of the sheet, or of the sheet about to appear, is `user`'s. -/
def UserMayBecome (s : App Image) (user : Option String) : Prop :=
  s.SheetAgrees user ∧ ∀ i, s.content = .profile i → .presentSignupVC i ∈ s.mainQueue →
    Agrees (s.profiles i).mobileNumberStr user

/-- The step does not part the copied number from the verified one:
    * the field is not copied over a number that is in use already;
    * an ID for `n` arrives only at a form on screen that has copied `n`;
    * no other user is signed in, and the user is not signed out, while a sheet
      with a number is up or about to appear. -/
def NumberKept (s : App Image) : Event Image → Prop
  | .edit _ _ => ∀ i, s.content = .profile i → s.CopyKept i
  | .textFieldDidEndEditing i => s.content = .profile i → s.CopyKept i
  | .signOutBtnAction none => s.UserMayBecome none
  | .verifyPhoneNumberReply serial none =>
      ∀ n k, s.auth.calls.find? serial = some (n, k) → ∀ i, s.content = .profile i →
        (i = k.controller ∨ s.Awaiting i) → Agrees (s.profiles i).mobileNumberStr (some n)
  | .signInReply serial none =>
      ∀ call, s.signIns.find? serial = some call →
        s.UserMayBecome (some call.credential.verificationId.phoneNumber)
  | _ => True

-- ============================================================================
-- Preservation
-- ============================================================================

/-- Nothing more is expected of a controller when no call, block or mode has
    been added. -/
theorem Expects.mono {s t : App Image} {i : Nat} {n : Option String} (h : t.Expects i n)
    (hid : t.auth.shared = s.auth.shared) (huser : t.firebase.currentUser = s.firebase.currentUser)
    (hawait : t.Awaiting i → s.Awaiting i)
    (hsignIns : ∀ p ∈ t.signIns.outstanding, p ∈ s.signIns.outstanding)
    (hqueue : .presentSignupVC i ∈ t.mainQueue → .presentSignupVC i ∈ s.mainQueue) :
    s.Expects i n := by
  cases h with
  | otp h => exact hid ▸ .otp (hawait h)
  | signIn hp hi => exact .signIn (hsignIns _ hp) hi
  | registration h => exact huser ▸ .registration (hqueue h)

namespace Tracked

/-- A step that leaves the copies, the sheet and the signed-in user alone and
    adds nothing the copies are compared with. -/
theorem mono {s t : App Image} (h : s.Tracked)
    (hcontent : ∀ i, t.content = .profile i → s.content = .profile i)
    (hcopied : ∀ i, (t.profiles i).mobileNumberStr = (s.profiles i).mobileNumberStr)
    (hexpects : ∀ i n, t.Expects i n → s.Expects i n) (hsheet : t.signUp = s.signUp)
    (huser : t.firebase.currentUser = s.firebase.currentUser) : t.Tracked := by
  constructor
  · intro i hi n hn
    rw [hcopied i]
    exact h.copied i (hcontent i hi) n (hexpects i n hn)
  · intro sheet m hsheet' hm
    rw [hsheet] at hsheet'
    rw [huser]
    exact h.sheet sheet m hsheet' hm

/-- The store does not matter. -/
theorem stored {s : App Image} (h : s.Tracked) {defaults : UserDefaults} :
    App.Tracked { s with defaults } := by
  have hexpects : ∀ i n, App.Expects { s with defaults } i n → s.Expects i n := by
    intro i n hn
    exact hn.mono rfl rfl id (fun _ hp => hp) id
  exact h.mono (fun _ hi => hi) (fun _ => rfl) hexpects rfl rfl

/-- A handler that keeps the copy and does not put the form in OTP mode. -/
theorem updateProfile {s : App Image} (h : s.Tracked) (j : Nat)
    {f : ProfileViewController Image → ProfileViewController Image}
    (hcopied : ∀ vc, (f vc).mobileNumberStr = vc.mobileNumberStr)
    (htitle : ∀ vc, (f vc).submitBtnTitle = some "Verify OTP" →
      vc.submitBtnTitle = some "Verify OTP") : (s.updateProfile j f).Tracked := by
  have hexpects : ∀ i n, (s.updateProfile j f).Expects i n → s.Expects i n := by
    intro i n hn
    exact hn.mono rfl rfl (Awaiting.of_updateProfile htitle) (fun _ hp => hp) id
  exact h.mono (fun _ hi => hi) (field_updateProfile s j f hcopied) hexpects rfl rfl

theorem keepsForm {s : App Image} (h : s.Tracked) (j : Nat)
    {f : ProfileViewController Image → ProfileViewController Image}
    (hf : ProfileViewController.KeepsForm f) : (s.updateProfile j f).Tracked :=
  h.updateProfile j hf.mobileNumberStr hf.of_otpMode

theorem startAuth {s : App Image} (h : s.Tracked) (n : String) (k : StartAuthCompletion) :
    (s.startAuth n k).Tracked := by
  have hexpects : ∀ i m, (s.startAuth n k).Expects i m → s.Expects i m := by
    intro i m hm
    exact hm.mono rfl rfl id (fun _ hp => hp) id
  exact h.mono (fun _ hi => hi) (fun _ => rfl) hexpects rfl rfl

/-- A handler that copies the text of the field, when that text agrees with
    everything the copy is compared with. -/
theorem recopies {s : App Image} (h : s.Tracked) (j : Nat)
    {f : ProfileViewController Image → ProfileViewController Image}
    (hf : ProfileViewController.Recopies f) (hj : s.content = .profile j → s.CopyKept j) :
    (s.updateProfile j f).Tracked := by
  refine ⟨?_, h.sheet⟩
  intro i hi n hexpects
  have hn : s.Expects i n :=
    hexpects.mono rfl rfl (Awaiting.of_updateProfile hf.of_otpMode) (fun _ hp => hp) id
  rw [profiles_updateProfile]
  split
  · next hij =>
      subst hij
      rw [hf.mobileNumberStr]
      split
      · exact h.copied i hi n hn
      · next htitle => exact hj hi htitle n hn
  · exact h.copied i hi n hn

/-- Another user is signed in, or none, when the numbers that are about to be
    stored allow it. -/
theorem user {s : App Image} (h : s.Tracked) {firebase : FirebaseAuth}
    (huser : s.UserMayBecome firebase.currentUser) : App.Tracked { s with firebase } := by
  refine ⟨?_, huser.1⟩
  intro i hi n hn
  cases hn with
  | otp hawait => exact h.copied i hi _ (.otp hawait)
  | signIn hp hcontroller => exact h.copied i hi _ (.signIn hp hcontroller)
  | registration hblock => exact huser.2 i hi hblock

/-- The sheet on screen changes or goes, its number agreeing with the user. -/
theorem withSheet {s : App Image} (h : s.Tracked) {signUp : Option SignUpViewController}
    (hsheet : App.SheetAgrees { s with signUp } s.firebase.currentUser) :
    App.Tracked { s with signUp } := by
  refine ⟨?_, hsheet⟩
  intro i hi n hn
  have hexpects : s.Expects i n := hn.mono rfl rfl id (fun _ hp => hp) id
  exact h.copied i hi n hexpects

theorem dequeued {s : App Image} (h : s.Tracked) {b : Block} {rest : List Block}
    (hqueue : s.mainQueue = b :: rest) : App.Tracked { s with mainQueue := rest } := by
  have hexpects : ∀ i n, App.Expects { s with mainQueue := rest } i n → s.Expects i n := by
    intro i n hn
    refine hn.mono rfl rfl (Awaiting.of_dequeued hqueue) (fun _ hp => hp) ?_
    intro hblock
    rw [hqueue]
    exact List.mem_cons_of_mem b hblock
  exact h.mono (fun _ hi => hi) (fun _ => rfl) hexpects rfl rfl

/-- A failed reply: the manager holds the ID it held. -/
theorem answered {s : App Image} (h : s.Tracked)
    {auth : PhoneAuth VerificationID StartAuthCompletion} (hshared : auth.shared = s.auth.shared) :
    App.Tracked { s with auth } := by
  have hexpects : ∀ i n, App.Expects { s with auth } i n → s.Expects i n := by
    intro i n hn
    exact hn.mono hshared rfl id (fun _ hp => hp) id
  exact h.mono (fun _ hi => hi) (fun _ => rfl) hexpects rfl rfl

theorem signInAnswered {s : App Image} (h : s.Tracked) {signIns : Calls SignInCall}
    (hcalls : ∀ p ∈ signIns.outstanding, p ∈ s.signIns.outstanding) :
    App.Tracked { s with signIns } := by
  have hexpects : ∀ i n, App.Expects { s with signIns } i n → s.Expects i n := by
    intro i n hn
    exact hn.mono rfl rfl id hcalls id
  exact h.mono (fun _ hi => hi) (fun _ => rfl) hexpects rfl rfl

/-- The block that switches form `j` runs: the copy stays, and the form that
    was going to ask for a code asks for it. -/
theorem clearText {s : App Image} (h : s.Tracked) {j : Nat} {rest : List Block}
    (hqueue : s.mainQueue = .clearTextAndUpdateUIToOTP j :: rest) :
    (App.updateProfile { s with mainQueue := rest } j fun vc =>
      vc.clearTextAndUpdateUIToOTP).Tracked := by
  refine h.mono (fun _ hi => hi) ?_ ?_ rfl rfl
  · exact field_updateProfile _ j _
      ProfileViewController.mobileNumberStr_clearTextAndUpdateUIToOTP
  · intro i n hn
    refine hn.mono rfl rfl (Awaiting.of_clearText hqueue) (fun _ hp => hp) ?_
    intro hblock
    rw [hqueue]
    exact List.mem_cons_of_mem _ hblock

end Tracked

/-- A tap on Verify: the ID is the one the form's copy agrees with. -/
theorem Tracked.verifyCode {s : App Image} (h : s.Tracked) (hs : s.WellFormed) {i : Nat}
    {code : String} {verificationId : VerificationID}
    (hmode : (s.profiles i).mobileNumberTxt.placeholder ≠ some "Enter Mobile Number")
    (hid : s.auth.shared.verificationId = some verificationId) :
    App.Tracked { s with signIns := s.signIns.issue ⟨⟨verificationId, code⟩, i⟩ } := by
  refine ⟨?_, h.sheet⟩
  intro j hj n hn
  cases hn with
  | otp hawait => exact h.copied j hj _ (.otp hawait)
  | registration hblock => exact h.copied j hj _ (.registration hblock)
  | signIn hp hcontroller =>
      rcases Calls.mem_issue.mp hp with hp | rfl
      · exact h.copied j hj _ (.signIn hp hcontroller)
      · obtain rfl := hcontroller
        have htitle : (s.profiles i).submitBtnTitle = some "Verify OTP" :=
          (hs.form i).placeholder_iff_title.mp hmode
        have hexpects := Expects.otp (.inl htitle)
        rw [hid] at hexpects
        exact h.copied i hj _ hexpects

/-- The reply for `n` arrives: whoever is, or will be, asking for a code on
    screen has copied `n`. -/
theorem Tracked.verifyPhoneNumberSucceeded {s : App Image} (h : s.Tracked) {serial : Nat}
    {n : String} {k : StartAuthCompletion}
    {auth : PhoneAuth VerificationID StartAuthCompletion}
    (hid : auth.shared.verificationId = some ⟨serial, n⟩)
    (hok : ∀ i, s.content = .profile i → (i = k.controller ∨ s.Awaiting i) →
      Agrees (s.profiles i).mobileNumberStr (some n)) :
    (App.async { s with auth } (.clearTextAndUpdateUIToOTP k.controller)).Tracked := by
  refine ⟨?_, h.sheet⟩
  intro i hi m hm
  cases hm with
  | signIn hp hcontroller => exact h.copied i hi _ (.signIn hp hcontroller)
  | registration hblock =>
      refine h.copied i hi _ (.registration ?_)
      simpa using hblock
  | otp hawait =>
      have hnumber : auth.shared.verificationId.map VerificationID.phoneNumber = some n := by
        rw [hid, Option.map_some]
      rw [auth_async, hnumber]
      rcases hawait.of_async with hawait | hblock
      · exact hok i hi (.inr hawait)
      · exact hok i hi (.inl (Block.clearTextAndUpdateUIToOTP.inj hblock).symm)

/-- A sign-in succeeds: the controller that made it holds the number, and the
    sheet about to appear gets it from there. -/
theorem Tracked.signInSucceeded {s : App Image} (h : s.Tracked) {serial : Nat}
    {call : SignInCall} {signIns : Calls SignInCall} {firebase : FirebaseAuth}
    (hcall : s.signIns.find? serial = some call)
    (hcalls : ∀ p, p ∈ signIns.outstanding ↔ p ∈ s.signIns.outstanding ∧ p.1 ≠ serial)
    (huser : firebase.currentUser = some call.credential.verificationId.phoneNumber)
    (hok : s.UserMayBecome (some call.credential.verificationId.phoneNumber)) :
    (App.async { s with signIns, firebase } (.presentSignupVC call.controller)).Tracked := by
  rw [← huser] at hok
  refine ⟨?_, hok.1⟩
  intro i hi n hn
  cases hn with
  | otp hawait =>
      have hbefore : s.Awaiting i := hawait.of_async.resolve_right Block.noConfusion
      exact h.copied i hi _ (.otp hbefore)
  | signIn hp hcontroller =>
      have hbefore := ((hcalls _).mp hp).1
      exact h.copied i hi _ (.signIn hbefore hcontroller)
  | registration hblock =>
      rcases (mem_mainQueue_async _ _).mp hblock with hblock | hblock
      · exact hok.2 i hi hblock
      · have hmine : call.controller = i := (Block.presentSignupVC.inj hblock).symm
        rw [firebase_async, huser]
        exact h.copied i hi _ (.signIn (Calls.mem_of_find? hcall) hmine)

end Expects

variable {Image : Type} [UIImage Image]

/-- A new controller has copied nothing. -/
theorem Tracked.showViewController {s : App Image} (h : s.Tracked) (id : StoryboardID) :
    (s.showViewController id).Tracked := by
  refine ⟨?_, by cases id <;> exact h.sheet⟩
  intro i hi n hn
  cases id with
  | homeNavID => cases hi
  | underConstructionNavID => cases hi
  | profileNavID =>
      obtain rfl := Screen.profile.inj hi
      left
      rw [profiles_profileNavID,
        (ProfileViewController.KeepsForm.viewWillAppear _ _).mobileNumberStr]
      rfl

theorem tracked_launch (defaults : UserDefaults) (firebase : FirebaseAuth)
    (issued signInsIssued : Nat) :
    (launch defaults firebase issued signInsIssued : App Image).Tracked := by
  refine Tracked.showViewController ⟨?_, ?_⟩ _
  · intro i hi
    cases hi
  · intro sheet m hsheet
    cases hsheet

/-- Every step that `NumberKept` allows keeps the copies. -/
theorem Transition.tracked {s t : App Image} {e : Event Image} (h : Transition s e t)
    (hs : s.WellFormed) (hinv : s.Tracked) (hok : s.NumberKept e) : t.Tracked := by
  cases h with
  | edit hi => exact hinv.recopies _ (.edit _ _) (hok _)
  | textFieldDidEndEditing hi => exact hinv.recopies _ .textFieldDidEndEditing hok
  | @sendSMSCode i hi hmode hlen =>
      have hanimating := hinv.keepsForm i .startAnimating
      exact hanimating.startAuth _ _
  | numberEmpty hi hmode hlen => exact hinv.keepsForm _ .mobileNumberError
  | otpEmpty hi hmode htext => exact hinv.keepsForm _ (.otpIsNotValid _)
  | noVerificationId hi hmode hid => exact hinv.keepsForm _ (.otpIsNotValid _)
  | verifyCode hi hmode htext hid => exact hinv.verifyCode hs hmode hid
  | resendOtpBtnAction hi => exact hinv.startAuth _ _
  | closeOtpScreen hi =>
      refine hinv.updateProfile _ (fun _ => rfl) ?_
      intro vc htitle
      simp [ProfileViewController.closeOtpScreen] at htitle
  | @signOutBtnAction i error hi =>
      have hstored : (s.signedOut error).Tracked := by
        cases error with
        | none =>
            have huser : ({ s with
                firebase := { s.firebase with currentUser := none } } : App Image).Tracked :=
              hinv.user hok
            exact huser.stored
        | some e => exact hinv.stored
      exact hstored.keepsForm _ (.signedOut _ _ _)
  | imagePicked hi => exact hinv.stored.keepsForm _ (.profileImg _)
  | signUpRejected hsheet htap =>
      refine hinv.stored.withSheet ?_
      intro sheet m hsheet' hm
      obtain rfl := Option.some.inj hsheet'
      rw [SignUpViewController.mobileNumber_signUpBtnAction] at hm
      exact hinv.sheet _ m hsheet hm
  | @signUpSubmitted sheet firstName lastName email hsheet htap =>
      have hdetails : (updateDetails
          { s with defaults := (sheet.filled firstName lastName email).stored s.defaults }
          sheet.delegate).Tracked := by
        cases sheet.delegate with
        | none => exact hinv.stored
        | some i => exact hinv.stored.keepsForm _ (.updateDetails _ _)
      refine hdetails.withSheet ?_
      intro sheet m hsheet
      cases hsheet
  | rowIgnored hrow => exact hinv
  | rowShown hrow => exact hinv.showViewController _
  | @verifyPhoneNumberFailed serial error n k auth herror hcall hshared hissued hcalls =>
      have hanswered := hinv.answered hshared
      cases k with
      | sendSMSCode i => exact hanswered.keepsForm _ .stopAnimating
      | resendOtpBtnAction i => exact hanswered
  | verifyPhoneNumberSucceeded hcall hid hissued hcalls =>
      exact hinv.verifyPhoneNumberSucceeded hid (hok _ _ hcall)
  | signInFailed herror hcall hcalls =>
      have hanswered := hinv.signInAnswered fun p hp => ((hcalls p).mp hp).1
      exact hanswered.keepsForm _ (.otpIsNotValid _)
  | signInSucceeded hcall hcalls => exact hinv.signInSucceeded hcall hcalls rfl (hok _ hcall)
  | clearText hqueue => exact hinv.clearText hqueue
  | @presented i rest hqueue hi hsheet =>
      -- the sheet takes over the copy, which was compared with the user already
      have hqueued : Block.presentSignupVC i ∈ s.mainQueue := by
        rw [hqueue]
        exact List.mem_cons_self
      refine (hinv.dequeued hqueue).withSheet ?_
      intro sheet m hsheet' hm
      obtain rfl := Option.some.inj hsheet'
      obtain rfl := Option.some.inj hm
      exact hinv.copied i hi _ (.registration hqueued)
  | notPresented hqueue h => exact hinv.dequeued hqueue
  | relaunch => exact tracked_launch ..

-- ============================================================================
-- Whole runs
-- ============================================================================

/-- **The stored number is the verified one.**  In every run from the first
    launch whose steps `NumberKept` allows, in every state reached, a tap on the
    sheet's submit button writes under "mobileNumber" nothing but the number of
    the user signed in at that moment. -/
theorem run_writesVerifiedNumber (es : List (Event Image)) (s : App Image)
    (hok : Along step NumberKept install es) (h : run step install es = some s) :
    s.WritesVerifiedNumber := by
  obtain ⟨hs, htracked⟩ := invariant (tracked_launch ..) (fun _ _ _ => Transition.tracked) hok h
  exact htracked.writesVerifiedNumber hs

omit [UIImage Image] in
/-- With nothing in flight the field may be copied over. -/
theorem CopyKept.of_idle {s : App Image} {i : Nat} (hqueue : s.mainQueue = [])
    (hsignIns : s.signIns.outstanding = []) : s.CopyKept i := by
  intro htitle n hn
  cases hn with
  | otp hawait =>
      rcases hawait with h | h
      · exact absurd h htitle
      · simp [hqueue] at h
  | signIn hp hcontroller => simp [hsignIns] at hp
  | registration hblock => simp [hqueue] at hblock

/-- The number is pasted, the keyboard closed, the code asked for and entered;
    the sheet appears. -/
def pastedNumber : List (Event Data) :=
  [.edit ⟨0, 0⟩ "5550001", .textFieldDidEndEditing 0, .submitBtnAction,
   .verifyPhoneNumberReply 0 none, .runMainQueue, .edit ⟨0, 0⟩ "1234", .submitBtnAction,
   .signInReply 0 none, .runMainQueue]

/-- The theorem at this run. -/
theorem run_writesVerifiedNumber_pastedNumber :
    ∃ s, run step install pastedNumber = some s ∧ s.firebase.currentUser = some "5550001" ∧
      s.signUp.isSome ∧ s.WritesVerifiedNumber := by
  refine ⟨_, rfl, rfl, rfl, run_writesVerifiedNumber pastedNumber _ ?_ rfl⟩
  refine .cons rfl (fun _ _ => .of_idle rfl rfl) ?_
  refine .cons rfl (fun _ => .of_idle rfl rfl) ?_
  refine .cons rfl trivial ?_
  refine .cons rfl ?_ ?_
  · intro n k hcall i hi _
    obtain ⟨rfl, rfl⟩ := Prod.mk.inj (Option.some.inj hcall)
    obtain rfl := Screen.profile.inj hi
    exact .inr rfl
  refine .cons rfl trivial ?_
  refine .cons rfl ?_ ?_
  · intro i hi htitle
    obtain rfl := Screen.profile.inj hi
    exact (htitle rfl).elim
  refine .cons rfl trivial ?_
  refine .cons rfl ?_ ?_
  · intro call _
    constructor
    · intro sheet m hsheet
      cases hsheet
    · intro i _ hblock
      cases hblock
  refine .cons rfl trivial ?_
  trivial

/-- The number is typed and the code asked for with the keyboard still open:
    the copy lacks the last digit. -/
def typedNumber : List (Event Data) :=
  [.edit ⟨0, 0⟩ "555000", .edit ⟨6, 0⟩ "1", .submitBtnAction, .verifyPhoneNumberReply 0 none,
   .runMainQueue, .edit ⟨0, 0⟩ "1234", .submitBtnAction, .signInReply 0 none, .runMainQueue]

/-- The user signed in is 5550001, and a tap on the sheet's button stores
    555000. -/
theorem typedNumber_not_writesVerifiedNumber :
    ∃ s, run step install typedNumber = some s ∧ s.firebase.currentUser = some "5550001" ∧
      (∃ t, step s (.signUpBtnAction (some "Ann") (some "Lee") (some "ann@example.com")) = some t ∧
        t.defaults "mobileNumber" = some (.string "555000")) ∧
      ¬ s.WritesVerifiedNumber := by
  refine ⟨_, rfl, rfl, ⟨_, rfl, by decide⟩, ?_⟩
  intro h
  obtain ⟨n, huser, hv⟩ := h _ (some "Ann") (some "Lee") (some "ann@example.com")
    (some (.string "555000")) rfl (by decide)
  obtain rfl := Option.some.inj huser
  exact absurd hv (by decide)

end App

end Spark
