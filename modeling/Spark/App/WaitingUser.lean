/-
  Spark.App.WaitingUser

  A user who does one thing at a time.

  `NumberKept` and `OtpNumberKept` speak of the copied number, which the user
  does not see.  Here both follow from what the user does: the form is left
  alone while a call, a queued block or the sheet is not finished (`underWay`),
  Get OTP is tapped only when the field has ended editing after its last edit,
  and a code is asked for again only by a form in OTP mode.  Replies and blocks
  come when they come.  What such a user is shown, resends, verifies and stores
  is one number: it takes an edit or a tap that `Waits` forbids to part them.
-/

import Spark.App.OtpScreen
import Spark.App.VerifiedNumber

namespace Spark

open Spark.Lib

-- ============================================================================
-- The copy and the field
-- ============================================================================

namespace ProfileViewController

variable {Image : Type}

/-- Unless the form is in OTP mode, the copy is the text of the field. -/
def Copied (vc : ProfileViewController Image) : Prop :=
  vc.submitBtnTitle ≠ some "Verify OTP" → vc.mobileNumberStr = vc.mobileNumberTxt.text.getD ""

/-- The handler keeps the copy, and leaves a field that has been copied so. -/
structure KeepsCopy (f : ProfileViewController Image → ProfileViewController Image) : Prop where
  mobileNumberStr : ∀ vc, (f vc).mobileNumberStr = vc.mobileNumberStr
  copied : ∀ vc, vc.Copied → (f vc).Copied

namespace KeepsCopy

theorem startAnimating : KeepsCopy (fun vc : ProfileViewController Image => vc.startAnimating) :=
  ⟨fun _ => rfl, fun _ h => h⟩

theorem stopAnimating : KeepsCopy (fun vc : ProfileViewController Image => vc.stopAnimating) :=
  ⟨fun _ => rfl, fun _ h => h⟩

theorem mobileNumberError :
    KeepsCopy (fun vc : ProfileViewController Image => vc.mobileNumberError) :=
  ⟨fun _ => rfl, fun _ h => h⟩

theorem otpIsNotValid (msgStr : String) :
    KeepsCopy (fun vc : ProfileViewController Image => vc.otpIsNotValid msgStr) :=
  ⟨fun _ => rfl, fun _ h => h⟩

theorem profileImg (img : Option Image) :
    KeepsCopy (fun vc : ProfileViewController Image => { vc with profileImg := img }) :=
  ⟨fun _ => rfl, fun _ h => h⟩

theorem updateDetails (defaults : UserDefaults) (currentUser : Option String) :
    KeepsCopy
      (fun vc : ProfileViewController Image => vc.updateDetails defaults currentUser) := by
  constructor <;> intro vc <;>
    rw [ProfileViewController.updateDetails, checkUserSignIn_eq]
  · rfl
  · exact id

theorem signedOut [UIImage Image] (message : String) (defaults : UserDefaults)
    (currentUser : Option String) :
    KeepsCopy (fun vc : ProfileViewController Image =>
      (vc.showToast message).viewWillAppear defaults currentUser) := by
  constructor <;> intro vc <;> rw [viewWillAppear_eq, checkUserSignIn_eq]
  · rfl
  · exact id

/-- A form that has switched to OTP mode copies nothing. -/
theorem clearTextAndUpdateUIToOTP :
    KeepsCopy (fun vc : ProfileViewController Image => vc.clearTextAndUpdateUIToOTP) := by
  refine ⟨mobileNumberStr_clearTextAndUpdateUIToOTP, ?_⟩
  intro vc _ htitle
  rw [ProfileViewController.clearTextAndUpdateUIToOTP] at htitle
  exact absurd rfl htitle

end KeepsCopy

end ProfileViewController

open ProfileViewController (KeepsCopy)

namespace App

variable {Image : Type}

-- ============================================================================
-- The user
-- ============================================================================

/-- The number of calls, queued blocks and sheets that are not finished. -/
def underWay (s : App Image) : Nat :=
  s.auth.calls.outstanding.length + s.signIns.outstanding.length + s.mainQueue.length +
    s.signUp.toList.length

/-- Whether the field of the form on screen has ended editing since its last
    edit, and since it last held a code. -/
def endedEditing (s : App Image) (ended : Bool) : Event Image → Bool
  | .edit _ _ => false
  | .closeOtpScreen => false
  | .textFieldDidEndEditing i => ended || decide (s.onScreen = some i)
  | _ => ended

/-- The app, watched for the end of editing. -/
def watch [UIImage Image] (w : App Image × Bool) (e : Event Image) : Option (App Image × Bool) :=
  (w.1.step e).map fun t => (t, w.1.endedEditing w.2 e)

/-- The user does one thing at a time, and ends editing before asking for a code. -/
def Waits (w : App Image × Bool) : Event Image → Prop
  | .edit _ _ => w.1.underWay = 0
  | .closeOtpScreen => w.1.underWay = 0
  | .signOutBtnAction _ => w.1.underWay = 0
  | .selectedCell _ => w.1.underWay = 0
  | .submitBtnAction => w.1.underWay = 0 ∧ ∀ i ∈ w.1.onScreen,
      (w.1.profiles i).submitBtnTitle = some "Get OTP" → w.2 = true
  | .resendOtpBtnAction => w.1.underWay = 0 ∧ ∀ i ∈ w.1.onScreen,
      (w.1.profiles i).submitBtnTitle = some "Verify OTP"
  | _ => True

instance decidableWaits (w : App Image × Bool) : (e : Event Image) → Decidable (Waits w e)
  | .edit _ _ => inferInstanceAs (Decidable (w.1.underWay = 0))
  | .closeOtpScreen => inferInstanceAs (Decidable (w.1.underWay = 0))
  | .signOutBtnAction _ => inferInstanceAs (Decidable (w.1.underWay = 0))
  | .selectedCell _ => inferInstanceAs (Decidable (w.1.underWay = 0))
  | .submitBtnAction => inferInstanceAs (Decidable (w.1.underWay = 0 ∧ ∀ i ∈ w.1.onScreen,
      (w.1.profiles i).submitBtnTitle = some "Get OTP" → w.2 = true))
  | .resendOtpBtnAction => inferInstanceAs (Decidable (w.1.underWay = 0 ∧ ∀ i ∈ w.1.onScreen,
      (w.1.profiles i).submitBtnTitle = some "Verify OTP"))
  | .textFieldDidEndEditing _ => isTrue trivial
  | .imagePicked _ => isTrue trivial
  | .signUpBtnAction _ _ _ => isTrue trivial
  | .verifyPhoneNumberReply _ _ => isTrue trivial
  | .signInReply _ _ => isTrue trivial
  | .runMainQueue => isTrue trivial
  | .relaunch => isTrue trivial

/-- At most one thing is under way; the field has been copied, if it has ended
    editing or something is under way; and the number a code was asked for is
    the copied one. -/
structure Orderly (s : App Image) (ended : Bool) : Prop where
  one : s.underWay ≤ 1
  copied : ended = true ∨ s.underWay ≠ 0 → ∀ i, s.content = .profile i → (s.profiles i).Copied
  asked : ∀ p ∈ s.auth.calls.outstanding, ∀ i, s.content = .profile i →
    (s.profiles i).mobileNumberStr = p.2.1 ∧ p.2.1 ≠ ""

-- ============================================================================
-- One thing at a time
-- ============================================================================

section UnderWay

variable {s : App Image}

theorem onScreen_of_content {i : Nat} (hi : s.content = .profile i) : s.onScreen = some i := by
  rw [onScreen, hi]

theorem underWay_eq_zero_iff : s.underWay = 0 ↔
    s.auth.calls.outstanding = [] ∧ s.signIns.outstanding = [] ∧ s.mainQueue = [] ∧
      s.signUp = none := by
  simp [underWay, and_assoc]

/-- One thing less is under way once a call has been answered. -/
theorem underWay_answered {serial : Nat} {call : String × StartAuthCompletion}
    {auth : PhoneAuth VerificationID StartAuthCompletion} (hone : s.underWay ≤ 1)
    (hcall : s.auth.calls.find? serial = some call)
    (hcalls : ∀ p, p ∈ auth.calls.outstanding ↔
      p ∈ s.auth.calls.outstanding ∧ p.1 ≠ serial) :
    App.underWay { s with auth } + 1 = s.underWay := by
  have hlen : s.auth.calls.outstanding.length ≤ 1 := by unfold underWay at hone; omega
  obtain ⟨hbefore, hafter⟩ := Calls.answered_of_length_le_one hlen hcall hcalls
  simp only [underWay, hbefore, hafter, List.length_singleton, List.length_nil]
  omega

theorem underWay_signInAnswered {serial : Nat} {call : SignInCall} {signIns : Calls SignInCall}
    {firebase : FirebaseAuth} (hone : s.underWay ≤ 1)
    (hcall : s.signIns.find? serial = some call)
    (hcalls : ∀ p, p ∈ signIns.outstanding ↔ p ∈ s.signIns.outstanding ∧ p.1 ≠ serial) :
    App.underWay { s with signIns, firebase } + 1 = s.underWay := by
  have hlen : s.signIns.outstanding.length ≤ 1 := by unfold underWay at hone; omega
  obtain ⟨hbefore, hafter⟩ := Calls.answered_of_length_le_one hlen hcall hcalls
  simp only [underWay, hbefore, hafter, List.length_singleton, List.length_nil]
  omega

theorem underWay_async (b : Block) : (s.async b).underWay = s.underWay + 1 := by
  simp only [underWay, async, List.length_append, List.length_singleton]
  omega

theorem underWay_dequeued {b : Block} {rest : List Block} (hqueue : s.mainQueue = b :: rest) :
    App.underWay { s with mainQueue := rest } + 1 = s.underWay := by
  simp only [underWay, hqueue, List.length_cons]
  omega

/-- While a sign-in is in flight no sheet is up or queued. -/
theorem alone_of_signIn {serial : Nat} {call : SignInCall} (hone : s.underWay ≤ 1)
    (hcall : s.signIns.find? serial = some call) : s.mainQueue = [] ∧ s.signUp = none := by
  have hpos : 0 < s.signIns.outstanding.length :=
    List.length_pos_of_mem (Calls.mem_of_find? hcall)
  have hrest : s.mainQueue.length = 0 ∧ s.signUp.toList.length = 0 := by
    unfold underWay at hone
    omega
  simpa using hrest

/-- With nothing under way the field may be copied over. -/
theorem copyKept_of_idle {i : Nat} (h : s.underWay = 0) : s.CopyKept i :=
  have hidle := underWay_eq_zero_iff.mp h
  .of_idle hidle.2.2.1 hidle.2.1

theorem codeKept_of_idle {i : Nat} (h : s.underWay = 0) : s.CodeKept i :=
  .of_idle (underWay_eq_zero_iff.mp h).2.2.1

/-- Without a sheet, up or queued, any user may be signed in. -/
theorem userMayBecome_of_noSheet (hqueue : s.mainQueue = []) (hsheet : s.signUp = none)
    (user : Option String) : s.UserMayBecome user := by
  refine ⟨?_, ?_⟩
  · intro sheet m hup
    simp [hsheet] at hup
  · intro i hi hblock
    simp [hqueue] at hblock

end UnderWay

-- ============================================================================
-- Such a user keeps the numbers
-- ============================================================================

namespace Orderly

variable {s : App Image} {ended : Bool} {e : Event Image}

theorem numberKept (h : s.Orderly ended) (htracked : s.Tracked) (hok : Waits (s, ended) e) :
    s.NumberKept e := by
  cases e with
  | edit range string => exact fun i _ => copyKept_of_idle hok
  | textFieldDidEndEditing i =>
      intro hi
      by_cases hidle : s.underWay = 0
      · exact copyKept_of_idle hidle
      · intro htitle n hn
        rw [← h.copied (.inr hidle) i hi htitle]
        exact htracked.copied i hi n hn
  | signOutBtnAction error =>
      cases error with
      | some e => trivial
      | none =>
          obtain ⟨-, -, hqueue, hsheet⟩ := underWay_eq_zero_iff.mp hok
          exact userMayBecome_of_noSheet hqueue hsheet none
  | verifyPhoneNumberReply serial error =>
      cases error with
      | some e => trivial
      | none =>
          intro n k hcall i hi _
          obtain ⟨hsame, -⟩ := h.asked _ (Calls.mem_of_find? hcall) i hi
          exact .inr (congrArg some hsame.symm)
  | signInReply serial error =>
      cases error with
      | some e => trivial
      | none =>
          intro call hcall
          obtain ⟨hqueue, hsheet⟩ := alone_of_signIn h.one hcall
          exact userMayBecome_of_noSheet hqueue hsheet _
  | _ => trivial

theorem otpNumberKept (h : s.Orderly ended) (htracked : s.OtpTracked) (hok : Waits (s, ended) e) :
    s.OtpNumberKept e := by
  cases e with
  | edit range string => exact fun i _ => codeKept_of_idle hok
  | textFieldDidEndEditing i =>
      intro hi
      by_cases hidle : s.underWay = 0
      · exact codeKept_of_idle hidle
      · intro htitle hwait
        rw [← h.copied (.inr hidle) i hi htitle]
        exact (htracked.code i hi hwait).1
  | verifyPhoneNumberReply serial error =>
      cases error with
      | some e => trivial
      | none =>
          intro n k hcall i hi _
          exact h.asked _ (Calls.mem_of_find? hcall) i hi
  | _ => trivial

end Orderly

-- ============================================================================
-- Preservation
-- ============================================================================

namespace Orderly

variable {s t : App Image} {b : Bool}

/-- With nothing under way only the field is in question. -/
theorem of_idle (hidle : s.underWay = 0)
    (hcopied : b = true → ∀ i, s.content = .profile i → (s.profiles i).Copied) :
    s.Orderly b := by
  refine ⟨Nat.le_trans (Nat.le_of_eq hidle) (Nat.zero_le 1), ?_, ?_⟩
  · rintro (hb | hbusy)
    · exact hcopied hb
    · exact absurd hidle hbusy
  · intro p hp
    rw [(underWay_eq_zero_iff.mp hidle).1] at hp
    cases hp

/-- A step that starts nothing and keeps the form on screen. -/
theorem frame (h : s.Orderly b) (hone : t.underWay ≤ s.underWay)
    (hcontent : t.content = s.content)
    (hnumber : ∀ i, s.content = .profile i →
      (t.profiles i).mobileNumberStr = (s.profiles i).mobileNumberStr)
    (hcopied : ∀ i, s.content = .profile i → (s.profiles i).Copied → (t.profiles i).Copied)
    (hcalls : ∀ p ∈ t.auth.calls.outstanding, p ∈ s.auth.calls.outstanding) :
    t.Orderly b := by
  refine ⟨Nat.le_trans hone h.one, ?_, ?_⟩
  · intro hwhen i hi
    rw [hcontent] at hi
    have hbefore : b = true ∨ s.underWay ≠ 0 := hwhen.imp_right fun hbusy => by
      have hbusy : t.underWay ≠ 0 := hbusy
      omega
    exact hcopied i hi (h.copied hbefore i hi)
  · intro p hp i hi
    rw [hcontent] at hi
    rw [hnumber i hi]
    exact h.asked p (hcalls p hp) i hi

theorem updateProfile (h : s.Orderly b) (j : Nat)
    {f : ProfileViewController Image → ProfileViewController Image} (hf : KeepsCopy f) :
    (s.updateProfile j f).Orderly b := by
  refine h.frame (Nat.le_refl _) rfl ?_ ?_ fun _ hp => hp
  · intro i _
    exact field_updateProfile s j f hf.mobileNumberStr i
  · intro i _ hbefore
    rw [profiles_updateProfile]
    split
    · next hij => exact hf.copied _ (hij ▸ hbefore)
    · exact hbefore

/-- The stores do not matter. -/
theorem stored (h : s.Orderly b) {defaults : UserDefaults} {firebase : FirebaseAuth} :
    App.Orderly { s with defaults, firebase } b :=
  h.frame (Nat.le_refl _) rfl (fun _ _ => rfl) (fun _ _ => id) fun _ hp => hp

theorem answered (h : s.Orderly b) {auth : PhoneAuth VerificationID StartAuthCompletion}
    {serial : Nat} {call : String × StartAuthCompletion}
    (hcall : s.auth.calls.find? serial = some call)
    (hcalls : ∀ p, p ∈ auth.calls.outstanding ↔
      p ∈ s.auth.calls.outstanding ∧ p.1 ≠ serial) : App.Orderly { s with auth } b := by
  have hless := underWay_answered h.one hcall hcalls
  exact h.frame (by omega) rfl (fun _ _ => rfl) (fun _ _ => id) fun p hp => ((hcalls p).mp hp).1

theorem signInAnswered (h : s.Orderly b) {signIns : Calls SignInCall} {serial : Nat}
    {call : SignInCall} (hcall : s.signIns.find? serial = some call)
    (hcalls : ∀ p, p ∈ signIns.outstanding ↔ p ∈ s.signIns.outstanding ∧ p.1 ≠ serial) :
    App.Orderly { s with signIns } b := by
  have hless : App.underWay { s with signIns } + 1 = s.underWay :=
    underWay_signInAnswered h.one hcall hcalls
  exact h.frame (by omega) rfl (fun _ _ => rfl) (fun _ _ => id) fun _ hp => hp

theorem dequeued (h : s.Orderly b) {block : Block} {rest : List Block}
    (hqueue : s.mainQueue = block :: rest) : App.Orderly { s with mainQueue := rest } b := by
  have hless := underWay_dequeued hqueue
  exact h.frame (by omega) rfl (fun _ _ => rfl) (fun _ _ => id) fun _ hp => hp

/-- The sheet stays, or goes. -/
theorem withSheet (h : s.Orderly b) {signUp : Option SignUpViewController}
    (hsheet : signUp.toList.length ≤ s.signUp.toList.length) :
    App.Orderly { s with signUp } b :=
  h.frame (Nat.add_le_add_left hsheet _) rfl (fun _ _ => rfl) (fun _ _ => id) fun _ hp => hp

/-- A code is asked for the copied number. -/
theorem startAuth (hidle : s.underWay = 0) {n : String} {k : StartAuthCompletion}
    (hcopied : ∀ i, s.content = .profile i → (s.profiles i).Copied)
    (hnumber : ∀ i, s.content = .profile i → (s.profiles i).mobileNumberStr = n ∧ n ≠ "") :
    (s.startAuth n k).Orderly b := by
  obtain ⟨hcalls, hsignIns, hqueue, hsheet⟩ := underWay_eq_zero_iff.mp hidle
  have hissued : (s.startAuth n k).auth.calls.outstanding = [(s.auth.calls.issued, n, k)] := by
    simp [App.startAuth, PhoneAuth.startAuth, Calls.issue, hcalls]
  refine ⟨?_, fun _ => hcopied, ?_⟩
  · have hone : (s.startAuth n k).underWay = 1 := by
      rw [underWay, hissued]
      simp [App.startAuth, hsignIns, hqueue, hsheet]
    exact Nat.le_of_eq hone
  · intro p hp
    rw [hissued, List.mem_singleton] at hp
    subst hp
    exact hnumber

/-- A field that ends editing has been copied: again, if something is under way. -/
theorem textFieldDidEndEditing (h : s.Orderly b) (j : Nat) :
    (s.updateProfile j fun vc => vc.textFieldDidEndEditing).Orderly
      (s.endedEditing b (.textFieldDidEndEditing j : Event Image)) := by
  by_cases hj : s.content = .profile j
  · refine ⟨h.one, ?_, ?_⟩
    · intro _ i hi
      obtain rfl := Screen.profile.inj (hj.symm.trans hi)
      intro htitle
      rw [profiles_updateProfile_self] at htitle ⊢
      rw [ProfileViewController.textFieldDidEndEditing,
        ProfileViewController.updateMobileNumbString_eq] at htitle ⊢
      exact if_neg htitle
    · intro p hp i hi
      obtain rfl := Screen.profile.inj (hj.symm.trans hi)
      have hp : p ∈ s.auth.calls.outstanding := hp
      have hbusy : s.underWay ≠ 0 := by
        intro hidle
        rw [(underWay_eq_zero_iff.mp hidle).1] at hp
        cases hp
      have hcopied := h.copied (.inr hbusy) j hi
      rw [profiles_updateProfile_self, ProfileViewController.textFieldDidEndEditing,
        ProfileViewController.updateMobileNumbString_eq]
      dsimp only
      split
      · exact h.asked p hp j hi
      · next htitle =>
          rw [← hcopied htitle]
          exact h.asked p hp j hi
  · have hflag : s.endedEditing b (.textFieldDidEndEditing j : Event Image) = b := by
      have hother : s.onScreen ≠ some j := fun hon => hj (onScreen_eq_some hon)
      simp [endedEditing, hother]
    have hother : ∀ i, s.content = .profile i →
        (s.updateProfile j fun vc => vc.textFieldDidEndEditing).profiles i = s.profiles i := by
      intro i hi
      refine profiles_updateProfile_ne _ _ _ ?_
      rintro rfl
      exact hj hi
    rw [hflag]
    refine h.frame (Nat.le_refl _) rfl ?_ ?_ fun _ hp => hp
    · intro i hi
      rw [hother i hi]
    · intro i hi hcopied
      rw [hother i hi]
      exact hcopied

end Orderly

variable [UIImage Image]

/-- A new controller has copied its field. -/
theorem copied_showViewController {s : App Image} {id : StoryboardID} {i : Nat}
    (hi : (s.showViewController id).content = .profile i) :
    ((s.showViewController id).profiles i).Copied := by
  cases id with
  | homeNavID => cases hi
  | underConstructionNavID => cases hi
  | profileNavID =>
      obtain rfl := Screen.profile.inj hi
      intro _
      rw [profiles_profileNavID, ProfileViewController.viewWillAppear_eq,
        ProfileViewController.checkUserSignIn_eq]
      rfl

theorem underWay_showViewController (s : App Image) (id : StoryboardID) :
    (s.showViewController id).underWay = s.underWay := by
  cases id <;> rfl

theorem orderly_launch (defaults : UserDefaults) (firebase : FirebaseAuth)
    (issued signInsIssued : Nat) (b : Bool) :
    (launch defaults firebase issued signInsIssued : App Image).Orderly b := by
  refine .of_idle ?_ fun _ _ => copied_showViewController
  rw [launch, underWay_showViewController]
  rfl

omit [UIImage Image] in
/-- A tap on Get OTP with the field copied. -/
theorem Orderly.sendSMSCode {s : App Image} {b : Bool} {i : Nat} (hinv : s.Orderly b)
    (hidle : s.underWay = 0) (hended : b = true) (hi : s.content = .profile i)
    (htitle : (s.profiles i).submitBtnTitle ≠ some "Verify OTP")
    (hlen : ((s.profiles i).mobileNumberTxt.text.map String.length).getD 0 > 0) :
    (s.sendSMSCode i).Orderly b := by
  have hanimating : (s.updateProfile i fun vc => vc.startAnimating).Orderly b :=
    hinv.updateProfile i .startAnimating
  have hcopied := hanimating.copied (.inl hended)
  refine startAuth (s := s.updateProfile i fun vc => vc.startAnimating) hidle hcopied ?_
  intro j hj
  obtain rfl := Screen.profile.inj (hi.symm.trans hj)
  have hcopied := hinv.copied (.inl hended) i hi htitle
  rw [profiles_updateProfile_self]
  refine ⟨hcopied, ?_⟩
  intro hempty
  change (s.profiles i).mobileNumberTxt.text.getD "" = "" at hempty
  cases htext : (s.profiles i).mobileNumberTxt.text with
  | none => simp [htext] at hlen
  | some text =>
      rw [htext, Option.getD_some] at hempty
      simp [htext, hempty] at hlen

omit [UIImage Image] in
/-- A tap on Verify. -/
theorem Orderly.verifyCode {s : App Image} {b : Bool} {i : Nat} {call : SignInCall}
    (hidle : s.underWay = 0) (hi : s.content = .profile i)
    (htitle : (s.profiles i).submitBtnTitle = some "Verify OTP") :
    App.Orderly { s with signIns := s.signIns.issue call } b := by
  obtain ⟨hcalls, hsignIns, hqueue, hsheet⟩ := underWay_eq_zero_iff.mp hidle
  refine ⟨?_, ?_, ?_⟩
  · simp [underWay, Calls.issue, hcalls, hsignIns, hqueue, hsheet]
  · intro _ j hj hnot
    obtain rfl := Screen.profile.inj (hi.symm.trans hj)
    exact absurd htitle hnot
  · intro p hp
    rw [hcalls] at hp
    cases hp

/-- Every step of a user who waits is orderly. -/
theorem Transition.orderly {s t : App Image} {e : Event Image} {b : Bool}
    (h : Transition s e t) (hs : s.WellFormed) (hotp : s.OtpTracked) (hinv : s.Orderly b)
    (hok : Waits (s, b) e) : t.Orderly (s.endedEditing b e) := by
  cases h with
  | edit hi => exact .of_idle hok nofun
  | closeOtpScreen hi => exact .of_idle hok nofun
  | textFieldDidEndEditing hi => exact hinv.textFieldDidEndEditing _
  | @sendSMSCode i hi hmode hlen =>
      have htitle : (s.profiles i).submitBtnTitle = some "Get OTP" := by
        rcases hs.form i with ⟨-, ht⟩ | ⟨hp, -⟩
        · exact ht
        · rw [hmode] at hp
          exact absurd hp (by decide)
      have hnot : (s.profiles i).submitBtnTitle ≠ some "Verify OTP" := by
        rw [htitle]
        decide
      exact hinv.sendSMSCode hok.1 (hok.2 i (onScreen_of_content hi) htitle) hi hnot hlen
  | numberEmpty hi hmode hlen => exact hinv.updateProfile _ .mobileNumberError
  | otpEmpty hi hmode htext => exact hinv.updateProfile _ (.otpIsNotValid _)
  | noVerificationId hi hmode hid => exact hinv.updateProfile _ (.otpIsNotValid _)
  | verifyCode hi hmode htext hid =>
      exact .verifyCode hok.1 hi ((hs.form _).placeholder_iff_title.mp hmode)
  | @resendOtpBtnAction i hi =>
      obtain ⟨hidle, htitle⟩ := hok
      refine .startAuth hidle ?_ ?_
      · intro j hj hnot
        exact absurd (htitle j (onScreen_of_content hj)) hnot
      · intro j hj
        obtain rfl := Screen.profile.inj (hi.symm.trans hj)
        exact ⟨rfl, (hotp.code i hi (.inl (htitle i (onScreen_of_content hi)))).2⟩
  | signOutBtnAction hi => exact hinv.stored.updateProfile _ (.signedOut _ _ _)
  | imagePicked hi => exact hinv.stored.updateProfile _ (.profileImg _)
  | signUpRejected hsheet htap => exact hinv.stored.withSheet (by simp [hsheet])
  | @signUpSubmitted sheet firstName lastName email hsheet htap =>
      have hdetails : (updateDetails
          { s with defaults := (sheet.filled firstName lastName email).stored s.defaults }
          sheet.delegate).Orderly b := by
        cases sheet.delegate with
        | none => exact hinv.stored
        | some i => exact hinv.stored.updateProfile _ (.updateDetails _ _)
      exact hdetails.withSheet (Nat.zero_le _)
  | rowIgnored hrow => exact hinv
  | rowShown hrow =>
      refine .of_idle ?_ fun _ _ => copied_showViewController
      rw [underWay_showViewController]
      exact hok
  | @verifyPhoneNumberFailed serial error n k auth herror hcall hshared hissued hcalls =>
      have hanswered := hinv.answered hcall hcalls
      cases k with
      | sendSMSCode i => exact hanswered.updateProfile _ .stopAnimating
      | resendOtpBtnAction i => exact hanswered
  | @verifyPhoneNumberSucceeded serial n k auth hcall hid hissued hcalls =>
      -- the block takes the place of the call
      refine hinv.frame ?_ rfl (fun _ _ => rfl) (fun _ _ => id) fun p hp => ((hcalls p).mp hp).1
      rw [underWay_async]
      exact Nat.le_of_eq (underWay_answered hinv.one hcall hcalls)
  | signInFailed herror hcall hcalls =>
      exact (hinv.signInAnswered hcall hcalls).updateProfile _ (.otpIsNotValid _)
  | @signInSucceeded serial call signIns hcall hcalls =>
      refine hinv.frame ?_ rfl (fun _ _ => rfl) (fun _ _ => id) fun _ hp => hp
      rw [underWay_async]
      exact Nat.le_of_eq (underWay_signInAnswered hinv.one hcall hcalls)
  | clearText hqueue => exact (hinv.dequeued hqueue).updateProfile _ .clearTextAndUpdateUIToOTP
  | presented hqueue hi hsheet =>
      -- the sheet takes the place of the block
      refine hinv.frame ?_ rfl (fun _ _ => rfl) (fun _ _ => id) fun _ hp => hp
      simp only [underWay, hqueue, hsheet, List.length_cons, Option.toList_some,
        Option.toList_none, List.length_nil]
      omega
  | notPresented hqueue h => exact hinv.dequeued hqueue
  | relaunch => exact orderly_launch ..

/-- All that is known of the numbers while the user waits. -/
structure Numbers (s : App Image) (ended : Bool) : Prop where
  wellFormed : s.WellFormed
  tracked : s.Tracked
  otpTracked : s.OtpTracked
  orderly : s.Orderly ended

theorem Transition.numbers {s t : App Image} {e : Event Image} {ended : Bool}
    (h : Transition s e t) (hs : s.Numbers ended) (hok : Waits (s, ended) e) :
    t.Numbers (s.endedEditing ended e) where
  wellFormed := h.wellFormed hs.wellFormed
  tracked := h.tracked hs.wellFormed hs.tracked (hs.orderly.numberKept hs.tracked hok)
  otpTracked :=
    h.otpTracked hs.wellFormed hs.otpTracked (hs.orderly.otpNumberKept hs.otpTracked hok)
  orderly := h.orderly hs.wellFormed hs.otpTracked hs.orderly hok

-- ============================================================================
-- Whole runs
-- ============================================================================

/-- **One thing at a time.**  In every run from the first launch of a user who
    waits, in every state reached, whichever replies come: the label of a form
    in OTP mode, the number that would be resent and the number the ID was
    issued for are the same; and the sheet writes under "mobileNumber" nothing
    but the number of the signed-in user. -/
theorem run_waits (es : List (Event Image)) (s : App Image) (ended : Bool)
    (hok : Along watch Waits (install, true) es)
    (h : run watch (install, true) es = some (s, ended)) :
    s.OtpCoherent ∧ s.WritesVerifiedNumber := by
  have hstep : ∀ (v : App Image × Bool) (e : Event Image) (w : App Image × Bool),
      v.1.Numbers v.2 → Waits v e → watch v e = some w → w.1.Numbers w.2 := by
    rintro ⟨v, ended⟩ e w hv hwait hw
    obtain ⟨t, ht, rfl⟩ := Option.map_eq_some_iff.mp hw
    exact (step_cases ht).numbers hv hwait
  have hinstall : (install : App Image).Numbers true :=
    ⟨wellFormed_launch .., tracked_launch .., otpTracked_launch .., orderly_launch ..⟩
  have hs := run_invariant hstep es _ _ hinstall hok h
  exact ⟨hs.otpTracked.otpCoherent, hs.tracked.writesVerifiedNumber hs.wellFormed⟩

/-- The number is typed, the keyboard closed, a code asked for, and asked for
    again; it is entered and the sheet appears. -/
def codeAskedTwice : List (Event Data) :=
  [.edit ⟨0, 0⟩ "555000", .edit ⟨6, 0⟩ "1", .textFieldDidEndEditing 0, .submitBtnAction,
   .verifyPhoneNumberReply 0 none, .runMainQueue, .resendOtpBtnAction,
   .verifyPhoneNumberReply 1 none, .runMainQueue, .edit ⟨0, 0⟩ "1234", .submitBtnAction,
   .signInReply 0 none, .runMainQueue]

/-- The theorem at this run. -/
theorem run_waits_codeAskedTwice :
    ∃ s ended, run watch (install, true) codeAskedTwice = some (s, ended) ∧
      (s.profiles 0).submitBtnTitle = some "Verify OTP" ∧
      s.firebase.currentUser = some "5550001" ∧ s.signUp.isSome ∧
      s.OtpCoherent ∧ s.WritesVerifiedNumber := by
  refine ⟨_, _, rfl, rfl, rfl, rfl, ?_⟩
  exact run_waits codeAskedTwice _ _ (by decide +kernel) rfl

end App

end Spark
