/-
  Spark.App.ProfileFrame

  The steps that leave the profile alone.

  Sign-out, a picked picture, a tap on the sheet's button, a row of the menu and
  a launch write the store or change what is shown of it; `LeavesProfile` is
  every other event, the whole of the phone sign-in among them.  Such a step
  changes neither the store nor a label nor a picture
  (`Transition.keepsProfile`).
-/

import Spark.App.Step

namespace Spark

namespace App

variable {Image : Type}

-- ============================================================================
-- The frame
-- ============================================================================

/-- From `s` to `t` the store, the header, the screen and what every controller
    shows of the profile stay; a sheet may have been put up. -/
structure KeepsProfile (s t : App Image) : Prop where
  defaults : t.defaults = s.defaults
  sideMenu : t.sideMenu = s.sideMenu
  content : t.content = s.content
  signUp : t.signUp = none → s.signUp = none
  profileNameLbl : ∀ i, (t.profiles i).profileNameLbl = (s.profiles i).profileNameLbl
  profileEmailLbl : ∀ i, (t.profiles i).profileEmailLbl = (s.profiles i).profileEmailLbl
  profilePhoneNumberLbl : ∀ i,
    (t.profiles i).profilePhoneNumberLbl = (s.profiles i).profilePhoneNumberLbl
  profileImg : ∀ i, (t.profiles i).profileImg = (s.profiles i).profileImg

namespace KeepsProfile

theorem trans {s t u : App Image} (h : s.KeepsProfile t) (h' : t.KeepsProfile u) :
    s.KeepsProfile u where
  defaults := h'.defaults.trans h.defaults
  sideMenu := h'.sideMenu.trans h.sideMenu
  content := h'.content.trans h.content
  signUp hu := h.signUp (h'.signUp hu)
  profileNameLbl i := (h'.profileNameLbl i).trans (h.profileNameLbl i)
  profileEmailLbl i := (h'.profileEmailLbl i).trans (h.profileEmailLbl i)
  profilePhoneNumberLbl i := (h'.profilePhoneNumberLbl i).trans (h.profilePhoneNumberLbl i)
  profileImg i := (h'.profileImg i).trans (h.profileImg i)

/-- A step that touches no controller. -/
theorem of_profiles {s t : App Image} (hdefaults : t.defaults = s.defaults)
    (hsideMenu : t.sideMenu = s.sideMenu) (hcontent : t.content = s.content)
    (hsignUp : t.signUp = none → s.signUp = none) (hprofiles : t.profiles = s.profiles) :
    s.KeepsProfile t := by
  refine ⟨hdefaults, hsideMenu, hcontent, hsignUp, ?_, ?_, ?_, ?_⟩
  all_goals
    intro i
    rw [hprofiles]

/-- A handler of one controller that keeps what it shows. -/
theorem updateProfile (s : App Image) (j : Nat)
    {f : ProfileViewController Image → ProfileViewController Image}
    (hf : ProfileViewController.KeepsProfile f) : s.KeepsProfile (s.updateProfile j f) where
  defaults := rfl
  sideMenu := rfl
  content := rfl
  signUp := id
  profileNameLbl := field_updateProfile s j f hf.profileNameLbl
  profileEmailLbl := field_updateProfile s j f hf.profileEmailLbl
  profilePhoneNumberLbl := field_updateProfile s j f hf.profilePhoneNumberLbl
  profileImg := field_updateProfile s j f hf.profileImg

end KeepsProfile

-- ============================================================================
-- Which steps keep it
-- ============================================================================

/-- The event neither writes the store nor refreshes or replaces a screen. -/
def LeavesProfile : Event Image → Prop
  | .signOutBtnAction _ => False
  | .imagePicked _ => False
  | .signUpBtnAction _ _ _ => False
  | .selectedCell row => storyboardId? row = none
  | .relaunch => False
  | _ => True

variable [UIImage Image]

theorem Transition.keepsProfile {s t : App Image} {e : Event Image} (h : Transition s e t)
    (he : LeavesProfile e) : s.KeepsProfile t := by
  -- outside the controllers only calls, the queue and the sheet change
  have hframe : ∀ {u : App Image}, u.defaults = s.defaults → u.sideMenu = s.sideMenu →
      u.content = s.content → u.signUp = s.signUp → u.profiles = s.profiles →
      s.KeepsProfile u := by
    intro u hdefaults hsideMenu hcontent hsignUp hprofiles
    refine .of_profiles hdefaults hsideMenu hcontent ?_ hprofiles
    rw [hsignUp]
    exact id
  cases h with
  | edit hi => exact .updateProfile _ _ (.edit _ _)
  | textFieldDidEndEditing hi => exact .updateProfile _ _ .textFieldDidEndEditing
  | @sendSMSCode i hi hmode hlen =>
      have hanimating : s.KeepsProfile (s.updateProfile i fun vc => vc.startAnimating) :=
        .updateProfile s i .startAnimating
      exact hanimating.trans (.of_profiles rfl rfl rfl id rfl)
  | numberEmpty hi hmode hlen => exact .updateProfile _ _ .mobileNumberError
  | otpEmpty hi hmode htext => exact .updateProfile _ _ (.otpIsNotValid _)
  | noVerificationId hi hmode hid => exact .updateProfile _ _ (.otpIsNotValid _)
  | closeOtpScreen hi => exact .updateProfile _ _ .closeOtpScreen
  | @verifyPhoneNumberFailed serial error n k auth herror hcall hshared hissued hcalls =>
      have hanswered : s.KeepsProfile { s with auth } := hframe rfl rfl rfl rfl rfl
      cases k with
      | sendSMSCode i => exact hanswered.trans (.updateProfile _ i .stopAnimating)
      | resendOtpBtnAction i => exact hanswered
  | @signInFailed serial error call signIns herror hcall hcalls =>
      have hanswered : s.KeepsProfile { s with signIns } := hframe rfl rfl rfl rfl rfl
      exact hanswered.trans (.updateProfile _ _ (.otpIsNotValid _))
  | @clearText i rest hqueue =>
      have hdequeued : s.KeepsProfile { s with mainQueue := rest } := hframe rfl rfl rfl rfl rfl
      exact hdequeued.trans (.updateProfile _ i .clearTextAndUpdateUIToOTP)
  | presented hqueue hi hsheet => exact .of_profiles rfl rfl rfl nofun rfl
  | rowShown hrow =>
      have hnone := hrow.symm.trans he
      cases hnone
  | signOutBtnAction hi => exact he.elim
  | imagePicked hi => exact he.elim
  | signUpRejected hsheet htap => exact he.elim
  | signUpSubmitted hsheet htap => exact he.elim
  | relaunch => exact he.elim
  | _ => exact hframe rfl rfl rfl rfl rfl

end App

end Spark
