/-
  Spark.App.ProfileDisplay

  What is shown of the stored profile.

  The side menu's header and the controller on screen are caches of the store,
  refreshed at different moments: the header by its `viewDidLoad` only, the
  labels by `viewWillAppear` and by the sheet's delegate, the picture by
  `loadImage`, which does nothing when no picture is stored.  `DisplayTracked`
  says that they agree with the store, and `RefreshKept` that no write misses
  the refresh of a cache.
-/

import Spark.App.ProfileFrame

namespace Spark

open Spark.Lib

namespace App

variable {Image : Type} [UIImage Image]

/-- Every screen that shows the stored profile agrees with the store. -/
def DisplayAgrees (s : App Image) : Prop :=
  s.signUp = none →
    s.sideMenu.ShowsDetails s.defaults ∧
    ∀ i, s.content = .profile i →
      (s.profiles i).ShowsDetails s.defaults ∧ (s.profiles i).ShowsPicture s.defaults

/-- The header and the labels agree with the store unless a sheet, which writes
    field by field, is up; the picture agrees always. -/
structure DisplayTracked (s : App Image) : Prop where
  header : s.signUp = none → s.sideMenu.ShowsDetails s.defaults
  labels : ∀ i, s.content = .profile i → s.signUp = none →
    (s.profiles i).ShowsDetails s.defaults
  picture : ∀ i, s.content = .profile i → (s.profiles i).ShowsPicture s.defaults

theorem DisplayTracked.displayAgrees {s : App Image} (h : s.DisplayTracked) : s.DisplayAgrees :=
  fun hsheet => ⟨h.header hsheet, fun i hi => ⟨h.labels i hi hsheet, h.picture i hi⟩⟩

/-- The step refreshes what it writes:
    * a sheet is submitted only with the first name and e-mail the header shows
      already, and its delegate is the profile on screen;
    * sign-out finds no e-mail in the header and no picture in the profile;
    * a picture that is picked can be encoded. -/
def RefreshKept (s : App Image) : Event Image → Prop
  | .signUpBtnAction firstName lastName email =>
      SignUpViewController.FieldsPass firstName lastName email →
        s.sideMenu.userNameLbl.text = some (firstName.getD "") ∧
        s.sideMenu.emailLbl.text = some (email.getD "") ∧
        ∀ sheet i, s.signUp = some sheet → s.content = .profile i → sheet.delegate = some i
  | .signOutBtnAction _ =>
      (s.signUp = none → s.sideMenu.emailLbl.text = some "") ∧
      ∀ i, s.content = .profile i → (s.profiles i).profileImg = some UIImage.personFill
  | .imagePicked img =>
      (UIImage.jpegData img).isSome = true ∨
        ∀ i, s.content = .profile i → (s.profiles i).profileImg = some img
  | _ => True

-- ============================================================================
-- Preservation
-- ============================================================================

namespace DisplayTracked

theorem of_keepsProfile {s t : App Image} (h : s.DisplayTracked) (hkeep : s.KeepsProfile t) :
    t.DisplayTracked := by
  constructor
  · intro hsheet
    rw [hkeep.defaults, hkeep.sideMenu]
    exact h.header (hkeep.signUp hsheet)
  · intro i hi hsheet
    have hlabels := h.labels i (hkeep.content ▸ hi) (hkeep.signUp hsheet)
    rw [ProfileViewController.ShowsDetails, hkeep.defaults, hkeep.profileNameLbl,
      hkeep.profileEmailLbl, hkeep.profilePhoneNumberLbl]
    exact hlabels
  · intro i hi
    have hpicture := h.picture i (hkeep.content ▸ hi)
    rw [ProfileViewController.ShowsPicture, hkeep.defaults, hkeep.profileImg]
    exact hpicture

/-- A new profile loads what is stored. -/
theorem showViewController {s : App Image} (h : s.DisplayTracked) (id : StoryboardID) :
    (s.showViewController id).DisplayTracked := by
  cases id with
  | homeNavID => exact ⟨h.header, nofun, nofun⟩
  | underConstructionNavID => exact ⟨h.header, nofun, nofun⟩
  | profileNavID =>
      refine ⟨h.header, ?_, ?_⟩
      · intro i hi _
        obtain rfl := Screen.profile.inj hi
        rw [profiles_profileNavID]
        exact ProfileViewController.showsDetails_viewWillAppear _ _ _
      · intro i hi
        obtain rfl := Screen.profile.inj hi
        rw [profiles_profileNavID]
        exact ProfileViewController.showsPicture_viewWillAppear _ fun _ => rfl

theorem imagePicked {s : App Image} (h : s.DisplayTracked) {i : Nat} {img : Image}
    (hi : s.content = .profile i)
    (hok : (UIImage.jpegData img).isSome = true ∨ (s.profiles i).profileImg = some img) :
    (s.imagePicked i img).DisplayTracked := by
  have hkeys : ∀ k, k ≠ "profileImage" → (s.imagePicked i img).defaults k = s.defaults k :=
    fun k hk => ProfileViewController.saveImage_of_ne img s.defaults hk
  constructor
  · intro hsheet
    exact (h.header hsheet).of_eq (hkeys _ (by decide)) (hkeys _ (by decide))
  · intro j hj hsheet
    obtain rfl := Screen.profile.inj (hi.symm.trans hj)
    have hlabels := (h.labels i hi hsheet).of_eq (hkeys _ (by decide)) (hkeys _ (by decide))
      (hkeys _ (by decide)) (hkeys _ (by decide))
    rw [App.imagePicked, profiles_updateProfile_self]
    exact hlabels
  · intro j hj
    obtain rfl := Screen.profile.inj (hi.symm.trans hj)
    rw [App.imagePicked, profiles_updateProfile_self]
    cases hdata : UIImage.jpegData img with
    | none =>
        have hsame : (s.profiles i).profileImg = some img := by simpa [hdata] using hok
        have hpicture := h.picture i hi
        simpa [ProfileViewController.ShowsPicture, ProfileViewController.saveImage, hdata, hsame]
          using hpicture
    | some data =>
        simp [ProfileViewController.ShowsPicture, ProfileViewController.saveImage, hdata,
          UserDefaults.data?]

theorem signOutBtnAction {s : App Image} (h : s.DisplayTracked) {i : Nat}
    {error : Option NSError} (hi : s.content = .profile i)
    (hheader : s.signUp = none → s.sideMenu.emailLbl.text = some "")
    (hpicture : (s.profiles i).profileImg = some UIImage.personFill) :
    (s.signOutBtnAction i error).DisplayTracked := by
  constructor
  · intro hsheet
    have hfirst : (s.signedOut error).defaults.string? "firstName" =
        s.defaults.string? "firstName" := UserDefaults.string?_of_eq (defaults_signedOut ..)
    have hemail : (s.signedOut error).defaults.string? "emmailId" = none := by
      rw [UserDefaults.string?, defaults_signedOut]
      rfl
    rw [App.signOutBtnAction, defaults_updateProfile, SideMenuViewController.ShowsDetails, hfirst,
      hemail]
    exact ⟨(h.header hsheet).1, hheader hsheet⟩
  · intro j hj _
    obtain rfl := Screen.profile.inj (hi.symm.trans hj)
    rw [App.signOutBtnAction, profiles_updateProfile_self]
    exact ProfileViewController.showsDetails_viewWillAppear _ _ _
  · intro j hj
    obtain rfl := Screen.profile.inj (hi.symm.trans hj)
    rw [App.signOutBtnAction, profiles_updateProfile_self]
    exact ProfileViewController.showsPicture_viewWillAppear _ fun _ => hpicture

/-- A rejected sheet stays up; it does not write the picture. -/
theorem signUpRejected {s : App Image} (h : s.DisplayTracked) (sheet sheet' : SignUpViewController) :
    App.DisplayTracked
      { s with defaults := sheet.stored s.defaults, signUp := some sheet' } := by
  refine ⟨nofun, nofun, ?_⟩
  intro i hi
  refine (h.picture i hi).of_eq ?_
  exact SignUpViewController.stored_of_other_key _ (by decide) (by decide) (by decide) (by decide)

theorem signUpSubmitted {s : App Image} (h : s.DisplayTracked) {sheet : SignUpViewController}
    (htap : sheet.signUpBtnAction.submitted = true)
    (hfirst : s.sideMenu.userNameLbl.text = some (sheet.firstNameTxtFld.text.getD ""))
    (hemail : s.sideMenu.emailLbl.text = some (sheet.emailTxtFld.text.getD ""))
    (hdelegate : ∀ i, s.content = .profile i → sheet.delegate = some i) :
    App.DisplayTracked
      { updateDetails { s with defaults := sheet.stored s.defaults } sheet.delegate with
        signUp := none } := by
  obtain ⟨hf, -, he, -, -⟩ := SignUpViewController.stored_of_submitted s.defaults htap
  have hpicture : sheet.stored s.defaults "profileImage" = s.defaults "profileImage" :=
    SignUpViewController.stored_of_other_key _ (by decide) (by decide) (by decide) (by decide)
  constructor
  · intro _
    simp only [defaults_updateDetails, sideMenu_updateDetails]
    rw [SideMenuViewController.ShowsDetails, UserDefaults.string?_of_text hf,
      UserDefaults.string?_of_text he]
    exact ⟨hfirst, hemail⟩
  · intro i hi _
    simp only [content_updateDetails] at hi
    rw [hdelegate i hi, App.updateDetails, profiles_updateProfile_self]
    exact ProfileViewController.showsDetails_updateDetails _ _ _
  · intro i hi
    simp only [content_updateDetails] at hi
    have hstored := (h.picture i hi).of_eq hpicture
    simp only [ProfileViewController.ShowsPicture, profileImg_updateDetails,
      defaults_updateDetails]
    exact hstored

end DisplayTracked

theorem displayTracked_launch (defaults : UserDefaults) (firebase : FirebaseAuth)
    (issued signInsIssued : Nat) :
    (launch defaults firebase issued signInsIssued : App Image).DisplayTracked := by
  refine DisplayTracked.showViewController ⟨?_, ?_, ?_⟩ _
  · intro _
    exact SideMenuViewController.showsDetails_viewDidLoad defaults
  · intro i hi
    cases hi
  · intro i hi
    cases hi

/-- Every step that `RefreshKept` allows keeps the screens in step with the
    store. -/
theorem Transition.displayTracked {s t : App Image} {e : Event Image} (h : Transition s e t)
    (hinv : s.DisplayTracked) (hok : s.RefreshKept e) : t.DisplayTracked := by
  have hkept : LeavesProfile e → t.DisplayTracked :=
    fun he => hinv.of_keepsProfile (h.keepsProfile he)
  cases h with
  | signOutBtnAction hi => exact hinv.signOutBtnAction hi hok.1 (hok.2 _ hi)
  | imagePicked hi =>
      have hshown := hok.imp_right fun hsame => hsame _ hi
      exact hinv.imagePicked hi hshown
  | signUpRejected hsheet htap => exact hinv.signUpRejected _ _
  | @signUpSubmitted sheet firstName lastName email hsheet htap =>
      have hfields := SignUpViewController.submitted_filled_iff.mp htap
      obtain ⟨hfirst, hemail, hdelegate⟩ := hok hfields
      exact hinv.signUpSubmitted htap hfirst hemail fun i hi => hdelegate sheet i hsheet hi
  | rowIgnored hrow => exact hkept hrow
  | rowShown hrow => exact hinv.showViewController _
  | relaunch => exact displayTracked_launch ..
  | _ => exact hkept trivial

-- ============================================================================
-- Whole runs
-- ============================================================================

/-- **Every screen agrees with the store.**  In every run from the first launch
    whose steps `RefreshKept` allows, in every state reached in which no sheet
    is presented, the header, and the labels and the picture of the profile on
    screen, show what is stored. -/
theorem run_displayAgrees (es : List (Event Image)) (s : App Image)
    (hok : Along step RefreshKept install es) (h : run step install es = some s) :
    s.DisplayAgrees :=
  (invariant (displayTracked_launch ..)
    (fun _ _ _ htrans _ => htrans.displayTracked) hok h).2.displayAgrees

/-- A picture is picked, the user goes home and back, and the app is relaunched. -/
def picturePicked : List (Event Data) :=
  [.imagePicked [1, 2, 3], .selectedCell 0, .selectedCell 1, .relaunch]

/-- The theorem at this run: the picture is loaded from the store. -/
theorem run_displayAgrees_picturePicked :
    ∃ s, run step install picturePicked = some s ∧
      (s.profiles 0).profileImg = some [1, 2, 3] ∧ s.DisplayAgrees := by
  refine ⟨_, rfl, rfl, run_displayAgrees picturePicked _ ?_ rfl⟩
  refine .cons rfl (.inl rfl) ?_
  iterate 3 refine .cons rfl trivial ?_
  trivial

/-- Ann signs in, registers and picks a picture. -/
def annRegisters : List (Event Data) :=
  [.edit ⟨0, 0⟩ "5550001", .submitBtnAction, .textFieldDidEndEditing 0,
   .verifyPhoneNumberReply 0 none, .runMainQueue, .edit ⟨0, 0⟩ "1234", .submitBtnAction,
   .signInReply 0 none, .runMainQueue,
   .signUpBtnAction (some "Ann") (some "Lee") (some "ann@example.com"),
   .imagePicked [1, 2, 3], .signOutBtnAction none]

/-- After sign-out the picture is still shown, and the header never showed her
    name. -/
theorem annRegisters_not_displayAgrees :
    ∃ s, run step install annRegisters = some s ∧ s.signUp = none ∧
      s.defaults "profileImage" = none ∧ (s.profiles 0).profileImg = some [1, 2, 3] ∧
      s.defaults "firstName" = some (.string "Ann") ∧ s.sideMenu.userNameLbl.text = some "" ∧
      ¬ s.DisplayAgrees := by
  refine ⟨_, rfl, rfl, rfl, rfl, rfl, rfl, ?_⟩
  intro h
  have hname : some "" = some "Ann" := (h rfl).1.1
  exact absurd hname (by decide)

end App

end Spark
