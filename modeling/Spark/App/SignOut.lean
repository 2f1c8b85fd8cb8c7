/-
  Spark.App.SignOut

  What sign-out leaves of the previous account.

  `ProfileTrace` is an abstract account of what a history does to the profile:
  the five values it is made of, the picture on screen and the header, each
  computed from the events alone.  `Traces` relates the app to it, over every
  run.  The profile data after a successful sign-out is then a function of the
  trace before it, in which the names, the picture on screen and the header are
  still there: sign-out removes "userName", which nothing writes, and not
  "firstName" and "lastName"; `loadImage` does not reset the picture; and the
  header is filled at launch only.
-/

import Spark.App.ProfileFrame

namespace Spark

open Spark.Lib

-- ============================================================================
-- The trace of a history
-- ============================================================================

/-- The stored values, the picture of the profile on screen and the header. -/
structure ProfileTrace (Image : Type) where
  firstName : Option String := none
  lastName : Option String := none
  emmailId : Option String := none
  profileImage : Option EncodedData := none
  profileImg : Option Image
  userNameLbl : String := ""
  emailLbl : String := ""
  deriving DecidableEq

namespace ProfileTrace

variable {Image : Type} [UIImage Image]

/-- The picture a new profile shows. -/
def loaded (a : ProfileTrace Image) : Option Image :=
  match a.profileImage with
  | none => some UIImage.personFill
  | some data => UIImage.ofData data.payload

/-- After a fresh install. -/
def install : ProfileTrace Image where
  profileImg := some UIImage.personFill

/-- A tap on the sheet's submit button stores the texts that precede the first
    one that fails. -/
def signedUp (a : ProfileTrace Image) (firstName lastName email : Option String) :
    ProfileTrace Image :=
  if firstName = some "" then a
  else if lastName = some "" then { a with firstName }
  else if email = some "" ∨ email = none then { a with firstName, lastName }
  else { a with firstName, lastName, emmailId := email }

/-- Sign-out removes "emmailId" and "profileImage", and neither name. -/
def signedOut (a : ProfileTrace Image) : ProfileTrace Image :=
  { a with emmailId := none, profileImage := none }

def next (a : ProfileTrace Image) : Event Image → ProfileTrace Image
  | .signUpBtnAction firstName lastName email => a.signedUp firstName lastName email
  | .signOutBtnAction _ => a.signedOut
  | .imagePicked img =>
      { a with
        profileImg := some img
        profileImage := ((UIImage.jpegData img).map EncodedData.mk).or a.profileImage }
  | .selectedCell row => if row = 1 then { a with profileImg := a.loaded } else a
  | .relaunch =>
      { a with
        profileImg := a.loaded
        userNameLbl := a.firstName.getD ""
        emailLbl := a.emmailId.getD "" }
  | _ => a

/-- The trace of a history from a fresh install. -/
def of (es : List (Event Image)) : ProfileTrace Image := es.foldl next install

/-- Two histories have left the same names, picture and header. -/
def SameLeftovers (a b : ProfileTrace Image) : Prop :=
  a.firstName = b.firstName ∧ a.lastName = b.lastName ∧ a.profileImg = b.profileImg ∧
    a.userNameLbl = b.userNameLbl ∧ a.emailLbl = b.emailLbl

end ProfileTrace

namespace App

variable {Image : Type} [UIImage Image]

-- ============================================================================
-- The app follows the trace
-- ============================================================================

/-- The app holds and shows what the trace says. -/
structure Traces (s : App Image) (a : ProfileTrace Image) : Prop where
  firstName : s.defaults "firstName" = a.firstName.map .string
  lastName : s.defaults "lastName" = a.lastName.map .string
  emmailId : s.defaults "emmailId" = a.emmailId.map .string
  profileImage : s.defaults "profileImage" = a.profileImage.map .data
  userNameLbl : s.sideMenu.userNameLbl.text = some a.userNameLbl
  emailLbl : s.sideMenu.emailLbl.text = some a.emailLbl
  profileImg : ∀ i, s.content = .profile i → (s.profiles i).profileImg = a.profileImg

namespace Traces

section Frame

omit [UIImage Image]

/-- A step that touches neither the store nor the header, and keeps the
    pictures. -/
theorem frame {s t : App Image} {a : ProfileTrace Image} (h : s.Traces a)
    (hdefaults : t.defaults = s.defaults) (hheader : t.sideMenu = s.sideMenu)
    (hcontent : t.content = s.content)
    (hpicture : ∀ i, (t.profiles i).profileImg = (s.profiles i).profileImg) : t.Traces a := by
  refine ⟨?_, ?_, ?_, ?_, ?_, ?_, ?_⟩
  · rw [hdefaults]; exact h.firstName
  · rw [hdefaults]; exact h.lastName
  · rw [hdefaults]; exact h.emmailId
  · rw [hdefaults]; exact h.profileImage
  · rw [hheader]; exact h.userNameLbl
  · rw [hheader]; exact h.emailLbl
  · intro i hi
    rw [hpicture]
    exact h.profileImg i (hcontent ▸ hi)

theorem of_keepsProfile {s t : App Image} {a : ProfileTrace Image} (h : s.Traces a)
    (hkeep : s.KeepsProfile t) : t.Traces a :=
  h.frame hkeep.defaults hkeep.sideMenu hkeep.content hkeep.profileImg

/-- The store after a tap on the sheet's submit button. -/
theorem signedUp {s : App Image} {a : ProfileTrace Image} (h : s.Traces a)
    (sheet : SignUpViewController) (firstName lastName email : Option String) :
    App.Traces
      { s with defaults := (sheet.filled firstName lastName email).stored s.defaults }
      (a.signedUp firstName lastName email) := by
  have hpicture : (sheet.filled firstName lastName email).stored s.defaults "profileImage" =
      s.defaults "profileImage" :=
    SignUpViewController.stored_of_other_key _ (by decide) (by decide) (by decide) (by decide)
  cases hsub : (sheet.filled firstName lastName email).signUpBtnAction.submitted with
  | true =>
      obtain ⟨hf, hl, he, hn⟩ := SignUpViewController.submitted_filled_iff.mp hsub
      obtain ⟨hfirst, hlast, hemail, -, -⟩ :=
        SignUpViewController.stored_of_submitted s.defaults hsub
      rw [ProfileTrace.signedUp, if_neg hf, if_neg hl, if_neg (by simp [he, hn])]
      exact ⟨hfirst, hlast, hemail, hpicture.trans h.profileImage, h.userNameLbl, h.emailLbl,
        h.profileImg⟩
  | false =>
      have hstored := SignUpViewController.stored_of_rejected s.defaults hsub
      have hfail : ¬ SignUpViewController.FieldsPass firstName lastName email := by
        rw [← SignUpViewController.submitted_filled_iff, hsub]
        exact Bool.false_ne_true
      rw [hstored, ProfileTrace.signedUp]
      by_cases hf : firstName = some ""
      · rw [if_pos hf, if_pos (by exact hf)]
        exact h
      by_cases hl : lastName = some ""
      · rw [if_neg hf, if_pos hl, if_neg (by exact hf), if_pos (by exact hl)]
        exact ⟨rfl, h.2, h.3, h.4, h.5, h.6, h.7⟩
      · have he : email = some "" ∨ email = none := by
          by_contra hne
          exact hfail ⟨hf, hl, not_or.mp hne⟩
        rw [if_neg hf, if_neg hl, if_pos he, if_neg (by exact hf), if_neg (by exact hl)]
        exact ⟨rfl, rfl, h.3, h.4, h.5, h.6, h.7⟩

end Frame

/-- A new profile shows the stored picture. -/
theorem showViewController {s : App Image} {a : ProfileTrace Image} (h : s.Traces a)
    (id : StoryboardID) :
    (s.showViewController id).Traces
      (if id = .profileNavID then { a with profileImg := a.loaded } else a) := by
  cases id with
  | homeNavID => exact ⟨h.1, h.2, h.3, h.4, h.5, h.6, nofun⟩
  | underConstructionNavID => exact ⟨h.1, h.2, h.3, h.4, h.5, h.6, nofun⟩
  | profileNavID =>
      refine ⟨h.1, h.2, h.3, h.4, h.5, h.6, ?_⟩
      intro i hi
      obtain rfl := Screen.profile.inj hi
      rw [profiles_profileNavID, ProfileViewController.viewWillAppear_eq,
        ProfileViewController.checkUserSignIn_eq, if_pos rfl]
      have hdata : s.defaults.data? "profileImage" = a.profileImage :=
        UserDefaults.data?_of_data h.profileImage
      simp only [ProfileViewController.updateUserDetails, ProfileViewController.shownImage,
        ProfileTrace.loaded, hdata]
      cases a.profileImage <;> rfl

theorem signedOut {s : App Image} {a : ProfileTrace Image} (h : s.Traces a) {i : Nat}
    (error : Option NSError) :
    (s.signOutBtnAction i error).Traces a.signedOut := by
  have hfirst : (s.signedOut error).defaults "firstName" = s.defaults "firstName" :=
    defaults_signedOut ..
  have hlast : (s.signedOut error).defaults "lastName" = s.defaults "lastName" :=
    defaults_signedOut ..
  have hemail : (s.signedOut error).defaults "emmailId" = none := defaults_signedOut ..
  have himage : (s.signedOut error).defaults "profileImage" = none := defaults_signedOut ..
  have hdata : (s.signedOut error).defaults.data? "profileImage" = none :=
    UserDefaults.data?_of_data (v := none) himage
  refine ⟨hfirst.trans h.firstName, hlast.trans h.lastName, hemail, himage, h.userNameLbl,
    h.emailLbl, ?_⟩
  intro j hj
  rw [App.signOutBtnAction, profiles_updateProfile]
  split
  · next hij =>
      subst hij
      rw [ProfileViewController.viewWillAppear_eq, ProfileViewController.checkUserSignIn_eq]
      simp only [ProfileViewController.updateUserDetails, ProfileViewController.shownImage, hdata]
      exact h.profileImg j hj
  · exact h.profileImg j hj

theorem imagePicked {s : App Image} {a : ProfileTrace Image} (h : s.Traces a) {i : Nat}
    {img : Image} (hi : s.content = .profile i) :
    (s.imagePicked i img).Traces
      { a with
        profileImg := some img
        profileImage := ((UIImage.jpegData img).map EncodedData.mk).or a.profileImage } := by
  have hkeys : ∀ k, k ≠ "profileImage" → (s.imagePicked i img).defaults k = s.defaults k :=
    fun k hk => ProfileViewController.saveImage_of_ne img s.defaults hk
  refine ⟨(hkeys _ (by decide)).trans h.firstName, (hkeys _ (by decide)).trans h.lastName,
    (hkeys _ (by decide)).trans h.emmailId, ?_, h.userNameLbl, h.emailLbl, ?_⟩
  · simp only [App.imagePicked, defaults_updateProfile, ProfileViewController.saveImage]
    cases UIImage.jpegData img with
    | none => exact h.profileImage
    | some data => simp
  · intro j hj
    obtain rfl := Screen.profile.inj (hi.symm.trans hj)
    rw [App.imagePicked, profiles_updateProfile_self]

end Traces

/-- At launch the header and a new profile are filled from the store. -/
theorem traces_launch {defaults : UserDefaults} {firebase : FirebaseAuth}
    {issued signInsIssued : Nat} {a : ProfileTrace Image}
    (hfirst : defaults "firstName" = a.firstName.map .string)
    (hlast : defaults "lastName" = a.lastName.map .string)
    (hemail : defaults "emmailId" = a.emmailId.map .string)
    (himage : defaults "profileImage" = a.profileImage.map .data) :
    (launch defaults firebase issued signInsIssued).Traces (a.next .relaunch) := by
  have hloaded : (loaded defaults firebase issued signInsIssued).Traces (a.next .relaunch) := by
    refine ⟨hfirst, hlast, hemail, himage, ?_, ?_, ?_⟩
    · simp only [loaded, SideMenuViewController.viewDidLoad, UserDefaults.string?_of_text hfirst]
      rfl
    · simp only [loaded, SideMenuViewController.viewDidLoad, UserDefaults.string?_of_text hemail]
      rfl
    · intro i hi
      cases hi
  rw [launch]
  split
  · exact hloaded.showViewController .homeNavID
  · exact hloaded.showViewController .profileNavID

/-- Every step does to the app what `next` does to the trace. -/
theorem Transition.traces {s t : App Image} {e : Event Image} {a : ProfileTrace Image}
    (h : Transition s e t) (ha : s.Traces a) : t.Traces (a.next e) := by
  -- the trace ignores the events that leave the profile
  have hkept : LeavesProfile e → t.Traces a := fun he => ha.of_keepsProfile (h.keepsProfile he)
  cases h with
  | signOutBtnAction hi => exact ha.signedOut _
  | imagePicked hi => exact ha.imagePicked hi
  | @signUpRejected sheet firstName lastName email hsheet htap =>
      have hstored := ha.signedUp sheet firstName lastName email
      exact hstored.frame rfl rfl rfl fun _ => rfl
  | @signUpSubmitted sheet firstName lastName email hsheet htap =>
      have hstored := ha.signedUp sheet firstName lastName email
      exact hstored.frame (defaults_updateDetails _ _) (sideMenu_updateDetails _ _)
        (content_updateDetails _ _) fun i => profileImg_updateDetails _ i _
  | @rowIgnored row hrow =>
      have hne : row ≠ 1 := by
        rintro rfl
        cases hrow
      rw [ProfileTrace.next, if_neg hne]
      exact hkept hrow
  | @rowShown row storyboardId hrow =>
      have hiff : storyboardId = .profileNavID ↔ row = 1 := by
        rw [← storyboardId?_eq_profile_iff, hrow, Option.some.injEq]
      have hshown := ha.showViewController storyboardId
      simp only [hiff] at hshown
      exact hshown
  | relaunch => exact traces_launch ha.firstName ha.lastName ha.emmailId ha.profileImage
  | _ => exact hkept trivial

/-- **The app follows the trace.**  A run from the first launch leaves the
    profile data its events add up to. -/
theorem run_traces {es : List (Event Image)} {s : App Image} (h : run step install es = some s) :
    s.Traces (.of es) := by
  have hinstall : (install : App Image).Traces .install :=
    traces_launch (a := .install) rfl rfl rfl rfl
  exact run_refines (fun s e t a _ ha ht => (step_cases ht).traces ha) es install s .install
    (along_true step install es) hinstall h

end App

-- ============================================================================
-- After sign-out
-- ============================================================================

/-- The profile data later screens read or show: the five stored values, the
    labels and the picture of the profile on screen, and the header. -/
structure ProfileData (Image : Type) where
  firstName : Option PropertyListValue
  lastName : Option PropertyListValue
  emmailId : Option PropertyListValue
  mobileNumber : Option PropertyListValue
  profileImage : Option PropertyListValue
  profileNameLbl : Option String
  profileEmailLbl : Option String
  profilePhoneNumberLbl : Option String
  profileImg : Option Image
  userNameLbl : Option String
  emailLbl : Option String

namespace ProfileTrace

variable {Image : Type}

/-- The profile data sign-out leaves after a history with trace `a`. -/
def leftovers (a : ProfileTrace Image) : ProfileData Image where
  firstName := a.firstName.map .string
  lastName := a.lastName.map .string
  emmailId := none
  mobileNumber := none
  profileImage := none
  profileNameLbl := some (a.firstName.getD "" ++ " " ++ a.lastName.getD "")
  profileEmailLbl := none
  profilePhoneNumberLbl := none
  profileImg := a.profileImg
  userNameLbl := some a.userNameLbl
  emailLbl := some a.emailLbl

theorem leftovers_eq_iff (a b : ProfileTrace Image) :
    a.leftovers = b.leftovers ↔ a.SameLeftovers b := by
  have hinj : Function.Injective (Option.map PropertyListValue.string) :=
    Option.map_injective fun _ _ => PropertyListValue.string.inj
  constructor
  · intro h
    simp only [leftovers, ProfileData.mk.injEq, Option.some.injEq, hinj.eq_iff] at h
    obtain ⟨hfirst, hlast, -, -, -, -, -, -, hpicture, hname, hemail⟩ := h
    exact ⟨hfirst, hlast, hpicture, hname, hemail⟩
  · rintro ⟨hfirst, hlast, hpicture, hname, hemail⟩
    simp only [leftovers, hfirst, hlast, hpicture, hname, hemail]

end ProfileTrace

namespace App

variable {Image : Type}

def profileData (s : App Image) : Option (ProfileData Image) :=
  s.onScreen.map fun i =>
    { firstName := s.defaults "firstName"
      lastName := s.defaults "lastName"
      emmailId := s.defaults "emmailId"
      mobileNumber := s.defaults "mobileNumber"
      profileImage := s.defaults "profileImage"
      profileNameLbl := (s.profiles i).profileNameLbl.text
      profileEmailLbl := (s.profiles i).profileEmailLbl.text
      profilePhoneNumberLbl := (s.profiles i).profilePhoneNumberLbl.text
      profileImg := (s.profiles i).profileImg
      userNameLbl := s.sideMenu.userNameLbl.text
      emailLbl := s.sideMenu.emailLbl.text }

variable [UIImage Image]

/-- Sign-out leaves what the trace of the history says. -/
theorem profileData_signOut {es : List (Event Image)} {t : App Image} {error : Option NSError}
    (h : run step install (es ++ [.signOutBtnAction error]) = some t) :
    t.profileData = some (ProfileTrace.of es).leftovers := by
  have hof : ProfileTrace.of (es ++ [.signOutBtnAction error]) = (ProfileTrace.of es).signedOut := by
    rw [ProfileTrace.of, List.foldl_append]
    rfl
  have htrace := run_traces h
  rw [hof] at htrace
  rw [run_append] at h
  obtain ⟨s, -, ht⟩ := Option.bind_eq_some_iff.mp h
  obtain ⟨u, hu, hrest⟩ := run_cons_some ht
  obtain rfl := Option.some.inj hrest
  obtain ⟨i, hi, rfl⟩ := Option.map_eq_some_iff.mp hu
  have hscreen : (s.signOutBtnAction i error).onScreen = some i := hi
  have hmobile : (s.signOutBtnAction i error).defaults "mobileNumber" = none := by
    rw [App.signOutBtnAction, defaults_updateProfile, defaults_signedOut]
    rfl
  have hnumber : (s.signOutBtnAction i error).defaults.string? "mobileNumber" = none :=
    UserDefaults.string?_of_text hmobile
  have hlabels : ((s.signOutBtnAction i error).profiles i).ShowsDetails
      (s.signOutBtnAction i error).defaults := by
    rw [App.signOutBtnAction, profiles_updateProfile_self]
    exact ProfileViewController.showsDetails_viewWillAppear _ _ _
  obtain ⟨hname, hemail, hphone⟩ := hlabels
  rw [UserDefaults.string?_of_text htrace.firstName,
    UserDefaults.string?_of_text htrace.lastName] at hname
  rw [UserDefaults.string?_of_text htrace.emmailId] at hemail
  rw [hnumber] at hphone
  simp only [profileData, hscreen, Option.map_some, htrace.firstName, htrace.lastName,
    htrace.emmailId, htrace.profileImage, htrace.userNameLbl, htrace.emailLbl,
    htrace.profileImg i (onScreen_eq_some hi), hname, hemail, hphone, hmobile]
  rfl

/-- **What sign-out leaks.**  For any two histories from a fresh install that
    end with a sign-out: the profile data is the same in the two end states
    exactly when the histories before it left the same first and last name in
    the store, the same picture on the profile, and the same header. -/
theorem profileData_signOut_eq_iff (es₁ es₂ : List (Event Image)) (t₁ t₂ : App Image)
    (h₁ : run step install (es₁ ++ [.signOutBtnAction none]) = some t₁)
    (h₂ : run step install (es₂ ++ [.signOutBtnAction none]) = some t₂) :
    t₁.profileData = t₂.profileData ↔ (ProfileTrace.of es₁).SameLeftovers (.of es₂) := by
  rw [profileData_signOut h₁, profileData_signOut h₂, Option.some.injEq,
    ProfileTrace.leftovers_eq_iff]

/-- A user signs in with a number and registers. -/
def registers (number firstName lastName email : String) : List (Event Data) :=
  [.edit ⟨0, 0⟩ number, .submitBtnAction, .textFieldDidEndEditing 0,
   .verifyPhoneNumberReply 0 none, .runMainQueue, .edit ⟨0, 0⟩ "1234", .submitBtnAction,
   .signInReply 0 none, .runMainQueue,
   .signUpBtnAction (some firstName) (some lastName) (some email)]

/-- The theorem at two users of one name: number and e-mail are forgotten. -/
theorem profileData_signOut_sameName :
    ∃ t₁ t₂ : App Data,
      run step install (registers "5550001" "Ann" "Lee" "ann@example.com" ++
        [.signOutBtnAction none]) = some t₁ ∧
      run step install (registers "5550002" "Ann" "Lee" "lee@example.org" ++
        [.signOutBtnAction none]) = some t₂ ∧
      t₁.profileData = t₂.profileData := by
  refine ⟨_, _, rfl, rfl, ?_⟩
  exact (profileData_signOut_eq_iff (registers "5550001" "Ann" "Lee" "ann@example.com")
    (registers "5550002" "Ann" "Lee" "lee@example.org") _ _ rfl rfl).mpr
    ⟨rfl, rfl, rfl, rfl, rfl⟩

/-- After Ann and after Bob have signed out, the profile still shows who it
    was. -/
theorem profileData_signOut_otherName :
    ∃ t₁ t₂ : App Data,
      run step install (registers "5550001" "Ann" "Lee" "ann@example.com" ++
        [.signOutBtnAction none]) = some t₁ ∧
      run step install (registers "5550002" "Bob" "Ray" "bob@example.com" ++
        [.signOutBtnAction none]) = some t₂ ∧
      t₁.firebase.currentUser = none ∧ t₂.firebase.currentUser = none ∧
      t₁.defaults "firstName" = some (.string "Ann") ∧
      t₂.defaults "firstName" = some (.string "Bob") ∧
      t₁.profileData ≠ t₂.profileData := by
  refine ⟨_, _, rfl, rfl, rfl, rfl, rfl, rfl, ?_⟩
  intro h
  have hname := congrArg (Option.map ProfileData.firstName) h
  exact absurd hname (by decide)

end App

end Spark
