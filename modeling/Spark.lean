import Spark.Lib.Deferred
import Spark.App.VerifiedNumber
import Spark.App.OtpScreen
import Spark.App.WaitingUser
import Spark.App.SignedIn
import Spark.App.LiveForm
import Spark.App.ProfileDisplay
import Spark.App.SignOut
import Spark.App.StoredEmail
import Spark.App.Registration
import Spark.App.ActivityIndicator
import Spark.Controllers.MainSideMenu
import Spark.Controllers.SideMenuDrag
import Spark.Controllers.MainContent
import Spark.Controllers.DistanceReply
import Spark.Layout.Snapping
import Spark.Layout.Stacking
import Spark.Layout.Insets
import Spark.Firebase.WebUtils
import Spark.Firebase.RemoteNotifications
import Spark.Firebase.AppCredentialManager
import Spark.Firebase.PhoneAuthProvider
import Spark.Firebase.Progress
import Spark.Firebase.PhoneSignIn
import Spark.Firebase.Receipts
import Spark.Firebase.Completions
import Spark.Firebase.Announcements
import Spark.Firebase.TokenResult
import Spark.Firebase.Refreshing
import Spark.App.Components
