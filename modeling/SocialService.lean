import SocialService.Library.EvenOdd
import SocialService.Library.EventMachine
import SocialService.Library.CharPattern
import SocialService.Library.Numeral
import SocialService.Library.Trapping
import SocialService.Region
import SocialService.RegionReach
import SocialService.Model
import SocialService.DataController
import SocialService.SwiftyJSON
import SocialService.Services
import SocialService.Credentials
import SocialService.KeychainAccess
import SocialService.KeychainRuns
import SocialService.Validation
import SocialService.EmailFormat
import SocialService.PhoneNumber
import SocialService.LocationViewController
import SocialService.Storyboard
import SocialService.DescriptionCell
import SocialService.FormTableController
import SocialService.CompleteForms
import SocialService.DescriptionSessions
import SocialService.App
import SocialService.LoginController
import SocialService.SignInController
import SocialService.AppEvents
import SocialService.AppSteps
import SocialService.AppShape
import SocialService.AccessGate
import SocialService.Submission
import SocialService.AppSurvival
import SocialService.RequestLedger
import SocialService.ProfileStore
import SocialService.SharedIdentity
import SocialService.ProgressWindow
import SocialService.ProfileRoundTrip
import SocialService.ServiceAnswers
import SocialService.MapScreen
import SocialService.FormScreen
import SocialService.FormFlow
import SocialService.FormFlowSteps
import SocialService.FormRefinement
import SocialService.FormRuns
import SocialService.FormDisplay
import SocialService.Survival
import SocialService.Isolation
import SocialService.ProgressHUD
import SocialService.ProgressHUDRuns
import SocialService.AppWindows
import SocialService.AppWindowsRuns
import SocialService.AppKeychain
import SocialService.FacebookLogin
import SocialService.FacebookLoginRuns
import SocialService.AppLogin
