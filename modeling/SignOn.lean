import SignOn.Main
import SignOn.Site
import SignOn.Validation.Records
import SignOn.Proofs.Attempts
import SignOn.Proofs.LoopGuard
import SignOn.Proofs.ProviderCallback
import SignOn.Proofs.PendingRedirect
import SignOn.Proofs.Form
import SignOn.Proofs.SharedSession
import SignOn.Proofs.LoginRoundTrip
import SignOn.Proofs.Parameters
import SignOn.Proofs.Registrations
import SignOn.Proofs.DeferredRedirect
import SignOn.Proofs.PasswordLogin
import SignOn.Proofs.JsonText
import SignOn.Proofs.JsonRoundTrip
import SignOn.Proofs.SavedSettings
import SignOn.Proofs.ConfigFile
import SignOn.Proofs.Failures
import SignOn.Proofs.Deployment
import SignOn.Proofs.Check
import SignOn.Proofs.TypedId
import SignOn.Proofs.CallbackNames
import SignOn.Proofs.RegistrationCalls
import SignOn.Proofs.Deployable
import SignOn.Proofs.Directories
import SignOn.Proofs.AtomicSave
import SignOn.Proofs.Strays
import SignOn.Proofs.Initialisation
import SignOn.Proofs.Destinations
import SignOn.Proofs.Secrecy
import SignOn.Proofs.Base64
import SignOn.Proofs.BasicHeader
import SignOn.Proofs.JsonBytes
import SignOn.Proofs.ProviderAnswers
import SignOn.Proofs.ProviderAttributes
import SignOn.Proofs.ProviderProfile
import SignOn.Proofs.CallbackRequired
import SignOn.Proofs.ExtendedUrl
import SignOn.Proofs.AuthorizationUrl
import SignOn.Proofs.ContextualUrl
import SignOn.Proofs.AbsoluteUrl
import SignOn.Proofs.TaggedUrl
import SignOn.Proofs.ClientListing
import SignOn.Proofs.LoadedFile
import SignOn.Proofs.ReportedUrl
import SignOn.Proofs.Enrichment
import SignOn.Proofs.EnrichedProfiles
import SignOn.Proofs.RepeatedEnrichment
import SignOn.Proofs.DelimitedAttributes
import SignOn.Proofs.FreshSecrets
