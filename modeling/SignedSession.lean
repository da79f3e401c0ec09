import SignedSession.Describe
import SignedSession.Settings.Environment
import SignedSession.Proofs.Json.Numerals
import SignedSession.Proofs.Json.Scanning
import SignedSession.Proofs.Json.Building
import SignedSession.Proofs.Json.Composition
import SignedSession.Proofs.Json.Members
import SignedSession.Proofs.Json.Reading
import SignedSession.Proofs.Claims.Fields
import SignedSession.Proofs.Claims.Members
import SignedSession.Proofs.Json.Arrangement
import SignedSession.Proofs.Json.Paths
import SignedSession.Proofs.Claims.RoundTrip
import SignedSession.Proofs.Claims.Printing
import SignedSession.Proofs.Claims.Integers
import SignedSession.Proofs.Delivery
import SignedSession.Proofs.Service.Acceptance
import SignedSession.Proofs.Service.CookieSession
import SignedSession.Proofs.Token.KeyIsolation
import SignedSession.Proofs.Token.Authenticity
import SignedSession.Proofs.Token.Integers
import SignedSession.Proofs.Http.Query
import SignedSession.Proofs.Service.Channels
import SignedSession.Proofs.Service.Blame
import SignedSession.Proofs.Service.Renewal
import SignedSession.Proofs.Response
import SignedSession.Proofs.Service.Construction
import SignedSession.Proofs.Settings.Loading
import SignedSession.Proofs.Service.Filling
import SignedSession.Proofs.Delivery.Writing
import SignedSession.Proofs.Service.Issuing
import SignedSession.Proofs.Delivery.Recovery
import SignedSession.Proofs.Delivery.EmptyValues
import SignedSession.Proofs.Delivery.Clearing
import SignedSession.Proofs.Settings.Unset
import SignedSession.Proofs.Service.LetterCase
import SignedSession.Proofs.Token.Attributes
