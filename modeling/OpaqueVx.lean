import OpaqueVx.Agreement
import OpaqueVx.Formats
import OpaqueVx.Lib.Relational
import OpaqueVx.KeyExchange.Group.Ed25519
import OpaqueVx.Completeness
import OpaqueVx.Indistinguishability
import OpaqueVx.EndToEnd
import OpaqueVx.Lib.Replies
import OpaqueVx.Persistence
import OpaqueVx.Identifiers
import OpaqueVx.KeyExchange.Group.Curve25519
import OpaqueVx.KeyExchange.Group.Ristretto255
import OpaqueVx.KeyExchange.Group.EllipticCurve
import OpaqueVx.KeyExchange.Group.Serde
import OpaqueVx.ReferenceCurves
import OpaqueVx.KeyExchange.Group.SharedSecret
import OpaqueVx.EnvelopeBinding
import OpaqueVx.KeyDerivation
import OpaqueVx.KeyExchange.Unambiguous
import OpaqueVx.MaskingRoundTrip
import OpaqueVx.Steps
import OpaqueVx.Preamble
import OpaqueVx.KeyExchange.Group.Eddsa
import OpaqueVx.KeyExchange.SigmaI.SignedMessages
import OpaqueVx.Lib.Failure
import OpaqueVx.LoginErrors
import OpaqueVx.Sessions
import OpaqueVx.Soundness
import OpaqueVx.Network.Passwords
import OpaqueVx.Network.Completeness
import OpaqueVx.Network.Unregistered
import OpaqueVx.Network.RemoteKeys
import OpaqueVx.Pkcs11.Deployment
import OpaqueVx.Examples.SimpleLogin
import OpaqueVx.Examples.DigitalLocker
