import Praeco.Collections.Edits
import Praeco.Net.Address
import Praeco.Router.Config
import Praeco.Strings.Fields

/-! The headers of an upstream request. `prepareProxyHeaders` edits the client's headers in phases, each of which
reads what the earlier ones have left. -/

namespace Praeco.Router.Headers
open Praeco.Strings Utf8 Fields Praeco.Http.Message Praeco.Net.Address Praeco.Collections.Edits
open Praeco.Router.Config (Protocol)

def isTokenByte (b : UInt8) : Bool :=
  (48 ≤ b ∧ b ≤ 57) || (65 ≤ b ∧ b ≤ 90) || (97 ≤ b ∧ b ≤ 122) ||
    b ∈ [33, 35, 36, 37, 38, 39, 42, 43, 45, 46, 94, 95, 96, 124, 126]

def headerName (text : Text) : Option Text :=
  if utf8 text ≠ [] ∧ (utf8 text).length < 65536 ∧ (utf8 text).all isTokenByte then
    some ((latin1 (utf8 text)).map Char.toLower)
  else none

def connection : Text := "connection".toList

def te : Text := "te".toList

def transferEncoding : Text := "transfer-encoding".toList

def upgrade : Text := "upgrade".toList

def hopByHopHeaders : List Text :=
  [connection, "proxy-authenticate".toList, "proxy-authorization".toList, te, "trailer".toList, transferEncoding,
    upgrade, "keep-alive".toList, "proxy-connection".toList]

def identityHeadersDenylist : List Text :=
  ["x-client-cert".toList, "x-client-certificate".toList, "x-ssl-client-cert".toList, "x-ssl-certificate".toList,
    "ssl-client-cert".toList, "x-forwarded-tls-client-cert".toList, "x-forwarded-client-cert".toList,
    "x-client-san".toList, "x-ssl-client-san".toList, "ssl-client-san".toList, "x-client-cert-san".toList,
    "x-client-roles".toList, "x-client-role".toList, "x-user-roles".toList, "x-user-role".toList,
    "x-auth-roles".toList, "x-auth-role".toList, "x-user-role-oid".toList, "x-authenticated-user".toList,
    "x-client-dn".toList, "x-client-subject-dn".toList, "x-client-issuer-dn".toList, "x-client-serial".toList,
    "x-ssl-client-subject-dn".toList, "x-ssl-client-issuer-dn".toList, "x-ssl-client-serial".toList,
    "x-ssl-client-verify".toList, "x-client-ip".toList]

def maxForwards : Text := "max-forwards".toList

def host : Text := "host".toList

def authorization : Text := "authorization".toList

def forwarded : Text := "forwarded".toList

def xForwardedFor : Text := "x-forwarded-for".toList

def xRealIp : Text := "x-real-ip".toList

def xForwardedHost : Text := "x-forwarded-host".toList

def xForwardedProto : Text := "x-forwarded-proto".toList

structure ClientCertForwardingConfig where
  headerCert : Option Text
  headerSan : Option Text
  headerRoles : Option Text
  headerClientIp : Option Text
  deriving DecidableEq, Repr

structure ServerConfig where
  protocol : Protocol
  tunnelSniDomain : Option Text
  clientCertForwarding : Option ClientCertForwardingConfig
  deriving DecidableEq, Repr

structure PeerExtensions where
  socketIp : Option IpAddr
  pemCert : Option Text
  sanCert : Option Text
  roles : Extensions
  deriving DecidableEq, Repr

abbrev HeaderEdit := Edit Text Bytes

def insertText (name text : Text) : List HeaderEdit := (headerFromStr text).toList.map (.insert name)

def injectRealIp (extensions : PeerExtensions) (headers : HeaderMap) : HeaderMap :=
  applyAll headers (extensions.socketIp.toList.flatMap fun ip => insertText xRealIp ip.toText)

def loopDetected : Response := buildErrorResponse "Loop Detected".toList 508

def nextMaxForwards (headers : HeaderMap) : Except Response Nat :=
  match ((headers.get maxForwards).bind headerToStr).bind parseU8 with
  | some 0 => .error loopDetected
  | some hops => .ok (hops - 1)
  | none => .ok 10

/-- The headers that the client names in its first `Connection` header. -/
def customHops (headers : HeaderMap) : List Text :=
  match (headers.get connection).bind headerToStr with
  | some text => (text.splitOn ',').filterMap fun name => headerName (trim name)
  | none => []

def stripHops (headers : HeaderMap) : List HeaderEdit := (customHops headers ++ hopByHopHeaders).map .remove

def configuredNames (config : ServerConfig) : List Text :=
  match config.clientCertForwarding with
  | some forwarding =>
    [forwarding.headerCert, forwarding.headerSan, forwarding.headerRoles, forwarding.headerClientIp].filterMap
      (·.bind headerName)
  | none => []

def stripIdentity (config : ServerConfig) : List HeaderEdit :=
  (identityHeadersDenylist.filterMap headerName ++ configuredNames config).map .remove

def forwardingHeaders : List Text := [forwarded, xForwardedFor, xRealIp, xForwardedHost, xForwardedProto]

def clientIpHeaders (extensions : PeerExtensions) : List HeaderEdit :=
  match extensions.socketIp with
  | some ip => if ip.isUnspecified then [] else insertText xRealIp ip.toText ++ insertText xForwardedFor ip.toText
  | none => []

def setForwarding (config : ServerConfig) (extensions : PeerExtensions) : List HeaderEdit :=
  forwardingHeaders.map .remove ++ clientIpHeaders extensions ++
    [.insert xForwardedProto (utf8 config.protocol.scheme)]

def setForwardedHost (config : ServerConfig) (headers : HeaderMap) : List HeaderEdit :=
  match headers.get host with
  | some value => [.insert xForwardedHost value]
  | none => config.tunnelSniDomain.toList.flatMap (insertText xForwardedHost)

def injectUnder (name : Option Text) (value : Option Text) : List HeaderEdit :=
  match name, value with
  | some name, some value => (headerName name).toList.flatMap fun name => insertText name value
  | _, _ => []

def rolesText (extensions : Extensions) : Option Text :=
  match extensions.sharedRoles.or (extensions.roles.or extensions.legacyRoles) with
  | some [] => none
  | some roles => some ([',', ' '].intercalate (roles.map UserRole.name))
  | none => none

section

-- What the library `urlencoding` makes of a certificate.
variable (urlEncode : Text → Text)

def injectIdentity (config : ServerConfig) (extensions : PeerExtensions) : List HeaderEdit :=
  match config.clientCertForwarding with
  | some forwarding =>
    injectUnder forwarding.headerCert (extensions.pemCert.map urlEncode) ++
      injectUnder forwarding.headerSan extensions.sanCert ++
      injectUnder forwarding.headerRoles (rolesText extensions.roles) ++
      injectUnder forwarding.headerClientIp (extensions.socketIp.map IpAddr.toText)
  | none => []

def proxyPhases (jwtToken : Option Bytes) (extensions : PeerExtensions) (config : ServerConfig) (hops : Nat) :
    List (HeaderMap → List HeaderEdit) :=
  [fun _ => [.insert maxForwards (utf8 (Nat.repr hops).toList)],
    stripHops,
    fun _ => stripIdentity config,
    fun _ => setForwarding config extensions,
    setForwardedHost config,
    fun _ => jwtToken.toList.map (.insert authorization),
    fun _ => injectIdentity urlEncode config extensions]

def proxyEdits (jwtToken : Option Bytes) (extensions : PeerExtensions) (config : ServerConfig) (hops : Nat)
    (headers : HeaderMap) : List HeaderEdit :=
  performed (proxyPhases urlEncode jwtToken extensions config hops) headers

def prepareProxyHeaders (jwtToken : Option Bytes) (extensions : PeerExtensions) (config : ServerConfig)
    (headers : HeaderMap) : Except Response HeaderMap := do
  let hops ← nextMaxForwards headers
  .ok (applyAll headers (proxyEdits urlEncode jwtToken extensions config hops headers))

theorem prepareProxyHeaders_eq (jwtToken : Option Bytes) (extensions : PeerExtensions) (config : ServerConfig)
    {headers : HeaderMap} {hops : Nat} (passed : nextMaxForwards headers = .ok hops) :
    prepareProxyHeaders urlEncode jwtToken extensions config headers =
      .ok (applyAll headers (proxyEdits urlEncode jwtToken extensions config hops headers)) := by
  rw [prepareProxyHeaders, passed]
  rfl

end

end Praeco.Router.Headers
