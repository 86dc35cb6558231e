import Praeco.Collections.Fallible
import Praeco.Strings.Utf8

/-! TLS configurations. The certificate files are read when a configuration is built; only the certificate that the
server presents is looked up later, for every connection. -/

namespace Praeco.Server.Tls
open Praeco.Strings Utf8 Praeco.Collections.Fallible

inductive AuthenticationMethod where
  | none
  | jwt
  | clientCert
  | optionalClientCert
  deriving DecidableEq, Repr

structure ServerCertConfig where
  sslCertificate : Text
  sslCertificateKey : Text
  deriving DecidableEq, Repr

structure ClientCertConfig where
  sslClientCa : Text
  sslClientCrl : Option Text
  deriving DecidableEq, Repr

inductive PemItem (PrivateKey : Type) where
  | key (key : PrivateKey)
  | other

structure Pki where
  Cert : Type
  PrivateKey : Type
  SigningKey : Type
  Crl : Type
  pemCerts : Bytes → Option (List Cert)
  pemItems : Bytes → List (Option (PemItem PrivateKey))
  /-- The key loader of the default provider, if one is installed. -/
  loadPrivateKey : Option (PrivateKey → Except Text SigningKey)
  addRoot : Cert → Except Text Unit
  buildVerifier : List Cert → List Crl → Except Text Unit
  clientAuthCert : List Cert → PrivateKey → Except Text Unit

structure Files (pki : Pki) where
  read : Text → Option Bytes
  readCrl : Text → Except Text pki.Crl

structure CertifiedKey (pki : Pki) where
  cert : List pki.Cert
  key : pki.SigningKey

structure ClientVerifier (pki : Pki) where
  roots : List pki.Cert
  crls : List pki.Crl
  allowUnauthenticated : Bool

/-- A configuration asks for client certificates or not; its own certificate is found under the server's name. -/
structure RustlsServerConfig (pki : Pki) where
  clientVerifier : Option (ClientVerifier pki)
  resolver : Text

variable {pki : Pki} (files : Files pki)

def loadCerts (path serverName : Text) : Except Text (List pki.Cert) :=
  match files.read path with
  | none => .error (serverName ++ ": Failed to read certificate file '".toList ++ path ++ ['\''])
  | some data =>
    match pki.pemCerts data with
    | none => .error (serverName ++ ": Invalid certificate in '".toList ++ path ++ ['\''])
    | some [] => .error (serverName ++ ": No certificates found in '".toList ++ path ++ ['\''])
    | some certs => .ok certs

/-- The loop over the items of a key file: the first key is taken. -/
def firstKey (pki : Pki) (path serverName : Text) : List (Option (PemItem pki.PrivateKey)) → Except Text pki.PrivateKey
  | [] => .error (serverName ++ ": No private key found in '".toList ++ path ++ ['\''])
  | none :: _ => .error (serverName ++ ": PEM parse error in '".toList ++ path ++ ['\''])
  | some (.key key) :: _ => .ok key
  | some .other :: rest => firstKey pki path serverName rest

def loadSingleKey (path serverName : Text) : Except Text pki.PrivateKey :=
  match files.read path with
  | none => .error (serverName ++ ": Cannot open key file '".toList ++ path ++ ['\''])
  | some data => firstKey pki path serverName (pki.pemItems data)

def loadCertifiedKey (serverName : Text) (serverCertConfig : ServerCertConfig) : Except Text (CertifiedKey pki) := do
  let serverCerts ← loadCerts files serverCertConfig.sslCertificate serverName
  let serverKey ← loadSingleKey files serverCertConfig.sslCertificateKey serverName
  match pki.loadPrivateKey with
  | none => .error "No default crypto provider available".toList
  | some load =>
    match load serverKey with
    | .error e => .error (serverName ++ ": Invalid or unsupported private key type: ".toList ++ e)
    | .ok signingKey => .ok ⟨serverCerts, signingKey⟩

def loadRoots (serverName : Text) (config : ClientCertConfig) : Except Text (List pki.Cert) := do
  let caCerts ← loadCerts files config.sslClientCa serverName
  let _ ← caCerts.mapM fun ca => (pki.addRoot ca).mapError fun e => serverName ++ ": Failed to add CA: ".toList ++ e
  .ok caCerts

def loadCrl (serverName : Text) (config : ClientCertConfig) : Except Text (List pki.Crl) :=
  match config.sslClientCrl with
  | none => .ok []
  | some crlPath =>
    match files.readCrl crlPath with
    | .ok crl => .ok [crl]
    | .error e => .error (serverName ++ ": Failed to load CRL from '".toList ++ crlPath ++ "': ".toList ++ e)

def loadClientCas (serverName : Text) : List ClientCertConfig → Except Text (List pki.Cert × List pki.Crl)
  | [] => .ok ([], [])
  | config :: rest => do
    let roots ← loadRoots files serverName config
    let crls ← loadCrl files serverName config
    let (otherRoots, otherCrls) ← loadClientCas serverName rest
    .ok (roots ++ otherRoots, crls ++ otherCrls)

def AuthenticationMethod.requiresClientAuth (method : AuthenticationMethod) : Bool :=
  method = .clientCert || method = .optionalClientCert

def tlsConfig (serverName : Text) (clientCaConfigs : Option (List ClientCertConfig))
    (authenticationMethod : AuthenticationMethod) : Except Text (RustlsServerConfig pki) :=
  if authenticationMethod.requiresClientAuth then
    match clientCaConfigs with
    | none => .error (serverName ++ ": Client certs required for mTLS, but none provided.".toList)
    | some clientCerts => do
      let (roots, crls) ← loadClientCas files serverName clientCerts
      (pki.buildVerifier roots crls).mapError fun e => serverName ++ ": Failed to build client verifier: ".toList ++ e
      .ok ⟨some ⟨roots, crls, authenticationMethod = .optionalClientCert⟩, serverName⟩
  else .ok ⟨none, serverName⟩

/-! The configuration of connections to upstreams. -/

def buildRootStore (caPath : Option Text) : Except Text Unit :=
  match caPath with
  | some path => (loadCerts files path "root_store".toList).map fun _ => ()
  | none => .ok ()

def buildTlsClientConfig : Option Text → Option Text → Except Text Unit
  | some certPath, some keyPath => do
    let certs ← loadCerts files certPath "mtlsclient".toList
    let key ← loadSingleKey files keyPath "mtlsclient".toList
    (pki.clientAuthCert certs key).mapError fun e => "Failed to build client TLS config: ".toList ++ e
  | _, _ => .ok ()

end Praeco.Server.Tls
