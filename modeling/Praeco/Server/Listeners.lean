import Praeco.Server.Launches
import Praeco.Server.Finalize

/-! What new connections meet after a reload. The TLS configuration, the roles of certificates and the limits are taken
from the configuration when a listener is started, and the listener has them until it is stopped. -/

namespace Praeco.Server.Listeners
open Praeco.Strings Utf8 Praeco.Collections Fallible Praeco.Schedule.Runs Praeco.Http.Message Praeco.Jwt.Auth
open Praeco.Server.Middleware Praeco.Server.Reload Praeco.Server.Stack Praeco.Server.Tls Praeco.Server.Finalize
open Praeco.Server.Launches

structure Admission (pki : Pki) where
  tlsConfig : Option (RustlsServerConfig pki)
  roles : List Text → List UserRole
  limits : ConnectionLimitsConfig

variable {Key Regex : Type} {pki : Pki}

def tlsConfigOf : Listening pki → Option (RustlsServerConfig pki)
  | .tunnel _ tlsConfig => some tlsConfig
  | .dualStack _ tlsConfig => some tlsConfig
  | .plain _ => none

def admission (files : Files pki) (localIp : Except Text Text) (server : ServerConfig (Settings Regex pki)) :
    Except Text (Admission pki) :=
  (startSingleServer files localIp server).map fun listening =>
    ⟨tlsConfigOf listening, mapRoles server.settings.oidMapping, server.settings.connectionLimits⟩

structure Admission.Follows (settings : Admission pki) (files : Files pki)
    (server : ServerConfig (Settings Regex pki)) : Prop where
  secured : TerminatesTls server → ∃ tlsConfig, buildRustlsConfig files server = .ok tlsConfig ∧
    settings.tlsConfig = some tlsConfig
  plain : ¬TerminatesTls server → settings.tlsConfig = none
  roles : settings.roles = mapRoles server.settings.oidMapping
  limits : settings.limits = server.settings.connectionLimits

theorem startSingleServer_tls {files : Files pki} {localIp : Except Text Text}
    {server : ServerConfig (Settings Regex pki)} {listening : Listening pki}
    (done : startSingleServer files localIp server = .ok listening) :
    (TerminatesTls server → ∃ tlsConfig, buildRustlsConfig files server = .ok tlsConfig ∧
      tlsConfigOf listening = some tlsConfig) ∧
      (¬TerminatesTls server → tlsConfigOf listening = none) := by
  unfold startSingleServer at done
  split at done
  · rename_i tunnel configured
    obtain ⟨tlsConfig, built, rfl⟩ := map_ok done
    exact ⟨fun _ => ⟨tlsConfig, built, rfl⟩, fun open_ => absurd (Or.inr (by rw [configured]; rfl)) open_⟩
  · rename_i configured
    obtain ⟨addr, -, done⟩ := bind_ok done
    split_ifs at done with https
    · obtain ⟨tlsConfig, built, rfl⟩ := map_ok done
      exact ⟨fun _ => ⟨tlsConfig, built, rfl⟩, fun open_ => absurd (Or.inl https) open_⟩
    · cases done
      refine ⟨?_, fun _ => rfl⟩
      rintro (secure | tunneled)
      · exact absurd secure https
      · rw [configured] at tunneled
        cases tunneled

theorem admission_follows {files : Files pki} {localIp : Except Text Text} {server : ServerConfig (Settings Regex pki)}
    {settings : Admission pki} (started : admission files localIp server = .ok settings) :
    settings.Follows files server := by
  obtain ⟨listening, done, rfl⟩ := map_ok started
  obtain ⟨secured, plain⟩ := startSingleServer_tls done
  exact ⟨secured, plain, rfl, rfl⟩

section

variable (env : Environment Key Regex pki)

abbrev ServerSite := Site (Settings Regex pki) (ServiceStack Key Regex env.routers) (Moment pki)

def startup (moment : Moment pki) (config : Config (Settings Regex pki)) : ServerSite env :=
  Site.start (buildServiceStack (env.during moment)) moment config

def reloadEvent (occasion : Occasion Regex pki (ServiceStack Key Regex env.routers)) :
    Event (Settings Regex pki) (ServiceStack Key Regex env.routers) (Moment pki) :=
  ⟨(env.during occasion.moment).sighup occasion.disk occasion.order, occasion.moment⟩

variable {env}

/-- The listeners that run for enabled servers of the configuration handle connections as it says. -/
def TakesEffect (files : Files pki) (config : Config (Settings Regex pki)) (site : ServerSite env) : Prop :=
  ∀ server ∈ config.servers, server.enabled = true → ∀ launched moment, site.Serving server launched moment →
    ∀ settings, admission moment.files moment.localIp launched = .ok settings → settings.Follows files server

/-- Nothing that a listener takes from its server differs between two configurations and states of the files. -/
structure SameSettings (oldFiles newFiles : Files pki) (old new : ServerConfig (Settings Regex pki)) : Prop where
  tls : TerminatesTls new → buildRustlsConfig oldFiles old = buildRustlsConfig newFiles new
  roles : mapRoles old.settings.oidMapping = mapRoles new.settings.oidMapping
  limits : old.settings.connectionLimits = new.settings.connectionLimits

theorem follows_iff {oldFiles newFiles : Files pki} {localIp : Except Text Text}
    {old new : ServerConfig (Settings Regex pki)} {settings : Admission pki} (bound : old.listener = new.listener)
    (started : admission oldFiles localIp old = .ok settings) :
    settings.Follows newFiles new ↔ SameSettings oldFiles newFiles old new := by
  have former := admission_follows started
  have alike : TerminatesTls old ↔ TerminatesTls new := by
    simp only [ServerConfig.listener, Prod.mk.injEq] at bound
    unfold TerminatesTls
    rw [bound.2.2.1, bound.2.2.2]
  constructor
  · intro follows
    refine ⟨?_, former.roles.symm.trans follows.roles, former.limits.symm.trans follows.limits⟩
    intro terminates
    obtain ⟨first, built, used⟩ := former.secured (alike.mpr terminates)
    obtain ⟨second, rebuilt, same⟩ := follows.secured terminates
    cases used.symm.trans same
    exact built.trans rebuilt.symm
  · intro same
    refine ⟨?_, fun open_ => former.plain (mt alike.mp open_), former.roles.trans same.roles,
      former.limits.trans same.limits⟩
    intro terminates
    obtain ⟨tlsConfig, built, used⟩ := former.secured (alike.mpr terminates)
    exact ⟨tlsConfig, (same.tls terminates).symm.trans built, used⟩

/-- An accepted reload takes effect for new connections exactly if every listener that it keeps was started with the
settings of the new configuration. A listener is kept if it serves one of the new servers already. -/
theorem takesEffect_iff (configPath : Text) (startMoment : Moment pki) (initial : Config (Settings Regex pki))
    (past : List (Occasion Regex pki (ServiceStack Key Regex env.routers)))
    (occasion : Occasion Regex pki (ServiceStack Key Regex env.routers)) (config : Config (Settings Regex pki))
    (named : initial.enabledNames.Nodup)
    (loaded : load (reloadEvent env occasion).reload.disk configPath = .ok config)
    (accepted : ¬(reloadEvent env occasion).reload.Refused configPath) (distinct : config.enabledNames.Nodup) :
    let before := run (Site.hangup configPath) (startup env startMoment initial) (past.map (reloadEvent env))
    TakesEffect occasion.moment.files config (before.hangup configPath (reloadEvent env occasion)) ↔
      ∀ server ∈ config.servers, server.enabled = true → ∀ launched moment, before.Serving server launched moment →
        (∃ listening, startSingleServer moment.files moment.localIp launched = .ok listening) →
          SameSettings moment.files occasion.moment.files launched server := by
  intro before
  have sound : before.Sound := Site.sound_run named _
  have serving {server : ServerConfig (Settings Regex pki)} (member : server ∈ config.servers)
      (enabled : server.enabled = true) := Site.serving_hangup sound loaded accepted distinct member enabled
  constructor
  · rintro takes server member enabled launched moment kept ⟨listening, started⟩
    have settled : admission moment.files moment.localIp launched = .ok _ := congrArg (Except.map _) started
    have stays := (serving member enabled launched moment).mpr (Or.inl kept)
    exact (follows_iff kept.bound settled).mp (takes server member enabled launched moment stays _ settled)
  · intro same server member enabled launched moment served settings settled
    rcases (serving member enabled launched moment).mp served with kept | ⟨-, rfl, rfl⟩
    · obtain ⟨listening, started, -⟩ := map_ok settled
      exact (follows_iff kept.bound settled).mpr (same server member enabled launched moment kept ⟨listening, started⟩)
    · exact admission_follows settled

end

/-! A server that begins to ask for client certificates. -/

def guardedEcho (computed : Computed Text plainPki) : ServerConfig (Settings Text plainPki) :=
  { secureEcho.written computed with
    settings := { echoSettings computed with authentication := .clientCert, clientCerts := some [⟨['c'], none⟩] } }

def guardedServer : ServerConfig (Settings Text plainPki) := guardedEcho secureEcho.final.settings.computed

def guardedConfig : Config (Settings Text plainPki) := ⟨[], none, none, [guardedServer]⟩

def guardedOccasion : Occasion Text plainPki (ServiceStack Unit Text plainEnvironment.routers) where
  moment := plainMoment
  disk := { echoDisk [] with
    parseConfig := fun _ => some ⟨[], none, none, [guardedEcho (Computed.default Text plainPki)]⟩ }
  order := .asListed _

theorem guarded_loaded : load (reloadEvent plainEnvironment guardedOccasion).reload.disk [] = .ok guardedConfig := rfl

theorem guarded_accepted : ¬(reloadEvent plainEnvironment guardedOccasion).reload.Refused [] := by
  rw [Sighup.accepted_iff guarded_loaded]
  intro server member _
  rw [List.mem_singleton.mp member]
  exact ⟨_, rfl⟩

theorem takesEffect_iff_guarded :
    TakesEffect plainMoment.files guardedConfig ((startup plainEnvironment plainMoment guardedConfig).hangup []
        (reloadEvent plainEnvironment guardedOccasion)) ↔
      ∀ server ∈ guardedConfig.servers, server.enabled = true → ∀ launched moment,
        (startup plainEnvironment plainMoment guardedConfig).Serving server launched moment →
          (∃ listening, startSingleServer moment.files moment.localIp launched = .ok listening) →
            SameSettings moment.files plainMoment.files launched server :=
  takesEffect_iff [] plainMoment guardedConfig [] guardedOccasion guardedConfig (by decide +kernel) guarded_loaded
    guarded_accepted (by decide +kernel)

/-- The listener goes on without asking for the certificates that the new configuration demands. -/
theorem new_authentication_missed :
    let after := (startup plainEnvironment plainMoment (echoConfig [secureEcho])).hangup []
      (reloadEvent plainEnvironment guardedOccasion)
    load (echoReload [secureEcho]).disk [] = .ok (echoConfig [secureEcho]) ∧
    load (reloadEvent plainEnvironment guardedOccasion).reload.disk [] = .ok guardedConfig ∧
    ¬(reloadEvent plainEnvironment guardedOccasion).reload.Refused [] ∧
    guardedServer ∈ guardedConfig.servers ∧ guardedServer.settings.authentication = .clientCert ∧
    (∃ launched moment, after.Serving guardedServer launched moment ∧
      (admission moment.files moment.localIp launched).map (·.tlsConfig.map (·.clientVerifier.isSome)) =
        .ok (some false)) ∧
    ¬TakesEffect plainMoment.files guardedConfig after := by
  intro after
  have serving : after.Serving guardedServer secureEcho.final plainMoment :=
    ⟨0, _, rfl, ⟨rfl, rfl, rfl⟩, rfl, rfl⟩
  refine ⟨rfl, guarded_loaded, guarded_accepted, List.mem_singleton_self _, rfl, ⟨_, _, serving, rfl⟩, ?_⟩
  intro takes
  have follows := takes guardedServer (List.mem_singleton_self _) rfl _ _ serving _ rfl
  obtain ⟨tlsConfig, built, used⟩ := follows.secured (Or.inl rfl)
  cases built
  cases used

end Praeco.Server.Listeners
