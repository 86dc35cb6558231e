import Praeco.Router.Headers

/-! Which of an upstream request's headers a client can influence. The headers that speak for the client's
identity are decided by edits that do not look at the client's headers; the stripping of whole families of
names holds for the listed members only. -/

namespace Praeco.Router.Spoofing
open Praeco.Strings Utf8 Praeco.Http.Message Praeco.Collections.Edits Praeco.Net.Address Praeco.Router.Headers

/-- The names that carry what the gateway says about the client. -/
def Protected (config : ServerConfig) (name : Text) : Prop :=
  name ∈ identityHeadersDenylist ∨ (name ∈ configuredNames config ∧ name ≠ xForwardedHost) ∨
    name ∈ [forwarded, xForwardedFor, xRealIp, xForwardedProto]

theorem denylist_names : identityHeadersDenylist.filterMap headerName = identityHeadersDenylist := by decide +kernel

section

variable (urlEncode : Text → Text) (jwtToken : Option Bytes) (extensions : PeerExtensions) (config : ServerConfig)

def authoritativeEdits : List HeaderEdit :=
  stripIdentity config ++ setForwarding config extensions ++
    (jwtToken.toList.map (.insert authorization) ++ injectIdentity urlEncode config extensions)

theorem setForwardedHost_key (headers : HeaderMap) (edit : HeaderEdit)
    (member : edit ∈ setForwardedHost config headers) : edit.key = xForwardedHost := by
  unfold setForwardedHost at member
  split at member
  · rw [List.mem_singleton.mp member]
    rfl
  · simp only [insertText, List.mem_flatMap, List.mem_map] at member
    obtain ⟨-, -, value, -, rfl⟩ := member
    rfl

/-- The client's headers are read in the phases before the stripping of identities, and for the forwarded host. -/
theorem proxyEdits_eq (hops : Nat) (headers : HeaderMap) :
    ∃ early current : HeaderMap, proxyEdits urlEncode jwtToken extensions config hops headers =
      .insert maxForwards (utf8 (Nat.repr hops).toList) :: (stripHops early ++ (stripIdentity config ++
        (setForwarding config extensions ++ (setForwardedHost config current ++
          (jwtToken.toList.map (.insert authorization) ++ injectIdentity urlEncode config extensions))))) ∧
      customHops early = customHops headers := by
  let counted : HeaderMap := applyAll headers [.insert maxForwards (utf8 (Nat.repr hops).toList)]
  let stripped : HeaderMap := applyAll (applyAll counted (stripHops counted)) (stripIdentity config)
  refine ⟨counted, applyAll stripped (setForwarding config extensions), ?_, ?_⟩
  · simp only [proxyEdits, proxyPhases, performed, List.append_nil, List.singleton_append]
    rfl
  · have other : maxForwards ≠ connection := by decide
    have kept : values counted connection = values headers connection := by
      change values (Edit.apply headers (.insert maxForwards (utf8 (Nat.repr hops).toList))) connection = _
      rw [values_apply]
      exact if_neg other
    have same : counted.get connection = headers.get connection := by
      rw [get_eq_head, get_eq_head, kept]
    unfold customHops
    rw [same]

theorem protected_ne_host {name : Text} (carried : Protected config name) : name ≠ xForwardedHost := by
  have listed : xForwardedHost ∉ identityHeadersDenylist := by decide +kernel
  have other : xForwardedHost ∉ [forwarded, xForwardedFor, xRealIp, xForwardedProto] := by decide
  rcases carried with denied | ⟨-, different⟩ | set
  · exact fun same => listed (same ▸ denied)
  · exact different
  · exact fun same => other (same ▸ set)

theorem protected_edited {name : Text} (carried : Protected config name) :
    ∃ edit ∈ stripIdentity config ++ setForwarding config extensions, edit.key = name := by
  refine ⟨.remove name, ?_, rfl⟩
  rcases carried with denied | ⟨configured, -⟩ | set
  · simp [stripIdentity, denylist_names, denied]
  · simp [stripIdentity, configured]
  · have listed : [forwarded, xForwardedFor, xRealIp, xForwardedProto] ⊆ forwardingHeaders := by decide
    simp [setForwarding, listed set]

/-- What becomes of a protected name is decided without a look at the client's headers. -/
theorem lastEdit_protected {name : Text} (carried : Protected config name) (hops : Nat) (headers : HeaderMap) :
    lastEdit (proxyEdits urlEncode jwtToken extensions config hops headers) name =
      lastEdit (authoritativeEdits urlEncode jwtToken extensions config) name ∧
    (lastEdit (authoritativeEdits urlEncode jwtToken extensions config) name).isSome := by
  obtain ⟨early, current, shape, -⟩ := proxyEdits_eq urlEncode jwtToken extensions config hops headers
  have untouched : lastEdit (setForwardedHost config current) name = none := by
    rw [lastEdit_eq_none_iff]
    intro edit member
    rw [setForwardedHost_key config current edit member]
    exact (protected_ne_host config carried).symm
  have stripped : (lastEdit (stripIdentity config ++ setForwarding config extensions) name).isSome := by
    rw [Option.isSome_iff_ne_none, Ne, lastEdit_eq_none_iff]
    intro absent
    obtain ⟨edit, member, same⟩ := protected_edited extensions config carried
    exact absent edit member same
  obtain ⟨edit, found⟩ := Option.isSome_iff_exists.mp stripped
  have decided : lastEdit (authoritativeEdits urlEncode jwtToken extensions config) name =
      (lastEdit (jwtToken.toList.map (.insert authorization) ++ injectIdentity urlEncode config extensions) name).or
        (some edit) := by
    rw [authoritativeEdits, lastEdit_append, found]
  constructor
  · rw [shape, decided, ← found]
    rw [← List.singleton_append, lastEdit_append, lastEdit_append, ← List.append_assoc (stripIdentity config),
      lastEdit_append, lastEdit_append (setForwardedHost config current), untouched, Option.or_none, found]
    cases lastEdit (jwtToken.toList.map (.insert authorization) ++ injectIdentity urlEncode config extensions) name with
    | none => rfl
    | some later => rfl
  · rw [decided]
    cases lastEdit (jwtToken.toList.map (.insert authorization) ++ injectIdentity urlEncode config extensions) name with
    | none => rfl
    | some later => rfl

theorem prepareProxyHeaders_ok {headers result : HeaderMap}
    (prepared : prepareProxyHeaders urlEncode jwtToken extensions config headers = .ok result) :
    ∃ hops, nextMaxForwards headers = .ok hops ∧
      result = applyAll headers (proxyEdits urlEncode jwtToken extensions config hops headers) := by
  cases passed : nextMaxForwards headers with
  | error response => simp [prepareProxyHeaders, passed, bind, Except.bind] at prepared
  | ok hops =>
    rw [prepareProxyHeaders_eq urlEncode jwtToken extensions config passed] at prepared
    exact ⟨hops, rfl, (Except.ok.inj prepared).symm⟩

/-- Whatever two clients send, their upstream requests agree on everything that speaks for the client. -/
theorem prepared_headers_agree (headers headers' result result' : HeaderMap)
    (prepared : prepareProxyHeaders urlEncode jwtToken extensions config headers = .ok result)
    (prepared' : prepareProxyHeaders urlEncode jwtToken extensions config headers' = .ok result') (name : Text)
    (carried : Protected config name) : result.getAll name = result'.getAll name := by
  obtain ⟨hops, -, rfl⟩ := prepareProxyHeaders_ok urlEncode jwtToken extensions config prepared
  obtain ⟨hops', -, rfl⟩ := prepareProxyHeaders_ok urlEncode jwtToken extensions config prepared'
  obtain ⟨first, decided⟩ := lastEdit_protected urlEncode jwtToken extensions config carried hops headers
  obtain ⟨second, -⟩ := lastEdit_protected urlEncode jwtToken extensions config carried hops' headers'
  obtain ⟨edit, found⟩ := Option.isSome_iff_exists.mp decided
  have left : values (applyAll headers (proxyEdits urlEncode jwtToken extensions config hops headers)) name =
      edit.left := by
    rw [values_applyAll, first, found]
    rfl
  have right : values (applyAll headers' (proxyEdits urlEncode jwtToken extensions config hops' headers')) name =
      edit.left := by
    rw [values_applyAll, second, found]
    rfl
  exact left.trans right.symm

end

def certified : PeerExtensions := ⟨some (.v4 0x0a000001), none, some ['s'], ⟨none, none, none⟩⟩

def sanForwarding : ServerConfig := ⟨.https, none, some ⟨none, some "x-client-san".toList, none, none⟩⟩

def spoofed : HeaderMap := [("x-client-san".toList, [0x61]), (connection, utf8 "x-real-ip".toList)]

theorem prepared_headers_agree_spoofed :
    HeaderMap.getAll (applyAll spoofed (proxyEdits id none certified sanForwarding 10 spoofed)) "x-client-san".toList =
      HeaderMap.getAll (applyAll [] (proxyEdits id none certified sanForwarding 10 [])) "x-client-san".toList :=
  prepared_headers_agree id none certified sanForwarding spoofed [] _ _ (prepareProxyHeaders_eq _ _ _ _ rfl)
    (prepareProxyHeaders_eq _ _ _ _ rfl) "x-client-san".toList (Or.inl (by decide +kernel))

def Reserved (name : Text) : Prop := "x-forwarded-".toList <+: name ∨ "x-client-".toList <+: name

instance (name : Text) : Decidable (Reserved name) := inferInstanceAs (Decidable (_ ∨ _))

section

variable (urlEncode : Text → Text) (jwtToken : Option Bytes) (extensions : PeerExtensions) (config : ServerConfig)

theorem clientIpHeaders_key (edit : HeaderEdit) (member : edit ∈ clientIpHeaders extensions) :
    edit.key ∈ forwardingHeaders := by
  unfold clientIpHeaders at member
  split at member
  · split_ifs at member
    · cases member
    · simp only [insertText, List.mem_append, List.mem_map] at member
      rcases member with ⟨value, -, rfl⟩ | ⟨value, -, rfl⟩
      · change xRealIp ∈ forwardingHeaders
        decide
      · change xForwardedFor ∈ forwardingHeaders
        decide
  · cases member

theorem setForwarding_key (name : Text) :
    (∃ edit ∈ setForwarding config extensions, edit.key = name) ↔ name ∈ forwardingHeaders := by
  constructor
  · rintro ⟨edit, member, rfl⟩
    simp only [setForwarding, List.mem_append, List.mem_map, List.mem_singleton] at member
    rcases member with (⟨key, listed, rfl⟩ | address) | rfl
    · exact listed
    · exact clientIpHeaders_key extensions edit address
    · change xForwardedProto ∈ forwardingHeaders
      decide
  · intro listed
    exact ⟨.remove name, by simp [setForwarding, listed], rfl⟩

theorem injectUnder_key {name value : Option Text} {edit : HeaderEdit} (member : edit ∈ injectUnder name value) :
    name.bind headerName = some edit.key := by
  unfold injectUnder at member
  split at member
  · simp only [insertText, List.mem_flatMap, Option.mem_toList, List.mem_map] at member
    obtain ⟨key, valid, -, -, rfl⟩ := member
    exact valid
  · cases member

theorem injectIdentity_key {edit : HeaderEdit} (member : edit ∈ injectIdentity urlEncode config extensions) :
    edit.key ∈ configuredNames config := by
  unfold injectIdentity at member
  unfold configuredNames
  split at member
  · rename_i forwarding _
    simp only [List.mem_append] at member
    rw [List.mem_filterMap]
    rcases member with ((cert | san) | roles) | ip
    · exact ⟨forwarding.headerCert, by simp, injectUnder_key cert⟩
    · exact ⟨forwarding.headerSan, by simp, injectUnder_key san⟩
    · exact ⟨forwarding.headerRoles, by simp, injectUnder_key roles⟩
    · exact ⟨forwarding.headerClientIp, by simp, injectUnder_key ip⟩
  · cases member

section

variable {urlEncode jwtToken extensions config} {hops : Nat} {headers : HeaderMap} {key : Text}

theorem inserted_key {value : Bytes}
    (member : .insert key value ∈ proxyEdits urlEncode jwtToken extensions config hops headers) :
    key = maxForwards ∧ value = utf8 (Nat.repr hops).toList ∨
      key ∈ configuredNames config ++ (forwardingHeaders ++ jwtToken.toList.map fun _ => authorization) := by
  obtain ⟨early, current, shape, -⟩ := proxyEdits_eq urlEncode jwtToken extensions config hops headers
  rw [shape] at member
  simp only [stripHops, stripIdentity, List.mem_cons, List.mem_append, List.mem_map, Edit.insert.injEq, reduceCtorEq,
    and_false, exists_false, false_or] at member
  rw [List.mem_append, List.mem_append]
  rcases member with counted | set | set | ⟨token, given, rfl, -⟩ | injected
  · exact Or.inl counted
  · exact Or.inr (Or.inr (Or.inl ((setForwarding_key extensions config _).mp ⟨_, set, rfl⟩)))
  · have named : key = xForwardedHost := setForwardedHost_key config current _ set
    rw [named]
    exact Or.inr (Or.inr (Or.inl (by decide)))
  · exact Or.inr (Or.inr (Or.inr (List.mem_map.mpr ⟨token, given, rfl⟩)))
  · exact Or.inr (Or.inl (injectIdentity_key urlEncode extensions config injected))

theorem removed_key (member : .remove key ∈ proxyEdits urlEncode jwtToken extensions config hops headers) :
    key ∈ customHops headers ∨
      key ∈ hopByHopHeaders ++ (identityHeadersDenylist ++ (configuredNames config ++ forwardingHeaders)) := by
  obtain ⟨early, current, shape, same⟩ := proxyEdits_eq urlEncode jwtToken extensions config hops headers
  rw [shape] at member
  simp only [stripHops, stripIdentity, denylist_names, same, List.mem_cons, List.mem_append, List.mem_map,
    Edit.remove.injEq, reduceCtorEq, and_false, exists_false, exists_eq_right, false_or] at member
  simp only [List.mem_append]
  rcases member with (custom | hop) | (denied | configured) | set | set | injected
  · exact Or.inl custom
  · exact Or.inr (Or.inl hop)
  · exact Or.inr (Or.inr (Or.inl denied))
  · exact Or.inr (Or.inr (Or.inr (Or.inl configured)))
  · exact Or.inr (Or.inr (Or.inr (Or.inr ((setForwarding_key extensions config _).mp ⟨_, set, rfl⟩))))
  · have named : key = xForwardedHost := setForwardedHost_key config current _ set
    rw [named]
    exact Or.inr (Or.inr (Or.inr (Or.inr (by decide))))
  · exact Or.inr (Or.inr (Or.inr (Or.inl (injectIdentity_key urlEncode extensions config injected))))

end

/-- The names that the gateway removes or sets whatever the client sends. -/
def ownNames : List Text :=
  maxForwards :: (hopByHopHeaders ++ (identityHeadersDenylist ++ (configuredNames config ++
    (forwardingHeaders ++ jwtToken.toList.map fun _ => authorization))))

theorem edited_iff (hops : Nat) (headers : HeaderMap) (name : Text) :
    (∃ edit ∈ proxyEdits urlEncode jwtToken extensions config hops headers, edit.key = name) ↔
      name ∈ ownNames jwtToken config ∨ name ∈ customHops headers := by
  constructor
  · rintro ⟨edit, member, rfl⟩
    cases edit with
    | insert key value =>
      change key ∈ _ ∨ _
      simp only [ownNames, List.mem_cons, List.mem_append]
      rcases inserted_key member with ⟨counted, -⟩ | set
      · exact Or.inl (Or.inl counted)
      · rw [List.mem_append, List.mem_append] at set
        exact Or.inl (Or.inr (Or.inr (Or.inr set)))
    | remove key =>
      change key ∈ _ ∨ _
      simp only [ownNames, List.mem_cons, List.mem_append]
      rcases removed_key member with custom | listed
      · exact Or.inr custom
      · simp only [List.mem_append] at listed
        rcases listed with hop | denied | configured | forwarding
        · exact Or.inl (Or.inr (Or.inl hop))
        · exact Or.inl (Or.inr (Or.inr (Or.inl denied)))
        · exact Or.inl (Or.inr (Or.inr (Or.inr (Or.inl configured))))
        · exact Or.inl (Or.inr (Or.inr (Or.inr (Or.inr (Or.inl forwarding)))))
  · obtain ⟨early, current, shape, same⟩ := proxyEdits_eq urlEncode jwtToken extensions config hops headers
    rw [shape, ← same]
    simp only [ownNames, List.mem_cons, List.mem_append]
    rintro ((rfl | hop | denied | configured | listed | token) | custom)
    · exact ⟨_, Or.inl rfl, rfl⟩
    · exact ⟨.remove name, by simp [stripHops, hop], rfl⟩
    · exact ⟨.remove name, by simp [stripIdentity, denylist_names, denied], rfl⟩
    · exact ⟨.remove name, by simp [stripIdentity, configured], rfl⟩
    · obtain ⟨edit, member, key⟩ := (setForwarding_key extensions config name).mpr listed
      exact ⟨edit, by simp [member], key⟩
    · obtain ⟨value, given, rfl⟩ := List.mem_map.mp token
      exact ⟨.insert authorization value, by simp [Option.mem_toList.mp given], rfl⟩
    · exact ⟨.remove name, by simp [stripHops, custom], rfl⟩

theorem reserved_edited_iff (plain : config.clientCertForwarding = none) (hops : Nat) (headers : HeaderMap)
    {name : Text} (reserved : Reserved name) :
    (∃ edit ∈ proxyEdits urlEncode jwtToken extensions config hops headers, edit.key = name) ↔
      name ∈ identityHeadersDenylist ∨ name ∈ forwardingHeaders ∨ name ∈ customHops headers := by
  have free : ∀ other ∈ maxForwards :: authorization :: hopByHopHeaders, name ≠ other := by
    intro other listed same
    subst same
    exact absurd reserved ((by decide +kernel : ∀ other ∈ maxForwards :: authorization :: hopByHopHeaders,
      ¬Reserved other) name listed)
  have unconfigured : configuredNames config = [] := by rw [configuredNames, plain]
  rw [edited_iff, ownNames, unconfigured]
  simp only [List.mem_cons, List.mem_append, List.not_mem_nil, false_or]
  constructor
  · rintro ((rfl | hop | denied | listed | token) | custom)
    · exact absurd rfl (free _ List.mem_cons_self)
    · exact absurd rfl (free name (List.mem_cons_of_mem _ (List.mem_cons_of_mem _ hop)))
    · exact .inl denied
    · exact .inr (.inl listed)
    · obtain ⟨value, -, rfl⟩ := List.mem_map.mp token
      exact absurd rfl (free _ (List.mem_cons_of_mem _ List.mem_cons_self))
    · exact .inr (.inr custom)
  · rintro (denied | listed | custom)
    · exact .inl (.inr (.inr (.inl denied)))
    · exact .inl (.inr (.inr (.inr (.inl listed))))
    · exact .inr custom

/-- The reserved headers of a client are stripped exactly if each of them is on one of the gateway's lists, or is
given up by the client itself as a connection header. -/
theorem prefixStripped_iff_listed (plain : config.clientCertForwarding = none) (headers result : HeaderMap)
    (prepared : prepareProxyHeaders urlEncode jwtToken extensions config headers = .ok result) :
    (∃ hops, nextMaxForwards headers = .ok hops ∧
      Stripped Reserved headers (proxyEdits urlEncode jwtToken extensions config hops headers) result) ↔
    ∀ name value, (name, value) ∈ headers → Reserved name →
      name ∈ identityHeadersDenylist ∨ name ∈ forwardingHeaders ∨ name ∈ customHops headers := by
  obtain ⟨hops, passed, rfl⟩ := prepareProxyHeaders_ok urlEncode jwtToken extensions config prepared
  constructor
  · rintro ⟨other, same, stripped⟩ name value member reserved
    cases same.symm.trans passed
    exact (reserved_edited_iff urlEncode jwtToken extensions config plain hops headers reserved).mp
      (stripped.gone name value member reserved)
  · intro listed
    refine ⟨hops, passed, (stripped_iff Reserved _ _).mpr ?_⟩
    intro name value member reserved
    exact (reserved_edited_iff urlEncode jwtToken extensions config plain hops headers reserved).mpr
      (listed name value member reserved)

end

def plainServer : ServerConfig := ⟨.https, none, none⟩

def anonymous : PeerExtensions := ⟨none, none, none, ⟨none, none, none⟩⟩

def forwardedPort : HeaderMap := [("x-forwarded-port".toList, utf8 "80".toList)]

theorem prefixStripped_iff_listed_port :
    (∃ hops, nextMaxForwards forwardedPort = .ok hops ∧
      Stripped Reserved forwardedPort (proxyEdits id none anonymous plainServer hops forwardedPort)
        (applyAll forwardedPort (proxyEdits id none anonymous plainServer 10 forwardedPort))) ↔
    ∀ name value, (name, value) ∈ forwardedPort → Reserved name →
      name ∈ identityHeadersDenylist ∨ name ∈ forwardingHeaders ∨ name ∈ customHops forwardedPort :=
  prefixStripped_iff_listed id none anonymous plainServer rfl forwardedPort _ (prepareProxyHeaders_eq _ _ _ _ rfl)

/-- `X-Forwarded-Port` is reserved and on no list: the client's value reaches the upstream. -/
theorem forwarded_port_passes :
    prepareProxyHeaders id none anonymous plainServer forwardedPort =
      .ok (applyAll forwardedPort (proxyEdits id none anonymous plainServer 10 forwardedPort)) ∧
    Reserved "x-forwarded-port".toList ∧
    ("x-forwarded-port".toList, utf8 "80".toList) ∈
      applyAll forwardedPort (proxyEdits id none anonymous plainServer 10 forwardedPort) ∧
    (∀ edit ∈ proxyEdits id none anonymous plainServer 10 forwardedPort, edit.key ≠ "x-forwarded-port".toList) ∧
    ¬Stripped Reserved forwardedPort (proxyEdits id none anonymous plainServer 10 forwardedPort)
      (applyAll forwardedPort (proxyEdits id none anonymous plainServer 10 forwardedPort)) := by
  have untouched : ∀ edit ∈ proxyEdits id none anonymous plainServer 10 forwardedPort,
      edit.key ≠ "x-forwarded-port".toList := by
    intro edit member same
    exact absurd ((edited_iff _ _ _ _ _ _ _).mp ⟨edit, member, same⟩) (by decide +kernel)
  refine ⟨prepareProxyHeaders_eq _ _ _ _ rfl, by decide,
    mem_applyAll_of_unedited _ _ _ List.mem_cons_self untouched, untouched, ?_⟩
  intro stripped
  obtain ⟨edit, member, same⟩ := stripped.gone _ _ List.mem_cons_self (by decide)
  exact untouched edit member same

end Praeco.Router.Spoofing
