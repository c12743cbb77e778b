import EventCorrelation.Bus.Client
import EventCorrelation.Proofs.Text.Trimming

/-!
# Protection of clients

The properties of a client say about its protection what the environment asks for, or there are
none: a mechanism that cannot be used is refused, and a connection is plain only if credentials or a
mechanism are missing. The password goes into one property and nowhere else, so two environments
that differ in it alone cannot be told apart by anything that is shown.

All three kinds of clients put the properties of their security between properties of their own, after
checks that do not look at it. The rest follows from that form.
-/

namespace EventCorrelation

namespace Mechanism

theorem name_ne_empty (mechanism : Mechanism) : mechanism.name ≠ "" := by
  cases mechanism <;> simp [name]

theorem ofName?_eq_some_iff {name : String} {mechanism : Mechanism} :
    ofName? name = some mechanism ↔
      String.ofList ((Text.trimBlanks name.toList).map Char.toUpper) = mechanism.name := by
  rw [ofName?]
  constructor
  · intro found
    have named := List.find?_some found
    exact (beq_iff_eq.mp named).symm
  · intro named
    rw [named]
    cases mechanism <;> rfl

end Mechanism

namespace Environment

open Authentication

variable {environment : Environment} {username password : String}

theorem nonBlank?_eq_some_iff {name value : String} :
    environment.nonBlank? name = some value ↔
      environment name = some value ∧ Text.allBlank value = false := by
  rw [nonBlank?, Option.filter_eq_some_iff, Bool.not_eq_true']

theorem mechanism?_eq_some_iff {mechanism : Mechanism} :
    (environment.nonBlank? mechanismVariable).bind Mechanism.ofName? = some mechanism ↔
      environment.mechanismName? = some mechanism.name := by
  rw [mechanismName?, Option.bind_eq_some_iff, Option.map_eq_some_iff]
  constructor
  · rintro ⟨name, given, found⟩
    exact ⟨name, (nonBlank?_eq_some_iff.mp given).1, Mechanism.ofName?_eq_some_iff.mp found⟩
  · rintro ⟨name, given, named⟩
    refine ⟨name, nonBlank?_eq_some_iff.mpr ⟨given, ?_⟩, Mechanism.ofName?_eq_some_iff.mpr named⟩
    -- A blank name would leave nothing to compare.
    cases blank : Text.allBlank name with
    | false => rfl
    | true =>
      rw [Text.trimBlanks_eq_nil_iff.mpr (List.all_eq_true.mp blank)] at named
      exact absurd named.symm mechanism.name_ne_empty

theorem givesCredentials_iff :
    environment.GivesCredentials username password ↔
      environment.nonBlank? usernameVariable = some username ∧
        environment.nonBlank? passwordVariable = some password := by
  rw [GivesCredentials, nonBlank?_eq_some_iff, nonBlank?_eq_some_iff, and_assoc]

end Environment

namespace Security

open Authentication

variable {environment : Environment}

/-- The connection is authenticated just if credentials are given and a mechanism is named. -/
theorem ofEnvironment_eq_authenticated_iff {credentials : Credentials} :
    ofEnvironment environment = .authenticated credentials ↔
      environment.GivesCredentials credentials.username credentials.password ∧
        environment.mechanismName? = some credentials.mechanism.name := by
  rw [Environment.givesCredentials_iff, ← Environment.mechanism?_eq_some_iff, ofEnvironment,
    Authentication.ofEnvironment]
  split
  · next username password mechanism hasUsername hasPassword hasMechanism =>
    rw [hasUsername, hasPassword, hasMechanism]
    obtain ⟨otherMechanism, otherUsername, otherPassword⟩ := credentials
    simp only [ofAuthentication, authenticated.injEq, Credentials.mk.injEq, Option.some.injEq]
    constructor
    · rintro ⟨rfl, rfl, rfl⟩
      exact ⟨⟨rfl, rfl⟩, rfl⟩
    · rintro ⟨⟨rfl, rfl⟩, rfl⟩
      exact ⟨rfl, rfl, rfl⟩
  · next missing =>
    refine ⟨nofun, fun ⟨⟨hasUsername, hasPassword⟩, hasMechanism⟩ => ?_⟩
    exact (missing _ _ _ hasUsername hasPassword hasMechanism).elim

theorem ofEnvironment_eq_plain_iff :
    ofEnvironment environment = .plain ↔
      (∀ username password, ¬ environment.GivesCredentials username password) ∨
        ∀ mechanism : Mechanism, environment.mechanismName? ≠ some mechanism.name := by
  have plain_iff (security : Security) :
      security = .plain ↔ ∀ credentials, security ≠ .authenticated credentials := by
    cases security with
    | plain => exact iff_of_true rfl nofun
    | authenticated credentials => exact iff_of_false nofun fun differs => differs credentials rfl
  rw [plain_iff]
  constructor
  · intro differs
    by_cases given : ∃ username password, environment.GivesCredentials username password
    · obtain ⟨username, password, credentials⟩ := given
      right
      intro mechanism named
      exact differs ⟨mechanism, username, password⟩
        (ofEnvironment_eq_authenticated_iff.mpr ⟨credentials, named⟩)
    · left
      intro username password credentials
      exact given ⟨username, password, credentials⟩
  · intro missing credentials authenticated
    obtain ⟨given, named⟩ := ofEnvironment_eq_authenticated_iff.mp authenticated
    rcases missing with noCredentials | noMechanism
    · exact noCredentials _ _ given
    · exact noMechanism _ named

/-- The protection is the same but for the password. -/
inductive SameButPassword : Security → Security → Prop
  | plain : SameButPassword .plain .plain
  | authenticated (mechanism : Mechanism) (username password other : String) :
      SameButPassword (.authenticated ⟨mechanism, username, password⟩)
        (.authenticated ⟨mechanism, username, other⟩)

theorem sameButPassword_ofEnvironment {left right : Environment}
    (differ : left.DifferInPassword right) :
    SameButPassword (ofEnvironment left) (ofEnvironment right) := by
  obtain ⟨same, password, other, given, notBlank, otherGiven, otherNotBlank⟩ := differ
  have hasPassword := Environment.nonBlank?_eq_some_iff.mpr ⟨given, notBlank⟩
  have hasOther := Environment.nonBlank?_eq_some_iff.mpr ⟨otherGiven, otherNotBlank⟩
  have sameValue (name : String) (isOther : name ≠ passwordVariable) :
      right.nonBlank? name = left.nonBlank? name := by
    rw [Environment.nonBlank?, Environment.nonBlank?, same name isOther]
  rw [ofEnvironment, ofEnvironment, Authentication.ofEnvironment, Authentication.ofEnvironment,
    hasPassword, hasOther, sameValue usernameVariable (by decide),
    sameValue mechanismVariable (by decide)]
  cases left.nonBlank? usernameVariable with
  | none => exact .plain
  | some username =>
    cases (left.nonBlank? mechanismVariable).bind Mechanism.ofName? with
    | none => exact .plain
    | some mechanism => exact .authenticated mechanism username password other

variable {left right : Security}

theorem SameButPassword.describe_eq (same : SameButPassword left right) :
    left.describe = right.describe := by
  cases same <;> rfl

/-- The settings that the protection comes from do not show the password either. -/
theorem SameButPassword.describe_authentication {first second : Authentication}
    (same : SameButPassword (ofAuthentication first) (ofAuthentication second)) :
    first.describe = second.describe := by
  cases first <;> cases second <;> cases same <;> rfl

theorem SameButPassword.properties_eq (same : SameButPassword left right) :
    left.properties.map Properties.withoutPassword =
      right.properties.map Properties.withoutPassword := by
  cases same with
  | plain => rfl
  | authenticated mechanism username password other => cases mechanism <;> rfl

theorem properties_eq_authenticated_iff {security : Security} {protection : Properties}
    (made : security.properties = .ok protection) {mechanism : Mechanism} {property : String}
    (usable : mechanism.property = .ok property) (username password : String) :
    protection = [("security.protocol", "sasl_ssl"), ("sasl.mechanism", property),
        ("sasl.username", username), ("sasl.password", password)] ↔
      security = .authenticated ⟨mechanism, username, password⟩ := by
  cases security with
  | plain =>
    cases made
    simp
  | authenticated credentials =>
    obtain ⟨given, _, _⟩ := credentials
    cases given <;> cases made <;> cases mechanism <;> cases usable <;> simp

theorem properties_eq_plain_iff {security : Security} {protection : Properties}
    (made : security.properties = .ok protection) :
    protection = [("security.protocol", "plaintext")] ↔ security = .plain := by
  cases security with
  | plain =>
    cases made
    simp
  | authenticated credentials =>
    obtain ⟨given, _, _⟩ := credentials
    cases given <;> cases made <;> simp

/-- Only the mechanism that is known but never used is refused. -/
theorem exists_properties_iff (security : Security) :
    (∃ protection, security.properties = .ok protection) ↔
      ∀ username password, security ≠ .authenticated ⟨.oauth, username, password⟩ := by
  cases security with
  | plain => exact iff_of_true ⟨_, rfl⟩ nofun
  | authenticated credentials =>
    obtain ⟨given, username, password⟩ := credentials
    cases given with
    | plain | scram => exact iff_of_true ⟨_, rfl⟩ nofun
    | oauth => exact iff_of_false nofun fun differs => differs username password rfl

theorem protecting_of_properties {security : Security} {properties : Properties}
    (made : security.properties = .ok properties) : properties.protecting = properties := by
  cases security with
  | plain =>
    cases made
    rfl
  | authenticated credentials =>
    obtain ⟨mechanism, username, password⟩ := credentials
    cases mechanism <;> cases made <;> simp [Properties.protecting]

end Security

open Settings

/-- What is made of each security: always the same fault, or its properties between others that say
nothing about the protection. -/
inductive Framed (make : Security → Except BusFault Properties) : Bool → Prop
  | refused (fault : BusFault) (refuses : ∀ security, make security = .error fault) :
      Framed make false
  | made (front back : Properties) (frontSilent : front.protecting = [])
      (backSilent : back.protecting = []) (makes : ∀ security, make security =
        security.properties.map fun protection => front ++ protection ++ back) :
      Framed make true

theorem framed_commonProperties (brokers : List String) (version : String) {back : Properties}
    (silent : back.protecting = []) :
    Framed (fun security => do
        let common ← commonProperties brokers version security
        return common ++ back)
      (BrokerVersion.parse version).isOk := by
  cases parsed : BrokerVersion.parse version with
  | error fault =>
    refine .refused fault fun security => ?_
    simp [commonProperties, parsed, bind, Except.bind]
  | ok release =>
    refine .made [("bootstrap.servers", Brokers.join brokers), ("api.version.request", "true"),
      ("broker.version.fallback", release.text)] back ?_ silent fun security => ?_
    · simp [Properties.protecting]
    · cases made : security.properties <;>
        simp [commonProperties, parsed, made, bind, Except.bind, pure, Except.pure, Except.map]

theorem framed_checkGroup (group : String) {make : Security → Except BusFault Properties}
    {complete : Bool} (framed : Framed make complete) :
    Framed (fun security => do
        checkGroup group
        make security)
      (!Text.allBlank group && complete) := by
  cases blank : Text.allBlank group with
  | true =>
    refine .refused .missingGroup fun security => ?_
    simp [checkGroup, blank, bind, Except.bind]
  | false => simpa [checkGroup, blank, bind, Except.bind] using framed

/-- All clients check what does not concern the security first. -/
theorem ClientSettings.framed (settings : ClientSettings) (process : String) :
    Framed (fun security => (settings.withSecurity security).properties process)
      settings.isComplete := by
  cases settings with
  | producer settings =>
    dsimp only [withSecurity, properties, ProducerSettings.properties, isComplete]
    apply framed_commonProperties
    simp [Properties.protecting]
  | member settings =>
    dsimp only [withSecurity, properties, MemberSettings.properties, isComplete]
    apply framed_checkGroup
    apply framed_commonProperties
    simp [Properties.protecting]
  | watcher settings =>
    have known : (BrokerVersion.parse BrokerVersion.standard.text).isOk = true := by decide
    dsimp only [withSecurity, properties, WatchSettings.properties, isComplete]
    rw [← Bool.and_true (!Text.allBlank settings.group), ← known]
    apply framed_checkGroup
    apply framed_commonProperties
    simp [Properties.protecting]

/-- The description of settings shows of the security what its own description shows. -/
theorem ClientSettings.describe_withSecurity (settings : ClientSettings) {left right : Security}
    (same : left.describe = right.describe) :
    (settings.withSecurity left).describe = (settings.withSecurity right).describe := by
  cases settings with
  | producer settings => dsimp only [withSecurity, describe, ProducerSettings.describe]; rw [same]
  | member settings => dsimp only [withSecurity, describe, MemberSettings.describe]; rw [same]
  | watcher settings => dsimp only [withSecurity, describe, WatchSettings.describe]; rw [same]

theorem Framed.protecting {make : Security → Except BusFault Properties} {complete : Bool}
    (framed : Framed make complete) {security : Security} {properties : Properties}
    (made : make security = .ok properties) : security.properties = .ok properties.protecting := by
  cases framed with
  | refused fault refuses =>
    rw [refuses] at made
    cases made
  | made front back frontSilent backSilent makes =>
    rw [makes] at made
    cases protection : security.properties with
    | error fault =>
      rw [protection] at made
      cases made
    | ok properties =>
      rw [protection] at made
      cases made
      have whole := Security.protecting_of_properties protection
      simp only [Properties.protecting, List.filter_append] at whole frontSilent backSilent ⊢
      rw [frontSilent, backSilent, whole, List.nil_append, List.append_nil]

theorem Framed.exists_ok_iff {make : Security → Except BusFault Properties} {complete : Bool}
    (framed : Framed make complete) (security : Security) :
    (∃ properties, make security = .ok properties) ↔
      complete = true ∧ ∃ protection, security.properties = .ok protection := by
  cases framed with
  | refused fault refuses => simp [refuses]
  | made front back frontSilent backSilent makes =>
    cases protection : security.properties <;> simp [makes, protection, Except.map]

theorem withoutPassword_framed (front back : Properties) (made : Except BusFault Properties) :
    (made.map fun protection => front ++ protection ++ back).map Properties.withoutPassword =
      (made.map Properties.withoutPassword).map fun protection =>
        front.withoutPassword ++ protection ++ back.withoutPassword := by
  cases made with
  | error fault => rfl
  | ok protection => simp [Except.map, Properties.withoutPassword]

theorem Framed.withoutPassword {make : Security → Except BusFault Properties} {complete : Bool}
    (framed : Framed make complete) {left right : Security}
    (same : Security.SameButPassword left right) :
    (make left).map Properties.withoutPassword = (make right).map Properties.withoutPassword := by
  cases framed with
  | refused fault refuses => rw [refuses, refuses]
  | made front back frontSilent backSilent makes =>
    rw [makes, makes, withoutPassword_framed, withoutPassword_framed, same.properties_eq]

namespace ClientSource

variable {source : ClientSource} {environment : Environment}

theorem withSecurity_of_settings {settings : ClientSettings}
    (made : source.settings environment = .ok settings) :
    settings.withSecurity (.ofEnvironment environment) = settings := by
  cases source with
  | given other =>
    cases made
    cases other <;> rfl
  | producer =>
    cases made
    rfl
  | member topics group =>
    simp only [ClientSource.settings, MemberSettings.ofEnvironment, bind, Except.bind] at made
    split at made
    · cases made
    · cases made
      rfl

/-- Apart from the security, settings do not depend on the password. -/
theorem settings_alike {left right : Environment} (differ : left.DifferInPassword right)
    (source : ClientSource) :
    (∃ fault, source.settings left = .error fault ∧ source.settings right = .error fault) ∨
      ∃ settings : ClientSettings,
        source.settings left = .ok (settings.withSecurity (.ofEnvironment left)) ∧
        source.settings right = .ok (settings.withSecurity (.ofEnvironment right)) := by
  have brokers : Brokers.ofEnvironment right = Brokers.ofEnvironment left := by
    rw [Brokers.ofEnvironment, Brokers.ofEnvironment, differ.1 Brokers.variableName (by decide)]
  have version : versionOf right = versionOf left := by
    rw [versionOf, versionOf, differ.1 versionVariable (by decide)]
  cases source with
  | given settings => exact .inr ⟨settings, rfl, rfl⟩
  | producer =>
    refine .inr ⟨.producer (.ofEnvironment left), rfl, ?_⟩
    rw [ClientSource.settings, ProducerSettings.ofEnvironment, brokers, version]
    rfl
  | member topics group =>
    have groupEq : left groupVariable = right groupVariable := differ.1 _ (by decide)
    simp only [ClientSource.settings, MemberSettings.ofEnvironment, brokers, version, groupEq]
    cases checkGroup ((group.or (right groupVariable)).getD "") with
    | error fault => exact .inl ⟨fault, rfl, rfl⟩
    | ok _ =>
      let given : MemberSettings := { MemberSettings.ofBrokers (Brokers.ofEnvironment left) topics
        ((group.or (right groupVariable)).getD "") with version := versionOf left }
      exact .inr ⟨.member given, rfl, rfl⟩

theorem properties_of_settings {settings : ClientSettings}
    (made : source.settings environment = .ok settings) (process : String) :
    source.properties environment process =
      (settings.withSecurity (.ofEnvironment environment)).properties process := by
  rw [ClientSource.properties, made, withSecurity_of_settings made]
  rfl

theorem exists_settings_of_properties {process : String} {properties : Properties}
    (made : source.properties environment process = .ok properties) :
    ∃ settings, source.settings environment = .ok settings := by
  cases hasSettings : source.settings environment with
  | ok settings => exact ⟨settings, rfl⟩
  | error fault =>
    rw [ClientSource.properties, hasSettings] at made
    cases made

theorem protecting_of_properties {process : String} {properties : Properties}
    (made : source.properties environment process = .ok properties) :
    (Security.ofEnvironment environment).properties = .ok properties.protecting := by
  obtain ⟨settings, hasSettings⟩ := exists_settings_of_properties made
  rw [properties_of_settings hasSettings] at made
  exact (settings.framed process).protecting made

theorem exists_properties_iff (source : ClientSource) (environment : Environment)
    (process : String) :
    (∃ properties, source.properties environment process = .ok properties) ↔
      (∃ settings, source.settings environment = .ok settings ∧ settings.isComplete = true) ∧
        ∃ protection, (Security.ofEnvironment environment).properties = .ok protection := by
  cases hasSettings : source.settings environment with
  | error fault =>
    constructor
    · rintro ⟨properties, made⟩
      obtain ⟨settings, made⟩ := exists_settings_of_properties made
      cases hasSettings.symm.trans made
    · rintro ⟨⟨settings, made, -⟩, -⟩
      cases made
  | ok settings =>
    rw [properties_of_settings hasSettings, (settings.framed process).exists_ok_iff]
    simp

/-- Two environments that differ in the password give the same settings but for the password, and
are refused for the same reason. -/
theorem hides_password {left right : Environment} (differ : left.DifferInPassword right)
    (source : ClientSource) (process : String) :
    (source.settings left).map (·.describe) = (source.settings right).map (·.describe) ∧
      (source.properties left process).map (·.withoutPassword) =
        (source.properties right process).map (·.withoutPassword) := by
  have same := Security.sameButPassword_ofEnvironment differ
  rcases settings_alike differ source with
    ⟨fault, leftMade, rightMade⟩ | ⟨settings, leftMade, rightMade⟩
  · rw [ClientSource.properties, ClientSource.properties, leftMade, rightMade]
    exact ⟨rfl, rfl⟩
  · rw [ClientSource.properties, ClientSource.properties, leftMade, rightMade]
    refine ⟨congrArg Except.ok (settings.describe_withSecurity same.describe_eq), ?_⟩
    exact (settings.framed process).withoutPassword same

theorem authenticated_iff {process : String} {properties : Properties}
    (made : source.properties environment process = .ok properties) {mechanism : Mechanism}
    {property : String} (usable : mechanism.property = .ok property) (username password : String) :
    properties.protecting = [("security.protocol", "sasl_ssl"), ("sasl.mechanism", property),
        ("sasl.username", username), ("sasl.password", password)] ↔
      environment.GivesCredentials username password ∧
        environment.mechanismName? = some mechanism.name := by
  rw [Security.properties_eq_authenticated_iff (protecting_of_properties made) usable,
    Security.ofEnvironment_eq_authenticated_iff]

theorem plain_iff {process : String} {properties : Properties}
    (made : source.properties environment process = .ok properties) :
    properties.protecting = [("security.protocol", "plaintext")] ↔
      (∀ username password, ¬ environment.GivesCredentials username password) ∨
        ∀ mechanism : Mechanism, environment.mechanismName? ≠ some mechanism.name := by
  rw [Security.properties_eq_plain_iff (protecting_of_properties made),
    Security.ofEnvironment_eq_plain_iff]

/-- Whatever else the settings are, a client authenticates itself with exactly the credentials that
the environment gives if the mechanism it names can be used, and is plain only if one of them is
missing; otherwise there is no client. Environments that differ in the password alone are told apart
by one property only. -/
theorem protected_as_asked_without_leak :
    (∀ (source : ClientSource) (environment : Environment) (process : String),
      (∀ properties, source.properties environment process = .ok properties →
        (∀ username password, ∀ asked ∈ [("PLAIN", "PLAIN"), ("SCRAM", "SCRAM-SHA-512")],
          (properties.protecting =
              [("security.protocol", "sasl_ssl"), ("sasl.mechanism", asked.2),
                ("sasl.username", username), ("sasl.password", password)] ↔
            environment.GivesCredentials username password ∧
              environment.mechanismName? = some asked.1)) ∧
        (properties.protecting = [("security.protocol", "plaintext")] ↔
          (∀ username password, ¬ environment.GivesCredentials username password) ∨
            ∀ name ∈ ["PLAIN", "SCRAM", "OAUTH2"], environment.mechanismName? ≠ some name)) ∧
      ((∃ properties, source.properties environment process = .ok properties) ↔
        (∃ settings, source.settings environment = .ok settings ∧ settings.isComplete = true) ∧
          ∀ username password, environment.GivesCredentials username password →
            environment.mechanismName? ≠ some "OAUTH2")) ∧
    ∀ left right : Environment, left.DifferInPassword right →
      (Authentication.ofEnvironment left).describe =
          (Authentication.ofEnvironment right).describe ∧
        (Security.ofEnvironment left).describe = (Security.ofEnvironment right).describe ∧
        ∀ (source : ClientSource) (process : String),
          (source.settings left).map (·.describe) = (source.settings right).map (·.describe) ∧
            (source.properties left process).map (·.withoutPassword) =
              (source.properties right process).map (·.withoutPassword) := by
  refine ⟨fun source environment process => ⟨fun properties made => ⟨?_, ?_⟩, ?_⟩,
    fun left right differ => ?_⟩
  · intro username password asked isAsked
    simp only [List.mem_cons, List.not_mem_nil, or_false] at isAsked
    rcases isAsked with rfl | rfl
    · have usable : Mechanism.plain.property = .ok "PLAIN" := rfl
      exact authenticated_iff made usable username password
    · have usable : Mechanism.scram.property = .ok "SCRAM-SHA-512" := rfl
      exact authenticated_iff made usable username password
  · refine (plain_iff made).trans (or_congr_right ⟨fun differs name listed => ?_, ?_⟩)
    · simp only [List.mem_cons, List.not_mem_nil, or_false] at listed
      rcases listed with rfl | rfl | rfl
      · exact differs .plain
      · exact differs .scram
      · exact differs .oauth
    · intro differs mechanism
      apply differs
      cases mechanism <;> simp [Mechanism.name]
  · rw [exists_properties_iff, Security.exists_properties_iff]
    refine and_congr_right fun _ => forall_congr' fun username => forall_congr' fun password => ?_
    rw [Ne, Security.ofEnvironment_eq_authenticated_iff, not_and]
    rfl
  · have same := Security.sameButPassword_ofEnvironment differ
    exact ⟨same.describe_authentication, same.describe_eq, hides_password differ⟩

open Authentication

/-- An environment with a group, a user name, and these. -/
def environmentWith (mechanism password : String) : Environment := fun name =>
  [(groupVariable, "intake"), (usernameVariable, "svc"), (passwordVariable, password),
    (mechanismVariable, mechanism)].lookup name

theorem givesCredentials_environmentWith (mechanism : String) {password : String}
    (notBlank : Text.allBlank password = false) :
    (environmentWith mechanism password).GivesCredentials "svc" password :=
  ⟨rfl, by decide, rfl, notBlank⟩

theorem scram_used_and_oauth_refused :
    let trusted := environmentWith " Scram " "hunter2"
    let other := environmentWith " Scram " "letmein"
    let source := ClientSource.member ["jobs"] none
    (∃ properties, source.properties trusted "process" = .ok properties ∧
      properties.protecting = [("security.protocol", "sasl_ssl"),
        ("sasl.mechanism", "SCRAM-SHA-512"), ("sasl.username", "svc"),
        ("sasl.password", "hunter2")]) ∧
      (source.properties trusted "process").map (·.withoutPassword) =
        (source.properties other "process").map (·.withoutPassword) ∧
      ¬ ∃ properties,
        source.properties (environmentWith "oauth2" "hunter2") "process" = .ok properties := by
  intro trusted other source
  obtain ⟨asked, hidden⟩ := protected_as_asked_without_leak
  have notBlank : Text.allBlank "hunter2" = false := by decide
  have otherNotBlank : Text.allBlank "letmein" = false := by decide
  have named : (environmentWith " Scram " "hunter2").mechanismName? = some "SCRAM" := by decide
  have complete : ∃ settings, (ClientSource.member ["jobs"] none).settings
      (environmentWith " Scram " "hunter2") = .ok settings ∧ settings.isComplete = true :=
    ⟨_, rfl, by decide⟩
  have differ : trusted.DifferInPassword other := by
    refine ⟨fun name isOther => ?_, "hunter2", "letmein", rfl, notBlank, rfl, otherNotBlank⟩
    have skipped : (name == passwordVariable) = false := beq_false_of_ne isOther
    simp [trusted, other, environmentWith, List.lookup_cons, skipped]
  refine ⟨?_, ((hidden trusted other differ).2.2 source "process").2, fun made => ?_⟩
  · have usable : ∀ username password, trusted.GivesCredentials username password →
        trusted.mechanismName? ≠ some "OAUTH2" := by
      simp [trusted, named]
    obtain ⟨properties, made⟩ := (asked source trusted "process").2.mpr ⟨complete, usable⟩
    have exact := ((asked source trusted "process").1 properties made).1 "svc" "hunter2"
      ("SCRAM", "SCRAM-SHA-512") (by simp)
    exact ⟨properties, made, exact.mpr ⟨givesCredentials_environmentWith _ notBlank, named⟩⟩
  · have refused := ((asked source (environmentWith "oauth2" "hunter2") "process").2.mp made).2
    exact refused _ _ (givesCredentials_environmentWith _ notBlank) (by decide)

end ClientSource

end EventCorrelation
