import Mathlib.Logic.Function.Basic
import Mathlib.Data.List.Basic

/-! # Building the ACME DNS challenge provider

`CreateChallengeProvider` (`internal/acme/provider.go`) hands the credentials
of a `DNSProviderConfig` to a lego DNS provider.  Lego's constructors take no
arguments and read the process environment, so each `create…Provider` first
exports the configuration's non-empty fields with `os.Setenv` and then calls
its constructor.  Nothing is ever unset, and the errors of `os.Setenv` are
dropped: a value `syscall.Setenv` refuses, one holding a NUL byte, is simply
not exported.

The environment is a map from variable to value (`Env`), and the three lego
constructors are functions of it, left abstract (`Lego`).  What a call leaves
behind is the environment with the exports that took effect written over it
(`exportsOf`, `createChallengeProvider_env`), whether or not the constructor
then fails, and that is the environment its constructor reads
(`createChallengeProvider_reads`).  So a later call reads every variable an
earlier one exported and it does not, with the earlier value; it runs as from
the host's environment exactly when it exports every variable the earlier call
did (`createChallengeProvider_after`).
-/
namespace HomelabHorizon.Acme

/-- The process environment. -/
abbrev Env := String → Option String

/-- What `syscall.Setenv` accepts: a non-empty key with no `=` and no NUL
byte, and a value with no NUL byte.  It refuses anything else with `EINVAL`. -/
def SetenvAccepts (key value : String) : Prop :=
  key ≠ "" ∧ '=' ∉ key.data ∧ '\x00' ∉ key.data ∧ '\x00' ∉ value.data

instance (key value : String) : Decidable (SetenvAccepts key value) :=
  inferInstanceAs (Decidable (_ ∧ _ ∧ _ ∧ _))

/-- `os.Setenv(key, value)`: the variable set, unless `syscall.Setenv` refuses
the pair and changes nothing; `provider.go` never reads the error. -/
def setenv (env : Env) (key value : String) : Env :=
  if SetenvAccepts key value then Function.update env key (some value) else env

/-- `DNSProviderType` is a string. -/
abbrev DNSProviderType := String

/-- `DNSProviderRoute53`. -/
def dnsProviderRoute53 : DNSProviderType := "route53"
/-- `DNSProviderNamecom`. -/
def dnsProviderNamecom : DNSProviderType := "namecom"
/-- `DNSProviderCloudflare`. -/
def dnsProviderCloudflare : DNSProviderType := "cloudflare"

/-- `DNSProviderConfig`; a field left out is Go's zero value, the empty string. -/
structure DNSProviderConfig where
  type : DNSProviderType := ""
  awsAccessKeyID : String := ""
  awsSecretAccessKey : String := ""
  awsRegion : String := ""
  awsHostedZoneID : String := ""
  awsProfile : String := ""
  namecomUsername : String := ""
  namecomAPIToken : String := ""
  cloudflareAPIToken : String := ""
  cloudflareZoneID : String := ""
  deriving DecidableEq, Repr

/-- The variables the lego constructors read. -/
def legoEnvVars : List String :=
  ["AWS_ACCESS_KEY_ID", "AWS_SECRET_ACCESS_KEY", "AWS_REGION", "AWS_HOSTED_ZONE_ID",
    "AWS_PROFILE", "NAMECOM_USERNAME", "NAMECOM_API_TOKEN", "CF_DNS_API_TOKEN",
    "CF_ZONE_API_TOKEN"]

/-! ## Exporting the credentials -/

/-- `if value != "" { os.Setenv(key, value) }`. -/
def setenvIfSet (env : Env) (key value : String) : Env :=
  if value ≠ "" then setenv env key value else env

/-- The guarded `os.Setenv` lines of one `create…Provider`, in order. -/
def setenvAll (env : Env) (vars : List (String × String)) : Env :=
  vars.foldl (fun env kv => setenvIfSet env kv.1 kv.2) env

/-- The variables `createRoute53Provider` exports, each with its field. -/
def route53Vars (cfg : DNSProviderConfig) : List (String × String) :=
  [("AWS_ACCESS_KEY_ID", cfg.awsAccessKeyID), ("AWS_SECRET_ACCESS_KEY", cfg.awsSecretAccessKey),
    ("AWS_REGION", cfg.awsRegion), ("AWS_HOSTED_ZONE_ID", cfg.awsHostedZoneID),
    ("AWS_PROFILE", cfg.awsProfile)]

/-- The variables `createNamecomProvider` exports, each with its field. -/
def namecomVars (cfg : DNSProviderConfig) : List (String × String) :=
  [("NAMECOM_USERNAME", cfg.namecomUsername), ("NAMECOM_API_TOKEN", cfg.namecomAPIToken)]

/-- The two `os.Setenv` lines of `createCloudflareProvider`.  The second is
guarded by the zone ID but exports the API token. -/
def cloudflareSetenv (cfg : DNSProviderConfig) (env : Env) : Env :=
  let env := setenvIfSet env "CF_DNS_API_TOKEN" cfg.cloudflareAPIToken
  if cfg.cloudflareZoneID ≠ "" then setenv env "CF_ZONE_API_TOKEN" cfg.cloudflareAPIToken
  else env

/-! ## The constructors -/

/-- lego's `route53.NewDNSProvider`, `namedotcom.NewDNSProvider` and
`cloudflare.NewDNSProvider`: each builds a provider from the environment, or
fails with a message. -/
structure Lego (P : Type) where
  route53 : Env → Except String P
  namedotcom : Env → Except String P
  cloudflare : Env → Except String P

variable {P L : Type}

/-- A lego constructor called in `env`: its provider, or its error wrapped as
`failed to create <name> provider: %w`. -/
def newProvider (newDNSProvider : Env → Except String P) (name : String) (env : Env) :
    Except String P :=
  match newDNSProvider env with
  | .ok provider => .ok provider
  | .error err => .error ("failed to create " ++ name ++ " provider: " ++ err)

/-- The shape of the three `create…Provider`: export, then call the
constructor in the environment the exports leave. -/
def createProvider (setenvs : Env → Env) (newDNSProvider : Env → Except String P)
    (name : String) (env : Env) : Except String P × Env :=
  let env := setenvs env
  (newProvider newDNSProvider name env, env)

/-- `createRoute53Provider`. -/
def createRoute53Provider (lego : Lego P) (cfg : DNSProviderConfig) :
    Env → Except String P × Env :=
  createProvider (setenvAll · (route53Vars cfg)) lego.route53 "route53"

/-- `createNamecomProvider`. -/
def createNamecomProvider (lego : Lego P) (cfg : DNSProviderConfig) :
    Env → Except String P × Env :=
  createProvider (setenvAll · (namecomVars cfg)) lego.namedotcom "namecom"

/-- `createCloudflareProvider`. -/
def createCloudflareProvider (lego : Lego P) (cfg : DNSProviderConfig) :
    Env → Except String P × Env :=
  createProvider (cloudflareSetenv cfg) lego.cloudflare "cloudflare"

/-- `LoggingProvider`: a provider and the log function its progress goes to. -/
structure LoggingProvider (P L : Type) where
  provider : P
  logFn : L
  deriving DecidableEq

/-- A `challenge.Provider` as `CreateChallengeProvider` returns it. -/
inductive ChallengeProvider (P L : Type)
  | lego (provider : P)
  | logging (p : LoggingProvider P L)
  deriving DecidableEq

/-- `wrapWithLogging`: wrap unless the log function is nil. -/
def wrapWithLogging (provider : P) (logFn : Option L) : ChallengeProvider P L :=
  match logFn with
  | none => .lego provider
  | some logFn => .logging ⟨provider, logFn⟩

/-- The tail of `CreateChallengeProvider`: a constructor error is returned as it
is, a provider is wrapped. -/
def wrapResult (logFn : Option L) (built : Except String P × Env) :
    Except String (ChallengeProvider P L) × Env :=
  (built.1.map (wrapWithLogging · logFn), built.2)

/-- `CreateChallengeProvider`, run in the environment `env`: its result and
the environment it leaves. -/
def createChallengeProvider (lego : Lego P) (cfg : Option DNSProviderConfig)
    (logFn : Option L) (env : Env) : Except String (ChallengeProvider P L) × Env :=
  match cfg with
  | none => (.error "dns provider config is nil", env)
  | some cfg =>
    if cfg.type = dnsProviderRoute53 then wrapResult logFn (createRoute53Provider lego cfg env)
    else if cfg.type = dnsProviderNamecom then
      wrapResult logFn (createNamecomProvider lego cfg env)
    else if cfg.type = dnsProviderCloudflare then
      wrapResult logFn (createCloudflareProvider lego cfg env)
    else (.error ("unknown dns provider type for ACME: " ++ cfg.type), env)

/-- The lego constructor a configuration's call reaches, with the name its
error carries: none for a nil configuration or an unknown type. -/
def legoConstructor (lego : Lego P) :
    Option DNSProviderConfig → Option ((Env → Except String P) × String)
  | none => none
  | some cfg =>
    if cfg.type = dnsProviderRoute53 then some (lego.route53, "route53")
    else if cfg.type = dnsProviderNamecom then some (lego.namedotcom, "namecom")
    else if cfg.type = dnsProviderCloudflare then some (lego.cloudflare, "cloudflare")
    else none

/-- `ProviderName`. -/
def providerName (cfg : Option DNSProviderConfig) : String :=
  match cfg with
  | none => "unknown"
  | some cfg => cfg.type

/-! ## Logging -/

/-- What `LoggingProvider` calls on the provider it wraps: `Present`, `CleanUp`,
and `Timeout` when the provider has one.  A call's outcome is taken as given. -/
structure ProviderOps (P : Type) where
  present : P → String → String → String → Option String
  cleanUp : P → String → String → String → Option String
  timeout : P → Option (Nat × Nat)

/-- `time.Second`, in nanoseconds. -/
def second : Nat := 1000000000
/-- `time.Minute`, in nanoseconds. -/
def minute : Nat := 60 * second

namespace LoggingProvider
variable (ops : ProviderOps P) (p : LoggingProvider P L)

/-- `Present`: the lines sent to `logFn` and the error returned; `elapsed` is
the wrapped call's rounded duration as `%v` prints it. -/
def present (domain token keyAuth elapsed : String) : List String × Option String :=
  let fqdn := "_acme-challenge." ++ domain
  let opening := "  Creating DNS TXT record: " ++ fqdn
  match ops.present p.provider domain token keyAuth with
  | some err =>
    ([opening, "  ✗ Failed to create DNS record (" ++ elapsed ++ "): " ++ err], some err)
  | none => ([opening, "  ✓ DNS record created (" ++ elapsed ++ ")",
      "  Waiting for DNS propagation (this may take 30-120 seconds)..."], none)

/-- `CleanUp`, logged the same way. -/
def cleanUp (domain token keyAuth elapsed : String) : List String × Option String :=
  let fqdn := "_acme-challenge." ++ domain
  let opening := "  Cleaning up DNS TXT record: " ++ fqdn
  match ops.cleanUp p.provider domain token keyAuth with
  | some err => ([opening, "  ⚠ Failed to clean up DNS record (" ++ elapsed ++ "): " ++ err],
      some err)
  | none => ([opening, "  ✓ DNS record cleaned up (" ++ elapsed ++ ")"], none)

/-- `Timeout`: the wrapped provider's own, else two minutes polled every five
seconds. -/
def timeout : Nat × Nat :=
  match ops.timeout p.provider with
  | some t => t
  | none => (2 * minute, 5 * second)

/-- **Logging changes no outcome**: `Present` and `CleanUp` return the wrapped
provider's error, after a first line naming the challenge record. -/
theorem loggingProvider_keeps_errors (domain token keyAuth elapsed : String) :
    (p.present ops domain token keyAuth elapsed).2 = ops.present p.provider domain token keyAuth ∧
    (p.cleanUp ops domain token keyAuth elapsed).2 = ops.cleanUp p.provider domain token keyAuth ∧
    (p.present ops domain token keyAuth elapsed).1.head? =
      some ("  Creating DNS TXT record: " ++ ("_acme-challenge." ++ domain)) ∧
    (p.cleanUp ops domain token keyAuth elapsed).1.head? =
      some ("  Cleaning up DNS TXT record: " ++ ("_acme-challenge." ++ domain)) := by
  unfold present cleanUp
  cases ops.present p.provider domain token keyAuth <;>
    cases ops.cleanUp p.provider domain token keyAuth <;> simp

end LoggingProvider

/-! ## What a call leaves in the environment -/

/-- The environment with `exports` written over it. -/
def overlay (exports : List (String × String)) (env : Env) : Env :=
  fun v => (exports.lookup v).or (env v)

/-- `os.Setenv` on each pair in turn. -/
def setenvSeq (env : Env) (calls : List (String × String)) : Env :=
  calls.foldl (fun env kv => setenv env kv.1 kv.2) env

/-- The `os.Setenv` calls `createCloudflareProvider` makes. -/
def cloudflareCalls (cfg : DNSProviderConfig) : List (String × String) :=
  (if cfg.cloudflareAPIToken ≠ "" then [("CF_DNS_API_TOKEN", cfg.cloudflareAPIToken)] else []) ++
    (if cfg.cloudflareZoneID ≠ "" then [("CF_ZONE_API_TOKEN", cfg.cloudflareAPIToken)] else [])

/-- The `os.Setenv` calls a call makes, in order: each non-empty credential
field of the configuration's own provider type, and `CF_ZONE_API_TOKEN` when a
Cloudflare zone ID is given. -/
def setenvCalls : Option DNSProviderConfig → List (String × String)
  | none => []
  | some cfg =>
    if cfg.type = dnsProviderRoute53 then (route53Vars cfg).filter (·.2 ≠ "")
    else if cfg.type = dnsProviderNamecom then (namecomVars cfg).filter (·.2 ≠ "")
    else if cfg.type = dnsProviderCloudflare then cloudflareCalls cfg
    else []

/-- **The variables a call exports**, with their values: its `os.Setenv` calls
that `syscall.Setenv` accepts. -/
def exportsOf (cfg : Option DNSProviderConfig) : List (String × String) :=
  (setenvCalls cfg).filter fun kv => SetenvAccepts kv.1 kv.2

theorem lookup_cons_eq_ite (k x v : String) (xs : List (String × String)) :
    ((k, x) :: xs).lookup v = if v = k then some x else xs.lookup v := by
  by_cases h : v = k
  · simp [h]
  · simp [List.lookup_cons, h, beq_false_of_ne h]

theorem lookup_eq_none_iff_not_mem {v : String} :
    ∀ {xs : List (String × String)}, xs.lookup v = none ↔ v ∉ xs.map Prod.fst
  | [] => by simp
  | (k, x) :: xs => by
    by_cases h : v = k <;> simp [lookup_cons_eq_ite, h, lookup_eq_none_iff_not_mem]

@[simp] theorem overlay_nil (env : Env) : overlay [] env = env := rfl

theorem setenv_of_not_accepts {k x : String} (h : ¬SetenvAccepts k x) (env : Env) :
    setenv env k x = env :=
  if_neg h

/-- Setting a variable beneath exports that do not name it is exporting it first. -/
theorem overlay_setenv {xs : List (String × String)} {k x : String} (hk : xs.lookup k = none)
    (h : SetenvAccepts k x) (env : Env) : overlay xs (setenv env k x) = overlay ((k, x) :: xs) env := by
  funext v
  by_cases hv : v = k
  · subst hv
    simp [overlay, setenv, h, hk, lookup_cons_eq_ite]
  · simp [overlay, setenv, h, hv, lookup_cons_eq_ite]

/-- `os.Setenv` on distinct variables exports exactly the pairs it accepts. -/
theorem setenvSeq_eq :
    ∀ (calls : List (String × String)), (calls.map Prod.fst).Nodup → ∀ env,
      setenvSeq env calls = overlay (calls.filter fun kv => SetenvAccepts kv.1 kv.2) env
  | [], _, _ => rfl
  | (k, x) :: calls, h, env => by
    rw [List.map_cons, List.nodup_cons] at h
    show setenvSeq (setenv env k x) calls = _
    rw [setenvSeq_eq calls h.2 _, List.filter_cons]
    by_cases hx : SetenvAccepts k x
    · have hk : (calls.filter fun kv => SetenvAccepts kv.1 kv.2).lookup k = none :=
        lookup_eq_none_iff_not_mem.mpr fun hm => h.1 (List.map_subset _ (List.filter_subset' _) hm)
      rw [overlay_setenv hk hx, if_pos (decide_eq_true hx)]
    · rw [setenv_of_not_accepts hx, if_neg (by simpa using hx)]

/-- The guarded lines of a `create…Provider` are `os.Setenv` on its non-empty fields. -/
theorem setenvAll_eq :
    ∀ (vars : List (String × String)) env, setenvAll env vars = setenvSeq env (vars.filter (·.2 ≠ ""))
  | [], _ => rfl
  | (k, x) :: vars, env => by
    show setenvAll (setenvIfSet env k x) vars = _
    rw [setenvAll_eq vars, List.filter_cons]
    by_cases hx : x = ""
    · rw [setenvIfSet, if_neg (not_not_intro hx), if_neg (by simpa using hx)]
    · rw [setenvIfSet, if_pos hx, if_pos (decide_eq_true hx)]
      rfl

theorem cloudflareSetenv_eq (cfg : DNSProviderConfig) (env : Env) :
    cloudflareSetenv cfg env = setenvSeq env (cloudflareCalls cfg) := by
  unfold cloudflareSetenv cloudflareCalls setenvIfSet
  by_cases ht : cfg.cloudflareAPIToken = "" <;> by_cases hz : cfg.cloudflareZoneID = "" <;>
    simp [ht, hz, setenvSeq]

/-- A zone ID without an API token sets `CF_ZONE_API_TOKEN` to the empty
token, over whatever the host's environment held. -/
theorem cloudflare_zone_blanks_token (cfg : DNSProviderConfig) (env : Env)
    (hzone : cfg.cloudflareZoneID ≠ "") (htoken : cfg.cloudflareAPIToken = "") :
    cloudflareSetenv cfg env "CF_ZONE_API_TOKEN" = some "" := by
  have h : SetenvAccepts "CF_ZONE_API_TOKEN" "" := by decide
  simp [cloudflareSetenv, setenvIfSet, setenv, hzone, htoken, h]

theorem setenvCalls_nodup (cfg : Option DNSProviderConfig) :
    ((setenvCalls cfg).map Prod.fst).Nodup := by
  rcases cfg with _ | cfg
  · exact List.nodup_nil
  · simp only [setenvCalls]
    split_ifs
    · exact ((List.filter_sublist _).map _).nodup (by simp only [route53Vars, List.map]; decide)
    · exact ((List.filter_sublist _).map _).nodup (by simp only [namecomVars, List.map]; decide)
    · unfold cloudflareCalls
      split_ifs <;> simp
    · exact List.nodup_nil

/-- Writing exports over exports of fewer variables hides the latter. -/
theorem overlay_overlay {xs ys : List (String × String)} (h : xs.map Prod.fst ⊆ ys.map Prod.fst)
    (env : Env) : overlay ys (overlay xs env) = overlay ys env := by
  funext v
  cases hy : ys.lookup v with
  | some x => simp [overlay, hy]
  | none =>
    have hx : xs.lookup v = none :=
      lookup_eq_none_iff_not_mem.mpr fun hv => lookup_eq_none_iff_not_mem.mp hy (h hv)
    simp [overlay, hx, hy]

/-- A call exports only variables the lego constructors read. -/
theorem exportsOf_vars (cfg : Option DNSProviderConfig) :
    ∀ kv ∈ exportsOf cfg, kv.1 ∈ legoEnvVars := by
  intro kv hkv
  replace hkv := List.mem_of_mem_filter hkv
  rcases cfg with _ | cfg
  · simp [setenvCalls] at hkv
  · simp only [setenvCalls] at hkv
    split_ifs at hkv
    · replace hkv := List.mem_of_mem_filter hkv
      simp only [route53Vars, List.mem_cons, List.mem_singleton, List.not_mem_nil, or_false] at hkv
      rcases hkv with rfl | rfl | rfl | rfl | rfl <;> (dsimp only; decide)
    · replace hkv := List.mem_of_mem_filter hkv
      simp only [namecomVars, List.mem_cons, List.mem_singleton, List.not_mem_nil, or_false] at hkv
      rcases hkv with rfl | rfl <;> (dsimp only; decide)
    · unfold cloudflareCalls at hkv
      split_ifs at hkv <;> simp at hkv <;> rcases hkv with rfl | rfl <;> (dsimp only; decide)
    · simp at hkv

/-- **What a call leaves in the environment**: the exports that took effect
written over what was there, whether or not the constructor then fails. -/
theorem createChallengeProvider_env (lego : Lego P) (cfg : Option DNSProviderConfig)
    (logFn : Option L) (env : Env) :
    (createChallengeProvider lego cfg logFn env).2 = overlay (exportsOf cfg) env := by
  rw [exportsOf, ← setenvSeq_eq _ (setenvCalls_nodup cfg)]
  rcases cfg with _ | cfg
  · rfl
  · simp only [createChallengeProvider, setenvCalls]
    split_ifs
    · exact setenvAll_eq _ env
    · exact setenvAll_eq _ env
    · exact cloudflareSetenv_eq cfg env
    · rfl

/-- **The environment the constructor reads** is the one its call leaves: the
call's exports written over the environment the call started in. -/
theorem createChallengeProvider_reads (lego : Lego P) (cfg : Option DNSProviderConfig)
    (logFn : Option L) (env : Env) {newDNSProvider : Env → Except String P} {name : String}
    (h : legoConstructor lego cfg = some (newDNSProvider, name)) :
    (createChallengeProvider lego cfg logFn env).1 =
      (newProvider newDNSProvider name (overlay (exportsOf cfg) env)).map (wrapWithLogging · logFn) := by
  rw [← createChallengeProvider_env lego cfg logFn env]
  rcases cfg with _ | cfg
  · cases h
  · simp only [legoConstructor] at h
    simp only [createChallengeProvider]
    split_ifs at h ⊢ <;> cases h <;> rfl

/-- A call that reaches no constructor fails the same way in every environment. -/
theorem createChallengeProvider_of_none (lego : Lego P) {cfg : Option DNSProviderConfig}
    (logFn : Option L) (h : legoConstructor lego cfg = none) (env env' : Env) :
    (createChallengeProvider lego cfg logFn env).1 = (createChallengeProvider lego cfg logFn env').1 := by
  rcases cfg with _ | cfg
  · rfl
  · simp only [legoConstructor] at h
    simp only [createChallengeProvider]
    split_ifs at h ⊢
    rfl

/-- Starting environments that agree once a call's exports are written over
them build the same provider. -/
theorem createChallengeProvider_congr (lego : Lego P) (cfg : Option DNSProviderConfig)
    (logFn : Option L) {env env' : Env}
    (h : overlay (exportsOf cfg) env = overlay (exportsOf cfg) env') :
    (createChallengeProvider lego cfg logFn env).1 =
      (createChallengeProvider lego cfg logFn env').1 := by
  rcases hc : legoConstructor lego cfg with _ | ⟨newDNSProvider, name⟩
  · exact createChallengeProvider_of_none lego logFn hc env env'
  · rw [createChallengeProvider_reads lego cfg logFn env hc,
      createChallengeProvider_reads lego cfg logFn env' hc, h]

/-- **Credentials between calls.**  A call leaves its exports written over the
environment, succeed or fail, and exports only variables the lego constructors
read.  A later call builds what it would build from the starting environment
whenever it exports every variable the first call exported.  Its constructor
reads its own exports written over what the first call left, so a variable the
first call exported and it does not keeps the first call's value. -/
theorem createChallengeProvider_after (lego : Lego P) (c1 c2 : Option DNSProviderConfig)
    (logFn : Option L) (env : Env) :
    (createChallengeProvider lego c1 logFn env).2 = overlay (exportsOf c1) env ∧
    (∀ kv ∈ exportsOf c1, kv.1 ∈ legoEnvVars) ∧
    ((exportsOf c1).map Prod.fst ⊆ (exportsOf c2).map Prod.fst →
      (createChallengeProvider lego c2 logFn (createChallengeProvider lego c1 logFn env).2).1 =
        (createChallengeProvider lego c2 logFn env).1) ∧
    (∀ newDNSProvider name, legoConstructor lego c2 = some (newDNSProvider, name) →
      (createChallengeProvider lego c2 logFn (createChallengeProvider lego c1 logFn env).2).1 =
          (newProvider newDNSProvider name (overlay (exportsOf c2) (overlay (exportsOf c1) env))).map
            (wrapWithLogging · logFn) ∧
        ∀ v x, (exportsOf c1).lookup v = some x → (exportsOf c2).lookup v = none →
          overlay (exportsOf c2) (overlay (exportsOf c1) env) v = some x) := by
  have h1 := createChallengeProvider_env lego c1 logFn env
  refine ⟨h1, exportsOf_vars c1, fun h => ?_, fun _ _ hc => ⟨?_, fun v x hx hnone => ?_⟩⟩
  · apply createChallengeProvider_congr
    rw [h1, overlay_overlay h]
  · rw [createChallengeProvider_reads lego c2 logFn _ hc, h1]
  · simp [overlay, hx, hnone]

/-- Zone A's access key, exported by a first call, is what the Route 53
constructor reads in a second call for zone B, which relies on a profile;
run alone from the same environment, zone B's call reads no key. -/
theorem credentials_leak_between_calls :
    let lego : Lego (Option String) :=
      ⟨fun env => .ok (env "AWS_ACCESS_KEY_ID"), fun env => .ok (env "AWS_ACCESS_KEY_ID"),
        fun env => .ok (env "AWS_ACCESS_KEY_ID")⟩
    let zoneA : DNSProviderConfig :=
      { type := dnsProviderRoute53, awsAccessKeyID := "AKIAZONEA", awsSecretAccessKey := "zoneA" }
    let zoneB : DNSProviderConfig := { type := dnsProviderRoute53, awsProfile := "zone-b" }
    let host : Env := fun _ => none
    (createChallengeProvider lego (some zoneB) (none : Option Unit)
        (createChallengeProvider lego (some zoneA) (none : Option Unit) host).2).1 =
      .ok (.lego (some "AKIAZONEA")) ∧
    (createChallengeProvider lego (some zoneB) (none : Option Unit) host).1 = .ok (.lego none) :=
  ⟨rfl, rfl⟩

end HomelabHorizon.Acme
