import HomelabHorizon.Acme.Provider

/-! # Calls of `CreateChallengeProvider` in one process

The environment `CreateChallengeProvider` exports into belongs to the process.
A program that sets up providers for several zones runs its calls one after
another on that one environment (`createAll`).

Over any such run, the environment left is the host's with every call's
exports, the `os.Setenv` calls that took effect, written over it, a later
call's over an earlier one's (`createAll_env`).  So the order of the calls
matters only where two of them export one variable with two values: calls whose
exports agree wherever they meet leave the same environment in every order
(`createAll_perm_env`).
-/
namespace HomelabHorizon.Acme
variable {P L : Type}

/-- `CreateChallengeProvider` called with each configuration in turn, in one
process: the results, in order, and the environment left. -/
def createAll (lego : Lego P) (logFn : Option L) :
    List (Option DNSProviderConfig) → Env → List (Except String (ChallengeProvider P L)) × Env
  | [], env => ([], env)
  | cfg :: cfgs, env =>
    let (result, env) := createChallengeProvider lego cfg logFn env
    let (results, env) := createAll lego logFn cfgs env
    (result :: results, env)

/-- The exports of a run, a later call's first. -/
def exportsAll (cfgs : List (Option DNSProviderConfig)) : List (String × String) :=
  cfgs.reverse.flatMap exportsOf

/-- No variable is exported with two values by the calls of a run. -/
def ExportsAgree (cfgs : List (Option DNSProviderConfig)) : Prop :=
  ∀ c ∈ cfgs, ∀ c' ∈ cfgs, ∀ kv ∈ exportsOf c, ∀ kv' ∈ exportsOf c', kv.1 = kv'.1 → kv.2 = kv'.2

instance (cfgs : List (Option DNSProviderConfig)) : Decidable (ExportsAgree cfgs) := by
  unfold ExportsAgree
  infer_instance

theorem overlay_append (xs ys : List (String × String)) (env : Env) :
    overlay (xs ++ ys) env = overlay xs (overlay ys env) := by
  funext v
  simp only [overlay, List.lookup_append, Option.or_assoc]

theorem mem_of_lookup_eq_some {v x : String} :
    ∀ {xs : List (String × String)}, xs.lookup v = some x → (v, x) ∈ xs
  | [], h => absurd h (by simp)
  | (k, y) :: xs, h => by
    rw [lookup_cons_eq_ite] at h
    split_ifs at h with hv
    · cases h
      rw [hv]
      exact List.mem_cons_self _ _
    · exact List.mem_cons_of_mem _ (mem_of_lookup_eq_some h)

/-- Exports that agree wherever they meet can be written in either order. -/
theorem overlay_comm {xs ys : List (String × String)}
    (h : ∀ kv ∈ xs, ∀ kv' ∈ ys, kv.1 = kv'.1 → kv.2 = kv'.2) (env : Env) :
    overlay xs (overlay ys env) = overlay ys (overlay xs env) := by
  funext v
  simp only [overlay]
  cases hx : xs.lookup v with
  | none => cases ys.lookup v <;> rfl
  | some x =>
    cases hy : ys.lookup v with
    | none => rfl
    | some y =>
      have hxy : x = y := h _ (mem_of_lookup_eq_some hx) _ (mem_of_lookup_eq_some hy) rfl
      subst hxy
      rfl

theorem createAll_cons_env (lego : Lego P) (logFn : Option L) (cfg : Option DNSProviderConfig)
    (cfgs : List (Option DNSProviderConfig)) (env : Env) :
    (createAll lego logFn (cfg :: cfgs) env).2 =
      (createAll lego logFn cfgs (overlay (exportsOf cfg) env)).2 := by
  rw [← createChallengeProvider_env lego cfg logFn env]
  rfl

/-- **What a run leaves in the environment**: the host's, with every call's
exports written over it, a later call's over an earlier one's, whether each
call succeeded or not.  A value `os.Setenv` refused is no export. -/
theorem createAll_env (lego : Lego P) (logFn : Option L) (cfgs : List (Option DNSProviderConfig))
    (env : Env) : (createAll lego logFn cfgs env).2 = overlay (exportsAll cfgs) env := by
  induction cfgs generalizing env with
  | nil => rfl
  | cons cfg cfgs ih =>
    rw [createAll_cons_env, ih]
    simp only [exportsAll, List.reverse_cons, List.flatMap_append, List.flatMap_cons,
      List.flatMap_nil, List.append_nil, overlay_append]

theorem ExportsAgree.sublist {cfgs cfgs' : List (Option DNSProviderConfig)} (h : ExportsAgree cfgs)
    (hsub : ∀ c ∈ cfgs', c ∈ cfgs) : ExportsAgree cfgs' :=
  fun c hc c' hc' => h c (hsub c hc) c' (hsub c' hc')

/-- **Calls that agree on what they export can run in any order**: a run of
them leaves the same environment as any reordering of it. -/
theorem createAll_perm_env (lego : Lego P) (logFn : Option L)
    {cfgs cfgs' : List (Option DNSProviderConfig)} (hp : cfgs.Perm cfgs') (hagree : ExportsAgree cfgs)
    (env : Env) : (createAll lego logFn cfgs env).2 = (createAll lego logFn cfgs' env).2 := by
  induction hp generalizing env with
  | nil => rfl
  | cons c _ ih =>
    rw [createAll_cons_env, createAll_cons_env,
      ih (hagree.sublist fun c' h => List.mem_cons_of_mem _ h)]
  | swap c c' cfgs =>
    have hcc' := hagree c' (List.mem_cons_self _ _) c (List.mem_cons_of_mem _ (List.mem_cons_self _ _))
    rw [createAll_cons_env, createAll_cons_env, createAll_cons_env, createAll_cons_env,
      overlay_comm hcc']
  | trans hp₁ _ ih₁ ih₂ =>
    rw [ih₁ hagree _, ih₂ (hagree.sublist fun c h => hp₁.mem_iff.mpr h)]

/-- A Route 53 zone and a Cloudflare zone, set up in either order, leave the
same environment. -/
theorem route53_and_cloudflare_any_order :
    let zoneA : DNSProviderConfig :=
      { type := dnsProviderRoute53, awsAccessKeyID := "AKIAZONEA", awsSecretAccessKey := "zoneA" }
    let zoneB : DNSProviderConfig :=
      { type := dnsProviderCloudflare, cloudflareAPIToken := "cf-token", cloudflareZoneID := "z" }
    let lego : Lego Unit := ⟨fun _ => .ok (), fun _ => .ok (), fun _ => .ok ()⟩
    ExportsAgree [some zoneA, some zoneB] ∧
      (createAll lego (none : Option Unit) [some zoneA, some zoneB] (fun _ => none)).2 =
        (createAll lego (none : Option Unit) [some zoneB, some zoneA] (fun _ => none)).2 := by
  intro zoneA zoneB lego
  have hagree : ExportsAgree [some zoneA, some zoneB] := by decide
  exact ⟨hagree, createAll_perm_env lego none (List.Perm.swap _ _ _) hagree _⟩

end HomelabHorizon.Acme
