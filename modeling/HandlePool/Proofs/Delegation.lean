import HandlePool.Proofs.FailedLookup
/-!
# Following real users through proxies

A proxy principal acts for a real user, which may itself be a proxy. Following real users from a
principal, step by step while the principal is a proxy, ends after finitely many steps at one
principal that names no real user (`Principal.Reaches`, `Principal.reaches_end`,
`Principal.Reaches.end_unique`). That last principal alone decides the credentials a lookup
compares (`Principal.credentialsAtEnd`): none for a simple principal, its own for Kerberos, a
configuration error for a proxy without a real user, and an unsupported method otherwise. The
credentials a proxy holds itself are never read.

The identity a key is derived from looks one level down only: a proxy is keyed by the name of
the real user it acts for directly, whatever that user's method. So a proxy whose chain ends in
an unsupported method has a key but no credentials, and a lookup for it fails with that method
after the key was derived.

* `credentialTokens_eq_credentialsAtEnd`: the credentials of a principal are those its chain ends
  at.
* `Identity.of_proxy`: a proxy's identity reads only the name of its direct real user.
* `credentials_follow_real_users`: the whole statement, with the lookups it makes fail.
-/

namespace HandlePool

namespace Principal

/-- `p` reaches `q` by following real users while the principal is a proxy. -/
inductive Reaches : Principal → Principal → Prop
  | refl (p : Principal) : Reaches p p
  | real {p r q : Principal} : p.method = .proxy → p.realUser? = some r → Reaches r q → Reaches p q

/-- The credentials a lookup compares for a principal that names no real user: none for a simple
principal, its own for Kerberos, no real user for a proxy, and no credentials for the other
methods. -/
def credentialsAtEnd (q : Principal) : Except Error TokenSet :=
  match q.method with
  | .simple => .ok .empty
  | .kerberos => .ok q.credentials
  | .proxy => .error (noRealUser q.user)
  | m => .error (.unsupportedAuthMethod m.name)

@[simp] theorem realUser?_proxy (u : String) (c : TokenSet) (r : Principal) :
    (proxy u c r).realUser? = some r := rfl

@[simp] theorem realUser?_direct (u : String) (m : AuthMethod) (c : TokenSet) :
    (direct u m c).realUser? = none := rfl

/-- Only a proxy names a real user. -/
theorem eq_proxy_of_realUser? {p r : Principal} (h : p.realUser? = some r) :
    ∃ u c, p = .proxy u c r := by
  cases p with
  | direct => cases h
  | proxy u c r' =>
    cases h
    exact ⟨u, c, rfl⟩

theorem Reaches.trans {p q q' : Principal} (h₁ : p.Reaches q) (h₂ : q.Reaches q') : p.Reaches q' := by
  induction h₁ with
  | refl => exact h₂
  | real hm hr _ ih => exact .real hm hr (ih h₂)

/-- A proxy reaches whatever its real user reaches. -/
theorem Reaches.proxy {u : String} {c : TokenSet} {r q : Principal} (h : r.Reaches q) :
    (proxy u c r).Reaches q :=
  .real rfl rfl h

/-- Following real users ends, at a principal that names none. -/
theorem reaches_end (p : Principal) : ∃ q, p.Reaches q ∧ q.realUser? = none := by
  induction p with
  | direct u m c => exact ⟨_, .refl _, rfl⟩
  | proxy u c r ih =>
    obtain ⟨q, hq, hn⟩ := ih
    exact ⟨q, hq.proxy, hn⟩

/-- A principal that names no real user reaches only itself. -/
theorem Reaches.eq_of_none {p q : Principal} (h : p.Reaches q) (hn : p.realUser? = none) : q = p := by
  cases h with
  | refl => rfl
  | real _ hr _ => rw [hn] at hr; cases hr

/-- The principal a chain ends at is determined: following real users is deterministic. -/
theorem Reaches.end_unique {p q q' : Principal} (h : p.Reaches q) (hn : q.realUser? = none)
    (h' : p.Reaches q') (hn' : q'.realUser? = none) : q' = q := by
  induction h generalizing q' with
  | refl p => exact h'.eq_of_none hn
  | real _ hr _ ih =>
    -- the other chain takes the same first step, to the same real user
    cases h' with
    | refl => rw [hn'] at hr; cases hr
    | real _ hr' h'' =>
      rw [hr] at hr'
      cases hr'
      exact ih hn h'' hn'

end Principal

open Principal

/-- The credentials of a principal are those that the end of its chain of real users decides. -/
theorem credentialTokens_eq_credentialsAtEnd {p q : Principal} (h : p.Reaches q)
    (hn : q.realUser? = none) : credentialTokens p = q.credentialsAtEnd := by
  induction h with
  | refl p =>
    -- a principal that names no real user is direct, and its method decides
    cases p with
    | direct u m c => cases m <;> rfl
    | proxy => cases hn
  | real _ hr _ ih =>
    obtain ⟨u, c, rfl⟩ := eq_proxy_of_realUser? hr
    exact ih hn

/-- A proxy is keyed by the name of the real user it acts for directly and its own name, whatever
that real user's method. -/
theorem Identity.of_proxy (u : String) (c : TokenSet) (r : Principal) :
    Identity.of (.proxy u c r) = .ok ⟨r.user, some u⟩ := rfl

/-- A principal that names no real user is keyed by its own name if it is simple or Kerberos. -/
theorem Identity.of_own {p : Principal} (h : p.method = .simple ∨ p.method = .kerberos) :
    Identity.of p = .ok ⟨p.user, none⟩ := by
  unfold Identity.of
  rcases h with h | h <;> rw [h]

/-- A proxy without a real user has no key. -/
theorem Identity.of_no_real {p : Principal} (hm : p.method = .proxy) (hn : p.realUser? = none) :
    Identity.of p = .error (noRealUser p.user) := by
  simp only [Identity.of, hm, realUserOf, hn]
  rfl

/-- Tokens, certificates and Kerberos over SSL have no key. -/
theorem Identity.of_unsupported {p : Principal} (hs : p.method ≠ .simple) (hk : p.method ≠ .kerberos)
    (hp : p.method ≠ .proxy) : Identity.of p = .error (.unsupportedAuthMethod p.method.name) := by
  unfold Identity.of
  split <;> simp_all

/-- A principal whose identity is known has a key for every target and number. -/
theorem CacheKey.derive_ok {p : Principal} {id : Identity} (h : Identity.of p = .ok id) (t : Target)
    (u : Nat) : CacheKey.derive t p u = .ok ⟨t.scheme, t.authority, u, id⟩ := by
  simp only [CacheKey.derive, h]
  rfl

/-- **Credentials and identities over chains of proxies.** For every principal `p`:

* following real users from `p` ends at exactly one principal `q` that names no real user, and
  the credentials of `p` are those `q` decides: none if `q` is simple, `q`'s own if Kerberos, a
  missing real user if `q` is a proxy, an unsupported method otherwise;
* `p`'s identity is its own name if it is simple or Kerberos, the name of its direct real user
  with its own name if it is a proxy with one, a missing real user for a proxy without one, and
  an unsupported method otherwise;
* if `p` is a proxy whose chain ends in an unsupported method, every key derivation for `p`
  succeeds, and every lookup of a session for `p`, shared or exclusive, fails with that method,
  changing nothing but the unique number an exclusive lookup draws. -/
theorem credentials_follow_real_users (p : Principal) :
    (∃ q, p.Reaches q ∧ q.realUser? = none ∧ credentialTokens p = q.credentialsAtEnd ∧
      ∀ q', p.Reaches q' → q'.realUser? = none → q' = q) ∧
    (p.method = .simple ∨ p.method = .kerberos → Identity.of p = .ok ⟨p.user, none⟩) ∧
    (∀ r, p.realUser? = some r → Identity.of p = .ok ⟨r.user, some p.user⟩) ∧
    (p.method = .proxy → p.realUser? = none → Identity.of p = .error (noRealUser p.user)) ∧
    (p.method ≠ .simple → p.method ≠ .kerberos → p.method ≠ .proxy →
      Identity.of p = .error (.unsupportedAuthMethod p.method.name)) ∧
    (∀ r q, p.realUser? = some r → p.Reaches q → q.realUser? = none → q.method ≠ .simple →
      q.method ≠ .kerberos → q.method ≠ .proxy →
      (∀ t u, ∃ k, CacheKey.derive t p u = .ok k) ∧
      ∀ (w : World) i pool uri t ex name, w.pool? i = some pool → Target.parse uri = .ok t →
        w.act (.get i uri p ex name) =
          (.failed (.unsupportedAuthMethod q.method.name),
            if ex then w.setPool i pool.drawUnique.2 else w)) := by
  obtain ⟨q₀, hq₀, hn₀⟩ := reaches_end p
  refine ⟨⟨q₀, hq₀, hn₀, credentialTokens_eq_credentialsAtEnd hq₀ hn₀,
    fun q' h' hn' => hq₀.end_unique hn₀ h' hn'⟩, Identity.of_own, fun r hr => ?_,
    Identity.of_no_real, Identity.of_unsupported, fun r q hr hq hn hs hk hp => ?_⟩
  · obtain ⟨u, c, rfl⟩ := eq_proxy_of_realUser? hr
    exact Identity.of_proxy u c r
  · -- the key reads one level down, the credentials the whole chain
    have hid : Identity.of p = .ok ⟨r.user, some p.user⟩ := by
      obtain ⟨u, c, rfl⟩ := eq_proxy_of_realUser? hr
      exact Identity.of_proxy u c r
    have hcred : credentialTokens p = .error (.unsupportedAuthMethod q.method.name) := by
      rw [credentialTokens_eq_credentialsAtEnd hq hn, credentialsAtEnd]
      split <;> simp_all
    refine ⟨fun t u => ⟨_, CacheKey.derive_ok hid t u⟩, fun w i pool uri t ex name hpool ht => ?_⟩
    rw [World.act_of_asks hpool (.get ht)]
    exact World.lookupAs_unresolved (Or.inr ⟨⟨_, CacheKey.derive_ok hid t _⟩, hcred⟩)

/-- A proxy for a proxy for a token user: the key names the middle user, the credentials come
from the token user at the end, and a shared lookup fails with its method. -/
theorem credentials_follow_real_users_nested :
    let p := Principal.proxy "alice" (.single ⟨"tgt", [1]⟩)
      (.proxy "svc" .empty (.direct "root" .token (.single ⟨"tgt", [2]⟩)))
    Identity.of p = .ok ⟨"svc", some "alice"⟩ ∧
    (World.create {} .manual none).act (.get 0 "hdfs://nn" p false none) =
      (.failed (.unsupportedAuthMethod "TOKEN"), World.create {} .manual none) := by
  intro p
  have hq : p.Reaches (.direct "root" .token (.single ⟨"tgt", [2]⟩)) := (Reaches.refl _).proxy.proxy
  obtain ⟨t, ht⟩ : ∃ t, Target.parse "hdfs://nn" = .ok t := ⟨_, rfl⟩
  have hall := (credentials_follow_real_users p).2.2.2.2.2 _ _ rfl hq rfl
    (by decide) (by decide) (by decide)
  exact ⟨rfl, hall.2 (World.create {} .manual none) 0 { identity := none } "hdfs://nn" t false none
    rfl ht⟩

end HandlePool
