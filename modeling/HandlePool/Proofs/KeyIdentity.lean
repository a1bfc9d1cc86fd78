import HandlePool.Proofs.Delegation
/-!
# What a cache key depends on

A key is the target's normalized scheme and authority, the unique number, and the identity of
the principal. The identity reads user names and methods only, never a credential set, at any
depth of a chain of proxies; so two principals that differ only in their credentials get the
same key, or the same failure (`CacheKey.derive_eraseCredentials`). Between two keys that were
derived, equality is equality of all four parts, and the identity of a proxy always names a
proxy user while no other identity does.

* `Identity.of_eraseCredentials`: identities ignore credentials.
* `CacheKey.derive_eq_ok`: what a successful derivation returns.
* `Identity.proxyUser_isSome`: an identity names a proxy user exactly for a proxy.
* `keys_ignore_credentials_separate_identities`: the whole statement.
-/

namespace HandlePool

namespace Principal

/-- The principal with every credential set emptied, its own and those of its real users. -/
def eraseCredentials : Principal → Principal
  | direct u m _ => direct u m .empty
  | proxy u _ r => proxy u .empty r.eraseCredentials

@[simp] theorem user_eraseCredentials (p : Principal) : p.eraseCredentials.user = p.user := by
  cases p <;> rfl

@[simp] theorem method_eraseCredentials (p : Principal) :
    p.eraseCredentials.method = p.method := by
  cases p <;> rfl

end Principal

/-- The identity of a principal reads no credentials. -/
theorem Identity.of_eraseCredentials (p : Principal) :
    Identity.of p.eraseCredentials = Identity.of p := by
  cases p with
  | direct u m c => cases m <;> rfl
  | proxy u c r =>
    -- both are keyed by the direct real user's name, which erasing keeps
    rw [Principal.eraseCredentials, Identity.of_proxy, Identity.of_proxy,
      Principal.user_eraseCredentials]

theorem CacheKey.derive_eraseCredentials (t : Target) (p : Principal) (u : Nat) :
    CacheKey.derive t p.eraseCredentials u = CacheKey.derive t p u := by
  simp only [CacheKey.derive, Identity.of_eraseCredentials]

/-- A derivation succeeds exactly when the identity is known, with the four parts of the key. -/
theorem CacheKey.derive_eq_ok {t : Target} {p : Principal} {u : Nat} {k : CacheKey} :
    CacheKey.derive t p u = .ok k ↔
      ∃ id, Identity.of p = .ok id ∧ k = ⟨t.scheme, t.authority, u, id⟩ := by
  cases h : Identity.of p with
  | error e =>
    simp only [CacheKey.derive, h]
    simp [bind, Except.bind]
  | ok id =>
    rw [CacheKey.derive_ok h]
    simp [eq_comm]

/-- A known identity names a proxy user exactly when the principal is a proxy. -/
theorem Identity.proxyUser_isSome {p : Principal} {id : Identity} (h : Identity.of p = .ok id) :
    id.proxyUser.isSome ↔ p.method = .proxy := by
  cases p with
  | direct u m c =>
    -- a direct proxy has no real user, and the other methods no identity
    cases m <;> simp only [Identity.of, realUserOf, Principal.realUser?] at h <;>
      cases h <;> simp [Principal.method]
  | proxy u c r =>
    rw [Identity.of_proxy] at h
    cases h
    simp [Principal.method]

/-- **Keys ignore credentials and separate identities.**

* For every target `t` and number `u`, two principals equal up to their credential sets (at
  every depth of their chains of real users) derive the same key, or fail alike.
* Two derived keys are equal exactly when the normalized schemes and authorities, the unique
  numbers and the identities are; so a proxy's key differs from every key of a principal that
  is no proxy, and keys with different unique numbers differ. -/
theorem keys_ignore_credentials_separate_identities :
    (∀ (t : Target) (u : Nat) (p q : Principal), p.eraseCredentials = q.eraseCredentials →
      CacheKey.derive t p u = CacheKey.derive t q u) ∧
    (∀ (t t' : Target) (p p' : Principal) (u u' : Nat) (k k' : CacheKey),
      CacheKey.derive t p u = .ok k → CacheKey.derive t' p' u' = .ok k' →
      (k = k' ↔ t.scheme = t'.scheme ∧ t.authority = t'.authority ∧ u = u' ∧
        Identity.of p = Identity.of p') ∧
      (p.method = .proxy → p'.method ≠ .proxy → k ≠ k') ∧
      (u ≠ u' → k ≠ k')) := by
  refine ⟨fun t u p q h => ?_, fun t t' p p' u u' k k' hk hk' => ?_⟩
  · rw [← CacheKey.derive_eraseCredentials t p, h, CacheKey.derive_eraseCredentials]
  · obtain ⟨id, hid, rfl⟩ := CacheKey.derive_eq_ok.1 hk
    obtain ⟨id', hid', rfl⟩ := CacheKey.derive_eq_ok.1 hk'
    have heq : (⟨t.scheme, t.authority, u, id⟩ : CacheKey) = ⟨t'.scheme, t'.authority, u', id'⟩ ↔
        t.scheme = t'.scheme ∧ t.authority = t'.authority ∧ u = u' ∧
          Identity.of p = Identity.of p' := by
      rw [hid, hid']
      simp
    refine ⟨heq, fun hp hp' he => ?_, fun hu he => hu (heq.1 he).2.2.1⟩
    -- the proxy's identity names a proxy user, the other's does not
    have hsome := (Identity.proxyUser_isSome hid).2 hp
    have hnone : ¬ id'.proxyUser.isSome := fun hs => hp' ((Identity.proxyUser_isSome hid').1 hs)
    rw [(CacheKey.mk.inj he).2.2.2] at hsome
    exact hnone hsome

/-- Renewing a Kerberos ticket keeps the key, and a proxy for that user has another key. -/
theorem keys_ignore_credentials_separate_identities_renewed :
    let t : Target :=
      ⟨{ scheme := "hdfs", host := some (.domain "nn1"), port := some 8020,
         path := .segments [""] }, "hdfs", "nn1:8020"⟩
    let before := Principal.direct "hive" .kerberos (.single ⟨"tgt", [1]⟩)
    let after := Principal.direct "hive" .kerberos (.single ⟨"tgt", [2]⟩)
    let alice := Principal.proxy "alice" .empty before
    before.eraseCredentials = after.eraseCredentials ∧
      CacheKey.derive t before 0 = CacheKey.derive t after 0 ∧
      CacheKey.derive t before 0 = .ok ⟨"hdfs", "nn1:8020", 0, ⟨"hive", none⟩⟩ ∧
      CacheKey.derive t alice 0 = .ok ⟨"hdfs", "nn1:8020", 0, ⟨"hive", some "alice"⟩⟩ ∧
      (⟨"hdfs", "nn1:8020", 0, ⟨"hive", some "alice"⟩⟩ : CacheKey) ≠
        ⟨"hdfs", "nn1:8020", 0, ⟨"hive", none⟩⟩ := by
  intro t before after alice
  have h := keys_ignore_credentials_separate_identities
  exact ⟨rfl, h.1 t 0 before after rfl, rfl, rfl,
    (h.2 t t alice before 0 0 _ _ rfl rfl).2.1 rfl (by decide)⟩

end HandlePool
