import CredentialGateway.Proofs.Csrf
import CredentialGateway.Proofs.Gateway.Renewal
import CredentialGateway.Proofs.Gateway.Unusable

/-! When credentials fail to form a header value. Of the three mechanisms only OAuth can fail so, and does so exactly for
tokens with a control character. A CSRF token that was had from the store or from its endpoint can always be written. -/

namespace CredentialGateway

open Http

def CsrfStore.Issued (c : CsrfStore) : Prop := ∀ url t, c.get? url = some t → ∃ answer, CsrfToken.ofHeaders? answer = some t

namespace CsrfStore.Issued

variable {c : CsrfStore}

theorem empty : CsrfStore.empty.Issued := fun _ _ h => nomatch h

theorem insert (h : c.Issued) (url : String) {t : CsrfToken} {answer : Headers} (ht : CsrfToken.ofHeaders? answer = some t) :
    (c.insert url t).Issued := by
  intro other u hu
  rw [get?_insert] at hu
  split at hu
  · cases hu
    exact ⟨answer, ht⟩
  · exact h other u hu

theorem erase (h : c.Issued) (url : String) : (c.erase url).Issued := by
  intro other u hu
  rw [get?_erase] at hu
  split at hu
  · cases hu
  · exact h other u hu

end CsrfStore.Issued

namespace Session

/-- What sessions are used for. Between the uses of one strategy, others may send requests and let time pass. -/
inductive Use
  | setup (strategy : Strategy) (headers : Headers)
  | reset (strategy : Strategy)
  | meanwhile (world : World)

def use (r : Reach) (s : Session) : Use → Session
  | .setup strategy headers => (setup r strategy headers s).2
  | .reset strategy => s.reset strategy
  | .meanwhile world => { s with world }

def afterUses (r : Reach) (uses : List Use) : Session := uses.foldl (use r) .start

variable {r : Reach} {s s' : Session} {h : Headers}

theorem kept_issued (r : Reach) : Kept r (fun _ => True) fun s => s.csrf.Issued where
  untouched s t huntouched h := by rwa [huntouched.csrf]
  later _ _ _ h := h
  getToken key secret s h := by rwa [(grown_getToken r key secret s).csrf]
  getCsrfToken url authorization s h := by
    rcases getCsrfToken_cases r url authorization s with ⟨t, -, hget⟩ | ⟨-, -, -, hanswer⟩
    · rwa [hget]
    · rcases hanswer with ⟨e, -, hcsrf⟩ | ⟨response, t, -, -, ht, -, hcsrf⟩
      · rwa [hcsrf]
      · rw [hcsrf]
        exact h.insert url ht
  reset strategy s _ h := by
    unfold Session.reset
    split <;> split
    · exact h.erase _
    · exact h
    · exact h.erase _
    · exact h

theorem issued_use (hs : s.csrf.Issued) (u : Use) : (use r s u).csrf.Issued := by
  cases u with
  | setup strategy headers => exact (kept_issued r).setup strategy headers hs
  | reset strategy => exact (kept_issued r).reset strategy s trivial hs
  | meanwhile world => exact hs

theorem issued_afterUses (r : Reach) (uses : List Use) : (afterUses r uses).csrf.Issued := by
  induction uses using List.reverseRecOn with
  | nil => exact .empty
  | append_singleton uses u ih =>
    rw [afterUses, List.foldl_append]
    exact issued_use ih u

theorem apply_of_getCsrfToken (hs : s.csrf.Issued) {url : String} {authorization : Option HeaderValue} {t : CsrfToken}
    (hget : (getCsrfToken r url authorization s).1 = .ok t) (h : Headers) : ∃ after, t.apply h = (after, .ok ()) := by
  have hafter := (kept_issued r).getCsrfToken url authorization s hs
  obtain ⟨answer, ht⟩ := hafter url t (get?_of_getCsrfToken (Prod.ext hget rfl))
  exact CsrfToken.apply_of_ofHeaders? ht h

theorem setMechanism_invalid_iff {m : Mechanism} : (setMechanism r m h s).1.2 = .error .invalidHeader ↔
    ∃ clientId secret url token, m = .oauth clientId secret url ∧
      (getToken r ⟨clientId, url⟩ secret s).1 = .ok token ∧ ∃ c ∈ token.toList, IsControl c := by
  constructor
  · intro hfail
    cases m with
    | none => cases hfail
    | basic username password =>
      rw [setMechanism_basic] at hfail
      cases hfail
    | oauth clientId secret url =>
      simp only [setMechanism] at hfail
      split at hfail
      · cases hfail
      · rename_i token s' hget
        split at hfail
        · rename_i hvalue
          exact ⟨clientId, secret, url, token, rfl, congrArg Prod.fst hget, bearerValue?_eq_none_iff.mp hvalue⟩
        · cases hfail
  · rintro ⟨clientId, secret, url, token, rfl, hget, hcontrol⟩
    have hpair : getToken r ⟨clientId, url⟩ secret s = (.ok token, (getToken r ⟨clientId, url⟩ secret s).2) :=
      Prod.ext hget rfl
    simp only [setMechanism]
    rw [hpair]
    dsimp only
    rw [bearerValue?_eq_none_iff.mpr hcontrol]

theorem setMechanism_ne_csrf (r : Reach) (m : Mechanism) (h : Headers) (s : Session) (failure : CsrfError) :
    (setMechanism r m h s).1.2 ≠ .error (.csrf failure) := by
  cases m with
  | none => rintro ⟨⟩
  | basic username password =>
    rw [setMechanism_basic]
    rintro ⟨⟩
  | oauth clientId secret url =>
    simp only [setMechanism]
    split
    · rintro ⟨⟩
    · split <;> rintro ⟨⟩

theorem setup_of_setMechanism {strategy : Strategy} {e : AuthorizationError}
    (hfail : (setMechanism r strategy.mechanism h s).1.2 = .error e) : (setup r strategy h s).1.2 = .error e := by
  rcases heq : setMechanism r strategy.mechanism h s with ⟨⟨h', result⟩, s'⟩
  rw [heq] at hfail
  obtain rfl : result = .error e := hfail
  rw [setup, heq]

theorem getCsrfToken_ne_invalid (r : Reach) (url : String) (authorization : Option HeaderValue) (s : Session) :
    (getCsrfToken r url authorization s).1 ≠ .error .invalidHeader := by
  unfold getCsrfToken
  split
  · rintro ⟨⟩
  · split
    · rintro ⟨⟩
    · split
      · rintro ⟨⟩
      · split <;> rintro ⟨⟩

theorem shakeHands_ne_invalid (hs : s.csrf.Issued) (url : String) (h : Headers) :
    (shakeHands r url h s).1.2 ≠ .error (.csrf .invalidHeader) := by
  have hget := getCsrfToken_ne_invalid r url (h.get? .authorization) s
  unfold shakeHands
  split
  · rename_i e s' heq
    rw [heq] at hget
    rintro ⟨⟩
    exact hget rfl
  · rename_i t s' heq
    obtain ⟨after, happly⟩ := apply_of_getCsrfToken hs (congrArg Prod.fst heq) h
    rw [happly]
    rintro ⟨⟩

theorem setup_ne_invalid (hs : s.csrf.Issued) (strategy : Strategy) (h : Headers) :
    (setup r strategy h s).1.2 ≠ .error (.csrf .invalidHeader) := by
  have hmechanism := setMechanism_ne_csrf r strategy.mechanism h s .invalidHeader
  have hafter := (kept_issued r).setMechanism strategy.mechanism h hs
  unfold setup
  split
  · rename_i h' e s' heq
    rwa [heq] at hmechanism
  · rename_i h' s' heq
    rw [heq] at hafter
    split
    · rintro ⟨⟩
    · exact shakeHands_ne_invalid hafter _ h'

theorem all_authorization_setup (r : Reach) (strategy : Strategy) (h : Headers) (s : Session) :
    (setup r strategy h s).1.1.all .authorization = (setMechanism r strategy.mechanism h s).1.1.all .authorization := by
  unfold setup
  split
  · rename_i heq
    rw [heq]
  · rename_i h' s' heq
    rw [heq]
    split
    · rfl
    · unfold shakeHands
      split
      · rfl
      · rename_i t _ _
        exact t.all_authorization_apply h'

/-- Whatever a session has been used for before: a setup fails for want of a header value exactly if its mechanism is
OAuth and the token that it had has a control character. Basic credentials are always set, and alone; a CSRF token that is
had can be written onto any request, so no handshake fails for want of a header value either. -/
theorem setup_forms_values (r : Reach) (uses : List Use) (strategy : Strategy) (h : Headers) :
    ((setup r strategy h (afterUses r uses)).1.2 = .error .invalidHeader ↔
        ∃ clientId secret url token, strategy.mechanism = .oauth clientId secret url ∧
          (getToken r ⟨clientId, url⟩ secret (afterUses r uses)).1 = .ok token ∧ ∃ c ∈ token.toList, IsControl c) ∧
      (setup r strategy h (afterUses r uses)).1.2 ≠ .error (.csrf .invalidHeader) ∧
      (∀ username password, strategy.mechanism = .basic username password →
        (setMechanism r strategy.mechanism h (afterUses r uses)).1.2 = .ok () ∧
          (setup r strategy h (afterUses r uses)).1.1.all .authorization = [Call.basicValue username password]) ∧
      ∀ url authorization t, (getCsrfToken r url authorization (afterUses r uses)).1 = .ok t →
        ∀ k : Headers, ∃ after, t.apply k = (after, .ok ()) := by
  have hissued := issued_afterUses r uses
  refine ⟨⟨fun hfail => ?_, fun hoauth => ?_⟩, setup_ne_invalid hissued strategy h, fun username password hbasic => ?_,
    fun url authorization t hget => apply_of_getCsrfToken hissued hget⟩
  · rcases setMechanism_of_setup (Prod.ext (Prod.ext rfl hfail) rfl) with hmechanism | ⟨failure, hcsrf⟩
    · exact setMechanism_invalid_iff.mp (congrArg (fun x => x.1.2) hmechanism)
    · cases hcsrf
  · exact setup_of_setMechanism (setMechanism_invalid_iff.mpr hoauth)
  · rw [all_authorization_setup, hbasic, setMechanism_basic]
    exact ⟨rfl, Headers.all_set_self h _ _⟩

end Session

section Kiosk
open Kiosk Session

/-- The kiosk's token with a line break fails each setup, and a basic strategy with line breaks none. -/
theorem kiosk_forms_values :
    let s := afterUses (reach "a\\nb") [.setup strategy .empty]
    (setup (reach "a\\nb") strategy .empty s).1.2 = .error .invalidHeader ∧
      (setMechanism (reach "a\\nb") (.basic "kiosk\n" "a\nb") .empty s).1.2 = .ok () := by
  intro s
  have htoken : (getToken (reach "a\\nb") key "a" s).1 = .ok "a\nb" := by decide +kernel
  have hcontrol : ∃ c ∈ "a\nb".toList, IsControl c := ⟨'\n', by decide +kernel, by decide⟩
  obtain ⟨hinvalid, -, -, -⟩ := setup_forms_values (reach "a\\nb") [.setup strategy .empty] strategy .empty
  obtain ⟨-, -, hbasic, -⟩ :=
    setup_forms_values (reach "a\\nb") [.setup strategy .empty] ⟨.basic "kiosk\n" "a\nb", none⟩ .empty
  exact ⟨hinvalid.mpr ⟨_, _, _, _, rfl, htoken, hcontrol⟩, (hbasic _ _ rfl).1⟩

end Kiosk

end CredentialGateway
