import CredentialGateway.Proofs.Keyed
import CredentialGateway.Token.Store

/-! What is found in a token store after each of its operations: the flight of a key, and its token. -/

namespace CredentialGateway
open Keyed

theorem CachedToken.isValid_of_le {t : CachedToken} {now later : Nat} (h : now ≤ later) (ht : t.isValid later) :
    t.isValid now := by
  simp only [isValid] at ht ⊢
  cases he : t.ends with
  | none => rfl
  | some e =>
    simp only [he, decide_eq_true_eq] at ht ⊢
    omega

namespace TokenStore

theorem token?_eq_some_of_cached? {s : TokenStore} {now : Nat} {key : TokenKey} {token : String}
    (h : s.cached? now key = some token) : ∃ t, s.token? key = some t ∧ t.isValid now ∧ t.token = token := by
  obtain ⟨t, ht, rfl⟩ := Option.map_eq_some_iff.mp h
  obtain ⟨hkey, hvalid⟩ := Option.filter_eq_some_iff.mp ht
  exact ⟨t, hkey, hvalid, rfl⟩

theorem not_isValid_of_cached?_eq_none {s : TokenStore} {now : Nat} {key : TokenKey} {t : CachedToken}
    (h : s.cached? now key = none) (ht : s.token? key = some t) : t.isValid now = false := by
  simp only [cached?, ht, Option.map_eq_none_iff] at h
  simpa using h

theorem cached?_eq_none_of_le {s : TokenStore} {now later : Nat} {key : TokenKey} (hle : now ≤ later)
    (h : s.cached? now key = none) : s.cached? later key = none := by
  by_contra hne
  obtain ⟨token, htoken⟩ := Option.ne_none_iff_exists'.mp hne
  obtain ⟨t, ht, hvalid, -⟩ := token?_eq_some_of_cached? htoken
  have hstale := not_isValid_of_cached?_eq_none h ht
  rw [CachedToken.isValid_of_le hle hvalid] at hstale
  cases hstale

theorem flight?_openFlight {s : TokenStore} {key : TokenKey} (h : s.flight? key = none) (secret : String)
    (other : TokenKey) :
    (s.openFlight key secret).flight? other =
      if other = key then some ⟨s.opened, secret⟩ else s.flight? other := by
  simp only [flight?, Option.map_eq_none_iff] at h
  simp only [flight?, openFlight, find?_append_key h]
  split <;> rfl

@[simp] theorem token?_openFlight (s : TokenStore) (key : TokenKey) (secret : String) (other : TokenKey) :
    (s.openFlight key secret).token? other = s.token? other := rfl

@[simp] theorem opened_openFlight (s : TokenStore) (key : TokenKey) (secret : String) :
    (s.openFlight key secret).opened = s.opened + 1 := rfl

theorem flight?_removeFlight (s : TokenStore) (key other : TokenKey) :
    (s.removeFlight key).flight? other = if other = key then none else s.flight? other := by
  simp only [flight?, removeFlight, find?_filter_key s.inFlight (fun k => k != key)]
  by_cases h : other = key <;> simp [h]

@[simp] theorem token?_removeFlight (s : TokenStore) (key other : TokenKey) :
    (s.removeFlight key).token? other = s.token? other := rfl

@[simp] theorem flight?_setToken (s : TokenStore) (key : TokenKey) (t : CachedToken) (other : TokenKey) :
    (s.setToken key t).flight? other = s.flight? other := rfl

theorem token?_setToken (s : TokenStore) (key : TokenKey) (t : CachedToken) (other : TokenKey) :
    (s.setToken key t).token? other = if other = key then some t else s.token? other := by
  have h : (s.tokens.filter fun e => e.1 != key).find? (fun e => e.1 == key) = none := by
    rw [find?_filter_key s.tokens (fun k => k != key)]
    simp
  simp only [token?, setToken, find?_append_key h, find?_filter_key s.tokens (fun k => k != key)]
  by_cases hk : other = key <;> simp [hk]

theorem flight?_detach (s : TokenStore) (clientId : String) (key : TokenKey) :
    (s.detach clientId).flight? key = if key.clientId = clientId then none else s.flight? key := by
  simp only [flight?, detach, find?_filter_key s.inFlight (fun k => k.clientId != clientId)]
  by_cases h : key.clientId = clientId <;> simp [h]

@[simp] theorem token?_detach (s : TokenStore) (clientId : String) (key : TokenKey) :
    (s.detach clientId).token? key = s.token? key := rfl

theorem token?_forget (s : TokenStore) (clientId : String) (key : TokenKey) :
    (s.forget clientId).token? key = if key.clientId = clientId then none else s.token? key := by
  simp only [token?, forget, find?_filter_key s.tokens (fun k => k.clientId != clientId)]
  by_cases h : key.clientId = clientId <;> simp [h]

@[simp] theorem flight?_forget (s : TokenStore) (clientId : String) (key : TokenKey) :
    (s.forget clientId).flight? key = s.flight? key := rfl

theorem complete_eq_landed {s : TokenStore} {key : TokenKey} {f : Flight} (h : s.flight? key = some f)
    (now : Nat) (result : Except TokenError TokenAnswer) :
    s.complete now key f.generation result = s.landed now key result := by
  simp only [complete, h, if_true]

theorem complete_eq_self {s : TokenStore} {key : TokenKey} {generation : Nat}
    (h : ∀ f, s.flight? key = some f → f.generation ≠ generation) (now : Nat)
    (result : Except TokenError TokenAnswer) : s.complete now key generation result = s := by
  simp only [complete]
  split
  · rfl
  · rename_i f hf
    rw [if_neg (h f hf)]

theorem flight?_landed (s : TokenStore) (now : Nat) (key : TokenKey) (result : Except TokenError TokenAnswer)
    (other : TokenKey) :
    (s.landed now key result).flight? other = if other = key then none else s.flight? other := by
  cases result <;> simp only [landed, flight?_removeFlight, flight?_setToken]

theorem token?_landed_ok (s : TokenStore) (now : Nat) (key : TokenKey) (a : TokenAnswer) (other : TokenKey) :
    (s.landed now key (.ok a)).token? other = if other = key then some (.ofAnswer a now) else s.token? other := by
  rw [landed, token?_removeFlight, token?_setToken]

@[simp] theorem token?_landed_error (s : TokenStore) (now : Nat) (key : TokenKey) (e : TokenError)
    (other : TokenKey) : (s.landed now key (.error e)).token? other = s.token? other := rfl

theorem token?_landed_of_ne (s : TokenStore) (now : Nat) (result : Except TokenError TokenAnswer) {key other : TokenKey}
    (h : other ≠ key) : (s.landed now key result).token? other = s.token? other := by
  cases result with
  | error e => exact token?_landed_error s now key e other
  | ok a => rw [token?_landed_ok, if_neg h]

theorem token?_complete_of_ne (s : TokenStore) (now generation : Nat) (result : Except TokenError TokenAnswer)
    {key other : TokenKey} (h : other ≠ key) : (s.complete now key generation result).token? other = s.token? other := by
  unfold complete
  split
  · rfl
  · split
    · exact token?_landed_of_ne s now result h
    · rfl

theorem token?_enter (s : TokenStore) (now : Nat) (key : TokenKey) (secret : String) (other : TokenKey) :
    (s.enter now key secret).2.token? other = s.token? other := by
  unfold enter
  split
  · rfl
  · split <;> rfl

@[simp] theorem opened_landed (s : TokenStore) (now : Nat) (key : TokenKey)
    (result : Except TokenError TokenAnswer) : (s.landed now key result).opened = s.opened := by
  cases result <;> rfl

end TokenStore
end CredentialGateway
