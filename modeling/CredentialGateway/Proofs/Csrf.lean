import CredentialGateway.Proofs.Gateway.Served
import CredentialGateway.Proofs.Http.FieldText
import Mathlib.Data.List.Basic

/-! A CSRF token that an endpoint has handed out can be written onto any request: it reads as text, and so do its cookies
and whatever is left of the caller's. -/

namespace CredentialGateway

open Http

theorem exists_ofText? {s : String} (h : ∀ c ∈ s.toList, IsVisible c) : ∃ v, HeaderValue.ofText? s = some v :=
  ⟨_, ofText?_of_free fun c hc => IsVisible.check (P := fun c => ¬IsControl c) (by decide) (h c hc)⟩

theorem visible_intercalate {separator : String} {texts : List String} (hseparator : ∀ c ∈ separator.toList, IsVisible c)
    (h : ∀ t ∈ texts, ∀ c ∈ t.toList, IsVisible c) : ∀ c ∈ (separator.intercalate texts).toList, IsVisible c := by
  rw [String.toList_intercalate]
  induction texts with
  | nil => exact fun c hc => nomatch hc
  | cons t texts ih =>
    obtain ⟨ht, hrest⟩ := List.forall_mem_cons.mp h
    cases texts with
    | nil => simpa using ht
    | cons t' texts =>
      intro c hc
      rw [List.map_cons, List.map_cons, List.intercalate_cons_cons] at hc
      rcases List.mem_append.mp hc with hfirst | hlater
      · rcases List.mem_append.mp hfirst with hown | hbetween
        · exact ht c hown
        · exact hseparator c hbetween
      · exact ih hrest c hlater

namespace CsrfToken

theorem visible_callerCookies {h : Headers} : ∀ t ∈ callerCookies h, ∀ c ∈ t.toList, IsVisible c := by
  intro t ht c hc
  obtain ⟨cs, hcs, hcookie⟩ := List.mem_filterMap.mp ht
  obtain ⟨v, -, hv⟩ := List.mem_filterMap.mp hcs
  dsimp only at hcookie
  split at hcookie
  · cases hcookie
  · cases hcookie
    rw [String.toList_ofList] at hc
    exact visible_of_chars? hv c (Resolver.mem_of_mem_trim hc)

theorem visible_cookieOf {v : HeaderValue} {cookie : String} (h : cookieOf v = some cookie) :
    ∀ c ∈ cookie.toList, IsVisible c := by
  intro c hc
  obtain ⟨cs, hcs, hcookie⟩ := Option.bind_eq_some_iff.mp h
  dsimp only at hcookie
  split at hcookie
  · cases hcookie
  · cases hcookie
    rw [String.toList_ofList] at hc
    exact visible_of_chars? hcs c ((List.takeWhile_sublist _).mem (Resolver.mem_of_mem_trim hc))

theorem visible_ofHeaders? {answer : Headers} {t : CsrfToken} (h : ofHeaders? answer = some t) :
    (∀ c ∈ t.token.toList, IsVisible c) ∧ ∀ cookie ∈ t.cookies, ∀ c ∈ cookie.toList, IsVisible c := by
  obtain ⟨token, htoken, hok⟩ := Option.bind_eq_some_iff.mp h
  obtain ⟨v, -, hv⟩ := Option.bind_eq_some_iff.mp htoken
  obtain ⟨cs, hcs, rfl⟩ := Option.map_eq_some_iff.mp hv
  split at hok
  · cases hok
  · cases hok
    refine ⟨fun c hc => ?_, fun cookie hcookie => ?_⟩
    · rw [String.toList_ofList] at hc
      exact visible_of_chars? hcs c hc
    · obtain ⟨v, -, hv⟩ := List.mem_filterMap.mp hcookie
      exact visible_cookieOf hv

theorem apply_of_ofHeaders? {answer : Headers} {t : CsrfToken} (ht : ofHeaders? answer = some t) (h : Headers) :
    ∃ after, t.apply h = (after, .ok ()) := by
  obtain ⟨htoken, hcookies⟩ := visible_ofHeaders? ht
  obtain ⟨token, hvalue⟩ := exists_ofText? htoken
  unfold apply
  rw [hvalue]
  dsimp only
  split
  · exact ⟨_, rfl⟩
  · have hvisible : ∀ c ∈ ("; ".intercalate (callerCookies (h.set .csrfToken token) ++ t.cookies)).toList, IsVisible c := by
      refine visible_intercalate (visible_of_all (by decide)) fun text htext => ?_
      rcases List.mem_append.mp htext with hcaller | hown
      · exact visible_callerCookies text hcaller
      · exact hcookies text hown
    obtain ⟨v, hv⟩ := exists_ofText? hvisible
    rw [hv]
    exact ⟨_, rfl⟩

end CsrfToken
end CredentialGateway
