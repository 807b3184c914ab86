import CredentialGateway.Proofs.Csrf
import CredentialGateway.Proofs.Gateway.Session

/-! What is left of the cookies of a caller when those of a CSRF token are added to them. -/

namespace CredentialGateway

open Http

def Http.HeaderValue.isReadable (v : HeaderValue) : Bool := v.bytes.all isVisibleByte

namespace Bytes

def isBlank (b : UInt8) : Bool := b == 32 || b == 9

def trim (b : Bytes) : Bytes := ((b.dropWhile isBlank).reverse.dropWhile isBlank).reverse

theorem trim_subset (b : Bytes) : trim b ⊆ b := by
  intro x hx
  have hfront := (List.dropWhile_sublist _).mem (List.mem_reverse.mp hx)
  exact (List.dropWhile_sublist _).mem (List.mem_reverse.mp hfront)

end Bytes

namespace CsrfToken

def cookieBytes (values : List HeaderValue) : List Bytes := (values.map fun v => Bytes.trim v.bytes).filter (· ≠ [])

/-- One Cookie value with the cookies of all these values and then those of a token. -/
def mergedCookies (values : List HeaderValue) (cookies : List String) : HeaderValue :=
  ⟨(Bytes.ofText "; ").intercalate (cookieBytes values ++ cookies.map Bytes.ofText), false⟩

def visibleChar (b : UInt8) : Char := Char.ofNat b.toNat

variable {b : Bytes}

theorem visible_check {P : UInt8 → Prop} (h : ∀ n < 256, isVisibleByte (UInt8.ofNat n) = true → P (UInt8.ofNat n))
    {b : UInt8} (hb : isVisibleByte b = true) : P b := by
  have hp := h b.toNat b.toNat_lt
  rw [UInt8.ofNat_toNat] at hp
  exact hp hb

theorem ofChars_visibleChar (hb : ∀ x ∈ b, isVisibleByte x = true) : Bytes.ofChars (b.map visibleChar) = b := by
  have hchar {x : UInt8} (hx : isVisibleByte x = true) : String.utf8EncodeChar (visibleChar x) = [x] :=
    visible_check (P := fun x => String.utf8EncodeChar (visibleChar x) = [x]) (by decide +kernel) hx
  induction b with
  | nil => rfl
  | cons x b ih =>
    obtain ⟨hx, hrest⟩ := List.forall_mem_cons.mp hb
    rw [List.map_cons, Bytes.ofChars, List.flatMap_cons, hchar hx]
    exact congrArg (x :: ·) (ih hrest)

theorem dropWhile_visibleChar (hb : ∀ x ∈ b, isVisibleByte x = true) :
    (b.map visibleChar).dropWhile Unicode.isBlank = (b.dropWhile Bytes.isBlank).map visibleChar := by
  have hblank {x : UInt8} (hx : isVisibleByte x = true) : Unicode.isBlank (visibleChar x) = Bytes.isBlank x :=
    visible_check (P := fun x => Unicode.isBlank (visibleChar x) = Bytes.isBlank x) (by decide +kernel) hx
  induction b with
  | nil => rfl
  | cons x b ih =>
    obtain ⟨hx, hrest⟩ := List.forall_mem_cons.mp hb
    rw [List.map_cons, List.dropWhile_cons, List.dropWhile_cons, hblank hx]
    split
    · exact ih hrest
    · rfl

theorem trim_visibleChar (hb : ∀ x ∈ b, isVisibleByte x = true) :
    Unicode.trim (b.map visibleChar) = (Bytes.trim b).map visibleChar := by
  have hfront : ∀ x ∈ (b.dropWhile Bytes.isBlank).reverse, isVisibleByte x = true :=
    fun x hx => hb x ((List.dropWhile_sublist _).mem (List.mem_reverse.mp hx))
  rw [Unicode.trim, Unicode.trimBy, dropWhile_visibleChar hb, ← List.map_reverse, dropWhile_visibleChar hfront,
    ← List.map_reverse]
  rfl

theorem ofText_intercalate (separator : String) (texts : List String) :
    Bytes.ofText (separator.intercalate texts) = (Bytes.ofText separator).intercalate (texts.map Bytes.ofText) := by
  have happend (a b : List Char) : Bytes.ofChars (a ++ b) = Bytes.ofChars a ++ Bytes.ofChars b := List.flatMap_append
  rw [Bytes.ofText, String.toList_intercalate, Url.map_intercalate happend, List.map_map]
  rfl

theorem ofText_callerCookies (h : Headers) :
    (callerCookies h).map Bytes.ofText = cookieBytes ((h.all .cookie).filter HeaderValue.isReadable) := by
  unfold callerCookies cookieBytes
  induction h.all .cookie with
  | nil => rfl
  | cons v values ih =>
    by_cases hv : v.isReadable = true
    · have hvisible : ∀ x ∈ v.bytes, isVisibleByte x = true := List.all_eq_true.mp hv
      have hchars : v.chars? = some (v.bytes.map visibleChar) := if_pos hv
      have hback : Bytes.ofText (String.ofList ((Bytes.trim v.bytes).map visibleChar)) = Bytes.trim v.bytes := by
        rw [Bytes.ofText, String.toList_ofList]
        exact ofChars_visibleChar fun x hx => hvisible x (Bytes.trim_subset v.bytes hx)
      rw [List.filterMap_cons_some hchars, List.filter_cons_of_pos hv, List.map_cons, List.filterMap_cons,
        trim_visibleChar hvisible]
      by_cases hempty : Bytes.trim v.bytes = []
      · simpa [hempty] using ih
      · simpa [hempty, hback] using ih
    · have hnone : v.chars? = none := if_neg hv
      rw [List.filterMap_cons_none hnone, List.filter_cons_of_neg hv]
      exact ih

theorem erase_of_apply {t : CsrfToken} {h after : Headers} (hok : t.apply h = (after, .ok ())) :
    (after.erase .csrfToken).erase .cookie = (h.erase .csrfToken).erase .cookie := by
  unfold apply at hok
  split at hok
  · cases hok
  · split at hok
    · obtain ⟨rfl, -⟩ := Prod.mk.inj hok
      rw [Headers.erase_set_self]
    · dsimp only at hok
      split at hok
      · cases hok
      · obtain ⟨rfl, -⟩ := Prod.mk.inj hok
        rw [Headers.erase_set_of_ne _ _ _ _ (by decide), Headers.erase_set_self, Headers.erase_set_self]

theorem eq_of_ofText? {s : String} {v : HeaderValue} (h : HeaderValue.ofText? s = some v) : v = ⟨Bytes.ofText s, false⟩ := by
  unfold HeaderValue.ofText? HeaderValue.ofBytes? at h
  split at h
  · cases h
    rfl
  · cases h

/-- A token that an endpoint has handed out takes the place of all others. If it has cookies, they follow those of the
caller in one value, to which all of the caller's values that read as text contribute; so nothing is lost if all of them
do. Without cookies those of the caller stay as they are, and so do all other headers in any case. -/
theorem apply_keeps_readable {answer : Headers} {t : CsrfToken} (ht : ofHeaders? answer = some t) (h : Headers) :
    ∃ after, t.apply h = (after, .ok ()) ∧
      after.all .csrfToken = [⟨Bytes.ofText t.token, false⟩] ∧
      after.all .cookie =
        (if t.cookies = [] then h.all .cookie
          else [mergedCookies ((h.all .cookie).filter HeaderValue.isReadable) t.cookies]) ∧
      ((∀ v ∈ h.all .cookie, v.isReadable = true) → t.cookies ≠ [] →
        after.all .cookie = [mergedCookies (h.all .cookie) t.cookies]) ∧
      (after.erase .csrfToken).erase .cookie = (h.erase .csrfToken).erase .cookie := by
  obtain ⟨after, hok⟩ := apply_of_ofHeaders? ht h
  obtain ⟨-, token, htoken, hcsrf, hwritten⟩ := apply_spec hok
  have hcookie : after.all .cookie =
      (if t.cookies = [] then h.all .cookie
        else [mergedCookies ((h.all .cookie).filter HeaderValue.isReadable) t.cookies]) := by
    split at hwritten
    · rename_i hnone
      rw [if_pos hnone, hwritten]
    · rename_i hsome
      obtain ⟨v, hv, hall⟩ := hwritten
      rw [if_neg hsome, hall, eq_of_ofText? hv, ofText_intercalate, List.map_append, ofText_callerCookies, mergedCookies]
  refine ⟨after, hok, by rw [hcsrf, eq_of_ofText? htoken], hcookie, fun hreadable hsome => ?_, erase_of_apply hok⟩
  rw [hcookie, if_neg hsome, List.filter_eq_self.mpr hreadable]

def sessionAnswer : Headers := ⟨[(.csrfToken, ⟨Bytes.ofText "tok", false⟩), (.setCookie, ⟨Bytes.ofText "c=3; Path=/", false⟩)]⟩

theorem ofHeaders?_sessionAnswer : ofHeaders? sessionAnswer = some ⟨"tok", ["c=3"]⟩ := by decide +kernel

def cookieHeaders (texts : List String) : Headers := ⟨texts.map fun text => (.cookie, ⟨Bytes.ofText text, false⟩)⟩

/-- The cookies of a caller are kept, in one value with that of the token. -/
theorem apply_keeps_theme :
    ofHeaders? sessionAnswer = some ⟨"tok", ["c=3"]⟩ ∧
      ∃ after, (⟨"tok", ["c=3"]⟩ : CsrfToken).apply (cookieHeaders [" theme=dark ", "", "lang=en"]) = (after, .ok ()) ∧
        after.all .cookie = [⟨Bytes.ofText "theme=dark; lang=en; c=3", false⟩] := by
  refine ⟨ofHeaders?_sessionAnswer, ?_⟩
  obtain ⟨after, hok, -, -, hkept, -⟩ :=
    apply_keeps_readable ofHeaders?_sessionAnswer (cookieHeaders [" theme=dark ", "", "lang=en"])
  exact ⟨after, hok, (hkept (by decide +kernel) (by decide)).trans (by decide +kernel)⟩

/-- A cookie with a letter that is not ASCII is lost without an error. -/
theorem apply_loses_name :
    ∃ t after, ofHeaders? sessionAnswer = some t ∧ t.apply (cookieHeaders ["name=Zoë", "b=2"]) = (after, .ok ()) ∧
      after.all .cookie = [⟨Bytes.ofText "b=2; c=3", false⟩] ∧
      after.all .cookie ≠ [mergedCookies ((cookieHeaders ["name=Zoë", "b=2"]).all .cookie) t.cookies] :=
  ⟨⟨"tok", ["c=3"]⟩, _, ofHeaders?_sessionAnswer, rfl, by decide +kernel, by decide +kernel⟩

end CsrfToken
end CredentialGateway
