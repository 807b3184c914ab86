import CredentialGateway.Metrics
import CredentialGateway.Proofs.Keyed
import Mathlib.Data.List.Count

/-! What the recorded events add up to under the names by which they are shown. Names are told apart by what stands before
their labels, and those of requests by their labels, whatever the method is called. -/

namespace CredentialGateway.Metrics

open Keyed

/-- What is shown under a name; what was never recorded is shown as zero. -/
def valueAt (shown : List (String × Value)) (name : String) : Value :=
  ((shown.find? fun v => v.1 == name).map Prod.snd).getD (.number 0)

def number (m : Metrics) (name : String) : Nat :=
  match valueAt m.report name with
  | .number n => n
  | .samples _ => 0

def family (name : String) : List Char := name.toList.takeWhile (· ≠ '\x7b')

def IsCounter (name : String) : Prop := ∀ e, ∀ x ∈ effects e, x.1 = name → x.2 = effects.increment

def isRequest (method : String) (status : Nat) : Metric → Bool
  | .request method' status' _ => method' == method && status' == status
  | _ => false

variable {m : Metrics} {name other base base' : String} {labels labels' : List (String × String)}

theorem valueAt_update (shown : List (String × Value)) (name : String) (change : Value → Value) (other : String) :
    valueAt (update shown name change) other =
      if other = name then change (valueAt shown other) else valueAt shown other := by
  unfold valueAt update
  split
  · rename_i hany
    -- A change leaves the name of its row, so the same row is found before and after it.
    have hnames : ((fun v : String × Value => v.1 == other) ∘ fun v => if v.1 == name then (name, change v.2) else v) =
        fun v => v.1 == other := by
      funext v
      by_cases hv : v.1 = name
      · simp [hv]
      · simp [hv]
    rw [List.find?_map, hnames]
    rcases hfind : shown.find? fun v => v.1 == other with - | w
    · have hne : other ≠ name := by
        rintro rfl
        obtain ⟨v, hv, hname⟩ := List.any_eq_true.mp hany
        exact absurd hname (List.find?_eq_none.mp hfind v hv)
      simp [hfind, hne]
    · have hw : w.1 = other := by simpa using List.find?_some hfind
      by_cases hother : other = name
      · subst hother
        simp [hfind, hw]
      · have hne : w.1 ≠ name := fun h => hother (hw.symm.trans h)
        simp [hfind, hne, hother]
  · rename_i hany
    have hnone : shown.find? (fun v => v.1 == name) = none := by
      rw [List.find?_eq_none]
      intro v hv hname
      exact hany (List.any_eq_true.mpr ⟨v, hv, hname⟩)
    rw [find?_append_key hnone]
    by_cases hother : other = name
    · subst hother
      simp [hnone]
    · simp [hother]

theorem report_cons (e : Metric) (m : Metrics) :
    report (e :: m) = (effects e).foldl (fun shown x => update shown x.1 x.2) m.report := by
  simp [report]

theorem valueAt_foldl {xs : List (String × (Value → Value))}
    (hname : ∀ x ∈ xs, x.1 = name → x.2 = effects.increment) (shown : List (String × Value)) (n : Nat)
    (hn : valueAt shown name = .number n) :
    valueAt (xs.foldl (fun shown x => update shown x.1 x.2) shown) name =
      .number (n + xs.countP fun x => x.1 == name) := by
  induction xs generalizing shown n with
  | nil => exact hn
  | cons x xs ih =>
    have hrest : ∀ y ∈ xs, y.1 = name → y.2 = effects.increment := fun y hy => hname y (List.mem_cons_of_mem x hy)
    by_cases hx : x.1 = name
    · have hchange := hname x List.mem_cons_self hx
      have hvalue : valueAt (update shown x.1 x.2) name = .number (n + 1) := by
        rw [valueAt_update, if_pos hx.symm, hn, hchange]
        rfl
      have hfold := ih hrest _ _ hvalue
      rw [List.foldl_cons, hfold, List.countP_cons, if_pos (by simpa using hx), Nat.add_assoc, Nat.add_comm 1]
    · have hvalue : valueAt (update shown x.1 x.2) name = .number n := by
        rw [valueAt_update, if_neg (Ne.symm hx), hn]
      have hfold := ih hrest _ _ hvalue
      simp [hfold, hx]

theorem number_eq_countP {p : Metric → Bool} (hname : IsCounter name)
    (heffects : ∀ e, (effects e).countP (fun x => x.1 == name) = if p e then 1 else 0) (m : Metrics) :
    number m name = m.countP p := by
  have hvalue : valueAt (report m) name = .number (m.countP p) := by
    induction m with
    | nil => rfl
    | cons e m ih =>
      have hlast := valueAt_foldl (hname e) (report m) (m.countP p) ih
      rw [report_cons, hlast, heffects, List.countP_cons]
  rw [number, hvalue]

theorem family_labelled (h : '\x7b' ∉ base.toList) (labels : List (String × String)) :
    family (labelled base labels) = base.toList := by
  have hkept : ∀ c ∈ base.toList, decide (c ≠ '\x7b') = true := by
    intro c hc
    simpa using fun heq : c = '\x7b' => h (heq ▸ hc)
  simp only [family, labelled, String.toList_append, List.append_assoc]
  rw [List.takeWhile_append_of_pos hkept]
  simp

theorem labelled_ne (h : '\x7b' ∉ base.toList) (h' : '\x7b' ∉ base'.toList) (hne : base ≠ base') :
    labelled base labels ≠ labelled base' labels' := by
  intro heq
  have hfamily := congrArg family heq
  rw [family_labelled h, family_labelled h'] at hfamily
  exact hne (String.toList_inj.mp hfamily)

theorem entries_ne_labelled (h : '\x7b' ∉ base.toList) (hne : "proxy_cache_entries" ≠ base) :
    "proxy_cache_entries" ≠ labelled base labels := by
  intro heq
  have hfamily := congrArg family heq
  rw [family_labelled h] at hfamily
  exact hne (String.toList_inj.mp hfamily)

theorem isCounter_labelled (h : '\x7b' ∉ base.toList) (hsize : "proxy_cache_entries" ≠ base)
    (hduration : "proxy_request_duration_seconds" ≠ base) (labels : List (String × String)) :
    IsCounter (labelled base labels) := by
  intro e x hx hname
  cases e with
  | request method status millis =>
    obtain rfl | hlast := List.mem_cons.mp hx
    · rfl
    · obtain rfl := List.mem_singleton.mp hlast
      exact absurd hname (labelled_ne (by decide) h hduration)
  | cacheSize entries =>
    obtain rfl := List.mem_singleton.mp hx
    exact absurd hname (entries_ne_labelled h hsize)
  | cacheLookup hit | tokenFetch success | forbiddenRetry outcome =>
    obtain rfl := List.mem_singleton.mp hx
    rfl

theorem number_lookups (m : Metrics) (hit : Bool) :
    number m (labelled "proxy_cache_lookups_total" [("result", if hit then "hit" else "miss")]) =
      m.countP (· == .cacheLookup hit) := by
  apply number_eq_countP (isCounter_labelled (by decide) (by decide) (by decide) _)
  intro e
  cases e with
  | cacheLookup hit' => cases hit <;> cases hit' <;> decide
  | _ => simp (disch := decide) [effects, labelled_ne, entries_ne_labelled]

theorem number_fetches (m : Metrics) (success : Bool) :
    number m (labelled "proxy_token_fetches_total" [("outcome", if success then "success" else "failure")]) =
      m.countP (· == .tokenFetch success) := by
  apply number_eq_countP (isCounter_labelled (by decide) (by decide) (by decide) _)
  intro e
  cases e with
  | tokenFetch success' => cases success <;> cases success' <;> decide
  | _ => simp (disch := decide) [effects, labelled_ne, entries_ne_labelled]

theorem number_retries (m : Metrics) (outcome : RetryOutcome) :
    number m (labelled "proxy_forbidden_retries_total" [("outcome", outcomeName outcome)]) =
      m.countP (· == .forbiddenRetry outcome) := by
  apply number_eq_countP (isCounter_labelled (by decide) (by decide) (by decide) _)
  intro e
  cases e with
  | forbiddenRetry outcome' => cases outcome <;> cases outcome' <;> decide
  | _ => simp (disch := decide) [effects, labelled_ne, entries_ne_labelled]

theorem append_sign_inj {sign : Char} {a a' b b' : List Char} (hb : sign ∉ b) (hb' : sign ∉ b')
    (h : a ++ sign :: b = a' ++ sign :: b') : a = a' ∧ b = b' := by
  have hlast {a b : List Char} (hb : sign ∉ b) :
      (a ++ sign :: b).reverse.takeWhile (· ≠ sign) = b.reverse := by
    have hkept : ∀ c ∈ b.reverse, decide (c ≠ sign) = true := by
      intro c hc
      simpa using fun heq : c = sign => hb (heq ▸ List.mem_reverse.mp hc)
    rw [List.reverse_append, List.reverse_cons, List.append_assoc, List.takeWhile_append_of_pos hkept]
    simp
  have hreverse : b.reverse = b'.reverse := by
    rw [← hlast (a := a) hb, ← hlast (a := a') hb', h]
  obtain rfl := List.reverse_inj.mp hreverse
  exact ⟨List.append_cancel_right h, rfl⟩

theorem requests_inj {method method' : String} {status status' : Nat}
    (h : labelled "proxy_requests_total" [("method", method), ("status", toString status)] =
      labelled "proxy_requests_total" [("method", method'), ("status", toString status')]) :
    method = method' ∧ status = status' := by
  have htext (method : String) (status : Nat) :
      (labelled "proxy_requests_total" [("method", method), ("status", toString status)]).toList =
        "proxy_requests_total\x7bmethod=".toList ++ (method.toList ++ ",status".toList) ++
          '=' :: ((toString status).toList ++ ['\x7d']) := by
    show ("proxy_requests_total" ++ "\x7b" ++ ("method" ++ "=" ++ method ++ "," ++ ("status" ++ "=" ++ toString status)) ++
      "\x7d").toList = _
    simp [String.toList_append]
  -- The method may have equals signs of its own, the status has none.
  have hdigits (status : Nat) : '=' ∉ (toString status).toList ++ ['\x7d'] := by
    intro hmem
    obtain hdigit | hbrace := List.mem_append.mp hmem
    · have htoDigits : '=' ∈ Nat.toDigits 10 status := by simpa using hdigit
      have hdec := Nat.isDigit_of_mem_toDigits (by decide) (by decide) htoDigits
      exact absurd hdec (by decide)
    · exact absurd hbrace (by decide)
  have hlist := congrArg String.toList h
  rw [htext, htext] at hlist
  obtain ⟨hmethod, hstatus⟩ := append_sign_inj (hdigits status) (hdigits status') hlist
  have hrepr : Nat.toDigits 10 status = Nat.toDigits 10 status' := by simpa using List.append_cancel_right hstatus
  refine ⟨String.toList_inj.mp (List.append_cancel_right (List.append_cancel_left hmethod)), ?_⟩
  rw [← Nat.ofDigitChars_toDigits (b := 10) (n := status) (by decide) (by decide), hrepr,
    Nat.ofDigitChars_toDigits (by decide) (by decide)]

theorem number_requests (m : Metrics) (method : String) (status : Nat) :
    number m (labelled "proxy_requests_total" [("method", method), ("status", toString status)]) =
      m.countP (isRequest method status) := by
  apply number_eq_countP (isCounter_labelled (by decide) (by decide) (by decide) _)
  intro e
  cases e with
  | request method' status' millis =>
    have hduration : labelled "proxy_request_duration_seconds" [("method", method'), ("status", toString status')] ≠
        labelled "proxy_requests_total" [("method", method), ("status", toString status)] :=
      labelled_ne (by decide) (by decide) (by decide)
    by_cases hsame : method' = method ∧ status' = status
    · obtain ⟨rfl, rfl⟩ := hsame
      simp only [effects, isRequest, List.countP_cons, List.countP_nil, beq_iff_eq, hduration, beq_self_eq_true]
      rfl
    · have hne : labelled "proxy_requests_total" [("method", method'), ("status", toString status')] ≠
          labelled "proxy_requests_total" [("method", method), ("status", toString status)] :=
        fun heq => hsame (requests_inj heq)
      have hother : ¬ isRequest method status (.request method' status' millis) := by
        simpa [isRequest] using hsame
      simp only [effects, List.countP_cons, List.countP_nil, beq_iff_eq, hduration, hother]
      rw [if_neg hne]
      rfl
  | _ => simp (disch := decide) [effects, labelled_ne, entries_ne_labelled, isRequest]

theorem number_entries (m : Metrics) : number m "proxy_cache_entries" = m.cacheEntries := by
  have hvalue : valueAt (report m) "proxy_cache_entries" = .number m.cacheEntries := by
    induction m with
    | nil => rfl
    | cons e m ih =>
      rw [report_cons]
      cases e with
      | cacheSize entries =>
        show valueAt (update _ _ _) _ = _
        rw [valueAt_update, if_pos rfl]
        rfl
      | _ => simpa (disch := decide) [effects, valueAt_update, entries_ne_labelled, cacheEntries] using ih
  rw [number, hvalue]

end CredentialGateway.Metrics
