import CredentialGateway.Proofs.Config.Accepted

/-! What validation reports: each rule that a configuration breaks, once and in a fixed order. Services with blank ids are
reported as such and play no part in what is said of the others. -/

namespace CredentialGateway.Config

def urlViolation (s : Service) (field : UrlField) (value : String) : List Violation :=
  if isUrl value then [] else [.invalidUrl s.id field value]

def urlViolations (s : Service) : List Violation :=
  urlViolation s .target s.definition.targetUrl ++
    match s.definition.credentials with
    | none => []
    | some c =>
      (match c.oauth with
        | none => []
        | some o => urlViolation s .oauth o.tokenUrl) ++
      (match c.csrf with
        | none => []
        | some e => urlViolation s .csrf e.tokenUrl)

/-- What is wrong with a service that comes after others. -/
def violationsAfter (earlier : List Service) (s : Service) : List Violation :=
  if isBlankId s.id then [.emptyServiceId earlier.length]
  else (if ∃ t ∈ earlier, t.id = s.id then [.duplicateService s.id] else []) ++ urlViolations s

def serviceViolations (services : List Service) : List Violation :=
  services.zipIdx.flatMap fun (s, i) => violationsAfter (services.take i) s

def bindViolations (c : Config) : List Violation :=
  if (SocketAddress.parse? c.listener.bindAddress).isSome then [] else [.bindAddress c.listener.bindAddress]

def zeroViolation (n : Nat) (limit : Limit) : List Violation := if n = 0 then [.zero limit] else []

def limitViolations (c : Config) : List Violation :=
  zeroViolation c.forwarding.timeout .timeout ++ zeroViolation c.forwarding.cacheTtl .cacheTtl ++
    zeroViolation c.forwarding.maxBody .maxBody ++ zeroViolation c.tokenCalls.timeout .tokenTimeout

variable {seen : List String} {s : Service} {services earlier todo : List Service} {c : Config}

theorem checkLimits_eq (c : Config) : checkLimits c = limitViolations c := by
  have hzero (n : Nat) (limit : Limit) :
      (if n = 0 then some (Violation.zero limit) else none).toList = zeroViolation n limit := by
    unfold zeroViolation
    split <;> rfl
  simp only [checkLimits, limitViolations, List.filterMap_eq_flatMap_toList, List.flatMap_cons, List.flatMap_nil, hzero,
    List.append_assoc, List.append_nil]

theorem filterMap_serviceUrls (s : Service) : ((serviceUrls s).filterMap fun (field, value) =>
    if isUrl value then none else some (Violation.invalidUrl s.id field value)) = urlViolations s := by
  have hurl (field : UrlField) (value : String) :
      (if isUrl value then none else some (Violation.invalidUrl s.id field value)).toList = urlViolation s field value := by
    unfold urlViolation
    split <;> rfl
  rcases hc : s.definition.credentials with - | ⟨o | o, basic, certificate, e | e⟩ <;>
    simp [serviceUrls, urlViolations, hc, List.filterMap_eq_flatMap_toList, hurl]

/-- The ids that are noted after some services: those that are not blank. -/
def Notes (seen : List String) (earlier : List Service) : Prop :=
  ∀ id, id ∈ seen ↔ isBlankId id = false ∧ ∃ t ∈ earlier, t.id = id

theorem exists_concat (earlier : List Service) (s : Service) (id : String) :
    (∃ t ∈ earlier ++ [s], t.id = id) ↔ (∃ t ∈ earlier, t.id = id) ∨ s.id = id := by
  simp only [List.mem_append, List.mem_singleton, or_and_right, exists_or, exists_eq_left]

namespace Notes

theorem nil : Notes [] [] := by simp [Notes]

theorem blank (h : Notes seen earlier) (hs : isBlankId s.id = true) : Notes seen (earlier ++ [s]) := by
  intro id
  rw [h id, exists_concat]
  refine and_congr_right fun hid => (or_iff_left ?_).symm
  rintro rfl
  rw [hs] at hid
  cases hid

theorem named (h : Notes seen earlier) (hs : isBlankId s.id = false) : Notes (s.id :: seen) (earlier ++ [s]) := by
  intro id
  rw [List.mem_cons, h id, exists_concat]
  constructor
  · rintro (rfl | ⟨hid, ht⟩)
    · exact ⟨hs, .inr rfl⟩
    · exact ⟨hid, .inl ht⟩
  · rintro ⟨hid, ht | rfl⟩
    · exact .inr ⟨hid, ht⟩
    · exact .inl rfl

theorem checkService (h : Notes seen earlier) (hs : isBlankId s.id = false) :
    checkService seen s = violationsAfter earlier s := by
  have hnamed : ¬isBlankId s.id = true := by simp [hs]
  have hseen : seen.contains s.id = true ↔ ∃ t ∈ earlier, t.id = s.id := by
    rw [List.contains_iff_mem, h s.id]
    exact and_iff_right hs
  rw [violationsAfter, if_neg hnamed, Config.checkService, filterMap_serviceUrls]
  exact congrArg (· ++ urlViolations s) (if_congr hseen rfl rfl)

theorem checkServices (h : Notes seen earlier) (todo : List Service) :
    checkServices seen earlier.length todo = (todo.zipIdx earlier.length).flatMap fun (s, i) =>
      violationsAfter ((earlier ++ todo).take i) s := by
  -- Each service moves from those that are left to those before the next one.
  induction todo generalizing seen earlier with
  | nil => rfl
  | cons s rest ih =>
    have hlength : (earlier ++ [s]).length = earlier.length + 1 := List.length_append
    have hsplit : (earlier ++ [s]) ++ rest = earlier ++ s :: rest := List.append_assoc ..
    have hearlier : (earlier ++ s :: rest).take earlier.length = earlier := List.take_left' rfl
    rw [Config.checkServices, List.zipIdx_cons, List.flatMap_cons]
    dsimp only
    rw [hearlier]
    split
    · rename_i hblank
      have hrest := ih (h.blank hblank)
      rw [hlength, hsplit] at hrest
      rw [hrest, violationsAfter, if_pos hblank]
      rfl
    · rename_i hnamed
      rw [Bool.not_eq_true] at hnamed
      have hrest := ih (h.named hnamed)
      rw [hlength, hsplit] at hrest
      rw [hrest, h.checkService hnamed]

end Notes

def Violation.isEmptyId : Violation → Bool
  | emptyServiceId _ => true
  | _ => false

theorem filter_checkService (seen : List String) (s : Service) :
    (checkService seen s).filter (fun v => !v.isEmptyId) = checkService seen s := by
  rw [List.filter_eq_self]
  intro v hv
  rcases List.mem_append.mp hv with hduplicate | hurl
  · split at hduplicate
    · obtain rfl := List.mem_singleton.mp hduplicate
      rfl
    · cases hduplicate
  · obtain ⟨⟨field, value⟩, -, hv⟩ := List.mem_filterMap.mp hurl
    dsimp only at hv
    split at hv
    · cases hv
    · cases hv
      rfl

theorem filter_checkServices (seen : List String) (i j : Nat) (services : List Service) :
    (checkServices seen i services).filter (fun v => !v.isEmptyId) =
      checkServices seen j (services.filter fun s => !isBlankId s.id) := by
  induction services generalizing seen i j with
  | nil => rfl
  | cons s rest ih =>
    rw [checkServices]
    split
    · rename_i hblank
      rw [List.filter_cons_of_neg (by simp [Violation.isEmptyId]), List.filter_cons_of_neg (by simp [hblank])]
      exact ih seen (i + 1) j
    · rename_i hnamed
      rw [List.filter_append, filter_checkService, List.filter_cons_of_pos (by simpa using hnamed), checkServices,
        if_neg hnamed, ih (s.id :: seen) (i + 1) (j + 1)]

theorem violations_eq (c : Config) :
    c.violations = bindViolations c ++ limitViolations c ++ serviceViolations c.services := by
  have hservices := Notes.nil.checkServices c.services
  rw [List.length_nil, List.nil_append] at hservices
  rw [violations, checkLimits_eq, hservices]
  rfl

theorem zeroViolation_eq_nil_iff {n : Nat} {limit : Limit} : zeroViolation n limit = [] ↔ n ≠ 0 := by
  simp [zeroViolation]

theorem violations_eq_nil_iff (c : Config) : c.violations = [] ↔
    (SocketAddress.parse? c.listener.bindAddress).isSome ∧
      (c.forwarding.timeout ≠ 0 ∧ c.forwarding.cacheTtl ≠ 0 ∧ c.forwarding.maxBody ≠ 0 ∧ c.tokenCalls.timeout ≠ 0) ∧
        (∀ s ∈ c.services, IsSound s) ∧ (c.services.map Service.id).Nodup := by
  have hbind : bindViolations c = [] ↔ (SocketAddress.parse? c.listener.bindAddress).isSome := by
    simp [bindViolations, Option.isSome_iff_ne_none]
  have hlimits : checkLimits c = [] ↔
      c.forwarding.timeout ≠ 0 ∧ c.forwarding.cacheTtl ≠ 0 ∧ c.forwarding.maxBody ≠ 0 ∧ c.tokenCalls.timeout ≠ 0 := by
    simp only [checkLimits_eq, limitViolations, List.append_eq_nil_iff, zeroViolation_eq_nil_iff, and_assoc]
  have hservices : checkServices [] 0 c.services = [] ↔
      (∀ s ∈ c.services, IsSound s) ∧ (c.services.map Service.id).Nodup := by
    simp only [checkServices_eq_nil_iff, List.not_mem_nil, not_false_eq_true, and_true]
  rw [violations, List.append_eq_nil_iff, List.append_eq_nil_iff, hlimits, hservices, and_assoc]
  exact and_congr_left fun _ => hbind

theorem filter_violations {others : List Service}
    (hothers : (others.filter fun s => !isBlankId s.id) = c.services.filter fun s => !isBlankId s.id) :
    ({ c with services := others }.violations.filter fun v => !v.isEmptyId) = c.violations.filter fun v => !v.isEmptyId := by
  simp only [violations, List.filter_append, filter_checkServices [] 0 0, hothers]
  rfl

/-- Validation finds nothing exactly if all rules are kept. What it finds stands in the order of the rules, and for each
service in the order of the services; a service is judged by itself and by those before it with ids, and those with blank
ids change nothing in what is said of the others. -/
theorem reports_violations (c : Config) :
    (c.violations = [] ↔
        (SocketAddress.parse? c.listener.bindAddress).isSome ∧
          (c.forwarding.timeout ≠ 0 ∧ c.forwarding.cacheTtl ≠ 0 ∧ c.forwarding.maxBody ≠ 0 ∧ c.tokenCalls.timeout ≠ 0) ∧
            (∀ s ∈ c.services, IsSound s) ∧ (c.services.map Service.id).Nodup) ∧
      c.violations = bindViolations c ++ limitViolations c ++ serviceViolations c.services ∧
      ∀ others : List Service,
        (others.filter fun s => !isBlankId s.id) = (c.services.filter fun s => !isBlankId s.id) →
          ({ c with services := others }.violations.filter fun v => !v.isEmptyId) =
            c.violations.filter fun v => !v.isEmptyId :=
  ⟨violations_eq_nil_iff c, violations_eq c, fun _ hothers => filter_violations hothers⟩

def market (between : List Service) : Config :=
  { services := ⟨"fish", "http://[::1]", none⟩ :: between ++ [⟨"fish", "fish", none⟩] }

/-- A nameless stall is reported by its place, and the stalls around it are judged as if it were not there. -/
theorem reports_market :
    (market [⟨" ", "", none⟩]).violations =
        [.emptyServiceId 1, .duplicateService "fish", .invalidUrl "fish" .target "fish"] ∧
      ((market []).violations.filter fun v => !v.isEmptyId) =
        (market [⟨" ", "", none⟩]).violations.filter fun v => !v.isEmptyId := by
  obtain ⟨-, hviolations, hothers⟩ := reports_violations (market [⟨" ", "", none⟩])
  exact ⟨hviolations.trans (by decide +kernel), hothers (market []).services (by decide +kernel)⟩

end CredentialGateway.Config
